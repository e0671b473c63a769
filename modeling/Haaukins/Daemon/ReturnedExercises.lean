import Haaukins.Daemon.BookingPaths

/-!
# `Haaukins.Daemon.ReturnedExercises`: the exercises of a new event (`daemon/event.go`)

`CreateEvent` makes a slice with one place for each exercise of the request, and fills it with the
exercises that the exercise service returns. Nothing compares the two lengths.

* `started_exercises` and `immediatePath_eq_panic_iff` follow the two ends of the loop through the
  call: the places that stay empty, and the exercise that has no place.
* `UsesReturned` says that the event has the returned exercises. `usesReturned_iff` gives the
  requests and answers for which it has (`AnswerFits`).
-/

set_option autoImplicit false

namespace Haaukins.Daemon

open Store (newTagOrEmpty validateTag)

/-- The request comes to the loop, and the service answers with `exs`. -/
structure ComesToExercises (s : EventServices) (user : Store.User) (req : EventRequest)
    (exs : List ExerciseEntry) : Prop where
  vpnCapacity : ¬ (req.hasVPN && 253 < req.capacity) = true
  capacity : ¬ (user.npUser && 40 < req.capacity) = true
  quota : checkUserQuota s user = .ok true
  tag : GoStrings.toLower req.tag ∉ reservedSubDomains
  exercises : s.exercises (removeDuplicates req.exercises) = .ok exs

/-- After the loop nothing refuses the request, and its event starts at once. -/
structure StartsAtOnce (s : EventServices) (user : Store.User) (req : EventRequest) : Prop where
  startTime : isInvalidDate (parseOrZero req.startTime) = false
  isEventExists : s.isEventExists = .ok false
  soon : startsLater (parseOrZero req.startTime) s.now = false
  name : req.name ≠ ""
  tag : newTagOrEmpty req.tag ≠ ""
  username : user.username ≠ ""
  frontends : req.frontends ≠ []
  inPool : s.inPool = false

/-- The exercises of an event are those that were returned, and each requested one is there at
most once. -/
structure ReturnedTags (req : EventRequest) (exs : List ExerciseEntry) (tags : List String) :
    Prop where
  eq : tags = exs.map ExerciseEntry.tag
  empty : "" ∉ tags
  count_le_one : ∀ t ∈ req.exercises, tags.count t ≤ 1

/-- The immediate path does not panic, and its event has the returned exercises. -/
def UsesReturned (s : EventServices) (user : Store.User) (req : EventRequest) : Prop :=
  immediatePath s user req ≠ .error .panic ∧
    ∀ conf, handleCreateEvent s user req = .ok (.started conf) →
      ∃ exs, s.exercises (removeDuplicates req.exercises) = .ok exs ∧
        ReturnedTags req exs conf.lab.exercises

/-- When the answer is too long, an exercise is refused before the loop leaves the slice. When it is
too short, or has a requested exercise twice, the request is refused in the loop or after it. -/
def AnswerFits (s : EventServices) (user : Store.User) (req : EventRequest) : Prop :=
  ∀ exs, ComesToExercises s user req exs →
    ((removeDuplicates req.exercises).length < exs.length →
      ∃ e ∈ exs.take ((removeDuplicates req.exercises).length + 1),
        ¬ AcceptedExercise user.superUser e) ∧
    (exs.length < (removeDuplicates req.exercises).length ∨
        (∃ t ∈ req.exercises, 1 < (exs.map ExerciseEntry.tag).count t) →
      StartsAtOnce s user req → ∃ e ∈ exs, ¬ AcceptedExercise user.superUser e)

/-! ### The whole call -/

section
variable {s : EventServices} {user : Store.User} {req : EventRequest} {exs : List ExerciseEntry}

/-- The check refuses without a panic. -/
theorem checkUserQuota_error {err : Refusal} (h : checkUserQuota s user = .error err) :
    err ≠ .panic := by
  unfold checkUserQuota at h
  split at h
  · cases h
    exact Refusal.noConfusion
  · split at h
    · cases h
      exact Refusal.noConfusion
    · cases h

/-- A request that does not come to the loop is refused without a panic. -/
theorem comesToExercises_or_refused (s : EventServices) (user : Store.User) (req : EventRequest) :
    (∃ exs, ComesToExercises s user req exs) ∨
      ∃ err, err ≠ .panic ∧ checkRequest s user req = .error err := by
  by_cases hvpn : (req.hasVPN && 253 < req.capacity) = true
  · exact .inr ⟨_, Refusal.noConfusion, if_pos hvpn⟩
  by_cases hnp : (user.npUser && 40 < req.capacity) = true
  · exact .inr ⟨_, Refusal.noConfusion, (if_neg hvpn).trans (if_pos hnp)⟩
  rw [checkRequest, if_neg hvpn, if_neg hnp]
  cases hquota : checkUserQuota s user with
  | error err => exact .inr ⟨err, checkUserQuota_error hquota, rfl⟩
  | ok isEligible =>
    cases checkUserQuota_ok hquota
    have heligible : ¬ (!((user.npUser && true) || !user.npUser)) = true := by simp
    dsimp only
    rw [if_neg heligible]
    by_cases htag : GoStrings.toLower req.tag ∈ reservedSubDomains
    · exact .inr ⟨_, Refusal.noConfusion, if_pos htag⟩
    cases hexercises : s.exercises (removeDuplicates req.exercises) with
    | error err => exact .inr ⟨.err err, Refusal.noConfusion, if_neg htag⟩
    | ok exs => exact .inl ⟨exs, hvpn, hnp, hquota, htag, hexercises⟩

/-- What `CreateEvent` does from the loop on. -/
theorem ComesToExercises.checkRequest_eq (h : ComesToExercises s user req exs) :
    checkRequest s user req =
      match exerciseTags user.superUser (removeDuplicates req.exercises).length exs with
      | .error err => .error err
      | .ok tags =>
        if isInvalidDate (parseOrZero req.startTime) then
          .error (.err "invalid startTime format 0001-01-01 00:00:00 +0000 UTC")
        else
          match s.isEventExists with
          | .error err => .error (.err ("event does not exist or something is wrong: " ++ err))
          | .ok true => .error (.err notAvailableTag)
          | .ok false => .ok (tags, parseOrZero req.startTime, parseOrZero req.finishTime) := by
  have heligible : ¬ (!((user.npUser && true) || !user.npUser)) = true := by simp
  rw [checkRequest, if_neg h.vpnCapacity, if_neg h.capacity, h.quota]
  dsimp only
  rw [if_neg heligible, if_neg h.tag]
  cases hexs : s.exercises (removeDuplicates req.exercises) with
  | error err => cases h.exercises.symm.trans hexs
  | ok exs' =>
    cases h.exercises.symm.trans hexs
    rfl

/-- A request panics on the immediate path exactly when its loop panics. -/
theorem ComesToExercises.immediatePath_eq_panic_iff (h : ComesToExercises s user req exs) :
    immediatePath s user req = .error .panic ↔
      exerciseTags user.superUser (removeDuplicates req.exercises).length exs = .error .panic := by
  have hstart : ∀ tags startTime finishTime,
      startNow s user req tags startTime finishTime ≠ .error .panic := by
    intro tags startTime finishTime
    unfold startNow
    dsimp only
    split
    · simp
    · split <;> simp
  rw [immediatePath, h.checkRequest_eq]
  cases exerciseTags user.superUser (removeDuplicates req.exercises).length exs with
  | error err => simp
  | ok tags =>
    dsimp only
    cases isInvalidDate (parseOrZero req.startTime) with
    | true => simp
    | false =>
      cases s.isEventExists with
      | error err => simp
      | ok found => cases found <;> simp [hstart]

/-- The checks pass when the loop ends, the start time is a time, and there is no such event. -/
theorem ComesToExercises.checkRequest_eq_ok_iff (h : ComesToExercises s user req exs)
    {tags : List String} {startTime finishTime : Time} :
    checkRequest s user req = .ok (tags, startTime, finishTime) ↔
      exerciseTags user.superUser (removeDuplicates req.exercises).length exs = .ok tags ∧
        isInvalidDate (parseOrZero req.startTime) = false ∧ s.isEventExists = .ok false ∧
        startTime = parseOrZero req.startTime ∧ finishTime = parseOrZero req.finishTime := by
  rw [h.checkRequest_eq]
  cases exerciseTags user.superUser (removeDuplicates req.exercises).length exs with
  | error err => simp
  | ok tags' =>
    dsimp only
    cases isInvalidDate (parseOrZero req.startTime) with
    | true => simp
    | false =>
      cases s.isEventExists with
      | error err => simp
      | ok found => cases found <;> simp [eq_comm]

/-- An event starts at once if and only if the checks pass, its start is not later and the creation
works. -/
theorem handleCreateEvent_started_iff {conf : Store.EventConfig} :
    handleCreateEvent s user req = .ok (.started conf) ↔
      ∃ tags startTime finishTime, checkRequest s user req = .ok (tags, startTime, finishTime) ∧
        startsLater startTime s.now = false ∧
        startNow s user req tags startTime finishTime = .ok conf := by
  unfold handleCreateEvent
  cases checkRequest s user req with
  | error err => simp
  | ok checked =>
    obtain ⟨tags, startTime, finishTime⟩ := checked
    dsimp only
    cases hlater : startsLater startTime s.now with
    | true =>
      refine iff_of_false ?_ ?_
      · cases bookEvent s user req <;> simp [Except.map]
      · rintro ⟨_, _, _, hsame, hsoon, -⟩
        cases hsame
        rw [hlater] at hsoon
        cases hsoon
    | false =>
      constructor
      · intro hconf
        refine ⟨tags, startTime, finishTime, rfl, hlater, ?_⟩
        cases hstart : startNow s user req tags startTime finishTime with
        | error err => simp [hstart, Except.map] at hconf
        | ok conf' => simpa [hstart, Except.map] using hconf
      · rintro ⟨_, _, _, hsame, -, hstart⟩
        cases hsame
        rw [hstart]
        rfl

/-- The event of a request starts exactly when the loop ends, nothing refuses the request after
it, and there is an exercise. -/
theorem ComesToExercises.started_iff (h : ComesToExercises s user req exs)
    {conf : Store.EventConfig} :
    handleCreateEvent s user req = .ok (.started conf) ↔
      ∃ tags, exerciseTags user.superUser (removeDuplicates req.exercises).length exs = .ok tags ∧
        tags ≠ [] ∧ StartsAtOnce s user req ∧
        conf = withDefaults (req.config s user tags (parseOrZero req.startTime)
          (parseOrZero req.finishTime)) s := by
  simp only [handleCreateEvent_started_iff, h.checkRequest_eq_ok_iff, startNow_eq_ok_iff,
    Store.EventConfig.validate_eq_none]
  constructor
  · rintro ⟨tags, _, _, ⟨htags, hdate, hexists, rfl, rfl⟩, hsoon,
      ⟨hname, htag, huser, hne, hfrontends⟩, hpool, rfl⟩
    exact ⟨tags, htags, hne, ⟨hdate, hexists, hsoon, hname, htag, huser,
      fun hnil => hfrontends (List.map_eq_nil_iff.mpr hnil), hpool⟩, rfl⟩
  · rintro ⟨tags, htags, hne, hstarts, rfl⟩
    exact ⟨tags, _, _, ⟨htags, hstarts.startTime, hstarts.isEventExists, rfl, rfl⟩, hstarts.soon,
      ⟨hstarts.name, hstarts.tag, hstarts.username, hne,
        fun hnil => hstarts.frontends (List.map_eq_nil_iff.mp hnil)⟩, hstarts.inPool, rfl⟩

/-- The event of a request has the tags of the returned exercises, and an empty tag for each one
that the answer lacks. -/
theorem ComesToExercises.started_exercises (h : ComesToExercises s user req exs)
    {conf : Store.EventConfig} (hstarted : handleCreateEvent s user req = .ok (.started conf)) :
    exs.length ≤ (removeDuplicates req.exercises).length ∧
      (∀ e ∈ exs, AcceptedExercise user.superUser e) ∧ StartsAtOnce s user req ∧
      conf.lab.exercises = exs.map ExerciseEntry.tag ++
        List.replicate ((removeDuplicates req.exercises).length - exs.length) "" := by
  obtain ⟨tags, htags, -, hstarts, rfl⟩ := h.started_iff.mp hstarted
  obtain ⟨hlength, haccepted, rfl⟩ := exerciseTags_eq_ok_iff.mp htags
  exact ⟨hlength, haccepted, hstarts, rfl⟩

/-! ### When the event has the returned exercises -/

/-- An accepted exercise has a tag. -/
theorem AcceptedExercise.tag_ne {superUser : Bool} {e : ExerciseEntry}
    (h : AcceptedExercise superUser e) : e.tag ≠ "" := by
  intro hempty
  have hvalid := h.2
  rw [hempty, validateTag, if_pos rfl] at hvalid
  cases hvalid

/-- The loop panics on an accepted answer that is too long. -/
theorem ComesToExercises.panics (h : ComesToExercises s user req exs)
    (hlt : (removeDuplicates req.exercises).length < exs.length)
    (haccepted : ∀ e ∈ exs.take ((removeDuplicates req.exercises).length + 1),
      AcceptedExercise user.superUser e) : immediatePath s user req = .error .panic :=
  h.immediatePath_eq_panic_iff.mpr (exerciseTags_eq_panic_iff.mpr ⟨hlt, haccepted⟩)

/-- An accepted answer that is too short, or has a requested exercise twice, leads to an event
whose exercises are not the returned ones. -/
theorem ComesToExercises.not_returned (h : ComesToExercises s user req exs)
    (hle : exs.length ≤ (removeDuplicates req.exercises).length)
    (hcase : exs.length < (removeDuplicates req.exercises).length ∨
      ∃ t ∈ req.exercises, 1 < (exs.map ExerciseEntry.tag).count t)
    (haccepted : ∀ e ∈ exs, AcceptedExercise user.superUser e) (hstarts : StartsAtOnce s user req) :
    ∃ conf, handleCreateEvent s user req = .ok (.started conf) ∧
      ¬ ReturnedTags req exs conf.lab.exercises := by
  have htags := exerciseTags_eq_ok_iff.mpr ⟨hle, haccepted, rfl⟩
  have hne : exs.map ExerciseEntry.tag ++
      List.replicate ((removeDuplicates req.exercises).length - exs.length) "" ≠ [] := by
    intro hnil
    obtain ⟨hexs, hrest⟩ := List.append_eq_nil_iff.mp hnil
    rcases hcase with hlt | ⟨t, -, htwice⟩
    · have := (List.replicate_eq_nil_iff "").mp hrest
      omega
    · simp [hexs] at htwice
  refine ⟨_, h.started_iff.mpr ⟨_, htags, hne, hstarts, rfl⟩, fun hreturned => ?_⟩
  have hlength : (removeDuplicates req.exercises).length - exs.length = 0 :=
    (List.replicate_eq_nil_iff "").mp (List.append_right_eq_self.mp hreturned.eq)
  rcases hcase with hlt | ⟨t, ht, htwice⟩
  · omega
  · have hone := hreturned.count_le_one t ht
    rw [hreturned.eq] at hone
    omega

end

/-- The immediate path of a request has no panic, and its event has exactly the returned exercises,
if and only if the answer has one place for each exercise and each requested one at most once, or
an exercise is refused in time, or the request is refused after the loop. -/
theorem usesReturned_iff (s : EventServices) (user : Store.User) (req : EventRequest) :
    UsesReturned s user req ↔ AnswerFits s user req := by
  constructor
  · rintro ⟨hpanic, hreturned⟩ exs hcomes
    have hrefused : (removeDuplicates req.exercises).length < exs.length →
        ∃ e ∈ exs.take ((removeDuplicates req.exercises).length + 1),
          ¬ AcceptedExercise user.superUser e := by
      intro hlt
      by_contra hall
      push Not at hall
      exact hpanic (hcomes.panics hlt hall)
    refine ⟨hrefused, fun hcase hstarts => ?_⟩
    by_contra hall
    push Not at hall
    -- An accepted answer that fits into the slice starts the event, a longer one panics.
    rcases le_or_gt exs.length (removeDuplicates req.exercises).length with hle | hlt
    · obtain ⟨conf, hconf, hnot⟩ := hcomes.not_returned hle hcase hall hstarts
      obtain ⟨exs', hexs', htags⟩ := hreturned conf hconf
      rw [hcomes.exercises] at hexs'
      cases hexs'
      exact hnot htags
    · obtain ⟨e, he, hnot⟩ := hrefused hlt
      exact hnot (hall e (List.mem_of_mem_take he))
  · intro hfits
    rcases comesToExercises_or_refused s user req with ⟨exs, hcomes⟩ | ⟨err, herr, hrefused⟩
    · obtain ⟨hlong, hshort⟩ := hfits exs hcomes
      constructor
      · intro hpanic
        obtain ⟨hlt, hall⟩ :=
          exerciseTags_eq_panic_iff.mp (hcomes.immediatePath_eq_panic_iff.mp hpanic)
        obtain ⟨e, he, hnot⟩ := hlong hlt
        exact hnot (hall e he)
      · intro conf hconf
        obtain ⟨hle, hall, hstarts, hexercises⟩ := hcomes.started_exercises hconf
        have hfit : ¬ (exs.length < (removeDuplicates req.exercises).length ∨
            ∃ t ∈ req.exercises, 1 < (exs.map ExerciseEntry.tag).count t) := by
          intro hcase
          obtain ⟨e, he, hnot⟩ := hshort hcase hstarts
          exact hnot (hall e he)
        push Not at hfit
        -- The answer fills the slice, so no place stays empty.
        rw [Nat.sub_eq_zero_of_le hfit.1, List.replicate_zero, List.append_nil] at hexercises
        refine ⟨exs, hcomes.exercises, hexercises, ?_, ?_⟩
        · rw [hexercises]
          rintro hempty
          obtain ⟨e, he, htag⟩ := List.mem_map.mp hempty
          exact (hall e he).tag_ne htag
        · rw [hexercises]
          exact hfit.2
    · refine ⟨?_, fun conf hconf => ?_⟩
      · rw [immediatePath, hrefused]
        simpa using herr
      · simp [handleCreateEvent, hrefused] at hconf

/-- A row of an event with the returned exercises is read back with them. -/
theorem UsesReturned.splitTags_row {s : EventServices} {user : Store.User} {req : EventRequest}
    (h : UsesReturned s user req) {conf : Store.EventConfig}
    (hconf : handleCreateEvent s user req = .ok (.started conf)) {row : Store.AddEventRequest}
    (hrow : createEventFromConfig conf = some row) :
    ∃ exs, s.exercises (removeDuplicates req.exercises) = .ok exs ∧
      splitTags row.exercises = exs.map ExerciseEntry.tag := by
  obtain ⟨exs, hexs, hreturned⟩ := h.2 conf hconf
  refine ⟨exs, hexs, ?_⟩
  have hexercises : row.exercises = joinTags conf.lab.exercises := by
    unfold createEventFromConfig at hrow
    split at hrow
    · cases hrow
    · cases hrow
      rfl
  rcases comesToExercises_or_refused s user req with ⟨exs', hcomes⟩ | ⟨err, -, hrefused⟩
  · have hsame := hcomes.exercises.symm.trans hexs
    cases hsame
    obtain ⟨tags, htags, hne, -, rfl⟩ := hcomes.started_iff.mp hconf
    obtain ⟨-, haccepted, -⟩ := exerciseTags_eq_ok_iff.mp htags
    have hvalid : ∀ t ∈ tags, validateTag t = none := by
      intro t ht
      have htag : tags = exs.map ExerciseEntry.tag := hreturned.eq
      rw [htag] at ht
      obtain ⟨e, he, rfl⟩ := List.mem_map.mp ht
      exact (haccepted e he).2
    rw [hexercises, ← hreturned.eq]
    exact splitTags_joinTags_iff.mpr (fitsTags_of_valid hne hvalid)
  · simp [handleCreateEvent, hrefused] at hconf

/-- The exercise service has only these exercises, whatever it is asked for. -/
def servicesWith (exs : List ExerciseEntry) : EventServices :=
  { idleServices with exercises := fun _ => .ok exs }

/-- With one exercise of the two the event starts with an empty tag. With three it panics. -/
theorem not_usesReturned :
    ¬ UsesReturned (servicesWith [⟨"sql-1", false⟩]) teacher fullRequest ∧
      ¬ UsesReturned (servicesWith [⟨"sql-1", false⟩, ⟨"xss", false⟩, ⟨"csrf", false⟩]) teacher
        fullRequest := by
  constructor
  · rintro ⟨-, hreturned⟩
    obtain ⟨exs, -, htags⟩ := hreturned _ rfl
    exact htags.empty (by decide)
  · rintro ⟨hpanic, -⟩
    exact hpanic rfl

end Haaukins.Daemon
