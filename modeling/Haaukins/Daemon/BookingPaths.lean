import Haaukins.Daemon.CreateEvent

/-!
# `Haaukins.Daemon.BookingPaths`: an event that starts later (`daemon/event.go`)

A request for an event takes one of two ways through the daemon. `immediatePath` makes the
configuration of the event at once. `bookingPath` writes the request as a row, from which
`generateEventConfig` makes the configuration when the event is due.

`SameBooking` compares the two configurations. The order of the exercises does not count, because
the exercise service chooses it. `bookingPath_same_iff` gives the requests for which the two ways
lead to the same event (`Bookable`), and the invalid requests that are booked all the same
(`Takes`).
-/

set_option autoImplicit false

namespace Haaukins.Daemon

open Store (AddEventRequest FrontendStore newTagOrEmpty validateTag newFrontendsFile)

/-- A configuration made from a booked row describes the event of `conf`. -/
structure SameBooking (conf conf' : Store.EventConfig) : Prop where
  exercises : conf'.lab.exercises.Perm conf.lab.exercises
  disabledExercises : conf'.lab.disabledExercises = conf.lab.disabledExercises
  frontends : conf'.lab.frontends = conf.lab.frontends
  available : conf'.available = conf.available
  capacity : conf'.capacity = conf.capacity
  secretKey : conf'.secretKey = conf.secretKey

/-- The request is stored as a booked event. -/
def Books (s : EventServices) (user : Store.User) (req : EventRequest) : Prop :=
  ∃ row, bookingPath s user req = .ok (some row)

/-- The request is stored as a booked event, and its row leads to the event of `conf`. -/
def BooksSame (s : EventServices) (user : Store.User) (req : EventRequest)
    (conf : Store.EventConfig) : Prop :=
  ∃ row, bookingPath s user req = .ok (some row) ∧
    ∀ vpnAddress, (generateEventConfig s.frontends row 0 vpnAddress).validate = none ∧
      SameBooking conf (generateEventConfig s.frontends row 0 vpnAddress)

/-- `bookEvent` takes a request that passed the checks: its finish time is a time, there is room
for it, and it has a frontend. -/
def Takes (s : EventServices) (req : EventRequest) : Prop :=
  (∃ finishTime, Time.parseDB req.finishTime = some finishTime ∧
    s.isFree (parseOrZero req.startTime) finishTime req.capacity = .ok true) ∧
    req.frontends ≠ []

/-- The exercise service answers with the requested exercises, in any order. The immediate path
has an empty tag for each exercise that is missing in the answer. -/
def AnswersTags (s : EventServices) (req : EventRequest) : Prop :=
  ∃ exs, s.exercises (removeDuplicates req.exercises) = .ok exs ∧
    (removeDuplicates req.exercises).Perm (exs.map ExerciseEntry.tag ++
      List.replicate ((removeDuplicates req.exercises).length - exs.length) "")

/-- The request is taken, nothing in it needs a correction or a default, and the exercise service
knows its exercises. -/
structure Bookable (s : EventServices) (req : EventRequest) : Prop where
  takes : Takes s req
  frontends : req.frontends.length = 1
  exercises : req.exercises.Nodup
  answersTags : AnswersTags s req
  disableExercises : FitsTags req.disableExercises
  available : req.available ≠ 0
  capacity : req.capacity ≠ 0
  secretEvent : GoStrings.trimSpace req.secretEvent = req.secretEvent

/-- The answer of the exercise service has an exercise with an invalid tag. -/
def InvalidTag (s : EventServices) (req : EventRequest) : Prop :=
  ∃ exs, s.exercises (removeDuplicates req.exercises) = .ok exs ∧
    ∃ e ∈ exs, validateTag e.tag ≠ none

/-- The request passes the checks, and its configuration is not valid. -/
def InvalidConfig (s : EventServices) (user : Store.User) (req : EventRequest) : Prop :=
  ∃ tags startTime finishTime, checkRequest s user req = .ok (tags, startTime, finishTime) ∧
    (req.config s user tags startTime finishTime).validate ≠ none

/-! ### Exercises without duplicates -/

/-- The loop takes what it has not met. -/
theorem mem_removeDuplicatesFrom {e : String} :
    ∀ {k exercises : List String},
      e ∈ removeDuplicatesFrom k exercises ↔ e ∈ exercises ∧ e ∉ k := by
  intro k exercises
  induction exercises generalizing k with
  | nil => simp [removeDuplicatesFrom]
  | cons x exercises ih =>
    rw [removeDuplicatesFrom]
    -- What is known already is left out.
    split
    · next hx =>
      rw [ih, List.mem_cons]
      constructor
      · rintro ⟨hmem, hnot⟩
        exact ⟨.inr hmem, hnot⟩
      · rintro ⟨rfl | hmem, hnot⟩
        · exact absurd hx hnot
        · exact ⟨hmem, hnot⟩
    · next hx =>
      rw [List.mem_cons, ih, List.mem_cons, List.mem_cons, not_or]
      constructor
      · rintro (rfl | ⟨hmem, -, hnot⟩)
        · exact ⟨.inl rfl, hx⟩
        · exact ⟨.inr hmem, hnot⟩
      · rintro ⟨hmem, hnot⟩
        by_cases heq : e = x
        · exact .inl heq
        · exact .inr ⟨hmem.resolve_left heq, heq, hnot⟩

/-- It takes nothing twice. -/
theorem nodup_removeDuplicatesFrom :
    ∀ (k exercises : List String), (removeDuplicatesFrom k exercises).Nodup := by
  intro k exercises
  induction exercises generalizing k with
  | nil => exact List.nodup_nil
  | cons x exercises ih =>
    rw [removeDuplicatesFrom]
    split
    · exact ih k
    · refine List.nodup_cons.mpr ⟨fun hmem => ?_, ih (x :: k)⟩
      exact (mem_removeDuplicatesFrom.mp hmem).2 List.mem_cons_self

/-- No element gets lost. -/
@[simp] theorem mem_removeDuplicates {e : String} {exercises : List String} :
    e ∈ removeDuplicates exercises ↔ e ∈ exercises := by
  rw [removeDuplicates, mem_removeDuplicatesFrom]
  simp

/-- No element comes twice. -/
theorem nodup_removeDuplicates (exercises : List String) : (removeDuplicates exercises).Nodup :=
  nodup_removeDuplicatesFrom [] exercises

/-- The order stays. -/
theorem removeDuplicatesFrom_sublist :
    ∀ (k exercises : List String), (removeDuplicatesFrom k exercises).Sublist exercises := by
  intro k exercises
  induction exercises generalizing k with
  | nil => exact List.Sublist.slnil
  | cons x exercises ih =>
    rw [removeDuplicatesFrom]
    split
    · exact (ih k).cons x
    · exact (ih (x :: k)).cons_cons x

/-- A list that loses no element has no duplicates. -/
theorem removeDuplicates_eq_of_length_le {exercises : List String}
    (h : exercises.length ≤ (removeDuplicates exercises).length) :
    removeDuplicates exercises = exercises :=
  (removeDuplicatesFrom_sublist [] exercises).eq_of_length_le h

/-- A list without duplicates stays as it is. -/
theorem perm_removeDuplicates {exercises : List String} (h : exercises.Nodup) :
    exercises.Perm (removeDuplicates exercises) := by
  rw [List.perm_ext_iff_of_nodup h (nodup_removeDuplicates exercises)]
  exact fun _ => mem_removeDuplicates.symm

/-! ### The tags of the exercises -/

/-- The exercises of an event are those of the answer, and their tags are valid. -/
theorem exerciseTags_ok {superUser : Bool} :
    ∀ {n : Nat} {exs : List ExerciseEntry} {tags : List String},
      exerciseTags superUser n exs = .ok tags →
      tags = exs.map ExerciseEntry.tag ++ List.replicate (n - exs.length) "" ∧
        ∀ e ∈ exs, validateTag e.tag = none := by
  intro n exs tags h
  obtain ⟨-, haccepted, htags⟩ := exerciseTags_eq_ok_iff.mp h
  exact ⟨htags, fun e he => (haccepted e he).2⟩

section
variable {s : EventServices} {user : Store.User} {req : EventRequest} {tags : List String}
  {startTime finishTime : Time}

/-- The tags of a request that passed the checks are as many as its exercises without
duplicates, and none of them has a comma. -/
theorem Checked.tags_spec (h : Checked s user req tags startTime finishTime) :
    (AnswersTags s req ↔ (removeDuplicates req.exercises).Perm tags) ∧
      tags.length = (removeDuplicates req.exercises).length ∧ ∀ t ∈ tags, ',' ∉ t.toList := by
  obtain ⟨exs, hexercises, htags⟩ := h.exercises
  have hlength := (exerciseTags_eq_ok_iff.mp htags).1
  obtain ⟨rfl, hvalid⟩ := exerciseTags_ok htags
  refine ⟨?_, ?_, ?_⟩
  · constructor
    · rintro ⟨exs', hexercises', hperm⟩
      rw [hexercises] at hexercises'
      cases hexercises'
      exact hperm
    · intro hperm
      exact ⟨exs, hexercises, hperm⟩
  · rw [List.length_append, List.length_map, List.length_replicate]
    omega
  · intro t ht
    rcases List.mem_append.mp ht with hmem | hmem
    · obtain ⟨entry, hentry, rfl⟩ := List.mem_map.mp hmem
      exact Store.comma_notMem_of_validateTag (hvalid entry hentry)
    · rw [List.eq_of_mem_replicate hmem]
      simp

/-! ### Booking -/

/-- `bookEvent` writes the row of a request that passed the checks exactly when it takes the
request. -/
theorem Checked.bookEvent_eq_some_iff (h : Checked s user req tags startTime finishTime)
    {row : AddEventRequest} :
    bookEvent s user req = .ok (some row) ↔
      Takes s req ∧ ∃ frontend, req.frontends.head? = some frontend ∧
        row = req.bookedRow user frontend := by
  have hstart := h.start
  rw [h.startTime_eq] at hstart
  have huser : ∀ isFree,
      ((!user.npUser && isFree) || (user.npUser && true && isFree)) = isFree := by
    cases user.npUser <;> simp
  unfold bookEvent Takes
  rw [hstart]
  cases hfinish : Time.parseDB req.finishTime with
  | none => simp
  | some fT =>
    cases hfree : s.isFree (parseOrZero req.startTime) fT req.capacity with
    | error err => simp [hfree]
    | ok isFree =>
      simp only [h.quota, huser]
      cases isFree with
      | false => simp [hfree]
      | true =>
        cases hfrontends : req.frontends with
        | nil => simp [hfree]
        | cons frontend rest => simp [hfree, eq_comm]

/-- After its checks the booking path is `bookEvent`. -/
theorem bookingPath_eq (h : checkRequest s user req = .ok (tags, startTime, finishTime)) :
    bookingPath s user req = bookEvent s user req := by
  simp only [bookingPath, h]

/-- A request that passes the checks is stored exactly when it is taken. -/
theorem books_iff (h : checkRequest s user req = .ok (tags, startTime, finishTime)) :
    Books s user req ↔ Takes s req := by
  simp only [Books, bookingPath_eq h, (checkRequest_ok h).bookEvent_eq_some_iff]
  constructor
  · rintro ⟨row, htakes, -⟩
    exact htakes
  · intro htakes
    obtain ⟨frontend, rest, hcons⟩ := List.exists_cons_of_ne_nil htakes.2
    exact ⟨req.bookedRow user frontend, htakes, frontend, by rw [hcons]; rfl, rfl⟩

/-- A stored request passed the checks. -/
theorem Books.checked (h : Books s user req) :
    ∃ tags startTime finishTime, checkRequest s user req = .ok (tags, startTime, finishTime) := by
  obtain ⟨row, hrow⟩ := h
  cases hchecks : checkRequest s user req with
  | error err => simp [bookingPath, hchecks] at hrow
  | ok checked =>
    obtain ⟨tags, startTime, finishTime⟩ := checked
    exact ⟨tags, startTime, finishTime, rfl⟩

/-- A request with an invalid tag is not stored. -/
theorem not_books_of_invalidTag (h : InvalidTag s req) : ¬ Books s user req := by
  intro hbooks
  obtain ⟨tags, startTime, finishTime, hchecks⟩ := hbooks.checked
  obtain ⟨exs, hexercises, htags⟩ := (checkRequest_ok hchecks).exercises
  obtain ⟨exs', hexercises', e, he, hinvalid⟩ := h
  rw [hexercises] at hexercises'
  cases hexercises'
  exact hinvalid ((exerciseTags_ok htags).2 e he)

/-! ### The same event -/

/-- The configuration that the immediate path makes. -/
theorem immediatePath_ok {conf : Store.EventConfig} (h : immediatePath s user req = .ok conf) :
    ∃ tags startTime finishTime, checkRequest s user req = .ok (tags, startTime, finishTime) ∧
      (req.config s user tags startTime finishTime).validate = none ∧
      conf = withDefaults (req.config s user tags startTime finishTime) s := by
  cases hchecks : checkRequest s user req with
  | error err => simp [immediatePath, hchecks] at h
  | ok checked =>
    obtain ⟨tags, startTime, finishTime⟩ := checked
    have hstart : startNow s user req tags startTime finishTime = .ok conf := by
      simpa only [immediatePath, hchecks] using h
    obtain ⟨hvalid, -, rfl⟩ := startNow_eq_ok_iff.mp hstart
    exact ⟨tags, startTime, finishTime, rfl, hvalid, rfl⟩

/-- An `int32` is 0 when its value is. -/
theorem toInt_eq_zero_iff {n : Int32} : n.toInt = 0 ↔ n = 0 := by
  rw [← Int32.toInt_inj]
  rfl

/-- A count stays as it is exactly when it needs no default. -/
theorem toInt_eq_default_iff {n : Int32} {d : Int} (hd : d ≠ 0) :
    n.toInt = (if n.toInt = 0 then d else n.toInt) ↔ n ≠ 0 := by
  rw [ne_eq, ← toInt_eq_zero_iff]
  split <;> omega

/-- The exercises of a request survive the way through a row exactly when there are no
duplicates and the service answers with them. -/
theorem Checked.perm_splitTags_iff (h : Checked s user req tags startTime finishTime)
    (hne : tags ≠ []) :
    (splitTags (joinTags req.exercises)).Perm tags ↔
      req.exercises.Nodup ∧ AnswersTags s req := by
  obtain ⟨hanswers, hlength, hcomma⟩ := h.tags_spec
  have hexercises : req.exercises ≠ [] := by
    intro hnil
    rw [hnil] at hlength
    exact hne (List.eq_nil_of_length_eq_zero hlength)
  rw [hanswers]
  constructor
  · intro hperm
    have hsplit := hperm.length_eq
    have hle := (removeDuplicatesFrom_sublist [] req.exercises).length_le
    -- A comma or a duplicate would make one part too many.
    have hfits : FitsTags req.exercises := by
      refine ⟨hexercises, fun t ht => ?_⟩
      have hcount := @GoStrings.length_add_count_le_length_split ',' _ t ht
      rw [← List.count_eq_zero]
      simp only [splitTags, joinTags, removeDuplicates] at hsplit hlength hle
      omega
    rw [splitTags_joinTags_iff.mpr hfits] at hperm hsplit
    have hsame := removeDuplicates_eq_of_length_le (hsplit.trans hlength).le
    rw [hsame]
    exact ⟨hsame ▸ nodup_removeDuplicates req.exercises, hperm⟩
  · rintro ⟨hnodup, hperm⟩
    have hboth := (perm_removeDuplicates hnodup).trans hperm
    have hfits : FitsTags req.exercises :=
      ⟨hexercises, fun t ht => hcomma t (hboth.mem_iff.mp ht)⟩
    rw [splitTags_joinTags_iff.mpr hfits]
    exact hboth

/-- The first frontend stands for all of them exactly when there is one. -/
theorem getFrontends_head_iff (ff : FrontendStore) {frontend : String} {frontends : List String}
    (hhead : frontends.head? = some frontend) :
    (ff.getFrontends [frontend]).take 1 = ff.getFrontends frontends ↔ frontends.length = 1 := by
  cases frontends with
  | nil => cases hhead
  | cons first rest =>
    cases hhead
    simp [FrontendStore.getFrontends]

/-- The configuration of a booked row is valid when that of the request is. -/
theorem validate_bookedRow {frontend : String}
    (h : (req.config s user tags startTime finishTime).validate = none) (vpnAddress : String) :
    (generateEventConfig s.frontends (req.bookedRow user frontend) 0 vpnAddress).validate =
      none := by
  obtain ⟨hname, htag, huser, -, -⟩ := Store.EventConfig.validate_eq_none.mp h
  refine Store.EventConfig.validate_eq_none.mpr ⟨hname, ?_, huser, ?_, ?_⟩
  · intro hempty
    have hreq : req.tag = "" := hempty
    exact htag (by rw [EventRequest.config, hreq]; rfl)
  · simp [generateEventConfig, splitTags, GoStrings.split, List.splitOn_ne_nil]
  · simp [generateEventConfig, FrontendStore.getFrontends]

/-- The row of a request leads to the event that the immediate path makes exactly when nothing in
the request needs a correction or a default, and the service answers with its exercises. -/
theorem Checked.sameBooking_iff (h : Checked s user req tags startTime finishTime)
    (hne : tags ≠ []) {frontend : String} (hhead : req.frontends.head? = some frontend)
    (vpnAddress : String) :
    SameBooking (withDefaults (req.config s user tags startTime finishTime) s)
        (generateEventConfig s.frontends (req.bookedRow user frontend) 0 vpnAddress) ↔
      req.frontends.length = 1 ∧ (req.exercises.Nodup ∧ AnswersTags s req) ∧
        FitsTags req.disableExercises ∧ req.available ≠ 0 ∧ req.capacity ≠ 0 ∧
        GoStrings.trimSpace req.secretEvent = req.secretEvent := by
  rw [← getFrontends_head_iff s.frontends hhead, ← h.perm_splitTags_iff hne,
    ← splitTags_joinTags_iff, ← toInt_eq_default_iff (n := req.available) (d := 2) (by decide),
    ← toInt_eq_default_iff (n := req.capacity) (d := 10) (by decide)]
  constructor
  · intro hsame
    exact ⟨hsame.frontends, hsame.exercises, hsame.disabledExercises, hsame.available,
      hsame.capacity, hsame.secretKey.symm⟩
  · rintro ⟨hfrontends, hexercises, hdisabled, havailable, hcapacity, hsecret⟩
    exact ⟨hexercises, hdisabled, hfrontends, havailable, hcapacity, hsecret.symm⟩

end

/-- A request that the immediate path accepts is booked as the same event if and only if it is
bookable. A request with an invalid tag is never booked, and one with an invalid configuration is
booked if and only if `bookEvent` takes it. -/
theorem bookingPath_same_iff (s : EventServices) (user : Store.User) (req : EventRequest) :
    (∀ conf, immediatePath s user req = .ok conf →
      (BooksSame s user req conf ↔ Bookable s req)) ∧
    (InvalidTag s req → ¬ Books s user req) ∧
    (InvalidConfig s user req → (¬ Books s user req ↔ ¬ Takes s req)) := by
  refine ⟨fun conf hconf => ?_, not_books_of_invalidTag, fun hinvalid => ?_⟩
  · obtain ⟨tags, startTime, finishTime, hchecks, hvalid, rfl⟩ := immediatePath_ok hconf
    have hchecked := checkRequest_ok hchecks
    have hne : tags ≠ [] := (Store.EventConfig.validate_eq_none.mp hvalid).2.2.2.1
    constructor
    -- The same checks stand before both paths.
    · rintro ⟨row, hrow, hsame⟩
      rw [bookingPath_eq hchecks] at hrow
      obtain ⟨htakes, frontend, hhead, rfl⟩ := hchecked.bookEvent_eq_some_iff.mp hrow
      obtain ⟨hfrontends, ⟨hexercises, hanswers⟩, hdisabled, havailable, hcapacity, hsecret⟩ :=
        (hchecked.sameBooking_iff hne hhead "").mp (hsame "").2
      exact ⟨htakes, hfrontends, hexercises, hanswers, hdisabled, havailable, hcapacity, hsecret⟩
    · intro h
      obtain ⟨frontend, rest, hcons⟩ := List.exists_cons_of_ne_nil h.takes.2
      have hhead : req.frontends.head? = some frontend := by
        rw [hcons]
        rfl
      refine ⟨req.bookedRow user frontend, ?_, fun vpnAddress => ⟨?_, ?_⟩⟩
      · rw [bookingPath_eq hchecks]
        exact hchecked.bookEvent_eq_some_iff.mpr ⟨h.takes, frontend, hhead, rfl⟩
      · exact validate_bookedRow hvalid vpnAddress
      · exact (hchecked.sameBooking_iff hne hhead vpnAddress).mpr
          ⟨h.frontends, ⟨h.exercises, h.answersTags⟩, h.disableExercises, h.available, h.capacity,
            h.secretEvent⟩
  · obtain ⟨tags, startTime, finishTime, hchecks, -⟩ := hinvalid
    exact not_congr (books_iff hchecks)

/-- The services of a daemon without events. -/
def idleServices : EventServices where
  now := ⟨2021, 5, 1, 9, 0, 0, 0, 0, by decide⟩
  inFifteenDays := ⟨2021, 5, 16, 9, 0, 0, 0, 0, by decide⟩
  userEvents := .ok []
  exercises := fun tags => .ok (tags.map fun tag => { tag := tag, secret := false })
  isEventExists := .ok false
  inPool := false
  vpnIP := "77.10"
  isFree := fun _ _ _ => .ok true
  frontends := newFrontendsFile []

/-- A user who is no administrator. -/
def teacher : Store.User where
  username := "teacher"
  name := "Teacher"
  surname := "Test"
  email := "teacher@test.dk"
  hashedPassword := ""
  superUser := false
  npUser := false
  createdAt := 0

/-- A request for an event of two exercises, one of which is disabled. -/
def fullRequest : EventRequest where
  name := "Demo"
  tag := "demo"
  frontends := ["kali"]
  exercises := ["sql-1", "xss"]
  available := 2
  capacity := 10
  startTime := "2021-05-01 10:00:00"
  finishTime := "2021-05-08 10:00:00"
  onlyVPN := 0
  secretEvent := ""
  disableExercises := ["xss"]

/-- The request above is booked as it would be started. -/
theorem bookingPath_same_full :
    ∃ conf, immediatePath idleServices teacher fullRequest = .ok conf ∧
      BooksSame idleServices teacher fullRequest conf := by
  refine ⟨_, rfl, ((bookingPath_same_iff idleServices teacher fullRequest).1 _ rfl).mpr
    ⟨⟨⟨_, rfl, rfl⟩, ?_⟩, rfl, ?_, ⟨_, rfl, ?_⟩, ?_, ?_, ?_, ?_⟩⟩
  all_goals decide

/-- An event without a capacity starts with ten teams at once, and is booked with none. -/
theorem bookingPath_not_same :
    ¬ ∀ (s : EventServices) (user : Store.User) (req : EventRequest),
      (∀ conf, immediatePath s user req = .ok conf → BooksSame s user req conf) ∧
      (InvalidTag s req ∨ InvalidConfig s user req → ¬ Books s user req) := by
  intro h
  obtain ⟨row, hrow, hsame⟩ :=
    (h idleServices teacher { fullRequest with capacity := 0 }).1 _ rfl
  have hbooked : bookingPath idleServices teacher { fullRequest with capacity := 0 } =
      .ok (some (EventRequest.bookedRow { fullRequest with capacity := 0 } teacher "kali")) := rfl
  rw [hbooked] at hrow
  cases hrow
  have hcapacity := (hsame "").2.capacity
  revert hcapacity
  decide

end Haaukins.Daemon
