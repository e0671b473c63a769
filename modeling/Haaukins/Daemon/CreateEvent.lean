import Haaukins.Daemon.EventRows
import Haaukins.Store.User

/-!
# `Haaukins.Daemon.CreateEvent`: the requests for events (`daemon/event.go`)

`CreateEvent` with the texts of its request. `checkRequest` is what it does for each request:
the limits, the quota, the exercises, the times, and the question whether there is such an event.
Then `bookEvent` writes a row for an event that starts later, and `startNow` makes the
configuration of an event that starts at once.

* `EventServices` is what the clock, the store, the exercise service and the pool answer during
  one call.
* A function that fails has a `Refusal`, which is the error of the source or a panic. The texts of
  the errors of `time.Parse` are left out.
* `exerciseTags_eq_ok_iff` and `exerciseTags_eq_panic_iff` are the two ends of the loop over the
  exercises: the places that stay empty, and the exercise that has no place.
* `Daemon.createEvent` sees the parts of this function that use the pool of VPN addresses.
  `createEvent_eq_startNow` compares the answers of the two.
-/

set_option autoImplicit false

namespace Haaukins.Daemon

open Store (FrontendStore AddEventRequest newTag newTagOrEmpty validateTag)

/-- `pb.CreateEventRequest`. -/
structure EventRequest where
  name : String
  tag : String
  frontends : List String
  exercises : List String
  available : Int32
  capacity : Int32
  startTime : String
  finishTime : String
  onlyVPN : Int32
  secretEvent : String
  disableExercises : List String
  deriving DecidableEq

/-- An exercise of the answer to `GetExerciseByTags`. -/
structure ExerciseEntry where
  tag : String
  secret : Bool
  deriving DecidableEq

/-- What the other services answer to a call of `CreateEvent`. -/
structure EventServices where
  now : Time
  /-- `now.AddDate(0, 0, 15)`. -/
  inFifteenDays : Time
  /-- The capacities of the answer to `GetEventByUser`. -/
  userEvents : Except String (List Int32)
  /-- `GetExerciseByTags`. -/
  exercises : List String → Except String (List ExerciseEntry)
  isEventExists : Except String Bool
  /-- `eventPool.GetEvent` finds an event with the tag. -/
  inPool : Bool
  /-- The result of `getVPNIP`. -/
  vpnIP : String
  isFree : Time → Time → Int32 → Except String Bool
  frontends : FrontendStore

/-- Why a call ends without an event. -/
inductive Refusal where
  | err (text : String)
  /-- An index is out of range. -/
  | panic
  /-- The call returns without an error. -/
  | returned
  deriving DecidableEq

/-- `ReservedSubDomains`. -/
def reservedSubDomains : List String := ["docs", "admin", "grpc", "api", "vpn"]

/-- `ReservedDomainErr`. -/
def reservedDomainErr : String := "Reserved sub domain, change event tag !  "

/-- `removeDuplicates`, for the exercises that its map already has. -/
def removeDuplicatesFrom (k : List String) : List String → List String
  | [] => []
  | e :: exercises =>
    if e ∈ k then removeDuplicatesFrom k exercises
    else e :: removeDuplicatesFrom (e :: k) exercises

/-- `removeDuplicates`. -/
def removeDuplicates (exercises : List String) : List String :=
  removeDuplicatesFrom [] exercises

/-- `isInvalidDate`. -/
def isInvalidDate (t : Time) : Bool := t == Time.zero

/-- The time of `t, _ := time.Parse(dbTimeFormat, s)`. -/
def parseOrZero (s : String) : Time := (Time.parseDB s).getD Time.zero

/-- The event has a VPN: `OnlyVPN == VPN || OnlyVPN == VPNBrowser`. -/
def EventRequest.hasVPN (req : EventRequest) : Bool := req.onlyVPN == 1 || req.onlyVPN == 2

/-- The sum `cost` of `checkUserQuota`. It wraps at 32 bits. -/
def quotaCost (capacities : List Int32) : Int32 := capacities.foldl (· + ·) 0

/-- `checkUserQuota`. -/
def checkUserQuota (s : EventServices) (user : Store.User) : Except Refusal Bool :=
  match s.userEvents with
  | .error err => .error (.err err)
  | .ok capacities =>
    if user.npUser && 40 < quotaCost capacities then
      .error (.err ("user " ++ user.username ++ " has " ++
        toString (quotaCost capacities).toInt ++ " labs already, out of quota error "))
    else .ok true

/-- The loop over the answer of the exercise service. It fills a slice of the length `n`, whose
other elements stay empty. -/
def exerciseTags (superUser : Bool) : Nat → List ExerciseEntry → Except Refusal (List String)
  | n, [] => .ok (List.replicate n "")
  | n, s :: exs =>
    if s.secret && !superUser then
      .error (.err ("No priviledge to create event with secret challenges [ " ++ s.tag ++
        " ]. Secret challenges unique to super users only."))
    else
      match newTag s.tag, n with
      | .error err, _ => .error (.err err)
      | .ok _, 0 => .error .panic
      | .ok t, n + 1 => (exerciseTags superUser n exs).map fun tags => t :: tags

/-- What `CreateEvent` does for each request: the tags of its exercises, its start time and its
finish time. -/
def checkRequest (s : EventServices) (user : Store.User) (req : EventRequest) :
    Except Refusal (List String × Time × Time) :=
  if req.hasVPN && 253 < req.capacity then .error (.err capacityExceedsErr)
  else if user.npUser && 40 < req.capacity then .error (.err outOfQuota)
  else
    match checkUserQuota s user with
    | .error err => .error err
    | .ok isEligible =>
      if !((user.npUser && isEligible) || !user.npUser) then .error .returned
      else if GoStrings.toLower req.tag ∈ reservedSubDomains then
        .error (.err reservedDomainErr)
      else
        let uniqueExercisesList := removeDuplicates req.exercises
        match s.exercises uniqueExercisesList with
        | .error err => .error (.err err)
        | .ok exs =>
          match exerciseTags user.superUser uniqueExercisesList.length exs with
          | .error err => .error err
          | .ok tags =>
            let finishTime := parseOrZero req.finishTime
            let startTime := parseOrZero req.startTime
            if isInvalidDate startTime then
              .error (.err "invalid startTime format 0001-01-01 00:00:00 +0000 UTC")
            else
              match s.isEventExists with
              | .error err =>
                .error (.err ("event does not exist or something is wrong: " ++ err))
              | .ok true => .error (.err notAvailableTag)
              | .ok false => .ok (tags, startTime, finishTime)

/-- The configuration that `CreateEvent` makes. -/
def EventRequest.config (req : EventRequest) (s : EventServices) (user : Store.User)
    (tags : List String) (startTime finishTime : Time) : Store.EventConfig where
  name := req.name
  tag := newTagOrEmpty req.tag
  available := req.available.toInt
  capacity := req.capacity.toInt
  lab :=
    { frontends := s.frontends.getFrontends req.frontends
      exercises := tags
      disabledExercises := req.disableExercises }
  startedAt := startTime
  finishExpected := finishTime
  status := 0
  createdBy := user.username
  onlyVPN := req.onlyVPN
  vpnAddress := if req.hasVPN then s.vpnIP ++ vpnSuffix else ""
  secretKey := GoStrings.trimSpace req.secretEvent

/-- The defaults of `CreateEvent`. The format of a time is never empty. -/
def withDefaults (conf : Store.EventConfig) (s : EventServices) : Store.EventConfig :=
  { conf with
    available := if conf.available = 0 then 2 else conf.available
    capacity := if conf.capacity = 0 then 10 else conf.capacity
    finishExpected :=
      if conf.finishExpected.before s.now || isInvalidDate conf.finishExpected then
        s.inFifteenDays
      else conf.finishExpected }

/-- The end of `CreateEvent` for an event that starts at once: the configuration for
`CreateEventFromConfig`. -/
def startNow (s : EventServices) (user : Store.User) (req : EventRequest) (tags : List String)
    (startTime finishTime : Time) : Except Refusal Store.EventConfig :=
  let conf := req.config s user tags startTime finishTime
  match conf.validate with
  | some err => .error (.err err)
  | none =>
    if s.inPool then .error (.err duplicateEventErr)
    else .ok (withDefaults conf s)

/-- The row that `bookEvent` writes, where `frontend` is the first frontend of the request. -/
def EventRequest.bookedRow (req : EventRequest) (user : Store.User) (frontend : String) :
    AddEventRequest where
  name := req.name
  tag := req.tag
  frontends := frontend
  exercises := joinTags req.exercises
  available := req.available
  capacity := req.capacity
  startTime := req.startTime
  expectedFinishTime := req.finishTime
  status := 2
  createdBy := user.username
  onlyVPN := req.onlyVPN
  secretKey := req.secretEvent
  disabledExercises := joinTags req.disableExercises

/-- `bookEvent`: the row for `AddEvent`, or `none` when nothing is stored. -/
def bookEvent (s : EventServices) (user : Store.User) (req : EventRequest) :
    Except Refusal (Option AddEventRequest) :=
  match Time.parseDB req.startTime with
  | none => .error (.err "start time parsing error")
  | some sT =>
    match Time.parseDB req.finishTime with
    | none => .error (.err "finish time parsing error")
    | some fT =>
      match s.isFree sT fT req.capacity with
      | .error err => .error (.err err)
      | .ok isFree =>
        match checkUserQuota s user with
        | .error err => .error err
        | .ok isQuotaAvailable =>
          if (!user.npUser && isFree) || (user.npUser && isQuotaAvailable && isFree) then
            match req.frontends with
            | [] => .error .panic
            | frontend :: _ => .ok (some (req.bookedRow user frontend))
          else .ok none

/-- `math.Round(startTime.Sub(now).Hours() / 24) >= 1`: the event starts in twelve hours or
later. -/
def startsLater (startTime now : Time) : Bool :=
  12 * 3600 * 10 ^ 9 ≤ startTime.instant - now.instant

/-- What a call of `CreateEvent` leads to. -/
inductive Created where
  /-- The row of a booked event, when one is stored. -/
  | booked (row : Option AddEventRequest)
  /-- An event that starts at once. -/
  | started (conf : Store.EventConfig)

/-- `CreateEvent`, up to `CreateEventFromConfig`. -/
def handleCreateEvent (s : EventServices) (user : Store.User) (req : EventRequest) :
    Except Refusal Created :=
  match checkRequest s user req with
  | .error err => .error err
  | .ok (tags, startTime, finishTime) =>
    if startsLater startTime s.now then (bookEvent s user req).map .booked
    else (startNow s user req tags startTime finishTime).map .started

/-- `CreateEvent` up to `CreateEventFromConfig`, for an event that starts at once. -/
def immediatePath (s : EventServices) (user : Store.User) (req : EventRequest) :
    Except Refusal Store.EventConfig :=
  match checkRequest s user req with
  | .error err => .error err
  | .ok (tags, startTime, finishTime) => startNow s user req tags startTime finishTime

/-- `CreateEvent` for an event that is booked. -/
def bookingPath (s : EventServices) (user : Store.User) (req : EventRequest) :
    Except Refusal (Option AddEventRequest) :=
  match checkRequest s user req with
  | .error err => .error err
  | .ok _ => bookEvent s user req

/-! ### The loop over the answer of the exercise service -/

/-- The user may have the exercise, and its tag is valid. -/
def AcceptedExercise (superUser : Bool) (e : ExerciseEntry) : Prop :=
  (e.secret && !superUser) = false ∧ validateTag e.tag = none

/-- An exercise that is not accepted ends the request with an error. -/
theorem exerciseTags_refused {superUser : Bool} {e : ExerciseEntry}
    (h : ¬ AcceptedExercise superUser e) (n : Nat) (exs : List ExerciseEntry) :
    ∃ text, exerciseTags superUser n (e :: exs) = .error (.err text) := by
  unfold exerciseTags
  split
  · exact ⟨_, rfl⟩
  · next hsecret =>
    cases hvalid : validateTag e.tag with
    | none => exact absurd ⟨by simpa using hsecret, hvalid⟩ h
    | some err =>
      have hnew : newTag e.tag = .error err := by rw [newTag, hvalid]
      exact ⟨err, by simp only [hnew]⟩

/-- An accepted one is added, unless there is no room in the array. -/
theorem exerciseTags_accepted {superUser : Bool} {e : ExerciseEntry}
    (h : AcceptedExercise superUser e) (exs : List ExerciseEntry) :
    exerciseTags superUser 0 (e :: exs) = .error .panic ∧
      ∀ n, exerciseTags superUser (n + 1) (e :: exs) =
        (exerciseTags superUser n exs).map fun tags => e.tag :: tags := by
  obtain ⟨hsecret, hvalid⟩ := h
  have hnew : newTag e.tag = .ok e.tag := by rw [newTag, hvalid]
  constructor
  · unfold exerciseTags
    simp only [hsecret, hnew, Bool.false_eq_true, if_false]
  · intro n
    rw [exerciseTags.eq_def]
    simp only [hsecret, hnew, Bool.false_eq_true, if_false]

/-- The loop ends when each exercise is accepted and has a place. The other places stay empty. -/
theorem exerciseTags_eq_ok_iff {superUser : Bool} {n : Nat} {exs : List ExerciseEntry}
    {tags : List String} :
    exerciseTags superUser n exs = .ok tags ↔
      exs.length ≤ n ∧ (∀ e ∈ exs, AcceptedExercise superUser e) ∧
        tags = exs.map ExerciseEntry.tag ++ List.replicate (n - exs.length) "" := by
  induction exs generalizing n tags with
  | nil => simp [exerciseTags, eq_comm]
  | cons e exs ih =>
    by_cases he : AcceptedExercise superUser e
    · cases n with
      | zero => simp [(exerciseTags_accepted he exs).1]
      | succ n =>
        rw [(exerciseTags_accepted he exs).2]
        -- The rest of the loop runs with one place less.
        cases hrest : exerciseTags superUser n exs with
        | error err =>
          have hnot : ¬ (exs.length ≤ n ∧ ∀ e ∈ exs, AcceptedExercise superUser e) := by
            rintro ⟨hlength, hall⟩
            have := ih.mpr ⟨hlength, hall, rfl⟩
            rw [hrest] at this
            cases this
          refine iff_of_false (by simp [Except.map]) ?_
          rintro ⟨hlength, hall, -⟩
          exact hnot ⟨by simpa using hlength, fun e' he' => hall e' (by simp [he'])⟩
        | ok rest =>
          obtain ⟨hlength, hall, rfl⟩ := ih.mp hrest
          have hcons : ∀ e' ∈ e :: exs, AcceptedExercise superUser e' :=
            List.forall_mem_cons.mpr ⟨he, hall⟩
          rw [and_iff_right hcons, List.length_cons, Nat.succ_le_succ_iff, and_iff_right hlength,
            Nat.succ_sub_succ]
          simp [Except.map, eq_comm]
    · obtain ⟨text, htext⟩ := exerciseTags_refused he n exs
      rw [htext]
      exact iff_of_false (by simp) fun h => he (h.2.1 e (by simp))

/-- The loop panics when it accepts an exercise for which there is no place. -/
theorem exerciseTags_eq_panic_iff {superUser : Bool} {n : Nat} {exs : List ExerciseEntry} :
    exerciseTags superUser n exs = .error .panic ↔
      n < exs.length ∧ ∀ e ∈ exs.take (n + 1), AcceptedExercise superUser e := by
  induction exs generalizing n with
  | nil => simp [exerciseTags]
  | cons e exs ih =>
    by_cases he : AcceptedExercise superUser e
    · cases n with
      | zero => simp [(exerciseTags_accepted he exs).1, he]
      | succ n =>
        have hmap : (exerciseTags superUser n exs).map (fun tags => e.tag :: tags) =
            .error .panic ↔ exerciseTags superUser n exs = .error .panic := by
          cases exerciseTags superUser n exs <;> simp [Except.map]
        rw [(exerciseTags_accepted he exs).2, hmap, ih, List.take_succ_cons, List.forall_mem_cons,
          List.length_cons, Nat.succ_lt_succ_iff, and_iff_right he]
    · obtain ⟨text, htext⟩ := exerciseTags_refused he n exs
      rw [htext]
      exact iff_of_false (by simp) fun h => he (h.2 e (by simp))

/-! ### The whole call -/

/-- `checkUserQuota` never answers `false`. -/
theorem checkUserQuota_ok {s : EventServices} {user : Store.User} {isEligible : Bool}
    (h : checkUserQuota s user = .ok isEligible) : isEligible = true := by
  unfold checkUserQuota at h
  split at h
  · cases h
  · split at h
    · cases h
    · cases h
      rfl

/-- What holds of a request that passes the checks of `CreateEvent`. -/
structure Checked (s : EventServices) (user : Store.User) (req : EventRequest)
    (tags : List String) (startTime finishTime : Time) : Prop where
  vpnCapacity : req.hasVPN = true → req.capacity ≤ 253
  capacity : user.npUser = true → req.capacity ≤ 40
  quota : checkUserQuota s user = .ok true
  exercises : ∃ exs, s.exercises (removeDuplicates req.exercises) = .ok exs ∧
    exerciseTags user.superUser (removeDuplicates req.exercises).length exs = .ok tags
  startTime_eq : startTime = parseOrZero req.startTime
  finishTime_eq : finishTime = parseOrZero req.finishTime
  start : Time.parseDB req.startTime = some startTime
  isEventExists : s.isEventExists = .ok false

/-- A time that is not the zero time was parsed. -/
theorem parseDB_of_isInvalidDate {text : String}
    (h : isInvalidDate (parseOrZero text) = false) :
    Time.parseDB text = some (parseOrZero text) := by
  unfold parseOrZero at h ⊢
  cases hparse : Time.parseDB text with
  | none => simp [hparse, isInvalidDate] at h
  | some t => rfl

/-- What a request that passes the checks has met. -/
theorem checkRequest_ok {s : EventServices} {user : Store.User} {req : EventRequest}
    {tags : List String} {startTime finishTime : Time}
    (h : checkRequest s user req = .ok (tags, startTime, finishTime)) :
    Checked s user req tags startTime finishTime := by
  unfold checkRequest at h
  -- One `split` for each check, in the order of the source; each of them answers by itself.
  split at h
  · cases h
  next hvpn =>
  split at h
  · cases h
  next hnp =>
  split at h
  · cases h
  next isEligible hquota =>
  split at h
  · cases h
  split at h
  · cases h
  dsimp only at h
  split at h
  · cases h
  next exs hexercises =>
  split at h
  · cases h
  next tags' htags =>
  split at h
  · cases h
  next hstart =>
  split at h
  · cases h
  · cases h
  next hexists =>
  cases h
  rw [checkUserQuota_ok hquota] at hquota
  refine ⟨fun hreq => ?_, fun huser => ?_, hquota, ⟨exs, hexercises, htags⟩, rfl, rfl,
    parseDB_of_isInvalidDate (by simpa using hstart), hexists⟩
  · simpa [hreq] using hvpn
  · simpa [huser] using hnp

/-- An event that starts at once has a valid configuration and a new tag. -/
theorem startNow_eq_ok_iff {s : EventServices} {user : Store.User} {req : EventRequest}
    {tags : List String} {startTime finishTime : Time} {conf : Store.EventConfig} :
    startNow s user req tags startTime finishTime = .ok conf ↔
      (req.config s user tags startTime finishTime).validate = none ∧ s.inPool = false ∧
        withDefaults (req.config s user tags startTime finishTime) s = conf := by
  unfold startNow
  dsimp only
  cases (req.config s user tags startTime finishTime).validate with
  | some err => simp
  | none => cases s.inPool <;> simp

/-! ### The pool of addresses -/

/-- The request as `createEvent` sees it. -/
def EventRequest.summary (req : EventRequest) (tags : List String) (finishTime : Nat) :
    CreateEventRequest where
  name := req.name
  tag := newTagOrEmpty req.tag
  available := req.available.toInt
  capacity := req.capacity.toInt
  frontends := req.frontends
  exercises := tags
  finishTime := finishTime
  onlyVPN := req.onlyVPN.toInt

/-- Both configurations of a request have the same error. -/
theorem validate_summary (s : EventServices) (user : Store.User) (req : EventRequest)
    (tags : List String) (startTime finishTime : Time) (requester : Requester)
    (huser : requester.username = user.username) (n : Nat) (vpnAddress : String) :
    ((req.summary tags n).config requester vpnAddress).validate =
      (req.config s user tags startTime finishTime).validate := by
  simp only [EventConfig.validate, CreateEventRequest.config, EventRequest.summary,
    Store.EventConfig.validate, EventRequest.config, huser, FrontendStore.getFrontends,
    List.length_map]
  rfl

/-- The pool of addresses is all that `addressFor` changes. -/
theorem eventPool_addressFor {d d' : State} {hasVPN : Bool} {draws : List Draw}
    {vpnAddress vpnAddress' : String}
    (h : d.addressFor hasVPN draws vpnAddress = some (vpnAddress', d')) :
    d'.eventPool = d.eventPool := by
  unfold State.addressFor State.newVPNAddress at h
  split at h
  · split at h
    · cases h
    · cases h
      rfl
    · cases h
      rfl
  · cases h
    rfl

/-- The event has VPN connections in two of the three settings. -/
theorem EventRequest.hasVPN_iff (req : EventRequest) :
    req.hasVPN = true ↔ (req.onlyVPN.toInt == vpn || req.onlyVPN.toInt == vpnBrowser) = true := by
  simp only [EventRequest.hasVPN, Bool.or_eq_true, beq_iff_eq, ← Int32.toInt_inj]
  rfl

/-- A request that passed the checks gets the same answer from `createEvent`, where the event host
has no error, and from `startNow`. -/
theorem createEvent_eq_startNow {s : EventServices} {user : Store.User} {req : EventRequest}
    {tags : List String} {startTime finishTime : Time}
    (h : Checked s user req tags startTime finishTime) {d d' : State}
    (hpool : s.inPool = (d.eventPool.get? (newTagOrEmpty req.tag)).isSome)
    {draws : List Draw} {now n : Nat} {err : Option String}
    (hcreate : createEvent d { username := user.username, npUser := user.npUser }
      (req.summary tags n) .passed draws now none = some (d', err)) :
    (startNow s user req tags startTime finishTime).map (fun _ => ()) =
      err.elim (.ok ()) fun text => .error (.err text) := by
  -- The two tests of `createEvent` on the capacity have been made before.
  have hvpn : ¬ (((req.summary tags n).onlyVPN == vpn ||
      (req.summary tags n).onlyVPN == vpnBrowser) &&
      253 < (req.summary tags n).capacity) = true := by
    intro hexceeds
    rw [Bool.and_eq_true, decide_eq_true_eq] at hexceeds
    have hle : req.capacity.toInt ≤ 253 :=
      Int32.le_iff_toInt_le.mp (h.vpnCapacity (req.hasVPN_iff.mpr hexceeds.1))
    exact absurd hexceeds.2 (not_lt.mpr hle)
  have hnp : ¬ (user.npUser && npUserMaxLabs < (req.summary tags n).capacity) = true := by
    intro hexceeds
    rw [Bool.and_eq_true, decide_eq_true_eq] at hexceeds
    have hle : req.capacity.toInt ≤ npUserMaxLabs :=
      Int32.le_iff_toInt_le.mp (h.capacity hexceeds.1)
    exact absurd hexceeds.2 (not_lt.mpr hle)
  unfold createEvent at hcreate
  rw [if_neg hvpn, if_neg hnp] at hcreate
  dsimp only at hcreate
  split at hcreate
  · cases hcreate
  next vpnAddress d₁ haddress =>
  rw [validate_summary s user req tags startTime finishTime _ rfl,
    eventPool_addressFor haddress] at hcreate
  -- What is left are `Validate` and the test for the tag, which both functions make.
  cases hvalid : (req.config s user tags startTime finishTime).validate with
  | some text =>
    simp only [hvalid, Option.some.injEq, Prod.mk.injEq] at hcreate
    obtain ⟨-, rfl⟩ := hcreate
    simp [startNow, hvalid, Except.map]
  | none =>
    have htag : ((req.summary tags n).config
        { username := user.username, npUser := user.npUser } vpnAddress).tag =
        newTagOrEmpty req.tag := rfl
    cases hget : d.eventPool.get? (newTagOrEmpty req.tag) with
    | some ev =>
      simp only [hvalid, htag, hget, Option.some.injEq, Prod.mk.injEq] at hcreate
      obtain ⟨-, rfl⟩ := hcreate
      simp [startNow, hvalid, hpool, hget, Except.map]
    | none =>
      simp only [hvalid, htag, hget, Option.some.injEq, Prod.mk.injEq] at hcreate
      obtain ⟨-, rfl⟩ := hcreate
      simp [startNow, hvalid, hpool, hget, Except.map]

end Haaukins.Daemon
