import Haaukins.Daemon.BookingPaths
import Haaukins.Lib.Machine
import Mathlib.Algebra.Order.BigOperators.Group.List

/-!
# `Haaukins.Daemon.UserQuota`: the labs of a user (`daemon/event.go`)

The state of `quotaRequests` are the rows of a user's events that are not closed. The user sends
requests for events, and the events are closed. `GetEventByUser` answers with the rows of the
state.

`labs` is the exact sum of the capacities, which the quota is about. `cost` is what
`checkUserQuota` computes of them, a sum of 32 bits without the event of the request. The tests
of `CreateEvent` compare `cost` and the capacity of the request with the quota, each for itself.
`QuotaLeft` says what they miss: a request that asks for more labs than `cost` leaves, and the
closing of an event with a negative capacity, which gives labs back that nobody has.

`quotaRequests_within_iff` is the exact condition on the steps. It also has a condition on the
requests alone: the labs that they ask for are few enough, however the events are closed.
`labs_le_of_npUser` is what the tests do see to: without negative capacities the labs stay below
twice the quota.
-/

set_option autoImplicit false

namespace Haaukins.Daemon

open Store (AddEventRequest)

/-- The sum of the capacities of events. -/
def labs (rows : List AddEventRequest) : Int := (rows.map fun row => row.capacity.toInt).sum

/-- The services, where `GetEventByUser` answers with these events. -/
def EventServices.withEvents (s : EventServices) (rows : List AddEventRequest) : EventServices :=
  { s with userEvents := .ok (rows.map AddEventRequest.capacity) }

/-- The row that a call of `CreateEvent` adds, where `addEvent` is the error of `AddEvent`. -/
def addedRow (s : EventServices) (user : Store.User) (req : EventRequest)
    (addEvent : Option String) : Option AddEventRequest :=
  match addEvent, handleCreateEvent s user req with
  | none, .ok (.booked row) => row
  | none, .ok (.started conf) => createEventFromConfig conf
  | _, _ => none

/-- What happens to the events of a user. -/
inductive QuotaStep where
  /-- A call of `CreateEvent`, with the answers of the services and the error of `AddEvent`. -/
  | createEvent (s : EventServices) (req : EventRequest) (addEvent : Option String)
  /-- An event gets the status `Closed`. -/
  | closeEvent (i : Nat)

/-- The events of a user are within the quota. -/
def WithinQuota (rows : List AddEventRequest) : Prop := labs rows ≤ npUserMaxLabs

instance (rows : List AddEventRequest) : Decidable (WithinQuota rows) :=
  inferInstanceAs (Decidable (_ ≤ _))

/-- The events of a user that are not closed. -/
def quotaRequests (user : Store.User) : Machine (List AddEventRequest) QuotaStep where
  init := WithinQuota
  step rows
    | .createEvent s req addEvent =>
      some ((addedRow (s.withEvents rows) user req addEvent).toList ++ rows)
    | .closeEvent i => if i < rows.length then some (rows.eraseIdx i) else none

/-- The labs that a request asks for. An event that starts at once has a default. -/
def EventRequest.labs (req : EventRequest) (s : EventServices) : Int :=
  if req.capacity = 0 ∧ startsLater (parseOrZero req.startTime) s.now = false then 10
  else req.capacity.toInt

/-- The request adds an event: it passes the checks, and then it is booked or started. -/
def Adds (s : EventServices) (user : Store.User) (req : EventRequest)
    (addEvent : Option String) : Prop :=
  addEvent = none ∧ ∃ tags startTime finishTime,
    checkRequest s user req = .ok (tags, startTime, finishTime) ∧
      ((startsLater startTime s.now = true ∧ Takes s req) ∨
        (startsLater startTime s.now = false ∧
          (req.config s user tags startTime finishTime).validate = none ∧ s.inPool = false))

/-- The sum that `checkUserQuota` computes when it gets these events from `GetEventByUser`. -/
def cost (rows : List AddEventRequest) : Int32 := quotaCost (rows.map AddEventRequest.capacity)

/-- What the tests of `CreateEvent` miss. A request that adds an event asks for at most the labs
that `cost` leaves of the quota, and an event with a negative capacity is closed only where
`cost` leaves as many. Capacities that add up to less than 32 bits hold need no condition. -/
def QuotaLeft (user : Store.User) (rows : List AddEventRequest) : QuotaStep → Prop
  | .createEvent s req addEvent =>
    Adds (s.withEvents rows) user req addEvent → FitsInt32 (labs rows) →
      req.labs s ≤ npUserMaxLabs - (cost rows).toInt
  | .closeEvent i => ∀ row ∈ rows[i]?, row.capacity.toInt < 0 → FitsInt32 (labs rows) →
      -row.capacity.toInt ≤ npUserMaxLabs - (cost rows).toInt

/-- The labs that a step can add at most. A request for a negative capacity adds none. -/
def QuotaStep.requested : QuotaStep → Int
  | .createEvent s req _ => max 0 (req.labs s)
  | .closeEvent _ => 0

/-- The labs of the events without a negative capacity. -/
def heldLabs (rows : List AddEventRequest) : Int :=
  (rows.map fun row => max 0 row.capacity.toInt).sum

/-! ### The labs of a request -/

section
variable {s : EventServices} {user : Store.User} {req : EventRequest} {addEvent : Option String}
  {tags : List String} {startTime finishTime : Time} {rows : List AddEventRequest}
  {row : AddEventRequest}

/-- The row of a request for an event that starts later. -/
theorem addedRow_later (h : checkRequest s user req = .ok (tags, startTime, finishTime))
    (hlater : startsLater startTime s.now = true) :
    addedRow s user req none = some row ↔ Takes s req ∧
      ∃ frontend, req.frontends.head? = some frontend ∧ row = req.bookedRow user frontend := by
  rw [← (checkRequest_ok h).bookEvent_eq_some_iff]
  simp only [addedRow, handleCreateEvent, h, hlater, if_true]
  cases bookEvent s user req <;> simp [Except.map]

/-- The row of a request for an event that starts at once. -/
theorem addedRow_now (h : checkRequest s user req = .ok (tags, startTime, finishTime))
    (hnow : startsLater startTime s.now = false) :
    addedRow s user req none = some row ↔
      (req.config s user tags startTime finishTime).validate = none ∧ s.inPool = false ∧
        createEventFromConfig
          (withDefaults (req.config s user tags startTime finishTime) s) = some row := by
  have hstart : addedRow s user req none = some row ↔
      ∃ conf, startNow s user req tags startTime finishTime = .ok conf ∧
        createEventFromConfig conf = some row := by
    simp only [addedRow, handleCreateEvent, h, hnow, Bool.false_eq_true, if_false]
    cases startNow s user req tags startTime finishTime <;> simp [Except.map]
  rw [hstart]
  simp only [startNow_eq_ok_iff, and_assoc, exists_and_left, exists_eq_left']

/-- What an added event says about the call: the request passed the checks, and it was booked or
started. -/
theorem addedRow_cases (h : addedRow s user req addEvent = some row) :
    ∃ tags startTime finishTime, Checked s user req tags startTime finishTime ∧
      Adds s user req addEvent ∧
      ((startsLater startTime s.now = true ∧ ∃ frontend, row = req.bookedRow user frontend) ∨
        (startsLater startTime s.now = false ∧
          createEventFromConfig
            (withDefaults (req.config s user tags startTime finishTime) s) = some row)) := by
  cases addEvent with
  | some err => simp [addedRow] at h
  | none =>
    cases hchecks : checkRequest s user req with
    | error err => simp [addedRow, handleCreateEvent, hchecks] at h
    | ok checked =>
      obtain ⟨tags, startTime, finishTime⟩ := checked
      refine ⟨tags, startTime, finishTime, checkRequest_ok hchecks, ?_⟩
      cases hlater : startsLater startTime s.now with
      | true =>
        obtain ⟨htakes, frontend, -, heq⟩ := (addedRow_later hchecks hlater).mp h
        exact ⟨⟨rfl, _, _, _, hchecks, .inl ⟨hlater, htakes⟩⟩, .inl ⟨rfl, frontend, heq⟩⟩
      | false =>
        obtain ⟨hvalid, hpool, hrow⟩ := (addedRow_now hchecks hlater).mp h
        exact ⟨⟨rfl, _, _, _, hchecks, .inr ⟨hlater, hvalid, hpool⟩⟩, .inr ⟨rfl, hrow⟩⟩

/-- A valid configuration has a row. -/
theorem createEventFromConfig_of_validate {conf : Store.EventConfig}
    (h : conf.validate = none) :
    ∃ row, createEventFromConfig (withDefaults conf s) = some row := by
  obtain ⟨frontend, rest, hcons⟩ :=
    List.exists_cons_of_ne_nil (Store.EventConfig.validate_eq_none.mp h).2.2.2.2
  simp [createEventFromConfig, withDefaults, hcons]

/-- A request adds an event exactly when there is a row of it. -/
theorem adds_iff : Adds s user req addEvent ↔
    (addedRow s user req addEvent).isSome = true := by
  rw [Option.isSome_iff_exists]
  constructor
  · rintro ⟨rfl, tags, startTime, finishTime, hchecks, ⟨hlater, htakes⟩ | ⟨hnow, hvalid, hpool⟩⟩
    · obtain ⟨frontend, rest, hcons⟩ := List.exists_cons_of_ne_nil htakes.2
      have hhead : req.frontends.head? = some frontend := by
        rw [hcons]
        rfl
      exact ⟨_, (addedRow_later hchecks hlater).mpr ⟨htakes, frontend, hhead, rfl⟩⟩
    · obtain ⟨row, hrow⟩ := createEventFromConfig_of_validate (s := s) hvalid
      exact ⟨row, (addedRow_now hchecks hnow).mpr ⟨hvalid, hpool, hrow⟩⟩
  · rintro ⟨row, hrow⟩
    obtain ⟨-, -, -, -, hadds, -⟩ := addedRow_cases hrow
    exact hadds

instance (s : EventServices) (user : Store.User) (req : EventRequest)
    (addEvent : Option String) : Decidable (Adds s user req addEvent) :=
  decidable_of_iff _ adds_iff.symm

instance (user : Store.User) (rows : List AddEventRequest) (a : QuotaStep) :
    Decidable (QuotaLeft user rows a) := by
  cases a <;> dsimp only [QuotaLeft] <;> infer_instance

/-- The row of an event keeps a capacity that has 32 bits. -/
theorem capacity_createEventFromConfig {conf : Store.EventConfig}
    (h : createEventFromConfig conf = some row) :
    row.capacity = Int32.ofInt conf.capacity := by
  unfold createEventFromConfig at h
  split at h
  · cases h
  · cases h
    rfl

/-- The capacity of an event is the number of labs that its request asks for. -/
theorem capacity_addedRow (h : addedRow s user req addEvent = some row) :
    row.capacity.toInt = req.labs s := by
  obtain ⟨tags, startTime, finishTime, hchecked, -,
    ⟨hlater, frontend, rfl⟩ | ⟨hnow, hrow⟩⟩ := addedRow_cases h
  · rw [hchecked.startTime_eq] at hlater
    simp [EventRequest.labs, hlater, EventRequest.bookedRow]
  · rw [hchecked.startTime_eq] at hnow
    rw [capacity_createEventFromConfig hrow]
    simp only [EventRequest.labs, hnow, and_true, withDefaults, EventRequest.config,
      toInt_eq_zero_iff]
    split
    · rfl
    · rw [Int32.ofInt_toInt]

/-! ### The quota along a run -/

/-- The sum of `checkUserQuota` is the exact sum, cut to 32 bits. -/
theorem cost_eq (rows : List AddEventRequest) : cost rows = Int32.ofInt (labs rows) := by
  have hfoldl : ∀ (rows : List AddEventRequest) (n : Int32),
      (rows.map AddEventRequest.capacity).foldl (· + ·) n = n + Int32.ofInt (labs rows) := by
    intro rows
    induction rows with
    | nil =>
      intro n
      simp [labs]
    | cons row rows ih =>
      intro n
      have hcons : labs (row :: rows) = row.capacity.toInt + labs rows := by simp [labs]
      rw [List.map_cons, List.foldl_cons, ih, hcons, Int32.ofInt_add, Int32.ofInt_toInt,
        Int32.add_assoc]
  rw [cost, quotaCost, hfoldl, Int32.zero_add]

/-- The sum of the check is right as long as it fits into 32 bits. -/
theorem toInt_cost (h : FitsInt32 (labs rows)) : (cost rows).toInt = labs rows := by
  rw [cost_eq, toInt_ofInt_iff.mpr h]

/-- Events within the quota, whose capacities do not fit into 32 bits, are far below it. -/
theorem WithinQuota.lt_of_not_fits (h : WithinQuota rows) (hfits : ¬ FitsInt32 (labs rows)) :
    labs rows < -2 ^ 31 := by
  simp only [WithinQuota, npUserMaxLabs] at h
  simp only [FitsInt32, not_and_or, not_le, not_lt] at hfits
  omega

/-- A request asks for less than the sum can hold. -/
theorem EventRequest.labs_lt (req : EventRequest) (s : EventServices) : req.labs s < 2 ^ 31 := by
  unfold EventRequest.labs
  split
  · decide
  · exact Int32.toInt_lt _

/-- The labs of two lists of rows. -/
theorem labs_append (added : List AddEventRequest) :
    labs (added ++ rows) = labs added + labs rows := by
  simp [labs]

/-- A row that is gone takes its labs with it. -/
theorem labs_eraseIdx {i : Nat} (h : rows[i]? = some row) :
    labs (rows.eraseIdx i) = labs rows - row.capacity.toInt := by
  obtain ⟨hi, rfl⟩ := List.getElem?_eq_some_iff.mp h
  have hperm := (List.getElem_cons_eraseIdx_perm hi).map fun row => row.capacity.toInt
  have hsum := hperm.sum_eq
  rw [List.map_cons, List.sum_cons] at hsum
  unfold labs
  omega

/-- A step from events within the quota leads to events within the quota exactly when the quota
is left for it. -/
theorem withinQuota_step_iff (hrows : WithinQuota rows) {a : QuotaStep}
    {rows' : List AddEventRequest} (hs : (quotaRequests user).step rows a = some rows') :
    WithinQuota rows' ↔ QuotaLeft user rows a := by
  cases a with
  | createEvent s req addEvent =>
    cases hs
    rw [QuotaLeft, WithinQuota, labs_append, adds_iff]
    cases hadded : addedRow (s.withEvents rows) user req addEvent with
    -- A request that is refused adds no row.
    | none =>
      have hempty : labs (none : Option AddEventRequest).toList = 0 := rfl
      rw [hempty, zero_add]
      exact iff_of_true hrows fun h => by cases h
    | some row =>
      have hcapacity : row.capacity.toInt = req.labs s :=
        capacity_addedRow (s := s.withEvents rows) hadded
      have hone : labs (some row).toList = req.labs s := by
        simpa [labs] using hcapacity
      rw [hone]
      by_cases hfits : FitsInt32 (labs rows)
      -- The sum fits, so that the condition sees the number itself.
      · simp only [toInt_cost hfits, hfits, Option.isSome_some, true_imp_iff]
        omega
      -- The sum does not fit, so that it is far below zero, and one request cannot bring it to the
      -- quota.
      · have hlow := hrows.lt_of_not_fits hfits
        have hlt := req.labs_lt s
        refine iff_of_true ?_ fun _ h => absurd h hfits
        simp only [npUserMaxLabs]
        omega
  | closeEvent i =>
    simp only [quotaRequests, Option.ite_none_right_eq_some, Option.some.injEq] at hs
    obtain ⟨hi, rfl⟩ := hs
    have hrow : rows[i]? = some rows[i] := List.getElem?_eq_getElem hi
    rw [WithinQuota, QuotaLeft, labs_eraseIdx hrow, hrow]
    -- The row that leaves takes its labs, which may be a negative number.
    simp only [Option.mem_def, Option.some.injEq, forall_eq']
    by_cases hfits : FitsInt32 (labs rows)
    · simp only [toInt_cost hfits, hfits, true_imp_iff]
      simp only [WithinQuota] at hrows
      omega
    · have hlow := hrows.lt_of_not_fits hfits
      have hle := rows[i].capacity.le_toInt
      refine iff_of_true ?_ fun _ h => absurd h hfits
      simp only [npUserMaxLabs]
      omega

/-- The held labs of two lists of rows. -/
theorem heldLabs_append (added : List AddEventRequest) :
    heldLabs (added ++ rows) = heldLabs added + heldLabs rows := by
  simp [heldLabs]

/-- The events without a negative capacity have at least the labs of all events. -/
theorem labs_le_heldLabs (rows : List AddEventRequest) : labs rows ≤ heldLabs rows :=
  List.sum_le_sum fun row _ => le_max_right 0 row.capacity.toInt

/-- A step adds no more labs than it asks for. -/
theorem heldLabs_step_le {a : QuotaStep} {rows' : List AddEventRequest}
    (hs : (quotaRequests user).step rows a = some rows') :
    heldLabs rows' ≤ heldLabs rows + a.requested := by
  cases a with
  | createEvent s req addEvent =>
    cases hs
    rw [heldLabs_append, QuotaStep.requested]
    cases hadded : addedRow (s.withEvents rows) user req addEvent with
    | none =>
      have hempty : heldLabs (none : Option AddEventRequest).toList = 0 := rfl
      omega
    | some row =>
      have hcapacity : row.capacity.toInt = req.labs s :=
        capacity_addedRow (s := s.withEvents rows) hadded
      have hone : heldLabs (some row).toList = max 0 (req.labs s) := by
        simp [heldLabs, hcapacity]
      omega
  | closeEvent i =>
    simp only [quotaRequests, Option.ite_none_right_eq_some, Option.some.injEq] at hs
    obtain ⟨hi, rfl⟩ := hs
    have hsub := ((List.eraseIdx_sublist rows i).map
      fun row => max 0 row.capacity.toInt).sum_le_sum fun n hn => by
        obtain ⟨row, -, rfl⟩ := List.mem_map.mp hn
        exact le_max_left 0 _
    simpa [QuotaStep.requested, heldLabs] using hsub

/-- The labs of a user stay within the quota when all that his requests ask for does. -/
theorem allStates_of_requested :
    ∀ {as : List QuotaStep} {rows : List AddEventRequest},
      heldLabs rows + (as.map QuotaStep.requested).sum ≤ npUserMaxLabs →
      (quotaRequests user).AllStates WithinQuota rows as := by
  intro as
  induction as with
  | nil =>
    intro rows h
    have hle := labs_le_heldLabs rows
    simp only [List.map_nil, List.sum_nil, add_zero] at h
    exact hle.trans h
  | cons a as ih =>
    intro rows h
    have hrequested : ∀ b : QuotaStep, 0 ≤ b.requested := by
      rintro (⟨s, req, addEvent⟩ | ⟨i⟩)
      · exact le_max_left 0 _
      · exact le_refl 0
    have hnonneg : 0 ≤ (as.map QuotaStep.requested).sum := List.sum_nonneg fun n hn => by
      obtain ⟨b, -, rfl⟩ := List.mem_map.mp hn
      exact hrequested b
    have hfirst := hrequested a
    have hle := labs_le_heldLabs rows
    rw [List.map_cons, List.sum_cons] at h
    refine ⟨?_, fun rows' hs => ih ?_⟩
    · show labs rows ≤ npUserMaxLabs
      omega
    · have hstep := heldLabs_step_le hs
      omega

end

/-- The labs of a user stay within the quota if and only if each request that adds an event asks
for at most the labs that the sum of `checkUserQuota` leaves, and no closing of an event with a
negative capacity takes back more. They do so in particular when all that the requests ask for,
with what the user has already, is within the quota. -/
theorem quotaRequests_within_iff (user : Store.User) {rows : List AddEventRequest}
    (hrows : (quotaRequests user).init rows) (as : List QuotaStep) :
    ((quotaRequests user).AllStates WithinQuota rows as ↔
      (quotaRequests user).AllSteps (QuotaLeft user) rows as) ∧
    (heldLabs rows + (as.map QuotaStep.requested).sum ≤ npUserMaxLabs →
      (quotaRequests user).AllStates WithinQuota rows as) :=
  ⟨Machine.allStates_iff_allSteps (A := fun _ _ => True) (fun _ h => h)
    (fun _ _ _ h _ hleft hs => (withinQuota_step_iff h hs).mpr hleft)
    (fun _ _ _ h _ hleft hs => mt (withinQuota_step_iff h hs).mp hleft) hrows
    Machine.allSteps_true, allStates_of_requested⟩

/-! ### What the checks see to -/

/-- No event has a negative capacity, and the labs stay below twice the quota. -/
structure BelowTwice (rows : List AddEventRequest) : Prop where
  nonneg : ∀ row ∈ rows, 0 ≤ row.capacity.toInt
  labs_le : labs rows ≤ 2 * npUserMaxLabs

/-- The request does not ask for a negative capacity. -/
def NonnegCapacity : QuotaStep → Prop
  | .createEvent _ req _ => 0 ≤ req.capacity.toInt
  | .closeEvent _ => True

/-- Rows that are not negative have a sum that is not negative. -/
theorem labs_nonneg {rows : List AddEventRequest} (h : ∀ row ∈ rows, 0 ≤ row.capacity.toInt) :
    0 ≤ labs rows :=
  List.sum_nonneg fun n hn => by
    obtain ⟨row, hrow, rfl⟩ := List.mem_map.mp hn
    exact h row hrow

/-- `checkUserQuota` compares the exact sum, as long as this has 32 bits. -/
theorem labs_le_of_checkUserQuota {s : EventServices} {user : Store.User}
    {rows : List AddEventRequest} (huser : user.npUser = true) (hrows : FitsInt32 (labs rows))
    (h : checkUserQuota (s.withEvents rows) user = .ok true) : labs rows ≤ npUserMaxLabs := by
  simp only [checkUserQuota, EventServices.withEvents, huser, Bool.true_and,
    decide_eq_true_eq] at h
  split at h
  · cases h
  · next hnot =>
    have hle : (cost rows).toInt ≤ npUserMaxLabs := Int32.le_iff_toInt_le.mp (Int32.not_lt.mp hnot)
    rwa [toInt_cost hrows] at hle

/-- A user without privileges stays below twice the quota, by the first check of each request. -/
theorem BelowTwice.step {user : Store.User} (huser : user.npUser = true)
    {rows rows' : List AddEventRequest} {a : QuotaStep} (h : BelowTwice rows)
    (ha : NonnegCapacity a) (hs : (quotaRequests user).step rows a = some rows') :
    BelowTwice rows' := by
  cases a with
  | createEvent s req addEvent =>
    cases hs
    cases hadded : addedRow (s.withEvents rows) user req addEvent with
    -- A refused request adds nothing.
    | none => exact h
    | some row =>
      have hcapacity : row.capacity.toInt = req.labs s :=
        capacity_addedRow (s := s.withEvents rows) hadded
      obtain ⟨tags, startTime, finishTime, hchecked, -⟩ := addedRow_cases hadded
      -- The labs of the rows that are there passed the test of the quota.
      have hlabs : labs rows ≤ npUserMaxLabs := by
        refine labs_le_of_checkUserQuota huser ⟨?_, ?_⟩ hchecked.quota
        · exact le_trans (by decide) (labs_nonneg h.nonneg)
        · exact lt_of_le_of_lt h.labs_le (by decide)
      have hmost : req.capacity.toInt ≤ npUserMaxLabs :=
        Int32.le_iff_toInt_le.mp (hchecked.capacity huser)
      have hbounds : 0 ≤ req.labs s ∧ req.labs s ≤ npUserMaxLabs := by
        unfold EventRequest.labs
        split
        · decide
        · exact ⟨ha, hmost⟩
      refine ⟨fun row' hrow' => ?_, ?_⟩
      · rcases List.mem_cons.mp hrow' with rfl | hrow'
        · rw [hcapacity]
          exact hbounds.1
        · exact h.nonneg row' hrow'
      · have hcons : labs (row :: rows) = req.labs s + labs rows := by
          simp [labs, hcapacity]
        show labs (row :: rows) ≤ 2 * npUserMaxLabs
        rw [hcons]
        omega
  | closeEvent i =>
    simp only [quotaRequests, Option.ite_none_right_eq_some, Option.some.injEq] at hs
    obtain ⟨hi, rfl⟩ := hs
    have hrow : rows[i]? = some rows[i] := List.getElem?_eq_getElem hi
    refine ⟨fun row' hrow' => h.nonneg row' (List.mem_of_mem_eraseIdx hrow'), ?_⟩
    have hpos := h.nonneg rows[i] (List.getElem_mem hi)
    have hle := h.labs_le
    rw [labs_eraseIdx hrow]
    omega

/-- The labs of a non-privileged user who asks for no negative capacities stay below twice the
quota. -/
theorem labs_le_of_npUser {user : Store.User} (huser : user.npUser = true) {as : List QuotaStep}
    (hrequests : ∀ a ∈ as, NonnegCapacity a) {rows : List AddEventRequest}
    (hrun : (quotaRequests user).run [] as = some rows) : labs rows ≤ 2 * npUserMaxLabs :=
  (Machine.run_invariant (I := BelowTwice) (fun _ _ _ h ha hs => h.step huser ha hs)
    ⟨by simp, by decide⟩ hrequests hrun).labs_le

/-- A non-privileged user. -/
def member : Store.User := { teacher with username := "member", npUser := true }

/-- A request for an event of forty teams. -/
def fortyTeams (tag : String) : EventRequest := { fullRequest with tag := tag, capacity := 40 }

/-- The same request for twenty teams. -/
def twentyTeams (tag : String) : EventRequest := { fullRequest with tag := tag, capacity := 20 }

/-- A user closes an event of forty teams before he asks for the next one, or he asks for two of
twenty teams. -/
theorem quotaRequests_within_closed :
    (quotaRequests member).AllStates WithinQuota []
      [.createEvent idleServices (fortyTeams "demo") none, .closeEvent 0,
        .createEvent idleServices (fortyTeams "demo2") none] ∧
    (quotaRequests member).AllStates WithinQuota []
      [.createEvent idleServices (twentyTeams "demo") none,
        .createEvent idleServices (twentyTeams "demo2") none] :=
  ⟨(quotaRequests_within_iff member (show WithinQuota [] by decide) _).1.mpr (by decide),
    (quotaRequests_within_iff member (show WithinQuota [] by decide) _).2 (by decide)⟩

/-- A non-privileged user who has forty labs gets forty more. -/
theorem quotaRequests_not_within :
    ¬ ∀ (user : Store.User) (rows : List AddEventRequest) (as : List QuotaStep),
      user.npUser = true → (quotaRequests user).init rows →
      (quotaRequests user).AllStates WithinQuota rows as := by
  intro h
  have hall := h member [] [.createEvent idleServices (fortyTeams "demo") none,
    .createEvent idleServices (fortyTeams "demo2") none] rfl
    (show WithinQuota [] by decide)
  obtain ⟨t, hlabs, hwithin⟩ := hall.of_run labs 80 (by decide)
  rw [WithinQuota, hlabs] at hwithin
  exact absurd hwithin (by decide)

end Haaukins.Daemon
