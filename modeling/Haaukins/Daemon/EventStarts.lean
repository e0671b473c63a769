import Haaukins.Daemon.PoolHandlers
import Haaukins.Store.Exercise

/-!
# `Haaukins.Daemon.EventStarts`: concurrent starts of events (`daemon/event.go`)

`CreateEvent` asks the store and the pool whether there is an event with its tag. Then it saves
the event, creates it, and puts it into the pool. `visitBookedEvents` creates the events that
were booked when it began, and asks the pool nothing. `AddEvent` writes over an entry.

`Starts.Retrievable` says that each event that was put into the pool is still found under its
tag, unless the tag was removed. It holds along a run exactly when each call of `AddEvent` comes
while `GetEvent` would still fail for its tag (`FindsNoEvent`).
-/

set_option autoImplicit false

namespace Haaukins.Daemon

open Store (newTagOrEmpty)

/-- A row of the store: the tag of an event, and its status. -/
structure EventRow where
  tag : String
  status : Int
  deriving DecidableEq

/-- The store and the pool. An event of the pool is the number of its call of `AddEvent`. -/
structure Starts where
  rows : List EventRow
  pool : EventPool Nat
  /-- The events that were put into the pool under a tag, up to the removal of the tag. -/
  put : List (String × Nat)
  /-- The number of the next event. -/
  next : Nat

namespace Starts

variable (d : Starts)

/-- The answer to `IsEventExists` with the status `Closed`, which the store inverts. -/
def isEventExists (tag : String) : Bool :=
  d.rows.any fun r => r.tag == tag && r.status != closed

/-- The RPC `AddEvent` of the store. -/
def saveRow (tag : String) (status : Int) : Starts :=
  { d with rows := d.rows ++ [{ tag := tag, status := status }] }

/-- The RPC `SetEventStatus`. -/
def setEventStatus (tag : String) (status : Int) : Starts :=
  { d with rows := d.rows.map fun r => if r.tag = tag then { r with status := status } else r }

/-- The tags of the answer to `GetEvents` with the status `Booked`. -/
def bookedTags : List String := (d.rows.filter fun r => r.status == booked).map EventRow.tag

/-- `startEvent`: `eventPool.AddEvent`. -/
def addEvent (tag : String) : Starts :=
  { d with pool := d.pool.addEvent tag d.next, put := (tag, d.next) :: d.put, next := d.next + 1 }

/-- `eventPool.RemoveEvent`. -/
def removeEvent (tag : String) : Starts :=
  { d with pool := (d.pool.removeEvent tag).1, put := d.put.filter fun e => e.1 ≠ tag }

end Starts

/-- Where a request or a visit is. A list of tags is what a visit has left; `CreateEvent` has
no such list. -/
inductive StartRequest where
  | idle
  /-- The store has no event with this tag. `CreateEvent` books or starts the event next. -/
  | checked (tag : String)
  /-- `GetEvent` found no event. The RPC `AddEvent` of the store is next. -/
  | saving (tag : String)
  | creating (tag : String) (left : Option (List String))
  /-- The event is created, and `eventPool.AddEvent` is next. -/
  | adding (tag : String) (left : Option (List String))
  | visiting (left : List String)
  /-- The booked event is live. Its `SetEventStatus` is next. -/
  | updating (tag : String) (left : List String)
  | done (err : Option String)
  deriving DecidableEq

/-- A step of a request or of a visit, with the answer of the called service. -/
inductive StartStep where
  | isEventExists (tag : String) (err : Option String)
  /-- `bookEvent`, which may not store the event. -/
  | bookEvent (stored : Bool) (err : Option String)
  /-- `conf.Validate` and `GetEvent`, for a configuration whose tag is set here. -/
  | getEvent (conf : EventConfig)
  | saveRow (err : Option String)
  /-- The start of the containers in `CreateEventFromEventDB`. -/
  | create (err : Option String)
  | addEvent
  /-- `GetEvents` of a visit, with the order of its answer. -/
  | getBooked (order : List String)
  /-- The test of the start time of the next booked event. -/
  | visit (due : Bool)
  | setRunning (err : Option String)
  /-- A request that ends an event. -/
  | setClosed (tag : String)
  | removeEvent (tag : String)

/-- The end of `startEvent`: `CreateEvent` returns, and a visit stores the status. -/
def afterStart (tag : String) : Option (List String) → StartRequest
  | none => .done none
  | some left => .updating tag left

/-- The step that takes the next booked event of a visit. -/
def nextBooked (due : Bool) : List String → StartRequest
  | [] => .done none
  | tag :: left => if due then .creating tag (some left) else .visiting left

/-- The requests and the visits. Each event of the pool was put there under its tag. -/
def eventStarts : Program Starts StartRequest StartStep where
  init d := (∀ tag n, (tag, n) ∈ d.put ↔ d.pool.getEvent tag = some n) ∧
    ∀ e ∈ d.put, e.2 < d.next
  start := .idle
  step d
    | .idle, .isEventExists tag err =>
      match err with
      | some err =>
        some (d, .done (some ("event does not exist or something is wrong: " ++ err)))
      | none =>
        some (d, if d.isEventExists tag then .done (some notAvailableTag) else .checked tag)
    | .checked tag, .bookEvent stored err =>
      some (if stored && err.isNone then d.saveRow tag booked else d, .done err)
    | .checked tag, .getEvent conf =>
      let evtag := newTagOrEmpty tag
      match { conf with tag := evtag }.validate with
      | some err => some (d, .done (some err))
      | none =>
        match d.pool.getEvent evtag with
        | some _ => some (d, .done (some duplicateEventErr))
        | none => some (d, .saving evtag)
    | .saving tag, .saveRow err =>
      match err with
      | some err => some (d, .done (some err))
      | none => some (d.saveRow tag running, .creating tag none)
    | .creating tag left, .create err =>
      match err with
      | some err => some (d, .done (some err))
      | none => some (d, .adding tag left)
    | .adding tag left, .addEvent => some (d.addEvent tag, afterStart tag left)
    | .idle, .getBooked order =>
      if order.Perm d.bookedTags then some (d, .visiting order) else none
    | .visiting left, .visit due => some (d, nextBooked due left)
    | .updating tag left, .setRunning err =>
      match err with
      | some err => some (d, .done (some ("status update failed err: " ++ err)))
      | none => some (d.setEventStatus tag running, .visiting left)
    | .idle, .setClosed tag => some (d.setEventStatus tag closed, .done none)
    | .idle, .removeEvent tag => some (d.removeEvent tag, .done none)
    | _, _ => none

namespace Starts

/-- Each event that was put into the pool is retrievable under its tag. -/
def Retrievable (d : Starts) : Prop := ∀ e ∈ d.put, d.pool.getEvent e.1 = some e.2

instance (d : Starts) : Decidable d.Retrievable :=
  inferInstanceAs (Decidable (∀ e ∈ d.put, _))

/-- The invariant behind `Retrievable`: the pool has no other events, and the number of the next
event is new. -/
structure Accounted (d : Starts) : Prop where
  retrievable : d.Retrievable
  listed : ∀ tag n, d.pool.getEvent tag = some n → (tag, n) ∈ d.put
  fresh : ∀ e ∈ d.put, e.2 < d.next

end Starts

/-- A call of `AddEvent` comes while `GetEvent` would still fail for its tag. -/
def FindsNoEvent (d : Starts) : StartRequest → StartStep → Prop
  | .adding tag _, .addEvent => d.pool.getEvent tag = none
  | _, _ => True

instance (d : Starts) (r : StartRequest) (a : StartStep) : Decidable (FindsNoEvent d r a) := by
  unfold FindsNoEvent
  split <;> infer_instance

variable {d d' : Starts} {r r' : StartRequest} {a : StartStep} {tag : String}

namespace Starts

/-- The rows of the first state. -/
theorem accounted_init (h : eventStarts.init d) : d.Accounted :=
  ⟨fun e he => (h.1 e.1 e.2).mp he, fun tag n hn => (h.1 tag n).mpr hn, h.2⟩

/-- The rows of the store do not matter. -/
theorem Accounted.of_eq (h : d.Accounted) (hpool : d'.pool = d.pool) (hput : d'.put = d.put)
    (hnext : d'.next = d.next) : d'.Accounted := by
  obtain ⟨hretrievable, hlisted, hfresh⟩ := h
  refine ⟨?_, ?_, ?_⟩
  · rw [Retrievable, hput, hpool]
    exact hretrievable
  · rw [hput, hpool]
    exact hlisted
  · rw [hput, hnext]
    exact hfresh

/-- An event that is not there comes to the pool. -/
theorem Accounted.addEvent (h : d.Accounted) (hnone : d.pool.getEvent tag = none) :
    (d.addEvent tag).Accounted := by
  refine ⟨fun e he => ?_, fun tag' n hn => ?_, fun e he => ?_⟩
  · show (d.pool.addEvent tag d.next).getEvent e.1 = some e.2
    rw [EventPool.getEvent_addEvent]
    rcases List.mem_cons.mp he with rfl | he
    · exact if_pos rfl
    · have hget : d.pool.getEvent e.1 = some e.2 := h.retrievable e he
      -- An entry from before stands under another tag.
      have hne : e.1 ≠ tag := by
        intro heq
        rw [heq, hnone] at hget
        cases hget
      rw [if_neg hne]
      exact hget
  · change (d.pool.addEvent tag d.next).getEvent tag' = some n at hn
    rw [EventPool.getEvent_addEvent] at hn
    split at hn
    · next heq =>
      cases hn
      rw [heq]
      exact List.mem_cons_self
    · exact List.mem_cons_of_mem _ (h.listed tag' n hn)
  · show e.2 < d.next + 1
    rcases List.mem_cons.mp he with rfl | he
    · exact Nat.lt_succ_self _
    · exact Nat.lt_succ_of_lt (h.fresh e he)

/-- An event that is written over is no longer retrievable. -/
theorem Accounted.not_retrievable_addEvent (h : d.Accounted)
    (hsome : d.pool.getEvent tag ≠ none) : ¬ (d.addEvent tag).Retrievable := by
  intro hretrievable
  obtain ⟨n, hn⟩ := Option.ne_none_iff_exists'.mp hsome
  have hmem : (tag, n) ∈ d.put := h.listed tag n hn
  have hget : (d.pool.addEvent tag d.next).getEvent tag = some n :=
    hretrievable (tag, n) (List.mem_cons_of_mem _ hmem)
  rw [EventPool.getEvent_addEvent, if_pos rfl] at hget
  cases hget
  exact Nat.lt_irrefl _ (h.fresh _ hmem)

/-- An event goes, and its row with it. -/
theorem Accounted.removeEvent (h : d.Accounted) : (d.removeEvent tag).Accounted := by
  refine ⟨fun e he => ?_, fun tag' n hn => ?_, fun e he => ?_⟩
  · obtain ⟨he, hne⟩ := List.mem_filter.mp he
    show (d.pool.removeEvent tag).1.getEvent e.1 = some e.2
    rw [EventPool.getEvent_removeEvent, if_neg (of_decide_eq_true hne)]
    exact h.retrievable e he
  · change (d.pool.removeEvent tag).1.getEvent tag' = some n at hn
    rw [EventPool.getEvent_removeEvent] at hn
    split at hn
    · cases hn
    · next hne => exact List.mem_filter.mpr ⟨h.listed tag' n hn, decide_eq_true hne⟩
  · exact h.fresh e (List.mem_filter.mp he).1

end Starts

/-- What a step does to the pool: it adds an event, it removes a tag, or it leaves the pool. -/
theorem eventStarts_step (hs : eventStarts.step d r a = some (d', r')) :
    (∃ tag left, r = .adding tag left ∧ a = .addEvent ∧ d' = d.addEvent tag) ∨
    (FindsNoEvent d r a ∧ ((∃ tag, d' = d.removeEvent tag) ∨
      (d'.pool = d.pool ∧ d'.put = d.put ∧ d'.next = d.next))) := by
  unfold eventStarts at hs
  dsimp only at hs
  split at hs
  · split at hs <;> cases hs <;> exact .inr ⟨trivial, .inr ⟨rfl, rfl, rfl⟩⟩
  · cases hs
    refine .inr ⟨trivial, .inr ?_⟩
    split <;> exact ⟨rfl, rfl, rfl⟩
  · split at hs
    · cases hs
      exact .inr ⟨trivial, .inr ⟨rfl, rfl, rfl⟩⟩
    · split at hs <;> cases hs <;> exact .inr ⟨trivial, .inr ⟨rfl, rfl, rfl⟩⟩
  · split at hs <;> cases hs <;> exact .inr ⟨trivial, .inr ⟨rfl, rfl, rfl⟩⟩
  · split at hs <;> cases hs <;> exact .inr ⟨trivial, .inr ⟨rfl, rfl, rfl⟩⟩
  · next tag left =>
    cases hs
    exact .inl ⟨tag, left, rfl, rfl, rfl⟩
  · split at hs
    · cases hs
      exact .inr ⟨trivial, .inr ⟨rfl, rfl, rfl⟩⟩
    · cases hs
  · cases hs
    exact .inr ⟨trivial, .inr ⟨rfl, rfl, rfl⟩⟩
  · split at hs <;> cases hs <;> exact .inr ⟨trivial, .inr ⟨rfl, rfl, rfl⟩⟩
  · cases hs
    exact .inr ⟨trivial, .inr ⟨rfl, rfl, rfl⟩⟩
  · next tag =>
    cases hs
    exact .inr ⟨trivial, .inl ⟨tag, rfl⟩⟩
  · cases hs

/-- Each step that starts nothing twice keeps the account. -/
theorem accounted_step (h : d.Accounted) (hfinds : FindsNoEvent d r a)
    (hs : eventStarts.step d r a = some (d', r')) : d'.Accounted := by
  rcases eventStarts_step hs with
    ⟨tag, left, rfl, rfl, rfl⟩ | ⟨-, ⟨tag, rfl⟩ | ⟨hpool, hput, hnext⟩⟩
  · exact h.addEvent hfinds
  · exact h.removeEvent
  · exact h.of_eq hpool hput hnext

/-- A second start loses the first event. -/
theorem not_retrievable_step (h : d.Accounted) (hfinds : ¬ FindsNoEvent d r a)
    (hs : eventStarts.step d r a = some (d', r')) : ¬ d'.Retrievable := by
  rcases eventStarts_step hs with ⟨tag, left, rfl, rfl, rfl⟩ | ⟨hok, -⟩
  · exact h.not_retrievable_addEvent hfinds
  · exact absurd hok hfinds

/-- Along a run of any requests and visits, each event that was put into the pool stays
retrievable until its tag is removed if and only if each call of `AddEvent` comes while
`GetEvent` would still fail for its tag. -/
theorem eventStarts_retrievable_iff (s : Threads Starts StartRequest)
    (hs : eventStarts.threads.init s) (as : List (Nat × StartStep)) :
    eventStarts.threads.AllStates (fun s => s.shared.Retrievable) s as ↔
      eventStarts.threads.AllSteps (fun s a => FindsNoEvent s.shared (s.thread a.1) a.2) s as :=
  Program.allStates_shared_iff (I := Starts.Accounted) (fun _ h => h.retrievable)
    (fun _ _ _ _ _ h hok hs => accounted_step h hok hs)
    (fun _ _ _ _ _ h hnot hs => not_retrievable_step h hnot hs) (Starts.accounted_init hs.1)

/-- The daemon with an empty pool, whose store has one booked event. -/
def oneBooked : Threads Starts StartRequest where
  shared :=
    { rows := [{ tag := "ctf", status := booked }], pool := newEventPool "ntp-event.dk",
      put := [], next := 0 }
  thread _ := .idle

/-- One booked event is a state to begin with. -/
theorem oneBooked_init : eventStarts.threads.init oneBooked := by
  refine ⟨⟨fun tag n => ?_, fun e he => ?_⟩, rfl⟩
  · show (tag, n) ∈ [] ↔ GoMap.get? ∅ tag = some n
    simp
  · cases he

/-- The steps of a `CreateEvent` that starts its event at once. -/
def createNow (i : Nat) (tag : String) : List (Nat × StartStep) :=
  [(i, .isEventExists tag none), (i, .getEvent demoEvent), (i, .saveRow none), (i, .create none),
    (i, .addEvent)]

/-- A visit starts the booked event, and then another event is created. -/
theorem eventStarts_retrievable_sequential :
    eventStarts.threads.AllStates (fun s => s.shared.Retrievable) oneBooked
      ([(0, .getBooked ["ctf"]), (0, .visit true), (0, .create none), (0, .addEvent),
        (0, .setRunning none), (0, .visit false)] ++ createNow 1 "demo") :=
  (eventStarts_retrievable_iff oneBooked oneBooked_init _).mpr (by decide)

/-- Two requests for the same tag both pass the checks before one of them saves its event. -/
def overlappingCreates : List (Nat × StartStep) :=
  [(0, .isEventExists "demo" none), (0, .getEvent demoEvent), (1, .isEventExists "demo" none),
    (1, .getEvent demoEvent), (0, .saveRow none), (0, .create none), (0, .addEvent),
    (1, .saveRow none), (1, .create none), (1, .addEvent)]

/-- Two visits start the same event. -/
theorem eventStarts_not_retrievable :
    ¬ ∀ (s : Threads Starts StartRequest) (as : List (Nat × StartStep)),
      eventStarts.threads.init s →
      eventStarts.threads.AllStates (fun s => s.shared.Retrievable) s as := by
  intro h
  obtain ⟨t, ht, hretrievable⟩ := (h oneBooked overlappingCreates oneBooked_init).of_run
    (fun s => (s.shared.put, s.shared.pool.getEvent "demo"))
    ([("demo", 1), ("demo", 0)], some 1) (by decide)
  obtain ⟨hput, hget⟩ := Prod.mk.inj ht
  have hzero : t.shared.pool.getEvent "demo" = some 0 :=
    hretrievable ("demo", 0) (by rw [hput]; decide)
  rw [hget] at hzero
  exact absurd hzero (by decide)

end Haaukins.Daemon
