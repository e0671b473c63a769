import Haaukins.Daemon.Event
import Haaukins.Daemon.EventPool
import Haaukins.Lib.Threads

/-!
# `Haaukins.Daemon.PoolHandlers`: the handlers of the event pool (`daemon/event.go`)

`SuspendEvent` looks the event up, suspends or resumes its labs, and then assigns the handler of
its tag. It does not hold the lock of the pool in between, so `AddEvent` and `RemoveEvent` of
other requests run there.

`EventPool.InStep` holds along a run exactly when each assignment still finds an event under its
tag (`FindsEvent`). After a removal, the assignment leaves a handler without an event.
-/

set_option autoImplicit false

namespace Haaukins.Daemon

/-- Where a request is that uses the pool. -/
inductive PoolRequest where
  | idle
  /-- `SuspendEvent` has the event. Its call of `Suspend` or `Resume` is next. -/
  | calling (tag : String) (event : EventConfig) (isSuspend : Bool)
  /-- The call is back, and the assignment of the handler is next. -/
  | assigning (tag : String) (event : EventConfig) (isSuspend : Bool)
  | done (err : Option String)
  deriving DecidableEq

/-- A step of a request that uses the pool. -/
inductive PoolStep where
  | addEvent (ev : EventConfig)
  | removeEvent (tag : String)
  /-- `GetEvent` of `SuspendEvent`, and the test of its user. -/
  | getEvent (user : Requester) (tag : String) (isSuspend : Bool)
  /-- `event.Suspend` or `event.Resume`, with its error. -/
  | call (err : Option String)
  | setHandler

/-- The handler that `SuspendEvent` assigns. -/
def suspendHandler (event : EventConfig) (isSuspend : Bool) : Handler EventConfig :=
  if isSuspend then .suspendEvent else .event event

/-- The requests to the pool of a daemon that has just started. -/
def poolRequests : Program (EventPool EventConfig) PoolRequest PoolStep where
  init ep := ∃ host, ep = newEventPool host
  start := .idle
  step ep
    | .idle, .addEvent ev => some (ep.addEvent ev.tag ev, .done none)
    | .idle, .removeEvent tag =>
      let (ep, found) := ep.removeEvent tag
      some (ep, .done (if found then none else some unknownEventErr))
    | .idle, .getEvent user tag isSuspend =>
      match ep.getEvent tag with
      | none => some (ep, .done (some unknownEventErr))
      | some event =>
        -- A user who may not suspend the event gets no error.
        if user.mayStop event then some (ep, .calling tag event isSuspend)
        else some (ep, .done none)
    | .calling tag event isSuspend, .call err =>
      match err with
      | some err => some (ep, .done (some err))
      | none => some (ep, .assigning tag event isSuspend)
    | .assigning tag event isSuspend, .setHandler =>
      some (ep.setHandler tag (suspendHandler event isSuspend), .done none)
    | _, _ => none

/-- An assignment of a handler still finds an event under its tag. -/
def FindsEvent (ep : EventPool EventConfig) : PoolRequest → PoolStep → Prop
  | .assigning tag _ _, .setHandler => tag ∈ ep.events
  | _, _ => True

instance (ep : EventPool EventConfig) (r : PoolRequest) (a : PoolStep) :
    Decidable (FindsEvent ep r a) := by
  unfold FindsEvent
  split <;> infer_instance

variable {ep ep' : EventPool EventConfig} {r r' : PoolRequest} {a : PoolStep}

/-- What a step does to the pool: it calls a method, or it assigns a handler. -/
theorem poolRequests_step (hs : poolRequests.step ep r a = some (ep', r')) :
    (∃ tag event isSuspend, r = .assigning tag event isSuspend ∧ a = .setHandler ∧
      ep' = ep.setHandler tag (suspendHandler event isSuspend)) ∨
    (FindsEvent ep r a ∧ (ep' = ep ∨ (∃ ev : EventConfig, ep' = ep.addEvent ev.tag ev) ∨
      ∃ tag, ep' = (ep.removeEvent tag).1)) := by
  unfold poolRequests at hs
  dsimp only at hs
  split at hs
  · next ev =>
    cases hs
    exact .inr ⟨trivial, .inr (.inl ⟨ev, rfl⟩)⟩
  · next tag =>
    cases hs
    exact .inr ⟨trivial, .inr (.inr ⟨tag, rfl⟩)⟩
  · split at hs
    · cases hs
      exact .inr ⟨trivial, .inl rfl⟩
    · split at hs <;> cases hs <;> exact .inr ⟨trivial, .inl rfl⟩
  · split at hs <;> cases hs <;> exact .inr ⟨trivial, .inl rfl⟩
  · next tag event isSuspend =>
    cases hs
    exact .inl ⟨tag, event, isSuspend, rfl, rfl, rfl⟩
  · cases hs

/-- A step keeps the maps in step exactly when its assignment finds an event. -/
theorem inStep_step_iff (h : ep.InStep) (hs : poolRequests.step ep r a = some (ep', r')) :
    ep'.InStep ↔ FindsEvent ep r a := by
  rcases poolRequests_step hs with
    ⟨tag, event, isSuspend, rfl, rfl, rfl⟩ | ⟨hfinds, rfl | ⟨ev, rfl⟩ | ⟨tag, rfl⟩⟩
  · exact h.setHandler_iff
  · exact iff_of_true h hfinds
  · exact iff_of_true h.addEvent hfinds
  · exact iff_of_true h.removeEvent hfinds

/-- Along a run of any requests, the two maps of the pool are in step if and only if each
assignment of a handler finds an event under its tag. -/
theorem poolRequests_inStep_iff (s : Threads (EventPool EventConfig) PoolRequest)
    (hs : poolRequests.threads.init s) (as : List (Nat × PoolStep)) :
    poolRequests.threads.AllStates (fun s => s.shared.InStep) s as ↔
      poolRequests.threads.AllSteps (fun s a => FindsEvent s.shared (s.thread a.1) a.2) s as := by
  have hinit : s.shared.InStep := by
    obtain ⟨⟨host, hpool⟩, -⟩ := hs
    rw [hpool]
    exact EventPool.inStep_newEventPool host
  exact Program.allStates_shared_iff (I := EventPool.InStep) (fun _ h => h)
    (fun _ _ _ _ _ h hok hs => (inStep_step_iff h hs).mpr hok)
    (fun _ _ _ _ _ h hnot hs => fun hstep => hnot ((inStep_step_iff h hs).mp hstep)) hinit

/-- The pool of a new daemon, before the first request. -/
def emptyPool : Threads (EventPool EventConfig) PoolRequest where
  shared := newEventPool "ntp-event.dk"
  thread _ := .idle

/-- The empty pool is a first state. -/
theorem emptyPool_init : poolRequests.threads.init emptyPool := ⟨⟨"ntp-event.dk", rfl⟩, rfl⟩

/-- An event without a VPN that is created by a privileged user and ends at time `9`. -/
def demoEvent : EventConfig where
  name := "Demo"
  tag := "demo"
  available := 2
  capacity := 10
  frontends := ["kali"]
  exercises := ["sql-1"]
  finishExpected := 9
  createdBy := "tkp"
  onlyVPN := noVPN
  vpnAddress := ""

/-- A user who may stop and suspend all events. -/
def operator : Requester := { username := "ops", npUser := false }

/-- An event is suspended and then removed. -/
theorem poolRequests_inStep_sequential :
    poolRequests.threads.AllStates (fun s => s.shared.InStep) emptyPool
      [(0, .addEvent demoEvent), (1, .getEvent operator "demo" true), (1, .call none),
        (1, .setHandler), (2, .removeEvent "demo")] :=
  (poolRequests_inStep_iff emptyPool emptyPool_init _).mpr (by decide)

/-- An event is removed while `Suspend` of another request runs. -/
theorem poolRequests_not_inStep :
    ¬ ∀ (s : Threads (EventPool EventConfig) PoolRequest) (as : List (Nat × PoolStep)),
      poolRequests.threads.init s →
      poolRequests.threads.AllStates (fun s => s.shared.InStep) s as := by
  intro h
  have hall := h emptyPool
    [(0, .addEvent demoEvent), (1, .getEvent operator "demo" true), (2, .removeEvent "demo"),
      (1, .call none), (1, .setHandler)] emptyPool_init
  obtain ⟨t, ht, hin⟩ := hall.of_run
    (fun s => (decide ("demo" ∈ s.shared.events), decide ("demo" ∈ s.shared.handlers)))
    (false, true) (by decide)
  obtain ⟨hevents, hhandlers⟩ := Prod.mk.inj ht
  exact of_decide_eq_false hevents ((hin.tags "demo").mpr (of_decide_eq_true hhandlers))

end Haaukins.Daemon
