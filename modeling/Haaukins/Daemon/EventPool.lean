import Haaukins.Lib.GoMap
import Haaukins.Lib.GoStrings

/-!
# `Haaukins.Daemon.EventPool`: the event pool (`daemon/eventpool.go`)

The pool has two maps, one from tags to live events and one from tags to the handlers of their
pages. `ServeHTTP` looks only at the second one. The handler of a tag is the handler of an event
or the page of a suspended event.

`EventPool.InStep` says that the maps have the same tags. The methods of the pool keep it. The
assignment `ep.handlers[tag] = ..` of `SuspendEvent` keeps it exactly when the tag has an event.
-/

set_option autoImplicit false

namespace Haaukins.Daemon

/-- What the map `handlers` has: `ev.Handler()`, or `suspendEventHandler()`. -/
inductive Handler (ε : Type*) where
  | event (ev : ε)
  | suspendEvent
  deriving DecidableEq

/-- `eventPool`, for events in `ε`. -/
structure EventPool (ε : Type*) where
  host : String
  events : GoMap String ε
  handlers : GoMap String (Handler ε)

/-- `NewEventPool`. -/
def newEventPool {ε : Type*} (host : String) : EventPool ε :=
  { host := host, events := ∅, handlers := ∅ }

namespace EventPool

variable {ε : Type*} (ep : EventPool ε)

/-- `AddEvent`, for an event with this tag. -/
def addEvent (tag : String) (ev : ε) : EventPool ε :=
  { ep with events := ep.events.set tag ev, handlers := ep.handlers.set tag (.event ev) }

/-- `RemoveEvent`. The flag is false for its `UnknownEventErr`. -/
def removeEvent (tag : String) : EventPool ε × Bool :=
  match ep.events.get? tag with
  | none => (ep, false)
  | some _ =>
    ({ ep with events := ep.events.delete tag, handlers := ep.handlers.delete tag }, true)

/-- `GetEvent`, or `none` for its `UnknownEventErr`. -/
def getEvent (tag : String) : Option ε := ep.events.get? tag

/-- `GetAllEvents`. -/
def getAllEvents : List ε := ep.events.values

/-- The assignment `d.eventPool.handlers[tag] = h` of `SuspendEvent`. -/
def setHandler (tag : String) (h : Handler ε) : EventPool ε :=
  { ep with handlers := ep.handlers.set tag h }

/-- The tag of a request to this host name, when its domain is the one of the pool. -/
def requestTag (host : String) : Option String :=
  match GoStrings.splitFirst host '.' with
  | none => none
  | some (sub, dom) => if ep.host.toList.isPrefixOf dom.toList then some sub else none

/-- The handler to which `ServeHTTP` passes a request to this host name, or `none` for
`notFoundHandler`. -/
def serveHTTP (host : String) : Option (Handler ε) :=
  match ep.requestTag host with
  | none => none
  | some tag => ep.handlers.get? tag

/-- The two maps have the same tags, and a request for a tag is passed to a handler only if the
pool has an event with this tag. -/
structure InStep : Prop where
  tags : ∀ tag, tag ∈ ep.events ↔ tag ∈ ep.handlers
  serves : ∀ host tag, ep.requestTag host = some tag → ep.serveHTTP host ≠ none →
    tag ∈ ep.events

variable {ep} {tag tag' : String} {ev : ε}

/-- Without a handler of its tag, a request is not found. -/
theorem mem_handlers_of_serveHTTP {host : String} (htag : ep.requestTag host = some tag)
    (hserve : ep.serveHTTP host ≠ none) : tag ∈ ep.handlers := by
  by_contra hnot
  apply hserve
  show (match ep.requestTag host with
    | none => none
    | some tag => ep.handlers.get? tag) = none
  rw [htag]
  exact GoMap.get?_eq_none.mpr hnot

/-- The two maps have the same tags. -/
theorem inStep_iff : ep.InStep ↔ ∀ tag, tag ∈ ep.events ↔ tag ∈ ep.handlers := by
  constructor
  · intro h
    exact h.tags
  · intro htags
    refine ⟨htags, fun host tag htag hserve => ?_⟩
    exact (htags tag).mpr (mem_handlers_of_serveHTTP htag hserve)

/-- A new pool has no tags. -/
theorem inStep_newEventPool (host : String) : (newEventPool host : EventPool ε).InStep :=
  inStep_iff.mpr fun _ => Iff.rfl

/-- An added event is found at its tag alone. -/
@[simp] theorem getEvent_addEvent :
    (ep.addEvent tag ev).getEvent tag' = if tag' = tag then some ev else ep.getEvent tag' :=
  GoMap.get?_set ep.events tag tag' ev

/-- A removed event is gone at its tag alone. -/
theorem getEvent_removeEvent :
    (ep.removeEvent tag).1.getEvent tag' = if tag' = tag then none else ep.getEvent tag' := by
  unfold removeEvent getEvent
  split
  · next hnone =>
    split
    · next heq => rw [heq, hnone]
    · rfl
  · exact GoMap.get?_delete ep.events tag tag'

/-- There is nothing to remove. -/
theorem removeEvent_of_none (h : ep.getEvent tag = none) :
    ep.removeEvent tag = (ep, false) := by
  unfold getEvent at h
  unfold removeEvent
  rw [h]

/-- The flag says that there was an event. -/
theorem removeEvent_snd : (ep.removeEvent tag).2 = (ep.getEvent tag).isSome := by
  unfold removeEvent getEvent
  split
  · next hnone => rw [hnone]; rfl
  · next hsome => rw [hsome]; rfl

/-- An addition writes both maps. -/
theorem InStep.addEvent (h : ep.InStep) : (ep.addEvent tag ev).InStep := by
  refine inStep_iff.mpr fun tag' => ?_
  show tag' ∈ ep.events.set tag ev ↔ tag' ∈ ep.handlers.set tag (.event ev)
  rw [GoMap.mem_set, GoMap.mem_set, h.tags]

/-- A removal takes from both maps. -/
theorem InStep.removeEvent (h : ep.InStep) : (ep.removeEvent tag).1.InStep := by
  unfold EventPool.removeEvent
  split
  · exact h
  · refine inStep_iff.mpr fun tag' => ?_
    show tag' ∈ ep.events.delete tag ↔ tag' ∈ ep.handlers.delete tag
    rw [GoMap.mem_delete, GoMap.mem_delete, h.tags]

/-- The assignment keeps the maps in step exactly when the tag has an event. -/
theorem InStep.setHandler_iff (h : ep.InStep) {handler : Handler ε} :
    (ep.setHandler tag handler).InStep ↔ tag ∈ ep.events := by
  have hkeys : ∀ tag', tag' ∈ (ep.setHandler tag handler).handlers ↔
      tag' = tag ∨ tag' ∈ ep.handlers := fun tag' => GoMap.mem_set
  constructor
  · intro hstep
    exact (hstep.tags tag).mpr ((hkeys tag).mpr (.inl rfl))
  · intro hmem
    refine inStep_iff.mpr fun tag' => ?_
    show tag' ∈ ep.events ↔ tag' ∈ (ep.setHandler tag handler).handlers
    rw [hkeys, ← h.tags]
    constructor
    · exact .inr
    · rintro (rfl | hmem')
      · exact hmem
      · exact hmem'

/-- A request to the subdomain of a live event, and one to a domain that is not the pool's. -/
example :
    let ep := (newEventPool "ntp-event.dk").addEvent "demo" 7
    ep.serveHTTP "demo.ntp-event.dk:80" = some (.event 7) ∧
      ep.serveHTTP "demo.event.dk" = none ∧ ep.serveHTTP "ntp-event.dk" = none := by
  decide

end EventPool

end Haaukins.Daemon
