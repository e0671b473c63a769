import Haaukins.Daemon.PoolHandlers

/-!
# `Haaukins.Daemon.SuspensionStatus`: the three copies of a suspension (`daemon/event.go`)

The store keeps the status of an event, the event keeps it in its cache, and the handler of the
event's tag is the suspend handler or that of the event. `SuspendEvent` writes all three. `New`
creates all events of the store as running ones, and then calls `ev.Suspend` on those that were
suspended. This call writes the status of the store only.

`SuspensionState.Consistent` says that the copies agree for each live event. It holds along a run
of successful requests exactly when no restart finds a suspended event in the store
(`NoneSuspended`).
-/

set_option autoImplicit false

namespace Haaukins.Daemon

/-- The row of an event in the store. Its tag is the key of the row. -/
structure StoredEvent where
  conf : EventConfig
  status : Int
  deriving DecidableEq

/-- The store, the pool and the live events. -/
structure SuspensionState where
  rows : GoMap String StoredEvent
  pool : EventPool EventConfig
  /-- `GetStatus` of the live event with a tag. -/
  cached : GoMap String Int

namespace SuspensionState

variable (d : SuspensionState)

/-- The status of an event in the store. -/
def status? (tag : String) : Option Int := (d.rows.get? tag).map StoredEvent.status

/-- The RPC `SetEventStatus`. -/
def setEventStatus (tag : String) (status : Int) : SuspensionState :=
  match d.rows.get? tag with
  | none => d
  | some row => { d with rows := d.rows.set tag { row with status := status } }

/-- `SetStatus` of the live event. -/
def setStatus (tag : String) (state : Int) : SuspensionState :=
  { d with cached := d.cached.set tag state }

/-- The assignment of a handler in `SuspendEvent`. -/
def setHandler (tag : String) (h : Handler EventConfig) : SuspensionState :=
  { d with pool := d.pool.setHandler tag h }

/-- The answer to `IsEventExists` with the status `Closed`, which the store inverts. -/
def isEventExists (tag : String) : Bool := (d.status? tag).any (· != closed)

/-- `createEventFromEventDB`, for a configuration with this status. -/
def createEventFromEventDB (conf : EventConfig) (status : Int) : Option SuspensionState :=
  match conf.validate with
  | some _ => none
  | none =>
    some { d with
      pool := d.pool.addEvent conf.tag conf
      cached := d.cached.set conf.tag status }

/-- `CreateEvent` for an event that starts at once. -/
def createEvent (conf : EventConfig) : Option SuspensionState :=
  if d.isEventExists conf.tag then none
  else
    match d.pool.getEvent conf.tag with
    | some _ => none
    | none =>
      let row : StoredEvent := { conf := conf, status := running }
      { d with rows := d.rows.set conf.tag row }.createEventFromEventDB conf running

/-- `CreateEvent` for an event that is booked. -/
def bookEvent (conf : EventConfig) : Option SuspensionState :=
  if d.isEventExists conf.tag then none
  else some { d with rows := d.rows.set conf.tag { conf := conf, status := booked } }

/-- `generateEventConfig`, for the row under this tag. -/
def generateEventConfig (tag : String) (row : StoredEvent) : EventConfig :=
  { row.conf with tag := tag }

/-- `visitBookedEvents` for one booked event that is due. -/
def startBooked (tag : String) : Option SuspensionState :=
  match d.rows.get? tag with
  | none => none
  | some row =>
    if row.status = booked then
      (d.createEventFromEventDB (generateEventConfig tag row) running).map fun d =>
        d.setEventStatus tag running
    else none

/-- `SuspendEvent`, for a `Suspend` or `Resume` without an error. -/
def suspendEvent (user : Requester) (tag : String) (isSuspend : Bool) :
    Option SuspensionState :=
  match d.pool.getEvent tag with
  | none => none
  | some event =>
    if user.mayStop event then
      if isSuspend then
        -- `event.Suspend` writes the status of the store.
        let d := (d.setEventStatus tag suspended).setStatus tag suspended
        some (d.setHandler tag .suspendEvent)
      else
        let d := (d.setEventStatus tag running).setHandler tag (.event event)
        some (d.setStatus tag running)
    else some d

/-- The rows of the answer to `GetEvents`. -/
def getEvents (status : Int) : List (String × StoredEvent) :=
  d.rows.pairs.filter fun e => e.2.status = status

/-- The body of the first loop of `New`. -/
def restoreEvent (e : String × StoredEvent) : Option SuspensionState :=
  if e.2.status = suspended then
    (d.setEventStatus e.1 running).createEventFromEventDB (generateEventConfig e.1 e.2) running
  else d.createEventFromEventDB (generateEventConfig e.1 e.2) e.2.status

/-- `New`. `ev.Suspend` of its second loop writes the status of the store. -/
def restart : Option SuspensionState :=
  let suspendedEvents := d.getEvents suspended
  let dbEvents := d.getEvents running ++ suspendedEvents
  let d := { d with pool := newEventPool d.pool.host, cached := ∅ }
  (dbEvents.foldlM restoreEvent d).map fun d =>
    suspendedEvents.foldl (fun d e => d.setEventStatus e.1 suspended) d

end SuspensionState

/-- A request or a restart, whose operations all succeed. -/
inductive SuspensionStep where
  | createEvent (conf : EventConfig)
  | bookEvent (conf : EventConfig)
  | startBooked (tag : String)
  | suspendEvent (user : Requester) (tag : String) (isSuspend : Bool)
  | restart

/-- The daemon, from before its first `New` on any store. -/
def suspensions : Machine SuspensionState SuspensionStep where
  init d := ∃ host, d.pool = newEventPool host
  step d
    | .createEvent conf => d.createEvent conf
    | .bookEvent conf => d.bookEvent conf
    | .startBooked tag => d.startBooked tag
    | .suspendEvent user tag isSuspend => d.suspendEvent user tag isSuspend
    | .restart => d.restart

namespace SuspensionState

/-- The three copies of the suspension of the event under a tag agree. -/
def AgreesAt (d : SuspensionState) (tag : String) : Prop :=
  (d.status? tag = some suspended ↔ d.cached.get? tag = some suspended) ∧
  (d.cached.get? tag = some suspended ↔ d.pool.handlers.get? tag = some .suspendEvent)

/-- The copies agree for each live event. -/
def Consistent (d : SuspensionState) : Prop := ∀ tag ∈ d.pool.events, d.AgreesAt tag

/-- The invariant behind `Consistent`: the store has a row of each live event. -/
structure Tracked (d : SuspensionState) : Prop where
  consistent : d.Consistent
  stored : ∀ tag ∈ d.pool.events, tag ∈ d.rows

/-- A restart finds no suspended event in the store. -/
def NoneSuspended (d : SuspensionState) : SuspensionStep → Prop
  | .restart => d.getEvents suspended = []
  | _ => True

instance (d : SuspensionState) (a : SuspensionStep) : Decidable (NoneSuspended d a) := by
  cases a <;> dsimp only [NoneSuspended] <;> infer_instance

variable {d d' : SuspensionState} {tag tag' : String} {status : Int} {conf : EventConfig}

/-- A new status is read back for its event alone. -/
theorem status?_setEventStatus : (d.setEventStatus tag status).status? tag' =
    if tag' = tag then (d.status? tag').map fun _ => status else d.status? tag' := by
  unfold setEventStatus status?
  split
  · next hnone =>
    split
    · next heq => rw [heq, hnone]; rfl
    · rfl
  · next row hrow =>
    show ((d.rows.set tag { row with status := status }).get? tag').map StoredEvent.status = _
    rw [GoMap.get?_set]
    split
    · next heq => rw [heq, hrow]; rfl
    · rfl

/-- An event with a row has a status. -/
theorem mem_rows_iff : tag ∈ d.rows ↔ d.status? tag ≠ none := by
  rw [status?, Ne, Option.map_eq_none_iff, GoMap.get?_eq_none, not_not]

/-- The store service knows nothing of the pool. -/
@[simp] theorem pool_setEventStatus : (d.setEventStatus tag status).pool = d.pool := by
  unfold setEventStatus
  split <;> rfl

/-- It knows nothing of the cached status either. -/
@[simp] theorem cached_setEventStatus : (d.setEventStatus tag status).cached = d.cached := by
  unfold setEventStatus
  split <;> rfl

/-- An event comes to the pool as a running one, whatever its row says. -/
theorem createEventFromEventDB_eq (h : d.createEventFromEventDB conf status = some d') :
    d' = { d with
      pool := d.pool.addEvent conf.tag conf
      cached := d.cached.set conf.tag status } := by
  unfold createEventFromEventDB at h
  split at h
  · cases h
  · cases h
    rfl

/-! ### The requests -/

/-- The copies of the other events stay as they are. -/
theorem AgreesAt.of_eq (h : d.AgreesAt tag) (hstatus : d'.status? tag = d.status? tag)
    (hcached : d'.cached.get? tag = d.cached.get? tag)
    (hhandlers : d'.pool.handlers.get? tag = d.pool.handlers.get? tag) : d'.AgreesAt tag := by
  unfold AgreesAt
  rw [hstatus, hcached, hhandlers]
  exact h

/-- The copies of a running event agree. -/
theorem agreesAt_running {ev : EventConfig} (hstatus : d.status? tag = some running)
    (hcached : d.cached.get? tag = some running)
    (hhandlers : d.pool.handlers.get? tag = some (.event ev)) : d.AgreesAt tag := by
  unfold AgreesAt
  rw [hstatus, hcached, hhandlers]
  have hne : some running ≠ some suspended := by decide
  exact ⟨Iff.rfl, iff_of_false hne (by simp)⟩

/-- A request that makes one event run, and leaves the copies of the others. -/
theorem Tracked.of_running (h : d.Tracked) (tag : String) (ev : EventConfig)
    (hevents : ∀ t ∈ d'.pool.events, t = tag ∨ t ∈ d.pool.events)
    (hself : d'.status? tag = some running ∧ d'.cached.get? tag = some running ∧
      d'.pool.handlers.get? tag = some (.event ev))
    (hother : ∀ t, t ≠ tag → d'.status? t = d.status? t ∧ d'.cached.get? t = d.cached.get? t ∧
      d'.pool.handlers.get? t = d.pool.handlers.get? t) : d'.Tracked := by
  refine ⟨fun t ht => ?_, fun t ht => ?_⟩
  · by_cases heq : t = tag
    · rw [heq]
      exact agreesAt_running hself.1 hself.2.1 hself.2.2
    · obtain ⟨hstatus, hcached, hhandlers⟩ := hother t heq
      have hmem : t ∈ d.pool.events := (hevents t ht).resolve_left heq
      exact (h.consistent t hmem).of_eq hstatus hcached hhandlers
  · rw [mem_rows_iff]
    by_cases heq : t = tag
    · rw [heq, hself.1]
      exact Option.some_ne_none _
    · rw [(hother t heq).1, ← mem_rows_iff]
      exact h.stored t ((hevents t ht).resolve_left heq)

/-- A new event runs, in its row and in the pool. -/
theorem Tracked.createEvent (h : d.Tracked) (hs : d.createEvent conf = some d') :
    d'.Tracked := by
  unfold SuspensionState.createEvent at hs
  split at hs
  · cases hs
  · split at hs
    · cases hs
    · have heq := createEventFromEventDB_eq hs
      subst heq
      refine h.of_running conf.tag conf (fun t ht => ?_) ⟨?_, ?_, ?_⟩
        fun t ht => ⟨?_, ?_, ?_⟩
      · exact GoMap.mem_set.mp ht
      · simp [status?]
      · simp
      · simp [EventPool.addEvent]
      · simp [status?, GoMap.get?_set, ht]
      · simp [GoMap.get?_set, ht]
      · simp [EventPool.addEvent, GoMap.get?_set, ht]

/-- A booked event is not live yet, and its row is not that of a suspended event. -/
theorem Tracked.bookEvent (h : d.Tracked) (hs : d.bookEvent conf = some d') : d'.Tracked := by
  unfold SuspensionState.bookEvent at hs
  split at hs
  · cases hs
  · next hnot =>
    cases hs
    refine ⟨fun t ht => ?_, fun t ht => GoMap.mem_set.mpr (.inr (h.stored t ht))⟩
    by_cases heq : t = conf.tag
    · -- The row from before was closed, so the copies say that the event is not suspended.
      obtain ⟨hcached, hhandlers⟩ := h.consistent t ht
      have hold : d.status? t ≠ some suspended := by
        intro hstatus
        apply hnot
        rw [isEventExists, ← heq, hstatus]
        rfl
      refine ⟨?_, hhandlers⟩
      refine iff_of_false ?_ fun hc => hold (hcached.mpr hc)
      simp [status?, heq, booked, suspended]
    · refine (h.consistent t ht).of_eq ?_ rfl rfl
      simp [status?, GoMap.get?_set, heq]

/-- So does a booked one that is started. -/
theorem Tracked.startBooked (h : d.Tracked) (hs : d.startBooked tag = some d') :
    d'.Tracked := by
  unfold SuspensionState.startBooked at hs
  split at hs
  · cases hs
  · next row hrow =>
    split at hs
    · obtain ⟨d₁, hcreate, rfl⟩ := Option.map_eq_some_iff.mp hs
      have heq := createEventFromEventDB_eq hcreate
      subst heq
      refine h.of_running tag (generateEventConfig tag row) (fun t ht => ?_)
        ⟨?_, ?_, ?_⟩ fun t ht => ⟨?_, ?_, ?_⟩
      · rw [pool_setEventStatus] at ht
        exact GoMap.mem_set.mp ht
      · rw [status?_setEventStatus, if_pos rfl]
        simp [status?, hrow]
      · simp [generateEventConfig]
      · simp [EventPool.addEvent, generateEventConfig]
      · rw [status?_setEventStatus, if_neg ht]
        rfl
      · simp [generateEventConfig, GoMap.get?_set, ht]
      · simp [EventPool.addEvent, generateEventConfig, GoMap.get?_set, ht]
    · cases hs

/-- A suspension writes both. -/
theorem Tracked.suspendEvent (h : d.Tracked) {user : Requester} {isSuspend : Bool}
    (hs : d.suspendEvent user tag isSuspend = some d') : d'.Tracked := by
  unfold SuspensionState.suspendEvent at hs
  split at hs
  · cases hs
  · next event hevent =>
    have hlive : tag ∈ d.pool.events := GoMap.mem_iff_get?.mpr ⟨event, hevent⟩
    obtain ⟨old, hold⟩ := Option.ne_none_iff_exists'.mp (mem_rows_iff.mp (h.stored tag hlive))
    split at hs
    · split at hs
      · cases hs
        -- All three copies of this event say that it is suspended.
        refine ⟨fun t ht => ?_, fun t ht => ?_⟩
        · by_cases heq : t = tag
          · subst heq
            have hstatus : (d.setEventStatus t suspended).status? t = some suspended := by
              rw [status?_setEventStatus, if_pos rfl, hold]
              rfl
            refine ⟨iff_of_true hstatus ?_, iff_of_true ?_ ?_⟩
            · simp [setStatus, setHandler]
            · simp [setStatus, setHandler]
            · simp [setStatus, setHandler, EventPool.setHandler]
          · refine (h.consistent t ?_).of_eq ?_ ?_ ?_
            · simpa [setHandler, setStatus, EventPool.setHandler] using ht
            · show (d.setEventStatus tag suspended).status? t = d.status? t
              rw [status?_setEventStatus, if_neg heq]
            · simp [setHandler, setStatus, GoMap.get?_set, heq]
            · simp [setHandler, setStatus, EventPool.setHandler, GoMap.get?_set, heq]
        · have hmem : t ∈ d.pool.events := by
            simpa [setHandler, setStatus, EventPool.setHandler] using ht
          show t ∈ (d.setEventStatus tag suspended).rows
          rw [mem_rows_iff, status?_setEventStatus]
          have := mem_rows_iff.mp (h.stored t hmem)
          split
          · simpa using this
          · exact this
      · cases hs
        refine h.of_running tag event (fun t ht => ?_) ⟨?_, ?_, ?_⟩
          fun t ht => ⟨?_, ?_, ?_⟩
        · right
          simpa [setHandler, setStatus, EventPool.setHandler] using ht
        · show (d.setEventStatus tag running).status? tag = some running
          rw [status?_setEventStatus, if_pos rfl, hold]
          rfl
        · simp [setStatus]
        · simp [setStatus, setHandler, EventPool.setHandler]
        · show (d.setEventStatus tag running).status? t = d.status? t
          rw [status?_setEventStatus, if_neg ht]
        · simp [setStatus, setHandler, GoMap.get?_set, ht]
        · simp [setStatus, setHandler, EventPool.setHandler, GoMap.get?_set, ht]
    · cases hs
      exact h

/-! ### The restart -/

/-- The live events are those of the list, and all of them look as if they were running. -/
structure Restarted (es : List (String × StoredEvent)) (d : SuspensionState) : Prop where
  events : ∀ tag, tag ∈ d.pool.events ↔ ∃ e ∈ es, e.1 = tag
  cached : ∀ tag ∈ d.pool.events, d.cached.get? tag = some running
  handlers : ∀ tag ∈ d.pool.events, d.pool.handlers.get? tag ≠ some .suspendEvent

/-- A round of the first loop of `New`. -/
theorem restoreEvent_cases {e : String × StoredEvent}
    (he : e.2.status = running ∨ e.2.status = suspended) (hs : d.restoreEvent e = some d') :
    d'.pool = d.pool.addEvent e.1 (generateEventConfig e.1 e.2) ∧
      d'.cached = d.cached.set e.1 running ∧
      (∀ tag, d'.status? tag = none ↔ d.status? tag = none) ∧
      (e.2.status ≠ suspended → d'.rows = d.rows) := by
  unfold restoreEvent at hs
  split at hs
  · next hsuspended =>
    have heq := createEventFromEventDB_eq hs
    subst heq
    refine ⟨by simp [generateEventConfig], by simp [generateEventConfig], fun tag => ?_,
      fun hne => absurd hsuspended hne⟩
    show (d.setEventStatus e.1 running).status? tag = none ↔ _
    rw [status?_setEventStatus]
    split
    · exact Option.map_eq_none_iff
    · exact Iff.rfl
  · next hnot =>
    have hrunning : e.2.status = running := he.resolve_right hnot
    have heq := createEventFromEventDB_eq hs
    subst heq
    exact ⟨rfl, by rw [hrunning]; rfl, fun tag => Iff.rfl, fun _ => rfl⟩

/-- The loop of the restart has come one event further. -/
theorem Restarted.restoreEvent {es : List (String × StoredEvent)} {e : String × StoredEvent}
    (h : Restarted es d) (he : e.2.status = running ∨ e.2.status = suspended)
    (hs : d.restoreEvent e = some d') : Restarted (es ++ [e]) d' := by
  obtain ⟨hpool, hcached, -, -⟩ := restoreEvent_cases he hs
  have hmem : ∀ tag, tag ∈ d'.pool.events ↔ tag = e.1 ∨ tag ∈ d.pool.events := by
    intro tag
    rw [hpool]
    exact GoMap.mem_set
  refine ⟨fun tag => ?_, fun tag htag => ?_, fun tag htag => ?_⟩
  · rw [hmem, h.events]
    simp only [List.mem_append, List.mem_singleton, or_and_right, exists_or, exists_eq_left]
    rw [eq_comm (a := tag), or_comm]
  · rw [hcached, GoMap.get?_set]
    split
    · rfl
    · next hne => exact h.cached tag (((hmem tag).mp htag).resolve_left hne)
  · rw [hpool]
    show (d.pool.handlers.set e.1 (.event _)).get? tag ≠ _
    rw [GoMap.get?_set]
    split
    · simp
    · next hne => exact h.handlers tag (((hmem tag).mp htag).resolve_left hne)

/-- The first loop of `New`. -/
theorem restoreEvents_spec : ∀ {es done : List (String × StoredEvent)} {d : SuspensionState},
    Restarted done d → (∀ e ∈ es, e.2.status = running ∨ e.2.status = suspended) →
    es.foldlM restoreEvent d = some d' →
    Restarted (done ++ es) d' ∧ (∀ tag, d'.status? tag = none ↔ d.status? tag = none) ∧
      ((∀ e ∈ es, e.2.status ≠ suspended) → d'.rows = d.rows) := by
  intro es
  induction es with
  | nil =>
    intro done d h _ hs
    cases hs
    rw [List.append_nil]
    exact ⟨h, fun _ => Iff.rfl, fun _ => rfl⟩
  | cons e es ih =>
    intro done d h hes hs
    rw [List.foldlM_cons] at hs
    obtain ⟨d₁, hd₁, hs⟩ := Option.bind_eq_some_iff.mp hs
    have he : e.2.status = running ∨ e.2.status = suspended := hes e List.mem_cons_self
    have hrest : ∀ e ∈ es, e.2.status = running ∨ e.2.status = suspended :=
      fun e' he' => hes e' (List.mem_cons_of_mem _ he')
    obtain ⟨-, -, hstatus, hrows⟩ := restoreEvent_cases he hd₁
    obtain ⟨hdone, hstatus', hrows'⟩ := ih (h.restoreEvent he hd₁) hrest hs
    refine ⟨?_, fun tag => (hstatus' tag).trans (hstatus tag), fun hnone => ?_⟩
    · rw [← List.append_cons] at hdone
      exact hdone
    · rw [hrows' fun e' he' => hnone e' (List.mem_cons_of_mem _ he'),
        hrows (hnone e List.mem_cons_self)]

/-- The second loop of `New` writes the status of its events in the store, and nothing else. -/
theorem suspendEvents_spec : ∀ (es : List (String × StoredEvent)) (d : SuspensionState),
    (es.foldl (fun d e => d.setEventStatus e.1 suspended) d).pool = d.pool ∧
    (es.foldl (fun d e => d.setEventStatus e.1 suspended) d).cached = d.cached ∧
    ∀ tag, (es.foldl (fun d e => d.setEventStatus e.1 suspended) d).status? tag =
      if tag ∈ es.map Prod.fst then (d.status? tag).map fun _ => suspended
      else d.status? tag := by
  intro es
  induction es with
  | nil =>
    intro d
    exact ⟨rfl, rfl, fun tag => rfl⟩
  | cons e es ih =>
    intro d
    obtain ⟨hpool, hcached, hstatus⟩ := ih (d.setEventStatus e.1 suspended)
    refine ⟨hpool.trans pool_setEventStatus, hcached.trans cached_setEventStatus,
      fun tag => ?_⟩
    rw [List.foldl_cons, hstatus, status?_setEventStatus]
    by_cases heq : tag = e.1
    · have hmem : tag ∈ (e :: es).map Prod.fst := by simp [heq]
      rw [if_pos hmem, if_pos heq]
      split
      · exact Option.map_map _ _ _
      · rfl
    · have hmem : tag ∈ (e :: es).map Prod.fst ↔ tag ∈ es.map Prod.fst := by simp [heq]
      simp only [if_neg heq, hmem]

/-- The service returns the rows with the status. -/
theorem mem_getEvents {e : String × StoredEvent} :
    e ∈ d.getEvents status ↔ d.rows.get? e.1 = some e.2 ∧ e.2.status = status := by
  rw [getEvents, List.mem_filter, decide_eq_true_iff]
  exact and_congr_left fun _ => GoMap.mem_pairs

/-- What `New` does: all events of the store that are running or suspended are live and look as
if they were running, and the suspended ones have their status in the store. -/
theorem restart_spec (hs : d.restart = some d') :
    Restarted (d.getEvents running ++ d.getEvents suspended) d' ∧
      (∀ e ∈ d.getEvents suspended, d'.status? e.1 = some suspended) ∧
      (d.getEvents suspended = [] → d'.rows = d.rows) := by
  unfold restart at hs
  obtain ⟨d₁, hloop, rfl⟩ := Option.map_eq_some_iff.mp hs
  have hstatus : ∀ e ∈ d.getEvents running ++ d.getEvents suspended,
      e.2.status = running ∨ e.2.status = suspended := by
    intro e he
    rcases List.mem_append.mp he with he | he
    · exact .inl (mem_getEvents.mp he).2
    · exact .inr (mem_getEvents.mp he).2
  -- The loop of `New` starts with an empty pool and an empty cache.
  have hempty : Restarted [] { d with pool := newEventPool d.pool.host, cached := ∅ } := by
    have hnot : ∀ tag, tag ∉ (∅ : GoMap String EventConfig) := fun tag => AList.notMem_empty tag
    exact ⟨fun tag => iff_of_false (hnot tag) (by simp), fun tag h => absurd h (hnot tag),
      fun tag h => absurd h (hnot tag)⟩
  obtain ⟨hrestarted, hnone, hrows⟩ := restoreEvents_spec hempty hstatus hloop
  obtain ⟨hpool, hcached, hset⟩ := suspendEvents_spec (d.getEvents suspended) d₁
  refine ⟨⟨?_, ?_, ?_⟩, fun e he => ?_, fun hnil => ?_⟩
  -- The goroutines after the loop suspend, but take no event out of the pool.
  · rw [hpool]
    exact hrestarted.events
  · rw [hpool, hcached]
    exact hrestarted.cached
  · rw [hpool]
    exact hrestarted.handlers
  · have hrow : d₁.status? e.1 ≠ none := by
      rw [Ne, hnone]
      show (d.rows.get? e.1).map StoredEvent.status ≠ none
      rw [(mem_getEvents.mp he).1]
      simp
    obtain ⟨old, hold⟩ := Option.ne_none_iff_exists'.mp hrow
    rw [hset, if_pos (List.mem_map_of_mem he), hold]
    rfl
  -- Without suspended events only the statuses of running ones are written, as they were.
  · rw [hnil]
    refine hrows fun e he hsuspended => ?_
    rw [hnil, List.append_nil] at he
    rw [(mem_getEvents.mp he).2] at hsuspended
    exact absurd hsuspended (by decide)

/-- Without a suspended event, all events of the store that are live are running. -/
theorem tracked_restart (hnil : d.getEvents suspended = []) (hs : d.restart = some d') :
    d'.Tracked := by
  obtain ⟨hrestarted, -, hrows⟩ := restart_spec hs
  have hrow : ∀ tag ∈ d'.pool.events, d'.status? tag = some running := by
    intro tag htag
    obtain ⟨e, he, rfl⟩ := (hrestarted.events tag).mp htag
    rw [hnil, List.append_nil] at he
    obtain ⟨hget, hrunning⟩ := mem_getEvents.mp he
    rw [status?, hrows hnil, hget, ← hrunning]
    rfl
  refine ⟨fun tag htag => ⟨?_, ?_⟩, fun tag htag => ?_⟩
  · rw [hrow tag htag, hrestarted.cached tag htag]
  · rw [hrestarted.cached tag htag]
    exact iff_of_false (by decide) (hrestarted.handlers tag htag)
  · rw [mem_rows_iff, hrow tag htag]
    exact Option.some_ne_none _

/-- A suspended event is live after the restart, and its cache says that it is running. -/
theorem not_consistent_restart (hne : d.getEvents suspended ≠ []) (hs : d.restart = some d') :
    ¬ d'.Consistent := by
  intro h
  obtain ⟨hrestarted, hsuspended, -⟩ := restart_spec hs
  obtain ⟨e, he⟩ := List.exists_mem_of_ne_nil _ hne
  have hlive : e.1 ∈ d'.pool.events :=
    (hrestarted.events e.1).mpr ⟨e, List.mem_append_right _ he, rfl⟩
  have hcached := (h e.1 hlive).1.mp (hsuspended e he)
  rw [hrestarted.cached e.1 hlive] at hcached
  exact absurd hcached (by decide)

end SuspensionState

variable {d d' : SuspensionState} {a : SuspensionStep}

/-- The first state is tracked. -/
theorem tracked_init (h : suspensions.init d) : d.Tracked := by
  obtain ⟨host, hpool⟩ := h
  have hnot : ∀ tag, tag ∉ d.pool.events := by
    rw [hpool]
    exact fun tag => AList.notMem_empty tag
  exact ⟨fun tag htag => absurd htag (hnot tag), fun tag htag => absurd htag (hnot tag)⟩

/-- Each step keeps it, as long as no restart finds a suspended event. -/
theorem tracked_step (h : d.Tracked) (hnone : d.NoneSuspended a)
    (hs : suspensions.step d a = some d') : d'.Tracked := by
  cases a with
  | createEvent conf => exact h.createEvent hs
  | bookEvent conf => exact h.bookEvent hs
  | startBooked tag => exact h.startBooked hs
  | suspendEvent user tag isSuspend => exact h.suspendEvent hs
  | restart => exact SuspensionState.tracked_restart hnone hs

/-- A restart that finds one makes it run while its row says that it is suspended. -/
theorem not_consistent_step (hsome : ¬ d.NoneSuspended a)
    (hs : suspensions.step d a = some d') : ¬ d'.Consistent := by
  cases a with
  | restart => exact SuspensionState.not_consistent_restart hsome hs
  | _ => exact absurd trivial hsome

/-- Along a run of successful requests and restarts, the three copies of the suspension of each
live event agree if and only if no restart finds a suspended event in the store. -/
theorem suspensions_consistent_iff (d : SuspensionState) (hd : suspensions.init d)
    (as : List SuspensionStep) :
    suspensions.AllStates SuspensionState.Consistent d as ↔
      suspensions.AllSteps SuspensionState.NoneSuspended d as :=
  Machine.allStates_iff_allSteps (A := fun _ _ => True) (fun _ h => h.consistent)
    (fun _ _ _ h _ hnone hs => tracked_step h hnone hs)
    (fun _ _ _ _ _ hsome hs => not_consistent_step hsome hs) (tracked_init hd)
    Machine.allSteps_true

/-- A daemon without events. -/
def noEvents : SuspensionState := { rows := ∅, pool := newEventPool "ntp-event.dk", cached := ∅ }

/-- A daemon without events may start. -/
theorem noEvents_init : suspensions.init noEvents := ⟨"ntp-event.dk", rfl⟩

/-- An event is suspended and resumed, and then the daemon starts again. -/
theorem suspensions_consistent_resumed :
    suspensions.AllStates SuspensionState.Consistent noEvents
      [.createEvent demoEvent, .suspendEvent operator "demo" true,
        .suspendEvent operator "demo" false, .restart] :=
  (suspensions_consistent_iff noEvents noEvents_init _).mpr (by decide)

/-- The daemon starts again while an event is suspended. -/
theorem suspensions_not_consistent :
    ¬ ∀ d, suspensions.init d → ∀ as, suspensions.AllStates SuspensionState.Consistent d as := by
  intro h
  have hall := h noEvents noEvents_init
    [.createEvent demoEvent, .suspendEvent operator "demo" true, .restart]
  obtain ⟨d, hd, hconsistent⟩ := hall.of_run
    (fun d => (decide ("demo" ∈ d.pool.events), d.status? "demo", d.cached.get? "demo"))
    (true, some suspended, some running) (by decide)
  obtain ⟨hlive, hd⟩ := Prod.mk.inj hd
  obtain ⟨hstatus, hcached⟩ := Prod.mk.inj hd
  have hagree := (hconsistent "demo" (of_decide_eq_true hlive)).1.mp hstatus
  rw [hcached] at hagree
  exact absurd hagree (by decide)

end Haaukins.Daemon
