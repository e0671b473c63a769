import Haaukins.Lib.Machine
import Haaukins.Lib.Resources
import Haaukins.Guacamole.Event

/-!
# `Haaukins.Guacamole.EventResources`: the hub and the containers of an event (`event.go`,
`guacamole.go`)

`CreateEventFromEventDB` makes a hub, and `NewEvent` the three containers of Guacamole.
`event.Close` closes them all. Every call on the way can fail.

* `guacamole.create` closes its containers after a failure, but a container gets its number only at
  the end of `Create`. `create_ownedIff` says when nothing is left.
* `NewEvent` fails without closing anything, and then nobody has the hub either.
  `eventResources_accounted_iff` says along which runs each hub and container belongs to an event.

A hub stands for the goroutines that it starts and for the labs that these make. The answer of a
container to `Close` is the first error of its two calls, and `guacamole.Close` drops it.
-/

set_option autoImplicit false

namespace Haaukins.Guacamole

/-- The keys of `containers`. -/
inductive GuacContainer where
  | guacd
  | db
  | web
  deriving DecidableEq

/-- `UseBridge`. -/
def GuacContainer.useBridge : GuacContainer → Bool
  | .guacd | .web => true
  | .db => false

/-- What an event holds. -/
inductive EventResource where
  | hub
  | container (c : GuacContainer)
  deriving DecidableEq

/-- What Docker answers to `Run` and `BridgeAlias` of one container. -/
structure RunCalls where
  createContainer : Option String
  /-- Asked for a container that does not use the bridge. -/
  disconnectNetwork : Option String
  start : Option String
  connect : Option String

/-- What Docker and the new Guacamole answer to `create`. -/
structure CreateGuacCalls where
  run : GuacContainer → RunCalls
  configureInstance : Option String
  close : GuacContainer → Option String

namespace CreateGuacCalls

variable (calls : CreateGuacCalls)

/-- `Create` of the container comes to `c.id = cont.ID`. -/
def HasId (c : GuacContainer) : Prop :=
  (calls.run c).createContainer = none ∧
    (c.useBridge = true ∨ (calls.run c).disconnectNetwork = none)

/-- The round of the container has no error. -/
def Runs (c : GuacContainer) : Prop :=
  calls.HasId c ∧ (calls.run c).start = none ∧ (calls.run c).connect = none

/-- The container exists, and its number is not kept. -/
def Drops (c : GuacContainer) : Prop := (calls.run c).createContainer = none ∧ ¬ calls.HasId c

instance (c : GuacContainer) : Decidable (calls.HasId c) := inferInstanceAs (Decidable (_ ∧ _))

instance (c : GuacContainer) : Decidable (calls.Runs c) := inferInstanceAs (Decidable (_ ∧ _))

instance (c : GuacContainer) : Decidable (calls.Drops c) := inferInstanceAs (Decidable (_ ∧ _))

/-- The answer to `Close`. -/
def closeKind : EventResource → Option String
  | .hub => none
  | .container c => calls.close c

@[inherit_doc closeKind]
def closeErr (r : Resource EventResource) : Option String := calls.closeKind r.kind

end CreateGuacCalls

/-- `Run` and `BridgeAlias`, with the number that the container has then. -/
def runContainer (calls : CreateGuacCalls) (c : GuacContainer) (w : World EventResource) :
    World EventResource × Option (Resource EventResource) × Option String :=
  match (calls.run c).createContainer with
  | some err => (w, none, some err)
  | none =>
    let (r, w) := w.make (.container c)
    match if c.useBridge then none else (calls.run c).disconnectNetwork with
    -- `c.id` is still empty.
    | some err => (w, none, some err)
    | none =>
      match (calls.run c).start with
      | some err => (w, some r, some err)
      | none => (w, some r, (calls.run c).connect)

/-- The loop of `create`, with the numbers of the containers. -/
def runContainers (calls : CreateGuacCalls) :
    World EventResource → List (Resource EventResource) → List GuacContainer →
      World EventResource × List (Resource EventResource) × Option String
  | w, ids, [] => (w, ids, none)
  | w, ids, c :: cs =>
    match runContainer calls c w with
    | (w, r, some err) => (w, ids ++ r.toList, some err)
    | (w, r, none) => runContainers calls w (ids ++ r.toList) cs

/-- The order of the loop of `create`. -/
def guacContainers : List GuacContainer := [.guacd, .db, .web]

/-- `create`. `closeAll` does nothing to a container without a number. -/
def CreateGuacCalls.create (calls : CreateGuacCalls) (w : World EventResource) :
    World EventResource × Except String (List (Resource EventResource)) :=
  match runContainers calls w [] guacContainers with
  | (w, ids, some err) => (w.closeAll calls.closeErr ids, .error err)
  | (w, ids, none) =>
    match calls.configureInstance with
    | some err => (w.closeAll calls.closeErr ids, .error err)
    | none => (w, .ok ids)

/-- The answers to the calls of `CreateEventFromEventDB`. -/
structure CreateEventCalls where
  getExerciseByTags : Option String
  newEventStore : Option String
  newHub : Option String
  onlyVPN : Int
  guac : CreateGuacCalls
  newVPNClient : Option String
  getDirName : Option String
  newKeyLoggerPool : Option String

/-- An event with what it closes. -/
structure HeldEvent where
  hub : Resource EventResource
  guac : List (Resource EventResource)

namespace CreateEventCalls

variable (calls : CreateEventCalls)

/-- `NewEvent`, up to the containers. -/
def newEvent (w : World EventResource) :
    World EventResource × Except String (List (Resource EventResource)) :=
  match if calls.onlyVPN = Guacamole.onlyVPN then (w, .ok []) else calls.guac.create w with
  | (w, .error err) => (w, .error err)
  | (w, .ok guac) =>
    match calls.newVPNClient with
    | some err => (w, .error err)
    | none =>
      match calls.getDirName with
      | some err => (w, .error err)
      | none =>
        match calls.newKeyLoggerPool with
        | some err => (w, .error err)
        | none => (w, .ok guac)

/-- `CreateEventFromEventDB`. -/
def createEvent (w : World EventResource) : World EventResource × Except String HeldEvent :=
  match calls.getExerciseByTags with
  | some err => (w, .error ("[exercises-service] error " ++ err))
  | none =>
    match calls.newEventStore with
    | some err => (w, .error err)
    | none =>
      match calls.newHub with
      | some err => (w, .error err)
      | none =>
        let (hub, w) := w.make .hub
        match calls.newEvent w with
        | (w, .error err) => (w, .error err)
        | (w, .ok guac) => (w, .ok { hub := hub, guac := guac })

end CreateEventCalls

/-- What `event.Close` closes. -/
def HeldEvent.held (ev : HeldEvent) : List (Resource EventResource) := ev.guac ++ [ev.hub]

/-! ### The containers of Guacamole -/

/-- The containers that have a number when the loop is over. -/
def CreateGuacCalls.created (calls : CreateGuacCalls) : List GuacContainer → List GuacContainer
  | [] => []
  | c :: cs =>
    if calls.Runs c then c :: calls.created cs else if calls.HasId c then [c] else []

/-- A container in the loop is dropped. -/
def CreateGuacCalls.Loses (calls : CreateGuacCalls) : List GuacContainer → Prop
  | [] => False
  | c :: cs => calls.Drops c ∨ (calls.Runs c ∧ calls.Loses cs)

variable {calls : CreateGuacCalls} {w : World EventResource}

/-- A container with a number: it exists, and it is known to `create`. -/
theorem runContainer_of_hasId {c : GuacContainer} (h : calls.HasId c) (w : World EventResource) :
    ∃ err, runContainer calls c w =
        ((w.make (.container c)).2, some (w.make (.container c)).1, err) ∧
      (err = none ↔ calls.Runs c) := by
  have hdisconnect : (if c.useBridge then none else (calls.run c).disconnectNetwork) = none := by
    rcases h.2 with hbridge | hnone
    · rw [if_pos hbridge]
    · rw [hnone, ite_self]
  rw [runContainer, h.1]
  dsimp only
  rw [hdisconnect]
  cases hstart : (calls.run c).start with
  | some err => exact ⟨some err, rfl, by simp [CreateGuacCalls.Runs, hstart]⟩
  | none => exact ⟨_, rfl, by simp [CreateGuacCalls.Runs, h, hstart]⟩

/-- A container that loses its number: it exists, and nobody knows it. -/
theorem runContainer_of_drops {c : GuacContainer} (h : calls.Drops c) (w : World EventResource) :
    ∃ err, runContainer calls c w = ((w.make (.container c)).2, none, some err) := by
  obtain ⟨hcreate, hid⟩ := h
  have hnot : ¬ (c.useBridge = true ∨ (calls.run c).disconnectNetwork = none) :=
    fun hor => hid ⟨hcreate, hor⟩
  obtain ⟨hbridge, hnone⟩ := not_or.mp hnot
  obtain ⟨err, herr⟩ := Option.ne_none_iff_exists'.mp hnone
  rw [runContainer, hcreate]
  dsimp only
  rw [if_neg hbridge, herr]
  exact ⟨err, rfl⟩

/-- A container that was not created. -/
theorem runContainer_of_not_created {c : GuacContainer} {err : String}
    (h : (calls.run c).createContainer = some err) (w : World EventResource) :
    runContainer calls c w = (w, none, some err) := by
  rw [runContainer, h]

/-- What the loop makes: the containers with a number, and those that it drops. -/
theorem runContainers_spec (calls : CreateGuacCalls) (cs : List GuacContainer)
    (w : World EventResource) (ids : List (Resource EventResource)) :
    ∃ made lost, World.Grew w (runContainers calls w ids cs).1 (made ++ lost) ∧
      (runContainers calls w ids cs).2.1 = ids ++ made ∧
      made.map Resource.kind = (calls.created cs).map EventResource.container ∧
      (lost = [] ↔ ¬ calls.Loses cs) ∧
      ((runContainers calls w ids cs).2.2 = none ↔ ∀ c ∈ cs, calls.Runs c) := by
  induction cs generalizing w ids with
  | nil => exact ⟨[], [], .refl w, (List.append_nil ids).symm, rfl, by simp [CreateGuacCalls.Loses],
      by simp [runContainers]⟩
  | cons c cs ih =>
    rw [runContainers, CreateGuacCalls.created, CreateGuacCalls.Loses, List.forall_mem_cons]
    -- Docker gave the container a number, and `create` knows it from then on.
    by_cases hid : calls.HasId c
    · have hdrops : ¬ calls.Drops c := fun h => h.2 hid
      obtain ⟨err, heq, hruns⟩ := runContainer_of_hasId hid w
      rw [heq]
      cases err with
      | some err =>
        have hnot : ¬ calls.Runs c := fun h => by cases hruns.mpr h
        refine ⟨[(w.make (.container c)).1], [], World.grew_make w _, rfl, ?_, ?_, ?_⟩
        · rw [if_neg hnot, if_pos hid]
          rfl
        · simp [hdrops, hnot]
        · simp [hnot]
      | none =>
        have hrun := hruns.mp rfl
        obtain ⟨made, lost, hgrew, hids, hkinds, hlost, hall⟩ :=
          ih (w.make (.container c)).2 (ids ++ [(w.make (.container c)).1])
        refine ⟨(w.make (.container c)).1 :: made, lost, (World.grew_make w _).trans hgrew, ?_, ?_,
          ?_, ?_⟩
        · exact hids.trans (List.append_assoc ids _ made)
        · rw [if_pos hrun, List.map_cons, List.map_cons, hkinds]
          rfl
        · rw [hlost]
          simp [hdrops, hrun]
        · simp only [hrun, true_and]
          exact hall
    -- Without a number the container is dropped if it was made, and was not made otherwise.
    · have hnot : ¬ calls.Runs c := fun h => hid h.1
      rw [if_neg hnot, if_neg hid]
      by_cases hdrops : calls.Drops c
      · obtain ⟨err, heq⟩ := runContainer_of_drops hdrops w
        rw [heq]
        exact ⟨[], [(w.make (.container c)).1], World.grew_make w _, rfl, rfl, by simp [hdrops],
          by simp [hnot]⟩
      · obtain ⟨err, herr⟩ := Option.ne_none_iff_exists'.mp fun h => hdrops ⟨h, hid⟩
        rw [runContainer_of_not_created herr]
        exact ⟨[], [], .refl w, rfl, rfl, by simp [hdrops, hnot], by simp [hnot]⟩

/-- Containers that run are not lost. -/
theorem CreateGuacCalls.not_loses {cs : List GuacContainer} (h : ∀ c ∈ cs, calls.Runs c) :
    ¬ calls.Loses cs := by
  induction cs with
  | nil => exact id
  | cons c cs ih =>
    obtain ⟨hc, hcs⟩ := List.forall_mem_cons.mp h
    rintro (hdrops | ⟨-, hloses⟩)
    · exact hdrops.2 hc.1
    · exact ih hcs hloses

/-- `create` leaves nothing behind: it succeeds, or it closes all that it has made. -/
def CreateGuacCalls.Lossless (calls : CreateGuacCalls) : Prop :=
  ¬ calls.Loses guacContainers ∧
    ((∀ c ∈ guacContainers, calls.Runs c) ∧ calls.configureInstance = none ∨
      ∀ c ∈ calls.created guacContainers, calls.close c = none)

/-- The containers of a successful `create`, and nothing of another one. -/
def createdIds (r : Except String (List (Resource EventResource))) :
    List (Resource EventResource) := r.toOption.getD []

/-- Containers that run are all created. -/
theorem CreateGuacCalls.created_eq {cs : List GuacContainer} (h : ∀ c ∈ cs, calls.Runs c) :
    calls.created cs = cs := by
  induction cs with
  | nil => rfl
  | cons c cs ih =>
    obtain ⟨hc, hcs⟩ := List.forall_mem_cons.mp h
    rw [created, if_pos hc, ih hcs]

/-- `create` succeeds when the containers run and Guacamole is configured. -/
theorem create_ok_iff (calls : CreateGuacCalls) (w : World EventResource) :
    (∃ ids, (calls.create w).2 = .ok ids) ↔
      (∀ c ∈ guacContainers, calls.Runs c) ∧ calls.configureInstance = none := by
  obtain ⟨made, lost, -, -, -, -, hall⟩ := runContainers_spec calls guacContainers w []
  rw [CreateGuacCalls.create]
  generalize runContainers calls w [] guacContainers = r at hall ⊢
  obtain ⟨w', ids, err⟩ := r
  rw [← hall]
  cases err with
  | some err => simp
  | none =>
    cases calls.configureInstance with
    | some err => simp
    | none => simp

/-- A successful `create` returns the three containers. -/
theorem map_kind_create {ids : List (Resource EventResource)} (h : (calls.create w).2 = .ok ids) :
    ids.map Resource.kind = guacContainers.map EventResource.container := by
  obtain ⟨made, lost, -, hids, hkinds, -, -⟩ := runContainers_spec calls guacContainers w []
  have hruns := ((create_ok_iff calls w).mp ⟨ids, h⟩).1
  rw [CreateGuacCalls.created_eq hruns] at hkinds
  rw [List.nil_append] at hids
  rw [CreateGuacCalls.create] at h
  generalize runContainers calls w [] guacContainers = r at hids h
  obtain ⟨w', ids', err⟩ := r
  obtain rfl : ids' = made := hids
  cases err with
  | some err => cases h
  | none =>
    cases hconf : calls.configureInstance with
    | some err =>
      rw [hconf] at h
      cases h
    | none =>
      rw [hconf] at h
      cases h
      exact hkinds

/-- The containers that exist after `create` are those that it returns if and only if it leaves
nothing behind. -/
theorem ownedIff_create {holders : List (Resource EventResource)} (h : w.Owned holders)
    (calls : CreateGuacCalls) :
    (calls.create w).1.OwnedIff (holders ++ createdIds (calls.create w).2) calls.Lossless := by
  obtain ⟨made, lost, hgrew, hids, hkinds, hlost, hall⟩ :=
    runContainers_spec calls guacContainers w []
  have hclose : (∀ m ∈ made, calls.closeErr m = none) ↔
      ∀ c ∈ calls.created guacContainers, calls.close c = none := by
    have hmap := List.forall_mem_map (f := Resource.kind) (l := made)
      (P := fun k => calls.closeKind k = none)
    rw [hkinds, List.forall_mem_map] at hmap
    exact hmap.symm
  have hfailed := h.closeAll_ownedIff calls.closeErr hgrew
  rw [CreateGuacCalls.create]
  rw [List.nil_append] at hids
  generalize runContainers calls w [] guacContainers = r at hgrew hids hall hfailed ⊢
  obtain ⟨w', ids, err⟩ := r
  obtain rfl : ids = made := hids
  cases err with
  -- A container failed: the others are closed, and nothing is returned.
  | some err =>
    have hnot : ¬ ∀ c ∈ guacContainers, calls.Runs c := fun hruns => by cases hall.mpr hruns
    show (w'.closeAll calls.closeErr ids).OwnedIff (holders ++ []) _
    rw [List.append_nil]
    refine hfailed.congr ?_
    rw [hlost, hclose, CreateGuacCalls.Lossless]
    simp only [hnot, false_and, false_or]
  | none =>
    have hruns := hall.mp rfl
    -- All containers run, and the configuration of the instance decides.
    cases hconf : calls.configureInstance with
    | some err =>
      show (w'.closeAll calls.closeErr ids).OwnedIff (holders ++ []) _
      rw [List.append_nil]
      refine hfailed.congr ?_
      rw [hlost, hclose, CreateGuacCalls.Lossless, hconf]
      simp
    | none =>
      show w'.OwnedIff (holders ++ ids) _
      refine (h.ownedIff hgrew hlost).congr ?_
      rw [CreateGuacCalls.Lossless, hconf]
      exact (and_iff_left (.inl ⟨hruns, rfl⟩)).symm

/-- The containers of Guacamole that exist after `create` are those that it returns if and only if
it leaves nothing behind. A successful call returns all three. -/
theorem create_ownedIff {holders : List (Resource EventResource)} (h : w.Owned holders)
    (calls : CreateGuacCalls) :
    (calls.create w).1.OwnedIff (holders ++ createdIds (calls.create w).2) calls.Lossless ∧
      ∀ ids, (calls.create w).2 = .ok ids →
        ids.map Resource.kind = guacContainers.map EventResource.container :=
  ⟨ownedIff_create h calls, fun _ hids => map_kind_create hids⟩

/-- All calls of `create` succeed, but for what the arguments say. -/
def guacCalls (dbDisconnect configureInstance : Option String) : CreateGuacCalls where
  run c := ⟨none, if c = .db then dbDisconnect else none, none, none⟩
  configureInstance := configureInstance
  close _ := none

/-- Nothing exists. -/
def emptyWorld : World EventResource := { made := 0, live := [] }

/-- A failing login closes the three containers, and a working call returns them. The number of the
database is not known when Docker cannot take it from its network. -/
theorem create_ownedIff_failed :
    ((guacCalls none (some "unexpected end of JSON input")).create emptyWorld).1.OwnedIff
        ([] ++ createdIds ((guacCalls none (some "unexpected end of JSON input")).create
          emptyWorld).2)
        (guacCalls none (some "unexpected end of JSON input")).Lossless ∧
      (∃ ids, ((guacCalls none none).create emptyWorld).2 = .ok ids ∧
        ids.map Resource.kind = guacContainers.map EventResource.container) ∧
      ((guacCalls none (some "unexpected end of JSON input")).create emptyWorld).1.live = [] ∧
      ((guacCalls (some "no such network") none).create emptyWorld).1.live =
        [⟨.container .db, 1⟩] :=
  ⟨(create_ownedIff (World.owned_nil rfl) _).1,
    ⟨_, rfl, (create_ownedIff (World.owned_nil rfl) (guacCalls none none)).2 _ rfl⟩,
    by decide, by decide⟩

/-! ### Events -/

/-- The events that are open, and all hubs and containers that exist. -/
structure EventsState where
  world : World EventResource
  events : List HeldEvent

namespace EventsState

/-- What the events hold. -/
def holders (s : EventsState) : List (Resource EventResource) := s.events.flatMap HeldEvent.held

/-- Each hub and container that exists is held by an event. -/
def Accounted (s : EventsState) : Prop := s.world.Accounted s.holders

end EventsState

/-- A request for an event, or its end. -/
inductive EventsAction where
  | createEvent (calls : CreateEventCalls)
  /-- `Close` of an event, with the answers of its hub and of its containers. -/
  | close (i : Nat) (closeErr : Resource EventResource → Option String)

/-- Events are created and closed. -/
def eventResources : Machine EventsState EventsAction where
  init s := s.world.live = [] ∧ s.events = []
  step s
    | .createEvent calls =>
      match calls.createEvent s.world with
      | (w, .error _) => some { s with world := w }
      | (w, .ok ev) => some { world := w, events := s.events ++ [ev] }
    | .close i closeErr =>
      s.events[i]?.map fun ev =>
        { world := s.world.closeAll closeErr ev.held, events := s.events.eraseIdx i }

namespace CreateEventCalls

variable (calls : CreateEventCalls)

/-- The hub is made. -/
def MakesHub : Prop :=
  calls.getExerciseByTags = none ∧ calls.newEventStore = none ∧ calls.newHub = none

/-- `NewEvent` has no error. -/
def NewEventSucceeds : Prop :=
  (calls.onlyVPN ≠ Guacamole.onlyVPN →
      (∀ c ∈ guacContainers, calls.guac.Runs c) ∧ calls.guac.configureInstance = none) ∧
    calls.newVPNClient = none ∧ calls.getDirName = none ∧ calls.newKeyLoggerPool = none

end CreateEventCalls

/-- A creation fails before it has a hub, or not at all. A closing closes everything. -/
def EventsAction.Lossless (s : EventsState) : EventsAction → Prop
  | .createEvent calls => calls.MakesHub → calls.NewEventSucceeds
  | .close i closeErr => ∀ ev, s.events[i]? = some ev → ∀ r ∈ ev.held, closeErr r = none

/-- `create` closes nothing of others. -/
theorem mem_live_create {holders : List (Resource EventResource)} (h : w.Owned holders)
    (calls : CreateGuacCalls) {r : Resource EventResource} (hr : r ∈ w.live) :
    r ∈ (calls.create w).1.live := by
  obtain ⟨made, lost, hgrew, hids, -⟩ := runContainers_spec calls guacContainers w []
  rw [CreateGuacCalls.create]
  rw [List.nil_append] at hids
  generalize runContainers calls w [] guacContainers = result at hgrew hids ⊢
  obtain ⟨w', ids, err⟩ := result
  obtain rfl : ids = made := hids
  have hlive : r ∈ w'.live := (hgrew.live r).mpr (.inr hr)
  have hclosed : r ∈ (w'.closeAll calls.closeErr ids).live := by
    refine (World.mem_live_closeAll w' r).mpr ⟨hlive, fun hand => ?_⟩
    exact h.notMem_of_grew hgrew (List.mem_append_left lost hand.1) (h.accounted r hr)
  cases err with
  | some err => exact hclosed
  | none =>
    cases calls.configureInstance with
    | some err => exact hclosed
    | none => exact hlive

/-- `NewEvent` returns the containers that it has made, or an error, and closes nothing of
others. -/
theorem newEvent_spec {holders : List (Resource EventResource)} (h : w.Owned holders)
    (calls : CreateEventCalls) :
    (calls.NewEventSucceeds → ∃ ids, (calls.newEvent w).2 = .ok ids ∧
        (calls.newEvent w).1.Owned (holders ++ ids)) ∧
      (¬ calls.NewEventSucceeds → (∃ err, (calls.newEvent w).2 = .error err) ∧
        ∀ r ∈ w.live, r ∈ (calls.newEvent w).1.live) := by
  -- The first part of `NewEvent`, with the containers when there are any.
  obtain ⟨w', result, hguac, hok, howned, hkeeps⟩ : ∃ w' result,
      (if calls.onlyVPN = Guacamole.onlyVPN then (w, .ok []) else calls.guac.create w) =
        (w', result) ∧
      ((∃ ids, result = .ok ids) ↔ (calls.onlyVPN ≠ Guacamole.onlyVPN →
        (∀ c ∈ guacContainers, calls.guac.Runs c) ∧ calls.guac.configureInstance = none)) ∧
      (∀ ids, result = .ok ids → w'.Owned (holders ++ ids)) ∧ ∀ r ∈ w.live, r ∈ w'.live := by
    by_cases hvpn : calls.onlyVPN = Guacamole.onlyVPN
    · refine ⟨w, .ok [], if_pos hvpn, iff_of_true ⟨[], rfl⟩ fun hne => absurd hvpn hne,
        fun ids hids => ?_, fun r hr => hr⟩
      cases hids
      rw [List.append_nil]
      exact h
    · refine ⟨(calls.guac.create w).1, (calls.guac.create w).2, if_neg hvpn, ?_,
        fun ids hids => ?_, fun r hr => mem_live_create h calls.guac hr⟩
      · rw [imp_iff_right hvpn]
        exact create_ok_iff calls.guac w
      · have hruns := (create_ok_iff calls.guac w).mp ⟨ids, hids⟩
        have howned := (ownedIff_create h calls.guac).owned
          ⟨CreateGuacCalls.not_loses hruns.1, .inl hruns⟩
        rwa [hids] at howned
  rw [CreateEventCalls.newEvent, hguac, CreateEventCalls.NewEventSucceeds, ← hok]
  cases result with
  | error err => exact ⟨fun hall => (nomatch hall.1), fun _ => ⟨⟨err, rfl⟩, hkeeps⟩⟩
  | ok ids =>
    dsimp only
    cases calls.newVPNClient with
    | some err => exact ⟨fun hall => (nomatch hall.2.1), fun _ => ⟨⟨err, rfl⟩, hkeeps⟩⟩
    | none =>
      cases calls.getDirName with
      | some err => exact ⟨fun hall => (nomatch hall.2.2.1), fun _ => ⟨⟨err, rfl⟩, hkeeps⟩⟩
      | none =>
        cases calls.newKeyLoggerPool with
        | some err => exact ⟨fun hall => (nomatch hall.2.2.2), fun _ => ⟨⟨err, rfl⟩, hkeeps⟩⟩
        | none =>
          exact ⟨fun _ => ⟨ids, rfl, howned ids rfl⟩,
            fun hnot => absurd ⟨⟨ids, rfl⟩, rfl, rfl, rfl⟩ hnot⟩

/-- `CreateEventFromEventDB` hands over all that it makes, unless `NewEvent` fails. -/
theorem createEvent_ownedIff {holders : List (Resource EventResource)} (h : w.Owned holders)
    (calls : CreateEventCalls) :
    (calls.createEvent w).1.OwnedIff
      (holders ++ ((calls.createEvent w).2.toOption.elim [] HeldEvent.held))
      (calls.MakesHub → calls.NewEventSucceeds) := by
  rw [CreateEventCalls.createEvent, CreateEventCalls.MakesHub]
  -- Nothing is made before the hub.
  have hnothing : ∀ {r : Except String HeldEvent}, r.toOption = none →
      w.OwnedIff (holders ++ r.toOption.elim [] HeldEvent.held) True := by
    intro r hr
    rw [hr, Option.elim, List.append_nil]
    exact ⟨fun _ => h, fun hnot => absurd trivial hnot⟩
  cases calls.getExerciseByTags with
  | some err => exact (hnothing rfl).congr (iff_of_true trivial nofun)
  | none =>
    cases calls.newEventStore with
    | some err => exact (hnothing rfl).congr (iff_of_true trivial nofun)
    | none =>
      cases calls.newHub with
      | some err => exact (hnothing rfl).congr (iff_of_true trivial nofun)
      | none =>
        have hgrew := World.grew_make w .hub
        have hhub := h.append hgrew
        obtain ⟨hok, hfailed⟩ := newEvent_spec hhub calls
        dsimp only
        by_cases hsucceeds : calls.NewEventSucceeds
        · obtain ⟨ids, hids, howned⟩ := hok hsucceeds
          generalize calls.newEvent (w.make .hub).2 = r at hids howned ⊢
          obtain ⟨w', result⟩ := r
          obtain rfl : result = .ok ids := hids
          refine ⟨fun _ => howned.perm ?_, fun hnot => absurd (fun _ => hsucceeds) hnot⟩
          rw [List.append_assoc]
          exact List.perm_append_comm.append_left holders
        · obtain ⟨⟨err, herr⟩, hkeeps⟩ := hfailed hsucceeds
          generalize calls.newEvent (w.make .hub).2 = r at herr hkeeps ⊢
          obtain ⟨w', result⟩ := r
          obtain rfl : result = .error err := herr
          refine ⟨fun hcond => absurd (hcond ⟨rfl, rfl, rfl⟩) hsucceeds, fun _ haccounted => ?_⟩
          -- The hub exists, and the call has dropped it.
          have hmem : (w.make .hub).1 ∈ holders := by
            have hlive := hkeeps _ ((hgrew.live (w.make .hub).1).mpr (.inl List.mem_cons_self))
            have hheld := haccounted _ hlive
            dsimp only [Except.toOption, Option.elim] at hheld
            rwa [List.append_nil] at hheld
          exact h.notMem_of_grew hgrew List.mem_cons_self hmem

namespace EventsState

variable {s t : EventsState} {a : EventsAction}

/-- One step: what exists has a holder exactly when the step loses nothing. -/
theorem step_ownedIff (h : s.world.Owned s.holders) (hs : eventResources.step s a = some t) :
    t.world.OwnedIff t.holders (a.Lossless s) := by
  cases a with
  | createEvent calls =>
    have hcreate := createEvent_ownedIff h calls
    simp only [eventResources] at hs
    generalize calls.createEvent s.world = r at hs hcreate
    obtain ⟨w, result⟩ := r
    cases result with
    | error err =>
      -- A creation that fails has to leave nothing, since it returns no holder.
      cases hs
      dsimp only [Except.toOption, Option.elim] at hcreate
      rw [List.append_nil] at hcreate
      exact hcreate
    | ok ev =>
      cases hs
      rw [holders, List.flatMap_append, List.flatMap_singleton]
      exact hcreate
  | close i closeErr =>
    -- What the closed event held leaves the holders, whatever its removals answer.
    obtain ⟨ev, hev, rfl⟩ := Option.map_eq_some_iff.mp hs
    obtain ⟨hlt, rfl⟩ := List.getElem?_eq_some_iff.mp hev
    have hperm : s.holders.Perm
        ((s.events.eraseIdx i).flatMap HeldEvent.held ++ (s.events[i]).held) := by
      have hall := (List.getElem_cons_eraseIdx_perm hlt).symm.flatMap_right HeldEvent.held
      rw [List.flatMap_cons] at hall
      exact hall.trans List.perm_append_comm
    have howned := h.perm hperm
    constructor
    -- With every removal done the resources are gone; one that failed leaves its resource without a
    -- holder.
    · intro hlossless
      exact howned.closeAll (hlossless _ hev)
    · intro hlossless
      have hopen : ¬ ∀ r ∈ (s.events[i]).held, closeErr r = none := by
        refine fun hclose => hlossless fun ev' hev' => ?_
        obtain rfl : s.events[i] = ev' := Option.some.inj (hev.symm.trans hev')
        exact hclose
      obtain ⟨r, hr, hne⟩ := not_forall₂.mp hopen
      have hnot := howned.not_accounted_closeAll hr hne (.refl _) (List.nil_subset [])
      rwa [List.append_nil] at hnot

end EventsState

/-- Along a run of creations and closings each hub and each container of Guacamole belongs to an
open event if and only if no `NewEvent` fails, and each closing closes all that its event has. -/
theorem eventResources_accounted_iff {s : EventsState} (hs : eventResources.init s)
    (as : List EventsAction) :
    eventResources.AllStates EventsState.Accounted s as ↔
      eventResources.AllSteps (fun s a => a.Lossless s) s as := by
  have hinit : s.world.Owned s.holders := by
    obtain ⟨hlive, hevents⟩ := hs
    rw [EventsState.holders, hevents]
    exact World.owned_nil hlive
  exact Machine.allStates_iff_allSteps (I := fun s => s.world.Owned s.holders)
    (A := fun _ _ => True) (fun _ h => h.accounted)
    (fun _ _ _ h _ hok hstep => (EventsState.step_ownedIff h hstep).owned hok)
    (fun _ _ _ h _ hnot hstep => (EventsState.step_ownedIff h hstep).lost hnot) hinit
    Machine.allSteps_true

/-- An event with a browser, whose calls have these answers. -/
def eventCalls (newVPNClient : Option String) : CreateEventCalls where
  getExerciseByTags := none
  newEventStore := none
  newHub := none
  onlyVPN := noVPN
  guac := guacCalls none none
  newVPNClient := newVPNClient
  getDirName := none
  newKeyLoggerPool := none

/-- An event is created and closed, and the next one is not accounted for without the WireGuard
service. -/
theorem eventResources_accounted_closed :
    (eventResources.AllStates EventsState.Accounted { world := emptyWorld, events := [] }
        [.createEvent (eventCalls none), .close 0 fun _ => none] ↔
      eventResources.AllSteps (fun s a => a.Lossless s) { world := emptyWorld, events := [] }
        [.createEvent (eventCalls none), .close 0 fun _ => none]) ∧
      ¬ eventResources.AllStates EventsState.Accounted { world := emptyWorld, events := [] }
        [.createEvent (eventCalls none), .createEvent (eventCalls (some "unavailable"))] := by
  refine ⟨eventResources_accounted_iff ⟨rfl, rfl⟩ _, fun hall => ?_⟩
  obtain ⟨t, hlost, haccounted⟩ := hall.of_run
    (fun t => (decide (⟨.hub, 4⟩ ∈ t.world.live), decide (⟨.hub, 4⟩ ∈ t.holders))) (true, false)
    (by decide)
  obtain ⟨hlive, hholders⟩ := Prod.mk.inj hlost
  exact of_decide_eq_false hholders (haccounted _ (of_decide_eq_true hlive))

end Haaukins.Guacamole
