import Haaukins.Lab.HubStock
import Haaukins.Daemon.Team

/-!
# `Haaukins.Daemon.LabOwnership`: one event, its hub and the owners of the labs

The machine of one event: its hub, signups, `AssignLab` on a lab from `hub.Queue()` and
`daemon.DeleteTeam`. A lab is with its hub, on its way back to it, or with the team whose
entry in the lab map it is, while the team is in the store.

`LabState.Exclusive` is the claim that each lab has at most one holder. The entry of a
deleted team stays in the lab map, so a second `DeleteTeam` for its id releases the lab
again. The property holds along a run exactly when no such request finds the lab with a new
holder (`ReleasesOwn`).
-/

set_option autoImplicit false

namespace Haaukins.Daemon

open Store Guacamole Lab

/-- The code around the event: its hub, the subnets of the labs, and the ids that `NewTeam`
draws, `uuid.New().String()[0:8]`. The package promises that whole ids are different, and `NewTeam`
cuts them to 8 characters. That the cut ids are different too is an assumption on the draws. -/
structure Surroundings (Tag : Type) where
  conf : HubConf Tag
  labSubnet : Nat → String
  newID : Nat → String

/-- An event with its hub. `issued` counts the calls of `NewTeam`. -/
structure LabState (Tag : Type) where
  ev : Event
  hub : Hub Tag
  issued : Nat

/-- The steps of an event and its hub. -/
inductive LabAction where
  | hub (a : HubAction)
  | signup (name : String) (db : Option String)
  /-- `AssignLab` for the team of this number on the lab that `via` delivers. -/
  | assignLab (team : Nat) (via : HubAction) (calls : AssignCalls)
  | deleteTeam (usr : DeletingUser) (req : DeleteTeamRequest) (restart db : Option String)

variable {Tag : Type}

/-- The events of a daemon. The teams that the store has at first got their ids before. -/
def eventLabs [DecidableEq Tag] (e : Surroundings Tag) : Machine (LabState Tag) LabAction where
  init s := s.hub = Hub.new ∧
    (∃ createdBy onlyVPN capacity vpnAddress store,
      s.ev = newEvent createdBy onlyVPN capacity vpnAddress store) ∧
    (∀ t team, s.ev.store.teams.get? t = some team →
      team.isLabAssigned = false ∧ ∃ k < s.issued, e.newID k = t)
  step s
    | .hub a =>
      if a.inner then ((newHub e.conf).step s.hub a).map fun hub => { s with hub := hub }
      else none
    | .signup name db =>
      if s.hub.panicked = none then
        some { s with
          ev := (s.ev.signup (newTeam (e.newID s.issued) name) db).1
          issued := s.issued + 1 }
      else none
    | .assignLab team via calls =>
      if team < s.issued then
        (s.hub.take e.conf via).map fun (l, hub) =>
          { s with ev := (s.ev.assignLab (e.newID team) l (e.labSubnet l) calls).1, hub := hub }
      else none
    | .deleteTeam usr req restart db =>
      if s.hub.panicked = none then
        match deleteTeam s.ev usr req restart db with
        | (none, ev, _) => some { s with ev := ev }
        | (some l, ev, _) =>
          ((newHub e.conf).step s.hub (.update l)).map fun hub => { s with ev := ev, hub := hub }
      else none

namespace LabState

variable (s : LabState Tag)

/-- The lab `l` is with a team of the store. -/
def Held (l : Nat) : Prop := ∃ t ∈ s.ev.store.teams, s.ev.labs.get? t = some l

/-- Each lab has at most one holder: it occurs at most once in `queue` and among the releases
in flight, such a lab is with no team of the store, and no two teams of the store have it. -/
structure Exclusive : Prop where
  once : ∀ l, s.hub.pipeline.count l ≤ 1
  free : ∀ l ∈ s.hub.pipeline, ¬ s.Held l
  apart : ∀ t t' l, t ∈ s.ev.store.teams → t' ∈ s.ev.store.teams →
    s.ev.labs.get? t = some l → s.ev.labs.get? t' = some l → t = t'

/-- A `DeleteTeam` that releases a lab is for a team of the store, or the lab has no
holder. -/
def ReleasesOwn : LabAction → Prop
  | .deleteTeam usr req restart _ => ∀ l, Releases s.ev usr req restart l →
      req.teamId ∈ s.ev.store.teams ∨ (l ∉ s.hub.pipeline ∧ ¬ s.Held l)
  | _ => True

/-- The teams of the store and of the lab map have ids that `NewTeam` chose. -/
def Issued (e : Surroundings Tag) : Prop :=
  ∀ t, t ∈ s.ev.store.teams ∨ t ∈ s.ev.labs → ∃ k < s.issued, e.newID k = t

/-- The invariant behind `Exclusive`. A lab in the lab map, also under the id of a deleted
team, has left the dispatcher for good. -/
structure Owned [DecidableEq Tag] (e : Surroundings Tag) : Prop where
  stocked : s.hub.Stocked e.conf
  free : ∀ l ∈ s.hub.offered, ¬ s.Held l
  apart : ∀ t t' l, t ∈ s.ev.store.teams → t' ∈ s.ev.store.teams →
    s.ev.labs.get? t = some l → s.ev.labs.get? t' = some l → t = t'
  recorded : ∀ t l, s.ev.labs.get? t = some l →
    l ∈ s.hub.registered ∧ l ∉ s.hub.dispatcher.lab

variable [DecidableEq Tag] {e : Surroundings Tag} {s t : LabState Tag} {a : LabAction}

/-- Labs with an owner each are in one place each. -/
theorem Owned.exclusive (h : s.Owned e) : s.Exclusive := by
  refine ⟨fun l => ?_, fun l hl => ?_, h.apart⟩
  · have hle := h.stocked.offered_le_one l
    rw [Hub.offered, List.count_append] at hle
    omega
  · exact h.free l (List.mem_append_right _ hl)

/-! ### Steps -/

/-- What a step can do. -/
inductive Change (e : Surroundings Tag) (s : LabState Tag) : LabAction → LabState Tag → Prop where
  | hub (b : HubAction) (hub : Hub Tag) (hb : b.inner = true)
      (hhub : (newHub e.conf).step s.hub b = some hub) : Change e s (.hub b) { s with hub := hub }
  | signup (name : String) (db : Option String) :
      Change e s (.signup name db)
        { s with
          ev := (s.ev.signup (newTeam (e.newID s.issued) name) db).1
          issued := s.issued + 1 }
  | assignLab (k : Nat) (via : HubAction) (calls : AssignCalls) (l : Nat) (hub : Hub Tag)
      (hk : k < s.issued) (htake : s.hub.take e.conf via = some (l, hub)) :
      Change e s (.assignLab k via calls)
        { s with ev := (s.ev.assignLab (e.newID k) l (e.labSubnet l) calls).1, hub := hub }
  | refused (usr : DeletingUser) (req : DeleteTeamRequest) (restart db : Option String)
      (hno : ∀ l, ¬ Releases s.ev usr req restart l) :
      Change e s (.deleteTeam usr req restart db) s
  | deleteTeam (usr : DeletingUser) (req : DeleteTeamRequest) (restart db : Option String)
      (l : Nat) (hub : Hub Tag) (hl : Releases s.ev usr req restart l)
      (hhub : (newHub e.conf).step s.hub (.update l) = some hub) :
      Change e s (.deleteTeam usr req restart db)
        { s with ev := { s.ev with store := (s.ev.store.deleteTeam req.teamId db).1 }, hub := hub }

/-- What a step of an event does to its labs. -/
theorem step_change (hs : (eventLabs e).step s a = some t) : s.Change e a t := by
  cases a with
  | hub b =>
    simp only [eventLabs] at hs
    split at hs
    · next hb =>
      obtain ⟨hub, hhub, rfl⟩ := Option.map_eq_some_iff.mp hs
      exact .hub b hub hb hhub
    · cases hs
  | signup name db =>
    simp only [eventLabs] at hs
    split at hs
    · cases hs
      exact .signup name db
    · cases hs
  | assignLab k via calls =>
    simp only [eventLabs] at hs
    split at hs
    · next hk =>
      obtain ⟨⟨l, hub⟩, htake, rfl⟩ := Option.map_eq_some_iff.mp hs
      exact .assignLab k via calls l hub hk htake
    · cases hs
  | deleteTeam usr req restart db =>
    simp only [eventLabs] at hs
    split at hs
    · rcases deleteTeam_cases s.ev usr req restart db with ⟨hno, err, heq⟩ | ⟨l, err, hl, heq⟩
      · rw [heq] at hs
        cases hs
        exact .refused usr req restart db hno
      · rw [heq] at hs
        obtain ⟨hub, hhub, rfl⟩ := Option.map_eq_some_iff.mp hs
        exact .deleteTeam usr req restart db l hub hl hhub
    · cases hs

/-! ### The ids of the teams -/

/-- At first no lab is issued. -/
theorem issued_init (hs : (eventLabs e).init s) : s.Issued e := by
  obtain ⟨-, ⟨createdBy, onlyVPN, capacity, vpnAddress, store, hev⟩, hteams⟩ := hs
  rintro t (ht | ht)
  · obtain ⟨team, hteam⟩ := GoMap.mem_iff_get?.mp ht
    exact (hteams t team hteam).2
  · rw [hev] at ht
    exact absurd ht (GoMap.get?_eq_none.mp (GoMap.get?_empty t))

/-- Issued labs have tags from the counter. -/
theorem issued_step (h : s.Issued e) (hs : (eventLabs e).step s a = some t) : t.Issued e := by
  cases step_change hs with
  | hub => exact h
  | signup name db =>
    obtain ⟨es, hev, hteams⟩ :=
      Event.signup_eq s.ev (newTeam (e.newID s.issued) name) db
    intro t ht
    -- The team of the step is the only one that can be new.
    have hold : t ∈ s.ev.store.teams ∨ t ∈ s.ev.labs ∨ t = e.newID s.issued := by
      rw [hev] at ht
      rcases ht with ht | ht
      · obtain ⟨team, hteam⟩ := GoMap.mem_iff_get?.mp ht
        rcases hteams t with heq | ⟨heq, -⟩
        · exact .inl (GoMap.mem_iff_get?.mpr ⟨team, heq ▸ hteam⟩)
        · exact .inr (.inr heq)
      · exact .inr (.inl ht)
    rw [← or_assoc] at hold
    rcases hold with hmem | rfl
    · obtain ⟨k, hk, heq⟩ := h t hmem
      exact ⟨k, Nat.lt_succ_of_lt hk, heq⟩
    · exact ⟨s.issued, Nat.lt_succ_self _, rfl⟩
  | assignLab k via calls l hub hk =>
    intro t ht
    rcases Event.assignLab_cases s.ev (e.newID k) l (e.labSubnet l) calls with
        ⟨hlabs, hstore⟩ | ⟨hlabs, hstore⟩
    · simp only [hlabs, hstore] at ht
      exact h t ht
    -- The id of the request was issued, whatever the store says of it.
    · simp only [hlabs, hstore, TeamStore.mem_correctedAssignedLab, GoMap.mem_set] at ht
      rcases ht with ht | rfl | ht
      · exact h t (.inl ht)
      · exact ⟨k, hk, rfl⟩
      · exact h t (.inr ht)
  | refused => exact h
  | deleteTeam usr req =>
    intro t ht
    simp only [TeamStore.mem_deleteTeam] at ht
    exact h t (ht.imp_left And.right)

omit [DecidableEq Tag] in
/-- The lab map does not know the id of the next team. -/
theorem Issued.labs_next (hid : Function.Injective e.newID) (h : s.Issued e) :
    s.ev.labs.get? (e.newID s.issued) = none := by
  rw [GoMap.get?_eq_none]
  intro hmem
  obtain ⟨k, hk, heq⟩ := h _ (.inr hmem)
  have := hid heq
  omega

/-! ### The owners of the labs -/

/-- At first no lab is owned. -/
theorem owned_init (hs : (eventLabs e).init s) : s.Owned e := by
  obtain ⟨hhub, ⟨createdBy, onlyVPN, capacity, vpnAddress, store, hev⟩, -⟩ := hs
  have hlabs : ∀ t, s.ev.labs.get? t = none := by simp [hev, newEvent]
  refine ⟨hhub ▸ Hub.stocked_new, ?_, ?_, ?_⟩
  · rintro l - ⟨t, -, hl⟩
    simp [hlabs] at hl
  · simp [hlabs]
  · simp [hlabs]

/-- The hub alone does not offer a lab of the lab map. -/
theorem Owned.hub (h : s.Owned e) {b : HubAction} {hub : Hub Tag} (hb : b.inner = true)
    (hs : (newHub e.conf).step s.hub b = some hub) : Owned { s with hub := hub } e := by
  have hupdate : ∀ l, b ≠ .update l := by
    rintro l rfl
    cases hb
  refine ⟨h.stocked.step hs fun l heq => absurd heq (hupdate l), ?_, h.apart, ?_⟩
  · rintro l hl ⟨t, ht, hlab⟩
    have hmem := h.stocked.mem_offered hs (h.recorded t l hlab).1 (hupdate l) hl
    exact h.free l hmem ⟨t, ht, hlab⟩
  · intro t l hlab
    obtain ⟨hreg, hnot⟩ := h.recorded t l hlab
    exact ⟨Hub.registered_step hs hreg, fun hl => hnot (h.stocked.mem_dispatcher hs hreg hl)⟩

/-- A new team has no lab. -/
theorem Owned.signup (hid : Function.Injective e.newID) (hissued : s.Issued e) (h : s.Owned e)
    (name : String) (db : Option String) :
    Owned { s with
      ev := (s.ev.signup (newTeam (e.newID s.issued) name) db).1
      issued := s.issued + 1 } e := by
  obtain ⟨es, hev, hteams⟩ := Event.signup_eq s.ev (newTeam (e.newID s.issued) name) db
  rw [hev]
  have hold : ∀ t l, t ∈ es.teams → s.ev.labs.get? t = some l → t ∈ s.ev.store.teams := by
    intro t l ht hlab
    obtain ⟨team, hteam⟩ := GoMap.mem_iff_get?.mp ht
    rcases hteams t with heq | ⟨rfl, -⟩
    · exact GoMap.mem_iff_get?.mpr ⟨team, heq ▸ hteam⟩
    · cases (hissued.labs_next hid).symm.trans hlab
  refine ⟨h.stocked, ?_, ?_, h.recorded⟩
  · rintro l hl ⟨t, ht, hlab⟩
    exact h.free l hl ⟨t, hold t l ht hlab, hlab⟩
  · intro t t' l ht ht' hl hl'
    exact h.apart t t' l (hold t l ht hl) (hold t' l ht' hl') hl hl'

/-- A lab that comes from the hub has no other holder, and it is not offered any more. -/
theorem Owned.assignLab (h : s.Owned e) {k l : Nat} {via : HubAction} {hub : Hub Tag}
    (htake : s.hub.take e.conf via = some (l, hub)) (calls : AssignCalls) :
    Owned { s with
      ev := (s.ev.assignLab (e.newID k) l (e.labSubnet l) calls).1
      hub := hub } e := by
  have htook := Hub.take_spec h.stocked htake
  have hkept : ∀ t l', s.ev.labs.get? t = some l' →
      l' ∈ hub.registered ∧ l' ∉ hub.dispatcher.lab := by
    intro t l' hlab
    -- `Hub.take` leaves the registered labs, and takes nothing into the dispatcher.
    obtain ⟨hreg, hnot⟩ := h.recorded t l' hlab
    exact ⟨htook.registered ▸ hreg, fun hmem => hnot (htook.dispatcher hmem)⟩
  rcases Event.assignLab_cases s.ev (e.newID k) l (e.labSubnet l) calls with
      ⟨hlabs, hstore⟩ | ⟨hlabs, hstore⟩
  -- Without an entry the lab only leaves the hub.
  · refine ⟨htook.stocked, ?_, ?_, ?_⟩
    · rintro l' hl' ⟨t, ht, hlab⟩
      exact h.free l' (htook.others hl') ⟨t, hstore ▸ ht, hlabs ▸ hlab⟩
    · simpa only [hlabs, hstore] using h.apart
    · simpa only [hlabs] using hkept
  · have hmem : ∀ t, t ∈ (s.ev.store.correctedAssignedLab (e.newID k)).teams ↔
        t ∈ s.ev.store.teams := fun t => TeamStore.mem_correctedAssignedLab
    have hnot : ∀ t, t ∈ s.ev.store.teams → s.ev.labs.get? t ≠ some l :=
      fun t ht hlab => h.free l htook.offered ⟨t, ht, hlab⟩
    refine ⟨htook.stocked, ?_, ?_, ?_⟩
    -- The new entry is for the lab that was offered, and no entry had it before.
    · rintro l' hl' ⟨t, ht, hlab⟩
      simp only [hlabs, hstore, hmem, GoMap.get?_set] at ht hlab
      split at hlab
      · cases hlab
        exact htook.taken hl'
      · exact h.free l' (htook.others hl') ⟨t, ht, hlab⟩
    · simp only [hlabs, hstore, hmem, GoMap.get?_set]
      intro t t' l' ht ht' hl hl'
      split at hl <;> split at hl'
      · next heq heq' => exact heq.trans heq'.symm
      · cases hl
        exact absurd hl' (hnot t' ht')
      · cases hl'
        exact absurd hl (hnot t ht)
      · exact h.apart t t' l' ht ht' hl hl'
    · simp only [hlabs, GoMap.get?_set]
      intro t l' hlab
      split at hlab
      · cases hlab
        refine ⟨htook.registered ▸ h.stocked.mem_registered htook.offered, fun hl => ?_⟩
        exact htook.taken (List.mem_append_left _ hl)
      · exact hkept t l' hlab

/-- The team loses its lab when the lab goes back to the hub. -/
theorem Owned.deleteTeam (h : s.Owned e) {usr : DeletingUser} {req : DeleteTeamRequest}
    {restart db : Option String} {l : Nat} {hub : Hub Tag}
    (hok : s.ReleasesOwn (.deleteTeam usr req restart db)) (hl : Releases s.ev usr req restart l)
    (hs : (newHub e.conf).step s.hub (.update l) = some hub) :
    Owned { s with
      ev := { s.ev with store := (s.ev.store.deleteTeam req.teamId db).1 }
      hub := hub } e := by
  have hlab : s.ev.labs.get? req.teamId = some l := hl.2.2
  obtain ⟨hreg, hnot⟩ := h.recorded _ l hlab
  -- No other team of the store has the lab, and the hub does not offer it.
  have hleft : l ∉ s.hub.offered ∧
      ∀ t, t ∈ s.ev.store.teams → s.ev.labs.get? t = some l → t = req.teamId := by
    rcases hok l hl with hmem | ⟨hfree, hheld⟩
    · exact ⟨fun hoffered => h.free l hoffered ⟨_, hmem, hlab⟩,
        fun t ht hlab' => h.apart t _ l ht hmem hlab' hlab⟩
    · refine ⟨fun hoffered => ?_, fun t ht hlab' => absurd ⟨t, ht, hlab'⟩ hheld⟩
      exact (List.mem_append.mp hoffered).elim hnot hfree
  have hstocked : hub.Stocked e.conf := by
    refine h.stocked.step hs ?_
    rintro l' heq
    cases heq
    exact ⟨hreg, hleft.1⟩
  have hmem : ∀ t, t ∈ (s.ev.store.deleteTeam req.teamId db).1.teams ↔
      t ≠ req.teamId ∧ t ∈ s.ev.store.teams := fun t => TeamStore.mem_deleteTeam
  refine ⟨hstocked, ?_, ?_, ?_⟩
  · rintro l' hl' ⟨t, ht, hlab'⟩
    simp only [hmem] at ht
    by_cases heq : l' = l
    · subst heq
      exact ht.1 (hleft.2 t ht.2 hlab')
    · have hoffered := h.stocked.mem_offered hs (h.recorded t l' hlab').1
        (by simpa using Ne.symm heq) hl'
      exact h.free l' hoffered ⟨t, ht.2, hlab'⟩
  · simp only [hmem]
    intro t t' l' ht ht'
    exact h.apart t t' l' ht.2 ht'.2
  · intro t l' hlab'
    obtain ⟨hreg', hnot'⟩ := h.recorded t l' hlab'
    exact ⟨Hub.registered_step hs hreg', fun hd => hnot' (h.stocked.mem_dispatcher hs hreg' hd)⟩

/-- A step that releases only its own lab keeps the owners apart. -/
theorem owned_step (hid : Function.Injective e.newID) (hissued : s.Issued e) (h : s.Owned e)
    (hok : s.ReleasesOwn a) (hs : (eventLabs e).step s a = some t) : t.Owned e := by
  cases step_change hs with
  | hub b hub hb hhub => exact h.hub hb hhub
  | signup name db => exact h.signup hid hissued name db
  | assignLab k via calls l hub hk htake => exact h.assignLab htake calls
  | refused => exact h
  | deleteTeam usr req restart db l hub hl hhub => exact h.deleteTeam hok hl hhub

/-- A lab with a holder that is released for a team outside the store has two holders. -/
theorem not_exclusive_step (hnot : ¬ s.ReleasesOwn a) (hs : (eventLabs e).step s a = some t) :
    ¬ t.Exclusive := by
  cases step_change hs with
  | refused usr req restart db hno =>
    exact absurd (fun l hl => absurd hl (hno l)) hnot
  | deleteTeam usr req restart db l hub hl hhub =>
    simp only [ReleasesOwn, not_forall, not_or, not_and_or, not_not] at hnot
    obtain ⟨l', hl', hout, hholder⟩ := hnot
    have hll : l' = l := by simpa [hl.2.2] using hl'.2.2.symm
    subst hll
    rw [newHub_step] at hhub
    obtain ⟨-, -, rfl⟩ := hhub
    intro hexclusive
    rcases hholder with hpipe | ⟨t, ht, hlab⟩
    · have honce := hexclusive.once l'
      have hpos := List.count_pos_iff.mpr hpipe
      simp only [Hub.pipeline, Hub.effect, List.count_append, List.count_singleton_self]
        at honce hpos
      omega
    · refine hexclusive.free l' (by simp [Hub.pipeline, Hub.effect])
        ⟨t, TeamStore.mem_deleteTeam.mpr ⟨?_, ht⟩, hlab⟩
      rintro rfl
      exact hout ht
  | _ => exact absurd trivial hnot

end LabState

/-- Each lab has at most one holder in every state of a run if and only if each `DeleteTeam`
that releases a lab is for a team of the store, or finds the lab without a holder. -/
theorem eventLabs_exclusive_iff {Tag : Type} [DecidableEq Tag] (e : Surroundings Tag)
    (hid : Function.Injective e.newID) (s : LabState Tag) (hs : (eventLabs e).init s)
    (as : List LabAction) :
    (eventLabs e).AllStates LabState.Exclusive s as ↔
      (eventLabs e).AllSteps LabState.ReleasesOwn s as :=
  Machine.allStates_iff_allSteps (A := fun _ _ => True) (I := fun s => s.Issued e ∧ s.Owned e)
    (fun _ h => h.2.exclusive)
    (fun _ _ _ h _ hok hs => ⟨LabState.issued_step h.1 hs, LabState.owned_step hid h.1 h.2 hok hs⟩)
    (fun _ _ _ _ _ hnot hs => LabState.not_exclusive_step hnot hs)
    ⟨LabState.issued_init hs, LabState.owned_init hs⟩ Machine.allSteps_true

/-- Two labs, and teams with the ids `""`, `"a"` and so on. -/
def twoTeams : Surroundings Nat where
  conf := { buffer := 2, cap := 2, tag := fun l => l }
  labSubnet := fun l => "77.179." ++ toString l
  newID := GoStrings.letters

/-- A new event for ten teams. -/
def newLabState (onlyVPN : Int) (vpnAddress : String) : LabState Nat where
  ev := newEvent "tkp" onlyVPN 10 vpnAddress .new
  hub := Hub.new
  issued := 0

/-- The first state of a new event. -/
theorem newLabState_init (e : Surroundings Nat) (onlyVPN : Int) (vpnAddress : String) :
    (eventLabs e).init (newLabState onlyVPN vpnAddress) :=
  ⟨rfl, ⟨_, _, _, _, _, rfl⟩, by simp [newLabState, newEvent, TeamStore.new]⟩

/-- The hub makes lab 0, and the team `""` signs up. -/
def firstTeam : List LabAction :=
  [.hub (.sendFirst 0), .hub (.sendSecond 1), .hub (.wgAdd 0), .hub (.newLab 0),
    .hub (.start 0 0 true), .hub (.handLabs 0 0), .signup "kali" none]

/-- The team `""` gets lab 0. -/
def firstOwner : List LabAction := firstTeam ++ [.assignLab 0 (.handQueue 0) allSucceed]

/-- The deletion of the team `""`. -/
def deleteFirst : LabAction := .deleteTeam ⟨"tkp", false⟩ ⟨"ctf", ""⟩ none none

/-- The released lab goes to the team `"a"`. -/
def secondOwner : List LabAction :=
  [.hub (.putDeallocated 0), .hub (.takeDeallocated 0), .signup "parrot" none,
    .assignLab 1 (.handRequeue 0) allSucceed]

/-- A team is deleted once, and the next team gets its lab. -/
theorem eventLabs_exclusive_once :
    (eventLabs twoTeams).AllStates LabState.Exclusive (newLabState Guacamole.noVPN "")
      (firstOwner ++ deleteFirst :: secondOwner) := by
  refine (eventLabs_exclusive_iff twoTeams GoStrings.letters_injective _
    (newLabState_init _ _ _) _).mpr (Machine.allSteps_append.mpr ⟨?_, fun s hs t ht => ⟨?_, ?_⟩⟩)
  · simp [firstOwner, firstTeam, Machine.AllSteps, LabState.ReleasesOwn]
  · have hteam : ((eventLabs twoTeams).run (newLabState Guacamole.noVPN "") firstOwner).all
        (fun s => "" ∈ s.ev.store.teams) = true := by decide
    rw [hs] at hteam
    exact fun l _ => .inl (by simpa using hteam)
  · simp [secondOwner, Machine.AllSteps, LabState.ReleasesOwn]

/-- A second deletion of the first team releases the lab of the second team. -/
theorem eventLabs_not_exclusive :
    ¬ ∀ (e : Surroundings Nat) (s : LabState Nat), Function.Injective e.newID →
      (eventLabs e).init s → ∀ as : List LabAction,
        (eventLabs e).AllStates LabState.Exclusive s as := by
  intro h
  have hall := h twoTeams (newLabState Guacamole.noVPN "") GoStrings.letters_injective
    (newLabState_init _ _ _) (firstOwner ++ deleteFirst :: secondOwner ++ [deleteFirst])
  obtain ⟨s, hs, hexclusive⟩ := hall.of_run
    (fun s => decide (0 ∈ s.hub.pipeline ∧ "a" ∈ s.ev.store.teams ∧
      s.ev.labs.get? "a" = some 0)) true (by decide)
  obtain ⟨hpipe, ht, hlab⟩ := of_decide_eq_true hs
  exact hexclusive.free 0 hpipe ⟨"a", ht, hlab⟩

end Haaukins.Daemon
