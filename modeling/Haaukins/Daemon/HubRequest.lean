import Haaukins.Lab.HubVisible
import Haaukins.Lab.Lab

/-!
# `Haaukins.Daemon.HubRequest`: a request among the workers of the hub (`lab/hub.go`)

One `AddChallenge` request, which the guard and the exercise service let pass, runs next to the
goroutines of the hub. It visits `hub.Labs()`, then the assigned labs, and puts the exercises
into the list of the lab host at its end. A worker reads this list in `NewLab`, and the lab that
it makes gets into `hub.Labs()` later.

* A `range` over a map visits each key that is there from the beginning, and any number of
  those that come while it runs. A visit is one step.
* `Update` gets labs that were delivered, and `AssignLab` too.
* `visited` and `late` only record what happened: the labs that the request visited, and those
  whose `NewLab` read the updated list.

The tables of the teams are in `Haaukins.Daemon.Exercise`.
-/

set_option autoImplicit false

namespace Haaukins.Daemon

open Exercise (Environment)
open Exercise.Environment (addTags)
open Lab (Hub HubAction HubConf LabHost newHub)

/-- The hub of an event, the exercises of its lab host, and those of the request. -/
structure RequestConf (Tag : Type) where
  hub : HubConf Tag
  exercises : List Store.Exercise
  disabledExercises : List String
  exers : List Store.Exercise
  /-- The flag that is drawn in a lab for a child of an exercise. -/
  newFlag : Nat → String → Nat → Nat → String

/-- Where the request is. -/
inductive RequestPhase (Tag : Type) where
  | waiting
  /-- In the loop over `ev.GetHub().Labs()`, with the keys that were there at its beginning and
  the keys that it visited. -/
  | hubLabs (pending done : List Tag)
  /-- In the loop over `ev.GetAssignedLabs()`. -/
  | assignedLabs (pending done : List String)
  /-- `dbClient.UpdateExercises` is next. -/
  | updating
  | returned
  deriving DecidableEq

/-- The hub, its labs and the request. -/
structure HubRequest (Tag : Type) where
  hub : Hub Tag
  labHost : LabHost
  env : Nat → Environment
  assigned : GoMap String Nat
  phase : RequestPhase Tag
  /-- The request has updated the list of the lab host. -/
  updated : Bool
  visited : List Nat
  late : List Nat

/-- One step of the hub, of a signup or of the request. -/
inductive RequestAction (Tag : Type) where
  | hub (a : HubAction)
  /-- `ev.labs[t.ID()] = lab` of `AssignLab`. -/
  | assign (tid : String) (l : Nat)
  | beginAdd
  | visitLab (k : Tag)
  | endLabs
  | visitAssigned (tid : String)
  | endAssigned
  /-- `dbClient.UpdateExercises` answers, and `hub.UpdateExercises` follows. -/
  | updateExercises
  /-- `dbClient.UpdateExercises` fails, and the request returns. -/
  | updateFailed

variable {Tag : Type} [DecidableEq Tag]

namespace HubRequest

/-- The state right before the first send on `ready` in `NewHub`. -/
def new (c : RequestConf Tag) : HubRequest Tag where
  hub := Hub.new
  labHost := { conf := { exercises := c.exercises, disabledExercises := c.disabledExercises } }
  env := fun _ => .new
  assigned := ∅
  phase := .waiting
  updated := false
  visited := []
  late := []

/-- `lb.AddChallenge` of the request. -/
def visit (c : RequestConf Tag) (s : HubRequest Tag) (l : Nat) : HubRequest Tag :=
  { s with
    env := Function.update s.env l (Lab.addChallenge (c.newFlag l) (s.env l) c.exers).1
    visited := l :: s.visited }

/-- A step of the hub. `NewLab` reads the list of the lab host. -/
def hubStep (c : RequestConf Tag) (s : HubRequest Tag) (a : HubAction) :
    Option (HubRequest Tag) :=
  match (newHub c.hub).step s.hub a with
  | none => none
  | some hub =>
    match a with
    | .newLab _ =>
      match s.labHost.newLab (c.newFlag s.hub.created) with
      -- The worker then goes on with `newLabFailed`.
      | .error _ => none
      | .ok ee =>
        some { s with
          hub := hub
          env := Function.update s.env s.hub.created ee
          late := if s.updated then s.hub.created :: s.late else s.late }
    | _ => some { s with hub := hub }

end HubRequest

/-- The goroutines of the hub, the signups, and one request. -/
def hubRequest (c : RequestConf Tag) : Machine (HubRequest Tag) (RequestAction Tag) where
  init s := s = .new c
  step s
    | .hub a => if s.hub.Released a then s.hubStep c a else none
    | .assign tid l =>
      if l ∈ s.hub.delivered then some { s with assigned := s.assigned.set tid l } else none
    | .beginAdd =>
      if s.phase = .waiting then
        some { s with phase := .hubLabs s.hub.startedLabs.keys [] }
      else none
    | .visitLab k =>
      match s.phase, s.hub.startedLabs.get? k with
      | .hubLabs pending done, some l =>
        -- A key that comes in during the loop can be visited too, but no key twice.
        if k ∈ done then none
        else some { s.visit c l with phase := .hubLabs pending (k :: done) }
      | _, _ => none
    | .endLabs =>
      match s.phase with
      | .hubLabs pending done =>
        -- The loop ends when the keys that were there at its beginning are done.
        if pending ⊆ done then some { s with phase := .assignedLabs s.assigned.keys [] }
        else none
      | _ => none
    | .visitAssigned tid =>
      match s.phase, s.assigned.get? tid with
      | .assignedLabs pending done, some l =>
        if tid ∈ done then none
        else some { s.visit c l with phase := .assignedLabs pending (tid :: done) }
      | _, _ => none
    | .endAssigned =>
      match s.phase with
      | .assignedLabs pending done =>
        if pending ⊆ done then some { s with phase := .updating } else none
      | _ => none
    | .updateExercises =>
      if s.phase = .updating then
        some { s with
          phase := .returned
          updated := true
          labHost := s.labHost.updateExercises c.exers }
      else none
    | .updateFailed =>
      if s.phase = .updating then some { s with phase := .returned } else none

namespace HubRequest

variable (c : RequestConf Tag)

/-- The tags of the list that the lab host had before the request. -/
def oldTags : List String := c.exercises.map Store.Exercise.tag

/-- After the request, each lab that the event can see has all requested exercises. -/
def AddedAll (s : HubRequest Tag) : Prop :=
  s.phase = .returned → ∀ l ∈ s.hub.visible, ∀ e ∈ c.exers, e.tag ∈ (s.env l).tags

/-- The old list had the exercises already, or `NewLab` read the updated list, or the request
visited the lab and no exercise stands behind one that `Add` refuses. -/
def Covered (s : HubRequest Tag) (l : Nat) : Prop :=
  (∀ e ∈ c.exers, e.tag ∈ oldTags c) ∨ l ∈ s.late ∨
    l ∈ s.visited ∧ ∀ e ∈ c.exers, e.tag ∈ addTags (oldTags c) c.exers

/-- At its end the request has covered all labs that the event can see, and after its end the
dispatcher takes covered labs only. -/
def Covers (s : HubRequest Tag) : RequestAction Tag → Prop
  | .updateExercises | .updateFailed => ∀ l ∈ s.hub.visible, s.Covered c l
  | .hub a => s.phase = .returned → ∀ l ∈ a.registers, s.Covered c l
  | _ => True

instance (s : HubRequest Tag) (l : Nat) : Decidable (s.Covered c l) := by
  unfold Covered
  infer_instance

instance (s : HubRequest Tag) : ∀ a, Decidable (s.Covers c a) := by
  intro a
  cases a <;> dsimp only [Covers] <;> infer_instance

variable {c} {s t : HubRequest Tag} {a : RequestAction Tag}

/-- The tags that a created lab has, by what happened to it. -/
def tagsOf (c : RequestConf Tag) (s : HubRequest Tag) (l : Nat) : List String :=
  if l ∈ s.late then c.exers.map Store.Exercise.tag ++ oldTags c
  else if l ∈ s.visited then addTags (oldTags c) c.exers
  else oldTags c

/-- The invariant: the list of the lab host is the old or the updated one, and each created lab
has the tags that its history gives it. -/
structure Known (c : RequestConf Tag) (s : HubRequest Tag) : Prop where
  seen : s.hub.Seen c.hub
  before : s.updated = false → s.labHost.conf.exercises = c.exercises ∧ s.late = []
  after : s.updated = true →
    s.phase = .returned ∧ s.labHost.conf.exercises = c.exers ++ c.exercises
  visited : ∀ l ∈ s.visited, l < s.hub.created ∧ l ∉ s.late
  late : ∀ l ∈ s.late, l < s.hub.created
  assigned : ∀ tid l, s.assigned.get? tid = some l → l < s.hub.created
  tags : ∀ l < s.hub.created, (s.env l).tags = s.tagsOf c l

/-- The new hub has no labs. -/
theorem known_new : (new c).Known c := by
  refine ⟨Hub.seen_new, ?_, ?_, ?_, ?_, ?_, ?_⟩ <;> simp [new, Hub.new]

/-- A created lab has all requested exercises exactly when it is covered. -/
theorem Known.covered_iff (h : s.Known c) {l : Nat} (hl : l < s.hub.created) :
    (∀ e ∈ c.exers, e.tag ∈ (s.env l).tags) ↔ s.Covered c l := by
  rw [h.tags l hl, tagsOf]
  split
  · next hlate =>
    -- `NewLab` read the updated list.
    refine iff_of_true (fun e he => ?_) (.inr (.inl hlate))
    exact List.mem_append_left _ (List.mem_map_of_mem he)
  split
  · next hlate hvisited =>
    -- A visit adds the exercises in front of the first one that is refused.
    constructor
    · exact fun hall => .inr (.inr ⟨hvisited, hall⟩)
    · rintro (hold | hl | ⟨-, hall⟩)
      · exact fun e he => Environment.subset_addTags _ _ (hold e he)
      · exact absurd hl hlate
      · exact hall
  · next hlate hvisited =>
    -- The lab still has the old list.
    constructor
    · exact .inl
    · rintro (hold | hl | ⟨hl, -⟩)
      · exact hold
      · exact absurd hl hlate
      · exact absurd hl hvisited

/-- A visit of a created lab before the update. -/
theorem Known.visit (h : s.Known c) (hbefore : s.updated = false) {l : Nat}
    (hl : l < s.hub.created) : (s.visit c l).Known c := by
  have hlate : s.late = [] := (h.before hbefore).2
  refine { h with visited := fun k hk => ?_, tags := fun k hk => ?_ }
  · rcases List.mem_cons.mp hk with rfl | hk
    · exact ⟨hl, by simp [HubRequest.visit, hlate]⟩
    · exact h.visited k hk
  · have hold := h.tags k hk
    simp only [tagsOf, HubRequest.visit, hlate, List.not_mem_nil, if_false, List.mem_cons]
      at hold ⊢
    by_cases heq : k = l
    · -- The lab was not visited, or its second visit adds nothing.
      subst heq
      have hnow : k = k ∨ k ∈ s.visited := .inl rfl
      rw [Function.update_self, Lab.addChallenge_tags, Environment.tags_add_eq, hold, if_pos hnow]
      split
      · exact Environment.addTags_twice _ _
      · rfl
    · rw [Function.update_of_ne heq, hold]
      simp [heq]

/-- `NewLab` gives the lab the exercises of the list, the old one or the updated one. -/
theorem Known.newLab (h : s.Known c) {ee : Environment} {hub : Hub Tag}
    (hseen : hub.Seen c.hub) (hcreated : hub.created = s.hub.created + 1)
    (hnew : s.labHost.newLab (c.newFlag s.hub.created) = .ok ee) :
    ({ s with
        hub := hub
        env := Function.update s.env s.hub.created ee
        late := if s.updated then s.hub.created :: s.late else s.late } :
      HubRequest Tag).Known c := by
  have htags := LabHost.newLab_tags hnew
  have hlate : ∀ l ∈ (if s.updated then s.hub.created :: s.late else s.late),
      l ∈ s.late ∨ l = s.hub.created := by
    intro l hl
    split at hl
    · exact (List.mem_cons.mp hl).symm
    · exact .inl hl
  -- For the labs that were there, nothing changes.
  have holdLate : ∀ l ≠ s.hub.created,
      l ∈ (if s.updated then s.hub.created :: s.late else s.late) ↔ l ∈ s.late := by
    intro l hne
    split <;> simp [hne]
  refine ⟨hseen, fun hbefore => ?_, h.after, fun l hl => ?_, fun l hl => ?_,
    fun tid l hl => ?_, fun l hl => ?_⟩
  · have hfalse : s.updated = false := hbefore
    simpa [hfalse] using h.before hfalse
  · obtain ⟨hlt, hnot⟩ := h.visited l hl
    refine ⟨by simp only [hcreated]; omega, ?_⟩
    rw [holdLate l (by omega)]
    exact hnot
  · rcases hlate l hl with hl | rfl
    · have := h.late l hl
      simp only [hcreated]
      omega
    · simp [hcreated]
  · have := h.assigned tid l hl
    simp only [hcreated]
    omega
  · simp only [hcreated] at hl
    by_cases heq : l = s.hub.created
    · -- The new lab.
      subst heq
      simp only [Function.update_self, htags, tagsOf]
      cases hupdated : s.updated with
      | true => simp [(h.after hupdated).2, oldTags]
      | false =>
        have hnotLate : s.hub.created ∉ s.late := fun hmem => absurd (h.late _ hmem) (by omega)
        have hnotVisited : s.hub.created ∉ s.visited := fun hmem =>
          absurd (h.visited _ hmem).1 (by omega)
        simp [hnotLate, hnotVisited, (h.before hupdated).1, oldTags]
    · have hold := h.tags l (by omega)
      simp only [Function.update_of_ne heq, hold, tagsOf, holdLate l heq]

/-- What a step of the hub does to the rest. -/
theorem hubStep_eq_some {b : HubAction} (hs : s.hubStep c b = some t) :
    (newHub c.hub).step s.hub b = some t.hub ∧
      ((t = { s with hub := t.hub } ∧ t.hub.created = s.hub.created) ∨
        b.registers = none ∧ t.hub.created = s.hub.created + 1 ∧
        ∃ ee, s.labHost.newLab (c.newFlag s.hub.created) = .ok ee ∧
          t = { s with
            hub := t.hub
            env := Function.update s.env s.hub.created ee
            late := if s.updated then s.hub.created :: s.late else s.late }) := by
  unfold hubStep at hs
  split at hs
  · cases hs
  next hub hstep =>
  have heffect := (Lab.newHub_step.mp hstep).2.2
  split at hs
  · split at hs
    · cases hs
    · next i ee hnew =>
      cases hs
      refine ⟨hstep, .inr ⟨rfl, ?_, ee, hnew, rfl⟩⟩
      simp [← heffect, Hub.effect]
  · next hnot =>
    cases hs
    refine ⟨hstep, .inl ⟨rfl, ?_⟩⟩
    rw [← heffect]
    cases b with
    | newLab i => exact absurd rfl (hnot i)
    | _ => rfl -- Only `newLab` creates a lab.

/-- A step of the hub keeps what is known of its labs. -/
theorem Known.hubStep (h : s.Known c) {b : HubAction} (hreleased : s.hub.Released b)
    (hs : s.hubStep c b = some t) : t.Known c := by
  obtain ⟨hstep, hrest⟩ := hubStep_eq_some hs
  have hseen := h.seen.step hreleased hstep
  rcases hrest with ⟨ht, hcreated⟩ | ⟨-, hcreated, ee, hnew, ht⟩
  · rw [ht]
    refine ⟨hseen, h.before, h.after, ?_, ?_, ?_, ?_⟩
    all_goals simp only [hcreated]
    exacts [h.visited, h.late, h.assigned, h.tags]
  · rw [ht]
    exact h.newLab hseen hcreated hnew

/-- Before its end the request has not updated the list. -/
theorem Known.updated_eq_false (h : s.Known c) (hphase : s.phase ≠ .returned) :
    s.updated = false := by
  by_contra hnot
  exact hphase (h.after (by simpa using hnot)).1

/-- The request moves on, and the list is still the old one. -/
theorem Known.withPhase (h : s.Known c) (hbefore : s.updated = false) (p : RequestPhase Tag) :
    ({ s with phase := p } : HubRequest Tag).Known c :=
  { h with after := fun hupdated => absurd (hbefore.symm.trans hupdated) (by decide) }

/-- So does each step of the request. -/
theorem Known.step (h : s.Known c) (hs : (hubRequest c).step s a = some t) : t.Known c := by
  cases a with
  | hub b =>
    simp only [hubRequest] at hs
    split at hs
    -- The hub takes its step, and the request only knows of it.
    · next hreleased => exact h.hubStep hreleased hs
    · cases hs
  | assign tid l =>
    simp only [hubRequest] at hs
    split at hs
    · next hdelivered =>
      cases hs
      refine { h with assigned := fun tid' l' hl' => ?_ }
      simp only [GoMap.get?_set] at hl'
      split at hl'
      · cases hl'
        -- A delivered lab is one that was created.
        exact h.seen.created l (List.mem_append_right _ hdelivered)
      · exact h.assigned tid' l' hl'
    · cases hs
  | beginAdd =>
    simp only [hubRequest] at hs
    split at hs
    · next hphase =>
      cases hs
      exact h.withPhase (h.updated_eq_false (by simp [hphase])) _
    · cases hs
  | visitLab k =>
    simp only [hubRequest] at hs
    split at hs
    · next pending done l hphase hl =>
      split at hs
      · cases hs
      cases hs
      have hbefore := h.updated_eq_false (by simp [hphase])
      -- A visited lab is in the map of the hub, so that it was created before.
      have hlt := h.seen.placed.lt_created (GoMap.mem_values.mpr ⟨k, hl⟩)
      exact (h.visit hbefore hlt).withPhase hbefore _
    · cases hs
  | visitAssigned tid =>
    simp only [hubRequest] at hs
    split at hs
    · next pending done l hphase hl =>
      split at hs
      · cases hs
      cases hs
      have hbefore := h.updated_eq_false (by simp [hphase])
      exact (h.visit hbefore (h.assigned tid l hl)).withPhase hbefore _
    · cases hs
  | endLabs | endAssigned =>
    simp only [hubRequest] at hs
    split at hs
    · next pending done hphase =>
      split at hs
      · cases hs
        exact h.withPhase (h.updated_eq_false (by simp [hphase])) _
      · cases hs
    · cases hs
  | updateExercises =>
    simp only [hubRequest] at hs
    split at hs
    · next hphase =>
      cases hs
      have hbefore := h.updated_eq_false (by simp [hphase])
      -- From here on new labs have all exercises of the request.
      refine { h with before := fun hupdated => ?_, after := fun _ => ⟨rfl, ?_⟩ }
      · cases hupdated
      · simp only [LabHost.updateExercises, (h.before hbefore).1]
    · cases hs
  | updateFailed =>
    simp only [hubRequest] at hs
    split at hs
    · next hphase =>
      cases hs
      exact h.withPhase (h.updated_eq_false (by simp [hphase])) _
    · cases hs

/-- A step of the hub after the request makes at most one lab visible, the one that it
registers. -/
theorem Known.addedAll_hub (h : s.Known c) (hadded : s.AddedAll c) {b : HubAction}
    (hs : s.hubStep c b = some t) :
    t.AddedAll c ↔ (s.phase = .returned → ∀ l ∈ b.registers, s.Covered c l) := by
  obtain ⟨hstep, hrest⟩ := hubStep_eq_some hs
  have hphase : t.phase = s.phase := by
    rcases hrest with ⟨ht, -⟩ | ⟨-, -, ee, -, ht⟩ <;> rw [ht]
  have henv : ∀ l < s.hub.created, t.env l = s.env l := by
    intro l hl
    rcases hrest with ⟨ht, -⟩ | ⟨-, -, ee, -, ht⟩
    · rw [ht]
    · rw [ht]
      exact Function.update_of_ne (by omega) _ _
  -- The lab that is registered was created before the step.
  have hcreated : ∀ l, b.registers = some l → l < s.hub.created := by
    intro l hl
    have hlt := (Lab.Hub.placed_step h.seen.phase h.seen.placed hstep).lt_created
      (Hub.mem_values_of_registers hstep hl)
    rcases hrest with ⟨-, heq⟩ | ⟨hnone, -⟩
    · rwa [heq] at hlt
    · rw [hnone] at hl
      cases hl
  unfold AddedAll
  rw [hphase]
  refine forall_congr' fun hreturned => ?_
  constructor
  · intro hall l hl
    have hlt := hcreated l hl
    refine (h.covered_iff hlt).mp fun e he => ?_
    rw [← henv l hlt]
    exact hall l (List.mem_append_left _ (Hub.mem_values_of_registers hstep hl)) e he
  · intro hcovered l hl e he
    -- The lab was visible, or the step registers it.
    rcases h.seen.visible_step hstep hl with hold | hnew
    · rw [henv l (h.seen.lt_created hold)]
      exact hadded hreturned l hold e he
    · have hlt := hcreated l hnew
      rw [henv l hlt]
      exact (h.covered_iff hlt).mpr (hcovered l hnew) e he

/-- A step keeps the exercises of all labs if and only if it covers the lab it adds. -/
theorem Known.step_iff (h : s.Known c) (hadded : s.AddedAll c)
    (hs : (hubRequest c).step s a = some t) : t.AddedAll c ↔ s.Covers c a := by
  cases a with
  | hub b =>
    simp only [hubRequest] at hs
    split at hs
    · exact h.addedAll_hub hadded hs
    · cases hs
  | updateExercises | updateFailed =>
    simp only [hubRequest] at hs
    split at hs
    · cases hs
      -- The request returns, and the visible labs have what covered them.
      simp only [AddedAll, forall_true_left, Covers]
      exact forall₂_congr fun l hl => h.covered_iff (h.seen.lt_created hl)
    · cases hs
  | assign tid l =>
    simp only [hubRequest] at hs
    split at hs
    · cases hs
      exact iff_of_true hadded trivial
    · cases hs
  | _ =>
    -- The request has not returned after these steps.
    refine iff_of_true (fun hreturned => ?_) trivial
    simp only [hubRequest] at hs
    repeat' split at hs
    all_goals
      cases hs
      try cases hreturned

end HubRequest

/-- Along a run, each lab that the event can see after the request has all requested exercises
if and only if the request has covered the labs that are visible at its end, and the dispatcher
takes only covered labs after it. -/
theorem hubRequest_added_iff (c : RequestConf Tag) (as : List (RequestAction Tag)) :
    (hubRequest c).AllStates (HubRequest.AddedAll c) (.new c) as ↔
      (hubRequest c).AllSteps (HubRequest.Covers c) (.new c) as :=
  Machine.allStates_iff_allSteps (I := fun s : HubRequest Tag => s.Known c ∧ s.AddedAll c)
    (A := fun _ _ => True) (fun _ h => h.2)
    (fun _ _ _ h _ hcovers hs => ⟨h.1.step hs, (h.1.step_iff h.2 hs).mpr hcovers⟩)
    (fun _ _ _ h _ hnot hs => mt (h.1.step_iff h.2 hs).mp hnot)
    ⟨HubRequest.known_new, fun hphase => by cases hphase⟩ Machine.allSteps_true

/-- A lab is created before the request and gets to the dispatcher after it. -/
theorem hubRequest_not_added :
    ¬ ∀ (c : RequestConf Nat) (as : List (RequestAction Nat)),
      (hubRequest c).AllStates (HubRequest.AddedAll c) (.new c) as := by
  intro h
  let c : RequestConf Nat :=
    { hub := Lab.twoLabs, exercises := [], disabledExercises := []
      exers := [{ tag := "sql", static := true, instances := [] }], newFlag := fun _ _ _ _ => "" }
  have hall := h c
    [.hub (.sendFirst 0), .hub (.sendSecond 1), .hub (.wgAdd 0), .hub (.newLab 0), .beginAdd,
      .endLabs, .endAssigned, .updateExercises, .hub (.start 0 0 true), .hub (.handLabs 0 0)]
  obtain ⟨s, hs, haddedAll⟩ := hall.of_run
    (fun s => (s.phase, s.hub.visible, (s.env 0).tags)) (.returned, [0], []) (by decide)
  obtain ⟨hphase, hs⟩ := Prod.mk.inj hs
  obtain ⟨hvisible, htags⟩ := Prod.mk.inj hs
  have hadded := haddedAll hphase 0 (by simp [hvisible])
    { tag := "sql", static := true, instances := [] } List.mem_cons_self
  rw [htags] at hadded
  cases hadded

end Haaukins.Daemon
