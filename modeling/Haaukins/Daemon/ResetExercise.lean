import Haaukins.Amigo.ManageChallenge
import Haaukins.Daemon.AddChallenge
import Haaukins.Lab.LabMachines

/-!
# `Haaukins.Daemon.ResetExercise`: resets from the daemon (`daemon/exercise.go`)

`EventState.AllMarked` says that each team with a lab is `TeamLab.Marked`. For the requests of
the daemon, this module says when they keep it.

* `resetTeams` is `ResetExercise` with a list of teams. It takes the marks away, and keeps all
  teams marked.
* `resetLabs` is `ResetExercise` without a list, and `restartTeamLab` is `RestartTeamLab`. Both
  start machines and touch no mark.
* `addChallenge` starts the exercises that it adds, and touches no mark.
-/

set_option autoImplicit false

namespace Haaukins.Daemon

open Amigo (TeamLab)
open Amigo.TeamLab (unmark)
open Exercise (Environment)
open Store (TeamExercises validateTag)

/-- `NoLabByTeamIdErr`. -/
def noLabByTeamIdErr : String := "Lab is nil, no lab found for given team id ! "

namespace EventState

variable (s : EventState)

/-- The lab of a team in `ev.labs`, with its number. -/
def teamLab (tid : String) : Option (Nat × TeamLab) :=
  match s.assigned.get? tid, s.teams.get? tid with
  | some l, some t => some (l, { team := t, env := s.env l })
  | _, _ => none

/-- The team and its lab replaced. -/
def setTeamLab (tid : String) (l : Nat) (tl : TeamLab) : EventState :=
  { s with env := Function.update s.env l tl.env, teams := s.teams.set tid tl.team }

/-- The environment of a lab replaced. -/
def setEnv (l : Nat) (env : Environment) : EventState :=
  { s with env := Function.update s.env l env }

/-- `ResetExercise` for the teams of `req.Teams`. -/
def resetTeams (exerciseTag : String) :
    EventState → List String → Option (EventState × Option String)
  | s, [] => some (s, none)
  | s, tid :: teams =>
    match s.assigned.get? tid with
    -- A team without a lab is passed by.
    | none => resetTeams exerciseTag s teams
    | some l =>
      match (s.env l).resetByTag exerciseTag, s.teams.get? tid with
      | none, _ => none
      | some (_, some err), _ => some (s, some err)
      -- `t` is nil, and `t.GetDisabledChalMap()` comes before the test of the error.
      | some (_, none), none => none
      | some (env, none), some t =>
        resetTeams exerciseTag
          (s.setTeamLab tid l { team := unmark t exerciseTag, env := env }) teams

/-- `ResetExercise` for all teams, in the order of `ev.GetTeams()`. -/
def resetLabs (exerciseTag : String) :
    EventState → List String → Option (EventState × Option String)
  | s, [] => some (s, none)
  | s, tid :: teams =>
    match s.assigned.get? tid with
    | none => resetLabs exerciseTag s teams
    | some l =>
      match (s.env l).resetByTag exerciseTag with
      | none => none
      | some (_, some err) => some (s, some err)
      | some (env, none) => resetLabs exerciseTag (s.setEnv l env) teams

/-- `ResetExercise`. An empty `req.Teams` is nil. -/
def resetExercise (exerciseTag : String) (reqTeams getTeams : List String) :
    Option (EventState × Option String) :=
  -- Only the branch with a list touches the disabled challenges.
  if reqTeams = [] then resetLabs exerciseTag s getTeams else resetTeams exerciseTag s reqTeams

/-- `RestartTeamLab`. -/
def restartTeamLab (tid : String) : Option (EventState × Option String) :=
  match s.assigned.get? tid with
  | none => some (s, some noLabByTeamIdErr)
  | some l => ((s.env l).reset).map fun env => (s.setEnv l env, none)

/-! ### The marks of the teams -/

/-- In each lab of a team, the exercises with machines are disabled for the team exactly when
their machines are stopped. -/
def AllMarked : Prop := ∀ tid l tl, s.teamLab tid = some (l, tl) → tl.Marked

/-- No lab is assigned to two teams. -/
def SeparateLabs : Prop :=
  ∀ tid tid' l, s.assigned.get? tid = some l → s.assigned.get? tid' = some l → tid = tid'

variable {s} {s' : EventState} {tid tid' : String} {l l' : Nat} {tl : TeamLab}
  {err : Option String}

/-- A team has a lab when it is assigned one, and is there. -/
theorem teamLab_eq_some_iff :
    s.teamLab tid = some (l, tl) ↔
      s.assigned.get? tid = some l ∧ s.teams.get? tid = some tl.team ∧ s.env l = tl.env := by
  unfold teamLab
  obtain ⟨t, env⟩ := tl
  split
  · next l₁ t₁ hl ht =>
    simp only [hl, ht, Option.some.injEq, Prod.mk.injEq, TeamLab.mk.injEq]
    constructor
    · rintro ⟨rfl, rfl, rfl⟩
      exact ⟨rfl, rfl, rfl⟩
    · rintro ⟨rfl, rfl, rfl⟩
      exact ⟨rfl, rfl, rfl⟩
  · next hnot =>
    simp only [reduceCtorEq, false_iff]
    rintro ⟨hl, ht, -⟩
    exact hnot l t hl ht

/-- A change of one lab does not reach the labs of other teams. -/
theorem SeparateLabs.update_env (hseparate : s.SeparateLabs) (hl : s.assigned.get? tid = some l)
    (hl' : s.assigned.get? tid' = some l') (hne : tid' ≠ tid) (env : Environment) :
    Function.update s.env l env l' = s.env l' := by
  refine Function.update_of_ne ?_ env s.env
  rintro rfl
  exact hne (hseparate tid' tid l' hl' hl)

/-- A request to one team with a lab leaves the others as they are. -/
theorem teamLab_setTeamLab (hseparate : s.SeparateLabs) (hl : s.assigned.get? tid = some l) :
    (s.setTeamLab tid l tl).teamLab tid' =
      if tid' = tid then some (l, tl) else s.teamLab tid' := by
  by_cases htid : tid' = tid
  · subst htid
    simp [teamLab, setTeamLab, hl]
  · -- The lab of the other team is another one.
    simp only [teamLab, setTeamLab, GoMap.get?_set, if_neg htid]
    cases hl' : s.assigned.get? tid' with
    | none => rfl
    | some l' =>
      cases s.teams.get? tid' with
      | none => rfl
      | some t => simp only [hseparate.update_env hl hl' htid]

/-- A replaced lab is seen by its team alone. -/
theorem teamLab_setEnv (hseparate : s.SeparateLabs) (hl : s.assigned.get? tid = some l)
    (env : Environment) (tid' : String) :
    (s.setEnv l env).teamLab tid' =
      if tid' = tid then (s.teamLab tid).map fun lab => (lab.1, { lab.2 with env := env })
      else s.teamLab tid' := by
  by_cases htid : tid' = tid
  · subst htid
    simp only [teamLab, setEnv, hl, if_true]
    cases s.teams.get? tid' with
    | none => rfl
    | some t => simp
  · simp only [teamLab, setEnv, if_neg htid]
    cases hl' : s.assigned.get? tid' with
    | none => rfl
    | some l' =>
      cases s.teams.get? tid' with
      | none => rfl
      | some t => simp only [hseparate.update_env hl hl' htid]

/-- When the teams with a lab stay the same ones, all are marked after a step exactly when each of
them is. -/
theorem allMarked_iff_of_teamLab (marked : String → TeamLab → Prop)
    (hnone : ∀ tid, s.teamLab tid = none → s'.teamLab tid = none)
    (hsome : ∀ tid l tl, s.teamLab tid = some (l, tl) →
      ∃ tl', s'.teamLab tid = some (l, tl') ∧ (tl'.Marked ↔ marked tid tl)) :
    s'.AllMarked ↔ ∀ tid l tl, s.teamLab tid = some (l, tl) → marked tid tl := by
  constructor
  · intro h tid l tl htl
    obtain ⟨tl', htl', hmarked⟩ := hsome tid l tl htl
    exact hmarked.mp (h tid l tl' htl')
  · intro h tid l' tl' htl'
    cases htl : s.teamLab tid with
    | none =>
      rw [hnone tid htl] at htl'
      cases htl'
    | some lab =>
      obtain ⟨l, tl⟩ := lab
      obtain ⟨tl₁, htl₁, hmarked⟩ := hsome tid l tl htl
      obtain ⟨rfl, rfl⟩ := Prod.mk.inj (Option.some.inj (htl'.symm.trans htl₁))
      exact hmarked.mpr (h tid _ tl htl)

/-- A step that keeps the owners of the labs and the disabled challenges of the teams. -/
theorem teamLab_of_disabledChallenges (tid : String) (hassigned : s'.assigned = s.assigned)
    (hmarks : (s'.teams.get? tid).map TeamExercises.disabledChallenges =
      (s.teams.get? tid).map TeamExercises.disabledChallenges) :
    (s.teamLab tid = none → s'.teamLab tid = none) ∧
      ∀ l tl, s.teamLab tid = some (l, tl) → ∃ t,
        s'.teamLab tid = some (l, { team := t, env := s'.env l }) ∧
          t.disabledChallenges = tl.team.disabledChallenges := by
  constructor
  · intro hnone
    rw [Option.eq_none_iff_forall_ne_some]
    rintro ⟨l, tl'⟩ htl'
    obtain ⟨hl, ht', -⟩ := teamLab_eq_some_iff.mp htl'
    rw [ht', Option.map_some, eq_comm] at hmarks
    obtain ⟨t, ht, -⟩ := Option.map_eq_some_iff.mp hmarks
    have htl : s.teamLab tid = some (l, { team := t, env := s.env l }) :=
      teamLab_eq_some_iff.mpr ⟨by rw [← hassigned, hl], ht, rfl⟩
    rw [hnone] at htl
    cases htl
  · intro l tl htl
    obtain ⟨hl, ht, -⟩ := teamLab_eq_some_iff.mp htl
    rw [ht, Option.map_some] at hmarks
    obtain ⟨t, ht', heq⟩ := Option.map_eq_some_iff.mp hmarks
    exact ⟨t, teamLab_eq_some_iff.mpr ⟨by rw [hassigned, hl], ht', rfl⟩, heq⟩

/-- Marks and labs are all that it reads. -/
theorem AllMarked.of_disabledChallenges (h : s.AllMarked) (hassigned : s'.assigned = s.assigned)
    (henv : ∀ tid l, s.assigned.get? tid = some l → s'.env l = s.env l)
    (hmarks : ∀ tid, (s'.teams.get? tid).map TeamExercises.disabledChallenges =
      (s.teams.get? tid).map TeamExercises.disabledChallenges) : s'.AllMarked := by
  have hteamLab := fun tid => teamLab_of_disabledChallenges tid hassigned (hmarks tid)
  refine (allMarked_iff_of_teamLab (fun _ _ => True) (fun tid => (hteamLab tid).1)
    fun tid l tl htl => ?_).mpr fun _ _ _ _ => trivial
  obtain ⟨t, htl', heq⟩ := (hteamLab tid).2 l tl htl
  obtain ⟨hl, -, htlenv⟩ := teamLab_eq_some_iff.mp htl
  refine ⟨_, htl', iff_true_intro ?_⟩
  simp only [TeamLab.Marked, heq, henv tid l hl, htlenv]
  exact h tid l tl htl

/-- After a request to one team, all teams are marked exactly when this one is. -/
theorem AllMarked.setTeamLab_iff (h : s.AllMarked) (hseparate : s.SeparateLabs)
    (hl : s.assigned.get? tid = some l) : (s.setTeamLab tid l tl).AllMarked ↔ tl.Marked := by
  constructor
  · intro hall
    exact hall tid l tl (by rw [teamLab_setTeamLab hseparate hl, if_pos rfl])
  · intro hmarked tid' l' tl' htl'
    rw [teamLab_setTeamLab hseparate hl] at htl'
    split at htl'
    · obtain ⟨-, rfl⟩ := Prod.mk.inj (Option.some.inj htl')
      exact hmarked
    · exact h tid' l' tl' htl'

/-- After a change of one lab, all teams are marked exactly when the team of the lab is. -/
theorem AllMarked.setEnv_iff (h : s.AllMarked) (hseparate : s.SeparateLabs)
    (hl : s.assigned.get? tid = some l) (env : Environment) :
    (s.setEnv l env).AllMarked ↔
      ∀ tl, s.teamLab tid = some (l, tl) → TeamLab.Marked { tl with env := env } := by
  constructor
  · intro hall tl htl
    refine hall tid l _ ?_
    rw [teamLab_setEnv hseparate hl, if_pos rfl, htl, Option.map_some]
  · intro hmarked tid' l' tl' htl'
    rw [teamLab_setEnv hseparate hl] at htl'
    split at htl'
    · obtain ⟨⟨l₁, tl⟩, htl, heq⟩ := Option.map_eq_some_iff.mp htl'
      obtain ⟨rfl, rfl⟩ := Prod.mk.inj heq
      obtain rfl : l₁ = l := Option.some.inj
        ((teamLab_eq_some_iff.mp htl).1.symm.trans hl)
      exact hmarked tl htl
    · exact h tid' l' tl' htl'

/-! ### The requests of the daemon -/

/-- The loop of `resetLabs` goes on after the team: it has no lab, or its lab knows the tag. -/
def PassedBy (s : EventState) (exerciseTag : String) (tid : String) : Prop :=
  ∀ l ∈ s.assigned.get? tid, validateTag exerciseTag = none ∧ exerciseTag ∈ (s.env l).tags

instance (s : EventState) (exerciseTag : String) (tid : String) :
    Decidable (s.PassedBy exerciseTag tid) := by
  unfold PassedBy
  infer_instance

/-- The teams that `resetLabs` gets to, up to the first lab that refuses the tag. -/
def resetReach (s : EventState) (exerciseTag : String) (teams : List String) : List String :=
  teams.takeWhile fun tid => s.PassedBy exerciseTag tid

/-- A lab with the same tags passes the same exercises by. -/
theorem passedBy_setEnv {exerciseTag : String} {env : Environment} (l : Nat)
    (htags : env.tags = (s.env l).tags) (tid : String) :
    (s.setEnv l env).PassedBy exerciseTag tid ↔ s.PassedBy exerciseTag tid := by
  refine forall₂_congr fun l' _ => ?_
  by_cases hl : l' = l
  · subst hl
    simp [setEnv, htags]
  · simp [setEnv, Function.update_of_ne hl]

/-- A team without a lab is passed. -/
theorem resetReach_cons_of_none {exerciseTag : String} (hnone : s.assigned.get? tid = none)
    (teams : List String) :
    s.resetReach exerciseTag (tid :: teams) = tid :: s.resetReach exerciseTag teams :=
  List.takeWhile_cons_of_pos (by simp [PassedBy, hnone])

/-- The loop ends at a lab that refuses the tag. -/
theorem resetReach_cons_of_refused {exerciseTag text : String} {env : Environment}
    (hl : s.assigned.get? tid = some l)
    (hreset : (s.env l).resetByTag exerciseTag = some (env, some text)) (teams : List String) :
    s.resetReach exerciseTag (tid :: teams) = [] := by
  have hrefused := (Environment.resetByTag_eq_some hreset).1
  exact List.takeWhile_cons_of_neg (by simpa [PassedBy, hl] using hrefused)

/-- The tags stay in a reset, so the rest of the loop gets to the same teams. -/
theorem resetReach_cons_of_reset {exerciseTag : String} {env : Environment}
    (hl : s.assigned.get? tid = some l)
    (hreset : (s.env l).resetByTag exerciseTag = some (env, none)) (teams : List String) :
    s.resetReach exerciseTag (tid :: teams) =
      tid :: (s.setEnv l env).resetReach exerciseTag teams := by
  have htaken := (Environment.resetByTag_eq_some hreset).1.mp rfl
  have htags := (Environment.resetByTag_frame hreset).1
  simp only [resetReach, passedBy_setEnv l htags]
  exact List.takeWhile_cons_of_pos (by simpa [PassedBy, hl] using htaken)

/-- `resetLabs` resets the labs of the teams that it gets to. -/
theorem resetLabs_teamLab {exerciseTag : String} {teams : List String} (hnodup : teams.Nodup)
    (hseparate : s.SeparateLabs) (hs : resetLabs exerciseTag s teams = some (s', err)) :
    (s.teamLab tid = none → s'.teamLab tid = none) ∧
      ∀ l tl, s.teamLab tid = some (l, tl) → ∃ env,
        s'.teamLab tid = some (l, { tl with env := env }) ∧
          if tid ∈ s.resetReach exerciseTag teams then
            tl.env.resetByTag exerciseTag = some (env, none)
          else env = tl.env := by
  induction teams generalizing s with
  | nil =>
    cases hs
    exact ⟨id, fun l tl htl => ⟨tl.env, htl, by simp [resetReach]⟩⟩
  | cons tid₀ teams ih =>
    obtain ⟨hnot, hnodup⟩ := List.nodup_cons.mp hnodup
    rw [resetLabs] at hs
    split at hs
    · next hassigned =>
      obtain ⟨hnone, hsome⟩ := ih hnodup hseparate hs
      refine ⟨hnone, fun l tl htl => ?_⟩
      obtain ⟨env, henv, hreach⟩ := hsome l tl htl
      refine ⟨env, henv, ?_⟩
      -- The team in front has no lab, so it is another one.
      have hne : tid ≠ tid₀ := by
        rintro rfl
        rw [(teamLab_eq_some_iff.mp htl).1] at hassigned
        cases hassigned
      rw [resetReach_cons_of_none hassigned]
      simpa [hne] using hreach
    next l₀ hassigned =>
    split at hs
    · -- A machine could not be made, and the request does not return.
      cases hs
    · next env₀ err₀ hreset =>
      -- The lab refuses the tag, and the loop ends here.
      obtain ⟨rfl, -⟩ := Prod.mk.inj (Option.some.inj hs)
      refine ⟨id, fun l tl htl => ⟨tl.env, htl, ?_⟩⟩
      simp [resetReach_cons_of_refused hassigned hreset]
    · next env₀ hreset =>
      have hcons := resetReach_cons_of_reset hassigned hreset teams
      have hteam := teamLab_setEnv hseparate hassigned env₀ tid
      obtain ⟨hnone, hsome⟩ := ih (s := s.setEnv l₀ env₀) hnodup hseparate hs
      rw [hteam] at hnone hsome
      rw [hcons]
      by_cases htid : tid = tid₀
      · subst htid
        rw [if_pos rfl] at hnone hsome
        refine ⟨fun htl => hnone (by rw [htl, Option.map_none]), fun l tl htl => ?_⟩
        obtain ⟨env, henv, hreach⟩ := hsome l { tl with env := env₀ }
          (by rw [htl, Option.map_some])
        refine ⟨env, henv, ?_⟩
        -- The team does not come once more.
        have hout : tid ∉ (s.setEnv l₀ env₀).resetReach exerciseTag teams := fun hmem =>
          hnot (List.takeWhile_subset _ hmem)
        rw [if_neg hout] at hreach
        obtain ⟨hl, -, htl⟩ := teamLab_eq_some_iff.mp htl
        obtain rfl : l₀ = l := Option.some.inj (hassigned.symm.trans hl)
        rw [if_pos List.mem_cons_self, hreach, ← htl, hreset]
      · -- Another team still has its own lab.
        rw [if_neg htid] at hnone hsome
        refine ⟨hnone, fun l tl htl => ?_⟩
        obtain ⟨env, henv, hreach⟩ := hsome l tl htl
        refine ⟨env, henv, ?_⟩
        simpa [htid] using hreach

/-- `ResetExercise` without a list keeps all teams marked exactly when it gets to no team that has
disabled the challenge. -/
theorem AllMarked.resetLabs_iff {exerciseTag : String} {teams : List String} (h : s.AllMarked)
    (hseparate : s.SeparateLabs) (hnodup : teams.Nodup)
    (hs : resetLabs exerciseTag s teams = some (s', err)) :
    s'.AllMarked ↔ ∀ tid l tl, s.teamLab tid = some (l, tl) →
      tid ∈ s.resetReach exerciseTag teams → tl.NotDisabled exerciseTag := by
  refine allMarked_iff_of_teamLab
    (fun tid tl => tid ∈ s.resetReach exerciseTag teams → tl.NotDisabled exerciseTag)
    (fun tid => (resetLabs_teamLab hnodup hseparate hs).1) fun tid l tl htl => ?_
  obtain ⟨env, henv, hreach⟩ := (resetLabs_teamLab hnodup hseparate hs).2 l tl htl
  refine ⟨{ tl with env := env }, henv, ?_⟩
  split at hreach
  · next hmem =>
    rw [forall_prop_of_true hmem]
    exact (h tid l tl htl).resetByTag_iff hreach
  · next hmem =>
    subst hreach
    exact iff_of_true (h tid l tl htl) fun hin => absurd hin hmem

/-- The rule of the loop over `req.Teams`: what each round keeps, the loop keeps. -/
theorem resetTeams_invariant {I : EventState → Prop} {exerciseTag : String}
    (hround : ∀ s tid l env t, I s → s.assigned.get? tid = some l →
      (s.env l).resetByTag exerciseTag = some (env, none) → s.teams.get? tid = some t →
      I (s.setTeamLab tid l { team := unmark t exerciseTag, env := env }))
    {teams : List String} (h : I s) (hs : resetTeams exerciseTag s teams = some (s', err)) :
    I s' := by
  induction teams generalizing s with
  | nil =>
    cases hs
    exact h
  | cons tid teams ih =>
    rw [EventState.resetTeams] at hs
    split at hs
    · exact ih h hs
    next l hl =>
    split at hs
    · cases hs
    · cases hs
      exact h
    · cases hs
    · next env t hreset ht => exact ih (hround s tid l env t h hl hreset ht) hs

/-- The rule of the loop over `ev.GetTeams()`. -/
theorem resetLabs_invariant {I : EventState → Prop} {exerciseTag : String}
    (hround : ∀ s l env, I s → (s.env l).resetByTag exerciseTag = some (env, none) →
      I (s.setEnv l env))
    {teams : List String} (h : I s) (hs : resetLabs exerciseTag s teams = some (s', err)) :
    I s' := by
  induction teams generalizing s with
  | nil =>
    cases hs
    exact h
  | cons tid teams ih =>
    rw [EventState.resetLabs] at hs
    split at hs
    · exact ih h hs
    next l hl =>
    split at hs
    · cases hs
    · cases hs
      exact h
    · next env hreset => exact ih (hround s l env h hreset) hs

/-- `ResetExercise` with a list keeps all teams marked. -/
theorem AllMarked.resetTeams {exerciseTag : String} {teams : List String} (h : s.AllMarked)
    (hseparate : s.SeparateLabs) (hs : resetTeams exerciseTag s teams = some (s', err)) :
    s'.AllMarked := by
  refine (resetTeams_invariant (I := fun s => s.AllMarked ∧ s.SeparateLabs) ?_
    ⟨h, hseparate⟩ hs).1
  rintro s tid l env t ⟨h, hseparate⟩ hl hreset ht
  -- One round of the loop is the reset that a team can ask for itself.
  have htl : s.teamLab tid = some (l, { team := t, env := s.env l }) :=
    teamLab_eq_some_iff.mpr ⟨hl, ht, rfl⟩
  have hhook : TeamLab.resetHook { team := t, env := s.env l } exerciseTag =
      some ({ team := unmark t exerciseTag, env := env }, none) := by
    rw [TeamLab.resetHook, hreset, Option.map_some]
  exact ⟨(h.setTeamLab_iff hseparate hl).mpr ((h tid l _ htl).resetHook hhook), hseparate⟩

/-- `RestartTeamLab` keeps all teams marked exactly when the team has disabled no challenge. -/
theorem AllMarked.restartTeamLab_iff (h : s.AllMarked) (hseparate : s.SeparateLabs)
    (hs : s.restartTeamLab tid = some (s', err)) :
    s'.AllMarked ↔ ∀ l tl, s.teamLab tid = some (l, tl) → tl.NoneDisabled := by
  rw [restartTeamLab] at hs
  split at hs
  · next hl =>
    -- The team has no lab, and nothing happens.
    obtain ⟨rfl, -⟩ := Prod.mk.inj (Option.some.inj hs)
    refine iff_of_true h fun l tl htl => ?_
    rw [(teamLab_eq_some_iff.mp htl).1] at hl
    cases hl
  · next l₀ hl₀ =>
    obtain ⟨env, hreset, hs'⟩ := Option.map_eq_some_iff.mp hs
    obtain ⟨rfl, -⟩ := Prod.mk.inj hs'
    rw [h.setEnv_iff hseparate hl₀]
    constructor
    · intro hmarked l tl htl
      obtain ⟨hl, -, henv⟩ := teamLab_eq_some_iff.mp htl
      obtain rfl : l₀ = l := Option.some.inj (hl₀.symm.trans hl)
      exact (TeamLab.reset_iff (henv ▸ hreset)).mp (hmarked tl htl)
    · intro hnone tl htl
      have henv := (teamLab_eq_some_iff.mp htl).2.2
      exact (TeamLab.reset_iff (henv ▸ hreset)).mpr (hnone l₀ tl htl)

/-! ### An added challenge -/

/-- A lab that took the exercises, or refused them, is left alone by the second loop. -/
theorem addToAssigned_env {newFlag : Nat → String → Nat → Nat → String}
    {exers : List Store.Exercise} {childrenChalTags : GoMap String (List String)}
    {rest : List (String × Nat)} {addChalError : Option String}
    (htwice : ∀ e ∈ rest, (Lab.addChallenge (newFlag e.2) (s.env e.2) exers).1 = s.env e.2)
    (hs : addToAssigned newFlag exers childrenChalTags s addChalError rest = some (s', err)) :
    s'.env = s.env := by
  induction rest generalizing s addChalError with
  | nil =>
    cases hs
    rfl
  | cons entry rest ih =>
    obtain ⟨tid, l⟩ := entry
    rw [addToAssigned] at hs
    split at hs
    swap
    · cases hs
    next ee err₁ t hlab _ =>
    -- The lab stays as it is, so the rest of the loop has the same environments.
    obtain rfl : s.env l = ee := by
      rw [← htwice (tid, l) List.mem_cons_self, hlab]
    rw [Function.update_eq_self] at hs
    have hteams : ∀ teams, ∀ e ∈ rest, (Lab.addChallenge (newFlag e.2)
        ({ s with teams := teams }.env e.2) exers).1 = { s with teams := teams }.env e.2 :=
      fun _ e he => htwice e (List.mem_cons_of_mem _ he)
    have hrest := ih (hteams _) hs
    exact hrest

/-- The second loop disables no challenge, and enables none. -/
theorem addToAssigned_disabledChallenges {newFlag : Nat → String → Nat → Nat → String}
    {exers : List Store.Exercise} {childrenChalTags : GoMap String (List String)}
    {rest : List (String × Nat)} {addChalError : Option String}
    (hs : addToAssigned newFlag exers childrenChalTags s addChalError rest = some (s', err))
    (tid : String) :
    (s'.teams.get? tid).map TeamExercises.disabledChallenges =
      (s.teams.get? tid).map TeamExercises.disabledChallenges := by
  induction rest generalizing s addChalError with
  | nil =>
    cases hs
    rfl
  | cons entry rest ih =>
    obtain ⟨tid₀, l⟩ := entry
    rw [addToAssigned] at hs
    split at hs
    · next ee err₁ t hlab ht =>
      -- The team gets challenges and parents only.
      rw [ih hs, GoMap.get?_set]
      split
      · next htid =>
        subst htid
        rw [ht]
        rfl
      · rfl
    · cases hs

/-- The exercises that a request adds: none when it stops before the first loop. -/
def addedExercises (s : EventState) (req : AddChallengeRequest) : List Store.Exercise :=
  match s.beginAddChallenge req with
  | .error _ => []
  | .ok (_, call) => call.exers

/-- The first loop of `AddChallenge` changes the labs and nothing else. -/
theorem beginAddChallenge_env {req : AddChallengeRequest} {call : AddChallengeCall}
    (h : s.beginAddChallenge req = .ok (s', call)) :
    s'.env = (addToLabs req.newFlag call.exers s.env none s.labs).1 ∧
      s.addedExercises req = call.exers ∧ s' = { s with env := s'.env } := by
  have hs' := (beginAddChallenge_eq_ok h).2.2.2
  rw [addedExercises, h]
  refine ⟨?_, rfl, hs'⟩
  unfold beginAddChallenge at h
  split at h
  · cases h
  split at h
  · cases h
  · cases h
    rfl

/-- The end of a request has the environments and the teams of its second loop. -/
theorem finishAddChallenge_run {req : AddChallengeRequest} {call : AddChallengeCall}
    (h : s.finishAddChallenge req call = some (s', err)) :
    ∃ s₂ err₂, addToAssigned req.newFlag call.exers call.childrenChalTags s call.addChalError
        s.assigned.pairs = some (s₂, err₂) ∧ s'.env = s₂.env ∧ s'.teams = s₂.teams := by
  obtain ⟨s₂, err₂, hrun, hend⟩ := finishAddChallenge_cases h
  refine ⟨s₂, err₂, hrun, ?_⟩
  rcases hend with ⟨text, -, rfl, -⟩ | ⟨-, -, rfl⟩
  · exact ⟨rfl, rfl⟩
  · exact ⟨rfl, rfl⟩

/-- A request adds its exercises to the labs of the hub, where the labs of the teams are. -/
theorem addChallenge_env {req : AddChallengeRequest} (hnodup : s.labs.Nodup)
    (hassigned : ∀ tid l, s.assigned.get? tid = some l → l ∈ s.labs)
    (hs : s.addChallenge req = some (s', err)) (l : Nat) :
    s'.env l = if l ∈ s.labs then
      (Lab.addChallenge (req.newFlag l) (s.env l) (s.addedExercises req)).1 else s.env l := by
  rw [addChallenge] at hs
  split at hs
  · next err₁ hbegin =>
    -- The request returned before the first loop, so it adds nothing.
    obtain ⟨rfl, -⟩ := Prod.mk.inj (Option.some.inj hs)
    have hnil : s.addedExercises req = [] := by rw [addedExercises, hbegin]
    rw [hnil]
    exact (ite_self _).symm
  next s₁ call hbegin =>
  obtain ⟨henv₁, hexers, hs₁⟩ := beginAddChallenge_env hbegin
  obtain ⟨s₂, err₂, hrun, henv, -⟩ := finishAddChallenge_run hs
  have hfirst : ∀ l, s₁.env l = if l ∈ s.labs then
      (Lab.addChallenge (req.newFlag l) (s.env l) call.exers).1 else s.env l := by
    intro l
    rw [henv₁, addToLabs_env hnodup]
  -- The first loop was at the lab of each team, so the second loop changes no environment.
  have htwice : s₂.env = s₁.env := by
    refine addToAssigned_env (fun e he => ?_) hrun
    rw [hs₁] at he
    have hmem : e.2 ∈ s.labs := hassigned e.1 e.2 (GoMap.mem_pairs.mp he)
    rw [hfirst, if_pos hmem, Lab.addChallenge_fst_twice]
  rw [henv, htwice, hfirst, hexers]

/-- A request disables no challenge of a team, and enables none. -/
theorem addChallenge_disabledChallenges {req : AddChallengeRequest}
    (hs : s.addChallenge req = some (s', err)) (tid : String) :
    (s'.teams.get? tid).map TeamExercises.disabledChallenges =
      (s.teams.get? tid).map TeamExercises.disabledChallenges := by
  rw [addChallenge] at hs
  split at hs
  · cases hs
    rfl
  · next s₁ call hbegin =>
    obtain ⟨-, -, hs₁⟩ := beginAddChallenge_env hbegin
    obtain ⟨s₂, err₂, hrun, -, hteams⟩ := finishAddChallenge_run hs
    have hmarks := addToAssigned_disabledChallenges hrun tid
    rwa [← hteams, hs₁] at hmarks

/-- `AddChallenge` leaves the setup of the event alone. -/
theorem addChallenge_frame {req : AddChallengeRequest}
    (hs : s.addChallenge req = some (s', err)) :
    s'.labs = s.labs ∧ s'.assigned = s.assigned ∧
      s'.disabledChallenges = s.disabledChallenges ∧
      s'.labHost.conf.disabledExercises = s.labHost.conf.disabledExercises := by
  rw [addChallenge] at hs
  split at hs
  · cases hs
    exact ⟨rfl, rfl, rfl, rfl⟩
  · next s₁ call hbegin =>
    obtain ⟨-, -, hs₁⟩ := beginAddChallenge_env hbegin
    rw [finishAddChallenge_eq_some hs, hs₁]
    refine ⟨rfl, rfl, rfl, ?_⟩
    cases req.updateErr <;> rfl

/-- A request keeps all teams marked exactly when each exercise that it makes in the lab of a team
is disabled for the team just when it is not started. -/
theorem AllMarked.addChallenge_iff {req : AddChallengeRequest} (h : s.AllMarked)
    (hnodup : s.labs.Nodup) (hassigned : ∀ tid l, s.assigned.get? tid = some l → l ∈ s.labs)
    (hs : s.addChallenge req = some (s', err)) :
    s'.AllMarked ↔ ∀ tid l tl, s.teamLab tid = some (l, tl) →
      Lab.AddsMarked tl.env (s.addedExercises req) fun tag =>
        tag ∈ tl.team.disabledChallenges := by
  have hteamLab := fun tid => teamLab_of_disabledChallenges tid
    (addChallenge_frame hs).2.1 (addChallenge_disabledChallenges hs tid)
  refine allMarked_iff_of_teamLab
    (fun _ tl => Lab.AddsMarked tl.env (s.addedExercises req) fun tag =>
      tag ∈ tl.team.disabledChallenges) (fun tid => (hteamLab tid).1) fun tid l tl htl => ?_
  obtain ⟨t, htl', hmarks⟩ := (hteamLab tid).2 l tl htl
  obtain ⟨hl, -, henv⟩ := teamLab_eq_some_iff.mp htl
  refine ⟨_, htl', ?_⟩
  simp only [TeamLab.Marked, hmarks]
  rw [addChallenge_env hnodup hassigned hs, if_pos (hassigned tid l hl), henv]
  exact Lab.marked_addChallenge_iff (h tid l tl htl)

end EventState

end Haaukins.Daemon
