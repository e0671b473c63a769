import Haaukins.Daemon.ResetExercise

/-!
# `Haaukins.Daemon.ResetBranches`: the two branches of `ResetExercise` (`daemon/exercise.go`)

`ResetExercise` has one loop for the teams of the request, and another one for a request without
teams. Both reset the labs and stream a status for each team.

* `streamTeams` and `streamLabs` are the loops with the messages that they send. Without the
  messages they are `resetTeams` and `resetLabs`.
* `streamTeams_eq` and `streamLabs_eq` say what the loops do when each reset succeeds. A reset
  can be made twice, so the order of the teams and a shared lab make no difference.
* `streamResetExercise_same_iff` compares the two: only the loop over the request takes the
  exercise out of the disabled challenges.
-/

set_option autoImplicit false

namespace Haaukins.Daemon

open Amigo.TeamLab (mem_unmark unmark)
open Exercise (Environment LabExercise)
open Store (TeamExercises)

/-- `pb.ResetTeamStatus`. -/
structure ResetTeamStatus where
  teamId : String
  status : String
  deriving DecidableEq

/-- A finished request: the state of the event, the messages of the stream and the error. -/
abbrev Streamed := EventState × List ResetTeamStatus × Option String

/-- `stream.Send`, before the rest of the loop. -/
def send (tid status : String) (rest : Streamed) : Streamed :=
  (rest.1, { teamId := tid, status := status } :: rest.2.1, rest.2.2)

namespace EventState

variable (s : EventState)

/-- The loop of `ResetExercise` over the teams of `req.Teams`. -/
def streamTeams (exerciseTag : String) : EventState → List String → Option Streamed
  | s, [] => some (s, [], none)
  | s, tid :: teams =>
    match s.assigned.get? tid with
    | none => (streamTeams exerciseTag s teams).map (send tid "?")
    | some l =>
      match (s.env l).resetByTag exerciseTag, s.teams.get? tid with
      | none, _ => none
      | some (_, some err), _ => some (s, [], some err)
      | some (_, none), none => none
      | some (env, none), some t =>
        (streamTeams exerciseTag
          (s.setTeamLab tid l { team := unmark t exerciseTag, env := env }) teams).map
            (send tid "ok")

/-- The loop of `ResetExercise` over `ev.GetTeams()`. -/
def streamLabs (exerciseTag : String) : EventState → List String → Option Streamed
  | s, [] => some (s, [], none)
  | s, tid :: teams =>
    match s.assigned.get? tid with
    | none => (streamLabs exerciseTag s teams).map (send tid "?")
    | some l =>
      match (s.env l).resetByTag exerciseTag with
      | none => none
      | some (_, some err) => some (s, [], some err)
      | some (env, none) =>
        (streamLabs exerciseTag (s.setEnv l env) teams).map (send tid "ok")

/-- `ResetExercise`. The empty list of teams is nil. -/
def streamResetExercise (exerciseTag : String) (reqTeams getTeams : List String) :
    Option Streamed :=
  if reqTeams = [] then streamLabs exerciseTag s getTeams
  else streamTeams exerciseTag s reqTeams

variable {s} {s' : EventState} {exerciseTag : String}

/-! ### The loops without their messages -/

/-- Without its messages the loop is the one of `resetTeams`. -/
theorem streamTeams_state (s : EventState) (teams : List String) :
    (streamTeams exerciseTag s teams).map (fun r => (r.1, r.2.2)) =
      resetTeams exerciseTag s teams := by
  induction teams generalizing s with
  | nil => rfl
  | cons tid teams ih =>
    rw [streamTeams, resetTeams]
    cases s.assigned.get? tid with
    | none =>
      rw [← ih s, Option.map_map]
      rfl
    | some l =>
      dsimp only
      cases (s.env l).resetByTag exerciseTag with
      | none => rfl
      | some answer =>
        obtain ⟨env, err⟩ := answer
        cases err with
        | some err => rfl
        | none =>
          cases s.teams.get? tid with
          | none => rfl
          | some t =>
            simp only
            rw [← ih, Option.map_map]
            rfl

/-- Without its messages the loop is the one of `resetLabs`. -/
theorem streamLabs_state (s : EventState) (teams : List String) :
    (streamLabs exerciseTag s teams).map (fun r => (r.1, r.2.2)) =
      resetLabs exerciseTag s teams := by
  induction teams generalizing s with
  | nil => rfl
  | cons tid teams ih =>
    rw [streamLabs, resetLabs]
    cases s.assigned.get? tid with
    | none =>
      rw [← ih s, Option.map_map]
      rfl
    | some l =>
      dsimp only
      cases (s.env l).resetByTag exerciseTag with
      | none => rfl
      | some answer =>
        obtain ⟨env, err⟩ := answer
        cases err with
        | some err => rfl
        | none =>
          simp only
          rw [← ih, Option.map_map]
          rfl

/-- The messages come on top of `ResetExercise`. -/
theorem streamResetExercise_state (s : EventState) (reqTeams getTeams : List String) :
    (s.streamResetExercise exerciseTag reqTeams getTeams).map (fun r => (r.1, r.2.2)) =
      s.resetExercise exerciseTag reqTeams getTeams := by
  unfold streamResetExercise resetExercise
  split
  · exact streamLabs_state s getTeams
  · exact streamTeams_state s reqTeams

/-! ### What the loops do -/

/-- `ResetByTag` succeeds in the lab of each of the teams that has one. -/
def ResetsSucceed (s : EventState) (exerciseTag : String) (teams : List String) : Prop :=
  ∀ tid ∈ teams, ∀ l, s.assigned.get? tid = some l →
    ∃ env, (s.env l).resetByTag exerciseTag = some (env, none)

/-- The environments after `ResetByTag` in the labs of the teams. -/
def resetEnvs (s : EventState) (exerciseTag : String) (teams : List String) :
    Nat → Environment := fun l =>
  if ∃ tid ∈ teams, s.assigned.get? tid = some l then
    (s.env l).mapTag exerciseTag (fun e => e.reset.getD e) LabExercise.reset_getD_tag
  else s.env l

/-- The message on a team. -/
def resetStatus (s : EventState) (tid : String) : ResetTeamStatus where
  teamId := tid
  status := if tid ∈ s.assigned then "ok" else "?"

/-- The rest of the teams. -/
theorem ResetsSucceed.of_cons {tid : String} {teams : List String}
    (h : s.ResetsSucceed exerciseTag (tid :: teams)) : s.ResetsSucceed exerciseTag teams :=
  fun tid' htid' => h tid' (List.mem_cons_of_mem tid htid')

/-- A replaced lab is the new one. -/
theorem setEnv_env_self (s : EventState) (l : Nat) (env : Environment) :
    (s.setEnv l env).env l = env := by
  show Function.update s.env l env l = env
  rw [Function.update_self]

/-- The other labs are the old ones. -/
theorem setEnv_env_of_ne (s : EventState) {l l' : Nat} (h : l' ≠ l) (env : Environment) :
    (s.setEnv l env).env l' = s.env l' := by
  show Function.update s.env l env l' = s.env l'
  rw [Function.update_of_ne h]

/-- A lab that was reset is reset once more in the same way. -/
theorem ResetsSucceed.setEnv {l : Nat} {env : Environment} {teams : List String}
    (h : s.ResetsSucceed exerciseTag teams)
    (hreset : (s.env l).resetByTag exerciseTag = some (env, none)) :
    (s.setEnv l env).ResetsSucceed exerciseTag teams := by
  intro tid htid l' hl'
  by_cases hl : l' = l
  · subst hl
    rw [setEnv_env_self]
    exact ⟨env, Environment.resetByTag_twice hreset⟩
  · rw [setEnv_env_of_ne s hl]
    exact h tid htid l' hl'

/-- A team without a lab cannot fail. -/
theorem ResetsSucceed.cons_of_none {tid : String} {teams : List String}
    (hnone : s.assigned.get? tid = none) (h : s.ResetsSucceed exerciseTag teams) :
    s.ResetsSucceed exerciseTag (tid :: teams) := by
  intro tid' htid' l' hl'
  rcases List.mem_cons.mp htid' with rfl | htid'
  · rw [hnone] at hl'
    cases hl'
  · exact h tid' htid' l' hl'

/-- The first lab is reset, and then the labs of the rest. -/
theorem ResetsSucceed.cons_of_some {tid : String} {l : Nat} {env : Environment}
    {teams : List String} (hl : s.assigned.get? tid = some l)
    (hreset : (s.env l).resetByTag exerciseTag = some (env, none))
    (h : (s.setEnv l env).ResetsSucceed exerciseTag teams) :
    s.ResetsSucceed exerciseTag (tid :: teams) := by
  intro tid' htid' l' hl'
  by_cases hsame : l' = l
  · exact hsame ▸ ⟨env, hreset⟩
  · -- Another lab is as it was before the round.
    rcases List.mem_cons.mp htid' with rfl | htid'
    · exact absurd (Option.some.inj (hl'.symm.trans hl)) hsame
    · have hothers := h tid' htid' l' hl'
      rwa [setEnv_env_of_ne s hsame] at hothers

/-- No team, no reset. -/
theorem resetEnvs_nil (s : EventState) (exerciseTag : String) :
    s.resetEnvs exerciseTag [] = s.env := by
  funext l
  simp [resetEnvs]

/-- A team without a lab resets nothing. -/
theorem resetEnvs_cons_of_none {tid : String} (hnone : s.assigned.get? tid = none)
    (teams : List String) :
    s.resetEnvs exerciseTag (tid :: teams) = s.resetEnvs exerciseTag teams := by
  funext l
  simp only [resetEnvs, List.exists_mem_cons_iff, hnone, reduceCtorEq, false_or]

/-- One round of a loop, and the rounds after it. -/
theorem resetEnvs_cons_of_some {tid : String} {l : Nat} {env : Environment}
    (hl : s.assigned.get? tid = some l)
    (hreset : (s.env l).resetByTag exerciseTag = some (env, none)) (teams : List String) :
    (s.setEnv l env).resetEnvs exerciseTag teams = s.resetEnvs exerciseTag (tid :: teams) := by
  have henv := Environment.resetByTag_eq_mapTag hreset
  have htwice := Environment.resetByTag_eq_mapTag (Environment.resetByTag_twice hreset)
  funext l'
  have hassigned : (s.setEnv l env).assigned = s.assigned := rfl
  simp only [resetEnvs, List.exists_mem_cons_iff, hl, Option.some.injEq, hassigned]
  by_cases hl' : l' = l
  · subst hl'
    rw [setEnv_env_self, ← htwice, ite_self, if_pos (.inl rfl), henv]
  · rw [setEnv_env_of_ne s hl']
    simp only [eq_comm (a := l), hl', false_or]

/-- The loop over `ev.GetTeams()` resets the labs of the teams, and touches nothing else. -/
theorem streamLabs_eq {teams : List String} (h : s.ResetsSucceed exerciseTag teams) :
    streamLabs exerciseTag s teams =
      some ({ s with env := s.resetEnvs exerciseTag teams }, teams.map s.resetStatus, none) := by
  induction teams generalizing s with
  | nil =>
    rw [resetEnvs_nil]
    rfl
  | cons tid teams ih =>
    rw [streamLabs]
    cases hl : s.assigned.get? tid with
    | none =>
      have hstatus : s.resetStatus tid = { teamId := tid, status := "?" } := by
        rw [resetStatus, if_neg (GoMap.get?_eq_none.mp hl)]
      simp only [ih h.of_cons, resetEnvs_cons_of_none hl, Option.map_some, send, List.map_cons,
        hstatus]
    | some l =>
      obtain ⟨env, hreset⟩ := h tid List.mem_cons_self l hl
      have hstatus : s.resetStatus tid = { teamId := tid, status := "ok" } := by
        rw [resetStatus, if_pos (GoMap.mem_iff_get?.mpr ⟨l, hl⟩)]
      have hrest := ih (h.of_cons.setEnv hreset)
      rw [resetEnvs_cons_of_some hl hreset] at hrest
      simp only [hreset, hrest, Option.map_some, send, List.map_cons, hstatus]
      rfl

/-- A request without teams returns nil exactly when each reset succeeds. -/
theorem streamLabs_ok_iff {teams : List String} :
    (∃ s' messages, streamLabs exerciseTag s teams = some (s', messages, none)) ↔
      s.ResetsSucceed exerciseTag teams := by
  constructor
  · induction teams generalizing s with
    | nil => exact fun _ tid htid => absurd htid List.not_mem_nil
    | cons tid teams ih =>
      rintro ⟨s', messages, hs⟩
      rw [streamLabs] at hs
      split at hs
      · next hnone =>
        obtain ⟨⟨s₁, messages₁, err₁⟩, hrest, hsend⟩ := Option.map_eq_some_iff.mp hs
        obtain rfl : err₁ = none := congrArg (fun r => r.2.2) hsend
        exact .cons_of_none hnone (ih ⟨s₁, messages₁, hrest⟩)
      next l hl =>
      split at hs
      · cases hs
      · cases hs
      next env hreset =>
      obtain ⟨⟨s₁, messages₁, err₁⟩, hrest, hsend⟩ := Option.map_eq_some_iff.mp hs
      obtain rfl : err₁ = none := congrArg (fun r => r.2.2) hsend
      exact .cons_of_some hl hreset (ih ⟨s₁, messages₁, hrest⟩)
  · intro h
    exact ⟨_, _, streamLabs_eq h⟩

/-- The team after its round of the loop over `req.Teams`. -/
def unmarkListed (s : EventState) (exerciseTag : String) (teams : List String) (tid : String)
    (t : TeamExercises) : TeamExercises :=
  if tid ∈ teams ∧ tid ∈ s.assigned then unmark t exerciseTag else t

/-- A mark is taken away once. -/
theorem unmark_unmark (t : TeamExercises) (tag : String) :
    unmark (unmark t tag) tag = unmark t tag := by
  have hnot : tag ∉ (unmark t tag).disabledChallenges := by simp [mem_unmark]
  rw [unmark, if_neg hnot]

/-- No team, no change. -/
theorem unmarkListed_nil (s : EventState) (exerciseTag tid : String) :
    s.unmarkListed exerciseTag [] tid = id := by
  funext t
  simp [unmarkListed]

/-- A team without a lab keeps its mark. -/
theorem unmarkListed_cons_of_none {tid₀ : String} (hnone : s.assigned.get? tid₀ = none)
    (teams : List String) (tid : String) :
    s.unmarkListed exerciseTag (tid₀ :: teams) tid = s.unmarkListed exerciseTag teams tid := by
  -- The team in front has no lab, so it keeps its challenges.
  have hnot : tid₀ ∉ s.assigned := GoMap.get?_eq_none.mp hnone
  funext t
  by_cases htid : tid = tid₀
  · subst htid
    simp [unmarkListed, hnot]
  · simp [unmarkListed, htid]

/-- One round of the loop over `req.Teams`, and the rounds after it. -/
theorem unmarkListed_cons_of_some {tid₀ : String} {l : Nat} {t₀ : TeamExercises}
    (hl : s.assigned.get? tid₀ = some l) (ht₀ : s.teams.get? tid₀ = some t₀) (env : Environment)
    (teams : List String) (tid : String) :
    let s₁ := s.setTeamLab tid₀ l { team := unmark t₀ exerciseTag, env := env }
    (s₁.teams.get? tid).map (s₁.unmarkListed exerciseTag teams tid) =
      (s.teams.get? tid).map (s.unmarkListed exerciseTag (tid₀ :: teams) tid) := by
  intro s₁
  have hassigned : tid₀ ∈ s.assigned := GoMap.mem_iff_get?.mpr ⟨l, hl⟩
  have hset : s₁.teams.get? tid =
      if tid = tid₀ then some (unmark t₀ exerciseTag) else s.teams.get? tid := GoMap.get?_set ..
  rw [hset]
  by_cases htid : tid = tid₀
  · subst htid
    rw [if_pos rfl, ht₀, Option.map_some, Option.map_some]
    have hmarks : ∀ t, s.unmarkListed exerciseTag (tid :: teams) tid t = unmark t exerciseTag :=
      fun t => if_pos ⟨List.mem_cons_self, hassigned⟩
    rw [hmarks, unmarkListed, unmark_unmark, ite_self]
  · rw [if_neg htid]
    have hlisted : s₁.unmarkListed exerciseTag teams tid =
        s.unmarkListed exerciseTag (tid₀ :: teams) tid := by
      funext t
      have hsame : s₁.assigned = s.assigned := rfl
      simp [unmarkListed, hsame, htid]
    rw [hlisted]

/-- The loop over `req.Teams` resets the labs of the teams, and takes the exercise out of the
disabled challenges of the teams that have a lab. -/
theorem streamTeams_eq {teams : List String} (h : s.ResetsSucceed exerciseTag teams)
    (hteams : ∀ tid ∈ teams, tid ∈ s.teams) :
    ∃ s', streamTeams exerciseTag s teams = some (s', teams.map s.resetStatus, none) ∧
      s' = { s with env := s.resetEnvs exerciseTag teams, teams := s'.teams } ∧
      ∀ tid, s'.teams.get? tid =
        (s.teams.get? tid).map (s.unmarkListed exerciseTag teams tid) := by
  induction teams generalizing s with
  | nil =>
    refine ⟨s, rfl, by rw [resetEnvs_nil], fun tid => ?_⟩
    rw [unmarkListed_nil, Option.map_id_fun, id]
  | cons tid₀ teams ih =>
    have hrest : ∀ tid ∈ teams, tid ∈ s.teams := fun tid htid =>
      hteams tid (List.mem_cons_of_mem tid₀ htid)
    cases hl : s.assigned.get? tid₀ with
    | none =>
      have hstatus : s.resetStatus tid₀ = { teamId := tid₀, status := "?" } := by
        rw [resetStatus, if_neg (GoMap.get?_eq_none.mp hl)]
      obtain ⟨s', hrun, hs', hget⟩ := ih h.of_cons hrest
      refine ⟨s', ?_, by rw [resetEnvs_cons_of_none hl]; exact hs', fun tid => ?_⟩
      · simp only [streamTeams, hl, hrun, Option.map_some, send, List.map_cons, hstatus]
      · rw [hget, unmarkListed_cons_of_none hl]
    | some l =>
      obtain ⟨env, hreset⟩ := h tid₀ List.mem_cons_self l hl
      obtain ⟨t₀, ht₀⟩ := GoMap.mem_iff_get?.mp (hteams tid₀ List.mem_cons_self)
      have hassigned : tid₀ ∈ s.assigned := GoMap.mem_iff_get?.mpr ⟨l, hl⟩
      have hstatus : s.resetStatus tid₀ = { teamId := tid₀, status := "ok" } := by
        rw [resetStatus, if_pos hassigned]
      -- The environments are those of the other loop.
      obtain ⟨s', hrun, hs', hget⟩ := ih
        (s := s.setTeamLab tid₀ l { team := unmark t₀ exerciseTag, env := env })
        (h.of_cons.setEnv hreset) fun tid htid => GoMap.mem_set.mpr (.inr (hrest tid htid))
      have henvs : (s.setTeamLab tid₀ l { team := unmark t₀ exerciseTag, env := env }).resetEnvs
          exerciseTag teams = s.resetEnvs exerciseTag (tid₀ :: teams) :=
        resetEnvs_cons_of_some hl hreset teams
      refine ⟨s', ?_, ?_, fun tid => ?_⟩
      · simp only [streamTeams, hl, hreset, ht₀, hrun, Option.map_some, send, List.map_cons,
          hstatus]
        rfl
      · rw [henvs] at hs'
        exact hs'
      · rw [hget]
        exact unmarkListed_cons_of_some hl ht₀ env teams tid

/-! ### All teams, or the list of all teams -/

/-- The labs are in the same state, and the teams have disabled the same challenges. -/
structure SameLabsAndMarks (s₁ s₂ : EventState) : Prop where
  env : s₁.env = s₂.env
  disabledChallenges : ∀ tid parentTag,
    (s₁.teams.get? tid).map (fun t => t.disabledChallenges.get? parentTag) =
      (s₂.teams.get? tid).map fun t => t.disabledChallenges.get? parentTag

/-- Two requests return nil, leave the same labs and disabled challenges, and have sent the same
messages in some order. -/
def SameReset (r₁ r₂ : Option Streamed) : Prop :=
  ∃ s₁ messages₁ s₂ messages₂, r₁ = some (s₁, messages₁, none) ∧ r₂ = some (s₂, messages₂, none) ∧
    SameLabsAndMarks s₁ s₂ ∧ messages₁.Perm messages₂

/-- The disabled challenges after two such requests can be read off either one. -/
theorem SameReset.marks {r₁ r₂ : Option Streamed} (h : SameReset r₁ r₂) (tid parentTag : String) :
    (r₁.map fun r => (r.1.teams.get? tid).map fun t => t.disabledChallenges.get? parentTag) =
      r₂.map fun r => (r.1.teams.get? tid).map fun t => t.disabledChallenges.get? parentTag := by
  obtain ⟨s₁, messages₁, s₂, messages₂, rfl, rfl, hsame, -⟩ := h
  exact congrArg some (hsame.disabledChallenges tid parentTag)

/-- Taking a mark away is seen at its tag alone. -/
theorem get?_unmark (t : TeamExercises) (tag parentTag : String) :
    (unmark t tag).disabledChallenges.get? parentTag =
      if parentTag = tag then none else t.disabledChallenges.get? parentTag := by
  unfold unmark
  by_cases hmem : tag ∈ t.disabledChallenges
  · rw [if_pos hmem, TeamExercises.manageDisabledChals, if_pos hmem]
    exact GoMap.get?_delete ..
  · rw [if_neg hmem]
    split
    · next heq => rw [heq, GoMap.get?_eq_none.mpr hmem]
    · rfl

/-- The order of the teams does not count. -/
theorem resetEnvs_perm {teams teams' : List String} (h : teams.Perm teams') :
    s.resetEnvs exerciseTag teams = s.resetEnvs exerciseTag teams' := by
  funext l
  simp only [resetEnvs, h.mem_iff]

/-- When each reset succeeds, a request without teams does the same as one that lists all teams,
if and only if no team with a lab has disabled the exercise. -/
theorem streamResetExercise_same_iff (s : EventState) (exerciseTag : String)
    (reqTeams getTeams getTeams' : List String) (hreq : reqTeams.Perm s.teams.keys)
    (hget : getTeams.Perm s.teams.keys) (hget' : getTeams'.Perm s.teams.keys)
    (hsucceed : s.ResetsSucceed exerciseTag s.teams.keys) :
    SameReset (s.streamResetExercise exerciseTag [] getTeams)
        (s.streamResetExercise exerciseTag reqTeams getTeams') ↔
      ∀ tid t, s.teams.get? tid = some t → tid ∈ s.assigned →
        exerciseTag ∉ t.disabledChallenges := by
  have hsucceed₁ : s.ResetsSucceed exerciseTag getTeams := fun tid htid =>
    hsucceed tid (hget.mem_iff.mp htid)
  have hlabs : s.streamResetExercise exerciseTag [] getTeams = _ := streamLabs_eq hsucceed₁
  by_cases hnil : reqTeams = []
  · -- An event without teams: the list is empty, and both requests take the same branch.
    have hkeys : s.teams.keys = [] := List.nil_perm.mp (hnil ▸ hreq)
    rw [hkeys] at hget hget'
    obtain rfl := List.perm_nil.mp hget
    obtain rfl := List.perm_nil.mp hget'
    rw [hnil, hlabs]
    refine iff_of_true ⟨_, _, _, _, rfl, rfl, ⟨rfl, fun _ _ => rfl⟩, .refl _⟩ fun tid t ht _ => ?_
    have hmem : tid ∈ s.teams.keys := AList.mem_keys.mp (GoMap.mem_iff_get?.mpr ⟨t, ht⟩)
    rw [hkeys] at hmem
    cases hmem
  · have hsucceed₂ : s.ResetsSucceed exerciseTag reqTeams := fun tid htid =>
      hsucceed tid (hreq.mem_iff.mp htid)
    obtain ⟨s', hrun, hs', hteams⟩ := streamTeams_eq hsucceed₂ fun tid htid =>
      AList.mem_keys.mpr (hreq.mem_iff.mp htid)
    have hlist : s.streamResetExercise exerciseTag reqTeams getTeams' = _ :=
      (if_neg hnil).trans hrun
    have hmessages : (getTeams.map s.resetStatus).Perm (reqTeams.map s.resetStatus) :=
      (hget.trans hreq.symm).map _
    have henv : s.resetEnvs exerciseTag getTeams = s'.env := by
      rw [hs', resetEnvs_perm (hget.trans hreq.symm)]
    have hlisted : ∀ tid t, s.teams.get? tid = some t → tid ∈ reqTeams := fun tid t ht =>
      hreq.mem_iff.mpr (AList.mem_keys.mp (GoMap.mem_iff_get?.mpr ⟨t, ht⟩))
    rw [hlabs, hlist]
    constructor
    · rintro ⟨s₁, messages₁, s₂, messages₂, heq₁, heq₂, hsame, -⟩ tid t ht hassigned hmem
      obtain ⟨rfl, -⟩ := Prod.mk.inj (Option.some.inj heq₁)
      obtain ⟨rfl, -⟩ := Prod.mk.inj (Option.some.inj heq₂)
      have hmarks := hsame.disabledChallenges tid exerciseTag
      rw [hteams, ht, Option.map_some, Option.map_some, Option.map_some, unmarkListed,
        if_pos ⟨hlisted tid t ht, hassigned⟩, get?_unmark, if_pos rfl] at hmarks
      exact GoMap.get?_eq_none.mp (Option.some.inj hmarks) hmem
    · intro h
      refine ⟨_, _, _, _, rfl, rfl, ⟨henv, fun tid parentTag => ?_⟩, hmessages⟩
      rw [hteams]
      cases ht : s.teams.get? tid with
      | none => rfl
      | some t =>
        simp only [Option.map_some, Option.some.injEq, unmarkListed]
        split
        · next hboth =>
          -- The team did not have the exercise among the disabled challenges.
          rw [get?_unmark]
          split
          · next heq => rw [heq, GoMap.get?_eq_none.mpr (h tid t ht hboth.2)]
          · rfl
        · rfl

/-- An event with one team, whose lab has a stopped machine of the exercise "sql". -/
def sqlEvent (disabled : GoMap String (List String)) : EventState :=
  { newEventState [] [] [] [] with
    env := fun _ =>
      { exercises := [{ tag := "sql", containerOpts := [{ challenges := [] }], vboxOpts := []
                        net := true, machines := [.stopped] }]
        disabledExercises := []
        distinct := by decide }
    assigned := GoMap.set ∅ "ab" 0
    teams := GoMap.set ∅ "ab"
      (Store.newTeamExercises [] disabled (GoMap.set ∅ "sql" ["sql-1"])) }

/-- The machine of this event can be made again. -/
theorem resetsSucceed_sqlEvent (disabled : GoMap String (List String)) :
    (sqlEvent disabled).ResetsSucceed "sql" (sqlEvent disabled).teams.keys :=
  fun _ _ _ _ => ⟨_, rfl⟩

/-- A team that has stopped nothing. -/
def runningTeam : Store.TeamExercises :=
  Store.newTeamExercises [] ∅ (GoMap.set ∅ "sql" ["sql-1"])

/-- The same with a second team and its lab. -/
def twoSqlTeams : EventState :=
  { sqlEvent ∅ with
    assigned := (GoMap.set ∅ "ab" 0).set "cd" 1
    teams := (GoMap.set ∅ "ab" runningTeam).set "cd" runningTeam }

/-- Two teams, reset in one order and in the other. -/
theorem streamResetExercise_same_sql :
    SameReset (twoSqlTeams.streamResetExercise "sql" [] ["ab", "cd"])
      (twoSqlTeams.streamResetExercise "sql" ["cd", "ab"] ["ab", "cd"]) := by
  refine (streamResetExercise_same_iff twoSqlTeams "sql" ["cd", "ab"] ["ab", "cd"] ["ab", "cd"]
    (by decide) (by decide) (by decide) fun _ _ _ _ => ⟨_, rfl⟩).mpr fun tid t ht _ => ?_
  have hteam : t = runningTeam := by
    rw [show twoSqlTeams.teams = (GoMap.set ∅ "ab" runningTeam).set "cd" runningTeam from rfl,
      GoMap.get?_set, GoMap.get?_set, GoMap.get?_empty] at ht
    split at ht
    · exact (Option.some.inj ht).symm
    · split at ht
      · exact (Option.some.inj ht).symm
      · cases ht
  rw [hteam]
  exact AList.notMem_empty _

/-- The request without teams leaves the mark of an exercise whose machine runs again. -/
theorem streamResetExercise_not_same :
    ¬ ∀ (s : EventState) (exerciseTag : String) (reqTeams getTeams getTeams' : List String),
      reqTeams.Perm s.teams.keys → getTeams.Perm s.teams.keys → getTeams'.Perm s.teams.keys →
      s.ResetsSucceed exerciseTag s.teams.keys →
      SameReset (s.streamResetExercise exerciseTag [] getTeams)
        (s.streamResetExercise exerciseTag reqTeams getTeams') := by
  intro h
  have hsame := h (sqlEvent (GoMap.set ∅ "sql" ["sql-1"])) "sql" ["ab"] ["ab"] ["ab"] (.refl _)
    (.refl _) (.refl _) (resetsSucceed_sqlEvent _)
  have hmarks := hsame.marks "ab" "sql"
  revert hmarks
  decide

end EventState

end Haaukins.Daemon
