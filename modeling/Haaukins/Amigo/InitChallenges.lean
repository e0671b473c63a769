import Haaukins.Store.Team
import Haaukins.Store.TeamExercises

/-!
# `Haaukins.Amigo.InitChallenges`: the challenges page of a team (`svcs/amigo/table.go`)

`initChallenges` makes one row for each challenge. Its loop visits all teams of the team store,
for the list of the teams that have solved the challenge. The same loop marks the row as
disabled, for a challenge that any of the teams has disabled and not solved. Only the solved
challenges of the viewing team take this mark back.

`initChallenges_same_iff` compares the pages of one team in two team stores.
-/

set_option autoImplicit false

namespace Haaukins.Amigo

open Store

/-- A team of the team store, with its challenges. -/
structure TeamView where
  team : Team
  exercises : TeamExercises

namespace TeamView

variable (t : TeamView)

/-- `IsTeamSolvedChallenge`. -/
def isTeamSolvedChallenge (tag : String) : Option Time :=
  t.exercises.challenges.isTeamSolvedChallenge tag

/-- The team has disabled the challenge and not solved it. -/
def Disables (tag : String) : Prop :=
  tag ∈ t.exercises.getDisabledChals ∧ t.isTeamSolvedChallenge tag = none

instance (tag : String) : Decidable (t.Disables tag) :=
  inferInstanceAs (Decidable (_ ∧ _))

end TeamView

/-- `ChallengeCP`, a row of the page. -/
structure ChallengeCP where
  chalInfo : ChildrenChalConfig
  isUserCompleted : Bool
  /-- The names of the teams, and the times of their completions. -/
  teamsCompleted : List (String × Time)
  isDisabledChal : Bool

/-- The `challenges` message. -/
structure ChallengesMessage where
  values : List ChallengeCP
  isLabAssigned : Bool

/-- The body of the loop over the teams. -/
def ChallengeCP.visitTeam (tag : String) (r : ChallengeCP) (t : TeamView) : ChallengeCP :=
  let solved := t.isTeamSolvedChallenge tag
  { r with
    teamsCompleted := r.teamsCompleted ++ (solved.map fun time => (t.team.name, time)).toList
    -- `t` is the team of this round, not the viewing team.
    isDisabledChal := r.isDisabledChal || decide (t.Disables tag) }

/-- The row of a challenge for the viewing team. -/
def challengeRow (team : TeamView) (teams : List TeamView) (c : ChildrenChalConfig) :
    ChallengeCP :=
  let r := teams.foldl (ChallengeCP.visitTeam c.tag)
    { chalInfo := { tag := c.tag, staticFlag := "", staticChallenge := c.staticChallenge }
      isUserCompleted := false
      teamsCompleted := []
      isDisabledChal := false }
  if team.isTeamSolvedChallenge c.tag ≠ none then
    { r with isUserCompleted := true, isDisabledChal := false }
  else r

/-- The row of `make([]ChallengeCP, n)`. -/
def zeroRow : ChallengeCP where
  chalInfo := { tag := "", staticFlag := "", staticChallenge := false }
  isUserCompleted := false
  teamsCompleted := []
  isDisabledChal := false

/-- `initChallenges`. -/
def initChallenges (challenges : List ChildrenChalConfig) (ts : GoMap String TeamView)
    (teamId : String) : ChallengesMessage :=
  match ts.get? teamId with
  | none => { values := challenges.map fun _ => zeroRow, isLabAssigned := false }
  | some team =>
    { values := challenges.map (challengeRow team ts.values)
      isLabAssigned := team.team.isLabAssigned }

/-- What the page says about the viewing team. -/
def ChallengeCP.marks (r : ChallengeCP) : Bool × Bool := (r.isUserCompleted, r.isDisabledChal)

variable {tag teamId : String} {teams : List TeamView} {ts ts' : GoMap String TeamView}
  {team team' : TeamView}

/-- The loop over the teams sets the mark if one of them disables the challenge. -/
theorem foldl_visitTeam (r : ChallengeCP) :
    (teams.foldl (ChallengeCP.visitTeam tag) r).isUserCompleted = r.isUserCompleted ∧
      ((teams.foldl (ChallengeCP.visitTeam tag) r).isDisabledChal = true ↔
        r.isDisabledChal = true ∨ ∃ t ∈ teams, t.Disables tag) := by
  induction teams generalizing r with
  | nil => simp
  | cons t teams ih =>
    obtain ⟨hcompleted, hdisabled⟩ := ih (r.visitTeam tag t)
    refine ⟨hcompleted, ?_⟩
    rw [List.foldl_cons, hdisabled, List.exists_mem_cons_iff]
    simp only [ChallengeCP.visitTeam, Bool.or_eq_true, decide_eq_true_eq, or_assoc]

/-- A row says whether its team solved the challenge. -/
theorem challengeRow_isUserCompleted (c : ChildrenChalConfig) :
    (challengeRow team teams c).isUserCompleted =
      (team.isTeamSolvedChallenge c.tag).isSome := by
  unfold challengeRow
  cases htime : team.isTeamSolvedChallenge c.tag with
  | none =>
    rw [if_neg (by simp), (foldl_visitTeam _).1]
    rfl
  | some time => simp

/-- A row is disabled when any team disables the challenge, and the viewing team has not solved
it. -/
theorem challengeRow_isDisabledChal (c : ChildrenChalConfig) :
    (challengeRow team teams c).isDisabledChal = true ↔
      team.isTeamSolvedChallenge c.tag = none ∧ ∃ t ∈ teams, t.Disables c.tag := by
  unfold challengeRow
  cases htime : team.isTeamSolvedChallenge c.tag with
  | none =>
    rw [if_neg (by simp), (foldl_visitTeam _).2]
    simp
  | some time => simp

/-- Two team stores give the viewing team the same solved and disabled challenges. -/
structure SameTeam (team team' : TeamView) : Prop where
  solved : ∀ tag, (team.isTeamSolvedChallenge tag).isSome =
    (team'.isTeamSolvedChallenge tag).isSome
  disabled : ∀ parentTag, team.exercises.disabledChallenges.get? parentTag =
    team'.exercises.disabledChallenges.get? parentTag

/-- Two such teams have solved the same challenges. -/
theorem SameTeam.solved_iff (h : SameTeam team team') :
    team.isTeamSolvedChallenge tag = none ↔ team'.isTeamSolvedChallenge tag = none := by
  rw [← Option.isSome_eq_false_iff.trans Option.isNone_iff_eq_none,
    ← Option.isSome_eq_false_iff.trans Option.isNone_iff_eq_none, h.solved tag]

/-- Two such teams have disabled the same challenges. -/
theorem SameTeam.disables_iff (h : SameTeam team team') :
    team.Disables tag ↔ team'.Disables tag := by
  simp only [TeamView.Disables, TeamExercises.mem_getDisabledChals, h.disabled, h.solved_iff]

/-- Another team of the store disables the challenge. -/
def OtherDisables (ts : GoMap String TeamView) (teamId tag : String) : Prop :=
  ∃ id t, id ≠ teamId ∧ ts.get? id = some t ∧ t.Disables tag

/-- A challenge is disabled by the team, or by another one. -/
theorem exists_disables_iff (hteam : ts.get? teamId = some team) :
    (∃ t ∈ ts.values, t.Disables tag) ↔ team.Disables tag ∨ OtherDisables ts teamId tag := by
  simp only [GoMap.mem_values]
  constructor
  · rintro ⟨t, ⟨id, hid⟩, htag⟩
    by_cases heq : id = teamId
    · rw [heq, hteam] at hid
      cases hid
      exact .inl htag
    · exact .inr ⟨id, t, heq, hid, htag⟩
  · rintro (htag | ⟨id, t, -, hid, htag⟩)
    · exact ⟨team, ⟨teamId, hteam⟩, htag⟩
    · exact ⟨t, ⟨id, hid⟩, htag⟩

/-- Two rows of one challenge have the same marks exactly when the viewing team decides them,
or the other teams of both stores agree. -/
theorem challengeRow_marks_iff (h : SameTeam team team') (hteam : ts.get? teamId = some team)
    (hteam' : ts'.get? teamId = some team') (c : ChildrenChalConfig) :
    (challengeRow team ts.values c).marks = (challengeRow team' ts'.values c).marks ↔
      (team.isTeamSolvedChallenge c.tag = none → ¬ team.Disables c.tag →
        (OtherDisables ts teamId c.tag ↔ OtherDisables ts' teamId c.tag)) := by
  have hcompleted : (challengeRow team ts.values c).isUserCompleted =
      (challengeRow team' ts'.values c).isUserCompleted := by
    rw [challengeRow_isUserCompleted, challengeRow_isUserCompleted, h.solved]
  rw [ChallengeCP.marks, ChallengeCP.marks, Prod.mk.injEq, and_iff_right hcompleted,
    Bool.eq_iff_iff, challengeRow_isDisabledChal, challengeRow_isDisabledChal,
    exists_disables_iff hteam, exists_disables_iff hteam', ← h.solved_iff, ← h.disables_iff]
  tauto

/-- For two team stores that give the viewing team the same solved and disabled challenges, the
page has the same marks if and only if the stores agree, for each challenge that the team has
neither solved nor disabled, on whether another team disables it. -/
theorem initChallenges_same_iff (challenges : List ChildrenChalConfig)
    (ts ts' : GoMap String TeamView) (teamId : String) (team team' : TeamView)
    (hteam : ts.get? teamId = some team) (hteam' : ts'.get? teamId = some team')
    (h : SameTeam team team') :
    (initChallenges challenges ts teamId).values.map ChallengeCP.marks =
        (initChallenges challenges ts' teamId).values.map ChallengeCP.marks ↔
      ∀ c ∈ challenges, team.isTeamSolvedChallenge c.tag = none → ¬ team.Disables c.tag →
        (OtherDisables ts teamId c.tag ↔ OtherDisables ts' teamId c.tag) := by
  simp only [initChallenges, hteam, hteam', List.map_map, List.map_inj_left, Function.comp_apply]
  exact forall₂_congr fun c _ => challengeRow_marks_iff h hteam hteam' c

/-- A team without solved challenges, which has disabled these parents. -/
def viewOf (id : String) (disabled : GoMap String (List String)) : TeamView where
  team := newTeam id id
  exercises := newTeamExercises [] disabled ∅

/-- One challenge, which the viewing team has disabled itself. -/
theorem initChallenges_same_disabled :
    (initChallenges [⟨"sql-1", "", false⟩] (GoMap.set ∅ "ab" (viewOf "ab"
        (GoMap.set ∅ "sql" ["sql-1"]))) "ab").values.map ChallengeCP.marks =
      (initChallenges [⟨"sql-1", "", false⟩] (GoMap.set (GoMap.set ∅ "ab" (viewOf "ab"
        (GoMap.set ∅ "sql" ["sql-1"]))) "cd" (viewOf "cd" (GoMap.set ∅ "sql" ["sql-1"])))
        "ab").values.map ChallengeCP.marks := by
  refine (initChallenges_same_iff _ _ _ "ab" (viewOf "ab" (GoMap.set ∅ "sql" ["sql-1"])) _
    (by rfl) (by rfl) ⟨fun _ => rfl, fun _ => rfl⟩).mpr ?_
  intro c hc _ hnot
  obtain rfl := List.mem_singleton.mp hc
  exact absurd (by decide) hnot

/-- Another team stops a challenge, and the page of the viewing team shows it as disabled. -/
theorem initChallenges_not_same :
    ¬ ∀ (challenges : List ChildrenChalConfig) (ts ts' : GoMap String TeamView)
      (teamId : String) (team team' : TeamView), ts.get? teamId = some team →
      ts'.get? teamId = some team' → SameTeam team team' →
      (initChallenges challenges ts teamId).values.map ChallengeCP.marks =
        (initChallenges challenges ts' teamId).values.map ChallengeCP.marks := by
  intro h
  have heq := h [⟨"sql-1", "", false⟩]
    (GoMap.set (GoMap.set ∅ "ab" (viewOf "ab" ∅)) "cd" (viewOf "cd" ∅))
    (GoMap.set (GoMap.set ∅ "ab" (viewOf "ab" ∅)) "cd"
      (viewOf "cd" (GoMap.set ∅ "sql" ["sql-1"]))) "ab" (viewOf "ab" ∅) (viewOf "ab" ∅)
    (by rfl) (by rfl) ⟨fun _ => rfl, fun _ => rfl⟩
  revert heq
  decide

end Haaukins.Amigo
