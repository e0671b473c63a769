import Haaukins.Store.Restart
import Haaukins.Store.Team

/-!
# `Haaukins.Amigo.Table`: the rows of the scoreboard (`svcs/amigo/table.go`)

`teamInfo` is the row of a team on the scoreboard. It asks the team for each challenge of each
category. The row of a team that was built again after a restart differs from the row before
at most in the fractions of the seconds, and it has the same points.
-/

set_option autoImplicit false

namespace Haaukins.Amigo

open Store

/-- `Challenge`, a column of the scoreboard. -/
structure ScoreboardChallenge where
  name : String
  tag : String
  points : UInt64

/-- `Category`. -/
structure Category where
  categoryName : String
  challenges : List ScoreboardChallenge

/-- `TeamRow`. -/
structure TeamRow where
  id : String
  name : String
  totalPoints : UInt64
  chalCompletions : List (Option Time)
  chalPoints : List UInt64
  isUser : Bool

/-- The body of the inner loop of `TeamInfo`. -/
def TeamRow.addChallenge (t : TeamChallenges) (row : TeamRow) (c : ScoreboardChallenge) :
    TeamRow :=
  let solved := t.isTeamSolvedChallenge c.tag
  { row with
    chalCompletions := row.chalCompletions ++ [solved]
    chalPoints := row.chalPoints ++ [c.points]
    totalPoints := if solved.isSome then row.totalPoints + c.points else row.totalPoints }

/-- `TeamInfo`, for a team and its challenges. -/
def teamInfo (team : Team) (t : TeamChallenges) (chalCategories : List Category) : TeamRow :=
  chalCategories.foldl (fun row cc => cc.challenges.foldl (TeamRow.addChallenge t) row)
    { id := team.id
      name := team.name
      totalPoints := 0
      chalCompletions := []
      chalPoints := []
      isUser := false }

/-- The row with its times in whole seconds. -/
def TeamRow.seconds (row : TeamRow) : TeamRow :=
  { row with chalCompletions := row.chalCompletions.map (Option.map Time.truncate) }

/-- One more column keeps two rows equal up to the fractions. -/
theorem TeamRow.addChallenge_seconds {t t' : TeamChallenges} {row row' : TeamRow}
    {c : ScoreboardChallenge} (hrow : row.seconds = row'.seconds)
    (hsolved : (t.isTeamSolvedChallenge c.tag).map Time.truncate =
      (t'.isTeamSolvedChallenge c.tag).map Time.truncate) :
    (row.addChallenge t c).seconds = (row'.addChallenge t' c).seconds := by
  have hsome : (t.isTeamSolvedChallenge c.tag).isSome =
      (t'.isTeamSolvedChallenge c.tag).isSome := by
    simpa using congrArg Option.isSome hsolved
  obtain ⟨hid, hname, htotal, hcompletions, hpoints, huser⟩ := TeamRow.mk.inj hrow
  simp only [TeamRow.seconds, TeamRow.addChallenge, List.map_append, List.map_cons,
    List.map_nil, hid, hname, htotal, hcompletions, hpoints, huser, hsome, hsolved]

/-- Teams with the same solved challenges, up to the fraction of the second, have the same row,
up to these fractions. -/
theorem teamInfo_seconds (team : Team) {t t' : TeamChallenges}
    (hsolved : ∀ tag, (t.isTeamSolvedChallenge tag).map Time.truncate =
      (t'.isTeamSolvedChallenge tag).map Time.truncate) (chalCategories : List Category) :
    (teamInfo team t chalCategories).seconds = (teamInfo team t' chalCategories).seconds := by
  -- Both loops run over the same list, and each round keeps the rows equal.
  let r (row row' : TeamRow) : Prop := row.seconds = row'.seconds
  refine List.foldl_rel (r := r) rfl ?_
  intro cc _ row row' hrow
  refine List.foldl_rel (r := r) hrow ?_
  intro c _ row row' hrow
  exact TeamRow.addChallenge_seconds hrow (hsolved c.tag)

/-- A team that is built again from the list of the store service, with the same tags and any
new flags, has the same solved challenges with the same times in seconds, and the same points
for each list of categories. -/
theorem teamInfo_restart (s t : StoredTeam) (as : List ScoreAction) (cs : List Challenge)
    (hs : storedTeam.init s) (hrun : storedTeam.run s as = some t)
    (hdistinct : Distinct (added as)) (hdistinct' : Distinct cs)
    (htags : ∀ tag, (∃ c ∈ cs, c.tag = tag) ↔ ∃ c ∈ added as, c.tag = tag) :
    (∀ tag, ((restart t.db cs).isTeamSolvedChallenge tag).map Time.truncate =
      (t.team.isTeamSolvedChallenge tag).map Time.truncate) ∧
    ∀ team chalCategories, (teamInfo team (restart t.db cs) chalCategories).totalPoints =
      (teamInfo team t.team chalCategories).totalPoints := by
  have hsolved := restart_isTeamSolvedChallenge hs hrun hdistinct hdistinct' htags
  refine ⟨hsolved, fun team chalCategories => ?_⟩
  have hrow := teamInfo_seconds team hsolved chalCategories
  exact (TeamRow.mk.inj hrow).2.2.1

/-- One of two challenges is solved, and the flags change with the restart. -/
theorem teamInfo_restart_solved :
    ∃ t, storedTeam.run { team := .new [], db := [] }
        [.addChallenge ⟨"sql", "HKN-1"⟩, .addChallenge ⟨"xss", "HKN-2"⟩,
          .verifyFlag "sql" "HKN-1" ⟨2021, 5, 1, 9, 30, 7, 500, 120, by decide⟩] = some t ∧
      (∀ tag, ((restart t.db [⟨"xss", "HKN-3"⟩, ⟨"sql", "HKN-4"⟩]).isTeamSolvedChallenge
          tag).map Time.truncate = (t.team.isTeamSolvedChallenge tag).map Time.truncate) ∧
      ∀ team chalCategories, (teamInfo team
          (restart t.db [⟨"xss", "HKN-3"⟩, ⟨"sql", "HKN-4"⟩]) chalCategories).totalPoints =
        (teamInfo team t.team chalCategories).totalPoints := by
  refine ⟨_, rfl, teamInfo_restart { team := .new [], db := [] } _
    [.addChallenge ⟨"sql", "HKN-1"⟩, .addChallenge ⟨"xss", "HKN-2"⟩,
      .verifyFlag "sql" "HKN-1" ⟨2021, 5, 1, 9, 30, 7, 500, 120, by decide⟩]
    _ rfl rfl (by decide) (by decide) fun tag => ?_⟩
  simp [added, or_comm]

end Haaukins.Amigo
