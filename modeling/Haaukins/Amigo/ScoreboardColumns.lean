import Haaukins.Amigo.Scoreboard
import Haaukins.Lib.Grouping

/-!
# `Haaukins.Amigo.ScoreboardColumns`: the cells of the scoreboard (`svcs/amigo/table.go`)

The browser puts the cells of a row below the challenges of the header by their positions only.
`getChallenges` is its list of the header. `scoreboard_linedUp` says which challenge stands where
in that list, and that each row of `initTeams` has its cells in the same order.
-/

set_option autoImplicit false

namespace Haaukins.Amigo

open Store

/-- `get_challenges` of the page, the header of the scoreboard. -/
def getChallenges (fullChallenges : List Category) : List ScoreboardChallenge :=
  fullChallenges.foldl (fun challenges rc => rc.challenges.foldl
    (fun challenges c => challenges ++ [c]) challenges) []

/-- The points of the completed cells. -/
def TeamRow.completedPoints (row : TeamRow) : List Nat :=
  ((row.chalPoints.zip row.chalCompletions).filter fun cell => cell.2.isSome).map
    fun cell => cell.1.toNat

/-- The row has the cells of a team for the challenges of the header. -/
structure RowAligned (header : List ScoreboardChallenge) (t : TeamView) (row : TeamRow) :
    Prop where
  id : row.id = t.team.id
  name : row.name = t.team.name
  points : row.chalPoints = header.map (·.points)
  completions : row.chalCompletions = header.map fun c => t.isTeamSolvedChallenge c.tag
  /-- A `uint` has 64 bits. -/
  total : row.totalPoints.toNat = row.completedPoints.sum % 2 ^ 64

/-- The columns of a scoreboard for these challenges and teams line up. -/
structure Scoreboard.LinedUp (challenges : List ChallengeConfig) (ts : List TeamView)
    (sb : Scoreboard) : Prop where
  names : FirstOccurrences (challenges.map (·.category)) (sb.category.map (·.categoryName))
  sorted : ∀ rc ∈ sb.category, StablySorted (·.points)
    ((challenges.filter fun c => c.category = rc.categoryName).map ChallengeConfig.column)
    rc.challenges
  columns : (getChallenges sb.category).Perm (challenges.map ChallengeConfig.column)
  rows : List.Forall₂ (RowAligned (getChallenges sb.category)) ts sb.teamRow

variable {challenges : List ChallengeConfig} {ts : GoMap String TeamView} {teamId : String}

/-! ### The header -/

/-- The columns of the categories, one after the other. -/
theorem getChallenges_eq (fullChallenges : List Category) :
    getChallenges fullChallenges = fullChallenges.flatMap (·.challenges) := by
  have happend : ∀ cs challenges : List ScoreboardChallenge,
      cs.foldl (fun challenges c => challenges ++ [c]) challenges = challenges ++ cs := by
    intro cs
    induction cs with
    | nil => simp
    | cons c cs ih => simp [ih]
  have hloop : ∀ challenges : List ScoreboardChallenge,
      fullChallenges.foldl (fun challenges rc => rc.challenges.foldl
        (fun challenges c => challenges ++ [c]) challenges) challenges =
      challenges ++ fullChallenges.flatMap (·.challenges) := by
    induction fullChallenges with
    | nil => simp
    | cons rc rest ih =>
      intro challenges
      rw [List.foldl_cons, happend, ih, List.flatMap_cons, List.append_assoc]
  exact (hloop []).trans (List.nil_append _)

/-- The categories in the order in which they first occur. -/
theorem firstOccurrences_getChallengeCategories :
    FirstOccurrences (challenges.map (·.category)) (getChallengeCategories challenges) := by
  have hloop := firstOccurrences_foldl (challenges.map (·.category))
  rwa [List.foldl_map] at hloop

/-- The challenges of a category before the sort. -/
def unsorted (challenges : List ChallengeConfig) (name : String) : Category where
  categoryName := name
  challenges := (challenges.filter fun c => c.category = name).map ChallengeConfig.column

/-- Each category with its challenges, sorted. -/
theorem categories_eq :
    categories challenges =
      (getChallengeCategories challenges).map fun name => (unsorted challenges name).sort := by
  simp only [categories, foldl_addColumn, List.map_map, List.nil_append, Function.comp_def,
    unsorted]

/-- The sort by points is stable. -/
theorem stablySorted_sort (rc : Category) :
    StablySorted (·.points) rc.challenges rc.sort.challenges :=
  stablySorted_mergeSort ScoreboardChallenge.points rc.challenges

/-- The header has each challenge, since each is in one of the categories. -/
theorem perm_getChallenges_categories :
    (getChallenges (categories challenges)).Perm (challenges.map ChallengeConfig.column) := by
  have hnames : FirstOccurrences (challenges.map (·.category))
      (getChallengeCategories challenges) := firstOccurrences_getChallengeCategories
  have hall : (challenges.filter fun c => c.category ∈ getChallengeCategories challenges) =
      challenges := by
    refine List.filter_eq_self.mpr fun c hc => ?_
    exact decide_eq_true ((hnames.mem _).mpr (List.mem_map_of_mem hc))
  have hgroups := perm_flatMap_filter ChallengeConfig.category challenges hnames.nodup
  rw [hall] at hgroups
  rw [getChallenges_eq, categories_eq, List.flatMap_map]
  refine .trans ?_ (hgroups.map ChallengeConfig.column)
  rw [List.map_flatMap]
  exact .flatMap_left _ fun name _ => (stablySorted_sort (unsorted challenges name)).perm

/-! ### The rows -/

/-- `TeamInfo` goes over the header. -/
theorem teamInfo_eq (team : Team) (t : TeamChallenges) (chalCategories : List Category) :
    teamInfo team t chalCategories = (getChallenges chalCategories).foldl
      (TeamRow.addChallenge t) (teamInfo team t []) := by
  rw [getChallenges_eq, List.foldl_flatMap]
  rfl

/-- A solved challenge adds its points to the row. -/
theorem TeamRow.completedPoints_addChallenge {t : TeamChallenges} {row : TeamRow}
    {c : ScoreboardChallenge} (hlength : row.chalPoints.length = row.chalCompletions.length) :
    (row.addChallenge t c).completedPoints = row.completedPoints ++
      if (t.isTeamSolvedChallenge c.tag).isSome then [c.points.toNat] else [] := by
  have hzip : (row.addChallenge t c).chalPoints.zip (row.addChallenge t c).chalCompletions =
      row.chalPoints.zip row.chalCompletions ++
        [(c.points, t.isTeamSolvedChallenge c.tag)] := List.zip_append hlength
  rw [completedPoints, hzip, List.filter_append, List.map_append]
  congr 1
  split
  · next h => simp [h]
  · next h => simp [h]

/-- Points and completions of a row are equally many. -/
theorem RowAligned.length {header : List ScoreboardChallenge} {t : TeamView} {row : TeamRow}
    (h : RowAligned header t row) : row.chalPoints.length = row.chalCompletions.length := by
  rw [h.points, h.completions, List.length_map, List.length_map]

/-- A round of the loop adds the cell of the next challenge. -/
theorem RowAligned.addChallenge {header : List ScoreboardChallenge} {t : TeamView}
    {row : TeamRow} {c : ScoreboardChallenge} (h : RowAligned header t row) :
    RowAligned (header ++ [c]) t (row.addChallenge t.exercises.challenges c) where
  id := h.id
  name := h.name
  points := by
    rw [TeamRow.addChallenge, h.points, List.map_append, List.map_singleton]
  completions := by
    rw [TeamRow.addChallenge, h.completions, List.map_append, List.map_singleton]
    rfl
  total := by
    rw [TeamRow.completedPoints_addChallenge h.length, List.sum_append]
    by_cases hsolved : (t.exercises.challenges.isTeamSolvedChallenge c.tag).isSome
    · rw [if_pos hsolved, List.sum_singleton, TeamRow.addChallenge, if_pos hsolved,
        UInt64.toNat_add, h.total, Nat.mod_add_mod]
    · rw [if_neg hsolved, List.sum_nil, Nat.add_zero, TeamRow.addChallenge, if_neg hsolved,
        h.total]

/-- The row of `TeamInfo` has its cells in the order of the header. -/
theorem rowAligned_teamInfo (t : TeamView) (chalCategories : List Category) :
    RowAligned (getChallenges chalCategories) t
      (teamInfo t.team t.exercises.challenges chalCategories) := by
  have hempty : RowAligned [] t (teamInfo t.team t.exercises.challenges []) :=
    ⟨rfl, rfl, rfl, rfl, rfl⟩
  have hloop : ∀ (rest header : List ScoreboardChallenge) (row : TeamRow),
      RowAligned header t row → RowAligned (header ++ rest) t
        (rest.foldl (TeamRow.addChallenge t.exercises.challenges) row) := by
    intro rest
    induction rest with
    | nil =>
      intro header row h
      rwa [List.append_nil]
    | cons c rest ih =>
      intro header row h
      have hnext := ih (header ++ [c]) _ h.addChallenge
      rwa [List.append_assoc, List.singleton_append] at hnext
  rw [teamInfo_eq]
  exact hloop _ [] _ hempty

/-- The mark of the own team is not a cell. -/
theorem RowAligned.isUser {header : List ScoreboardChallenge} {t : TeamView} {row : TeamRow}
    (h : RowAligned header t row) (isUser : Bool) :
    RowAligned header t { row with isUser := isUser } :=
  ⟨h.id, h.name, h.points, h.completions, h.total⟩

/-- The rows line up with the header for every list of challenges and every set of teams. -/
theorem scoreboard_linedUp (challenges : List ChallengeConfig) (ts : GoMap String TeamView)
    (teamId : String) : (scoreboard challenges ts teamId).LinedUp challenges ts.values where
  names := by
    have hnames : ((scoreboard challenges ts teamId).category.map (·.categoryName)) =
        getChallengeCategories challenges := by
      rw [scoreboard, categories_eq, List.map_map]
      exact List.map_id _
    rw [hnames]
    exact firstOccurrences_getChallengeCategories
  sorted := fun rc hrc => by
    rw [scoreboard, categories_eq] at hrc
    obtain ⟨name, -, rfl⟩ := List.mem_map.mp hrc
    exact stablySorted_sort (unsorted challenges name)
  columns := perm_getChallenges_categories
  rows := by
    rw [scoreboard, List.forall₂_map_right_iff, List.forall₂_same]
    exact fun t _ => (rowAligned_teamInfo t _).isUser _

end Haaukins.Amigo
