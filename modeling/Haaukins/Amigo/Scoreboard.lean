import Haaukins.Amigo.InitChallenges
import Haaukins.Amigo.Table

/-!
# `Haaukins.Amigo.Scoreboard`: what a websocket client is sent (`svcs/amigo/table.go`)

The two messages of `RunFrontendData` with all that they say about a challenge.

* `challengesPage` is `initChallenges` with the texts of the challenges. Its rows carry the marks
  of `initChallenges` (`challengesPage_rows`). A client that no team is known for gets rows
  without a challenge.
* `scoreboard` is `initTeams`. The challenges stand in their categories, by points.
* `Page.Shows` and `Scoreboard.Shows` say that a challenge is on them. `shows_challengesPage_iff`
  and `shows_scoreboard_iff` read this off the list of the challenges.
-/

set_option autoImplicit false

namespace Haaukins.Amigo

open Store (ChildrenChalConfig)

/-- `ChildrenChalConfig`, with the fields that the frontend shows. -/
structure ChallengeConfig where
  tag : String
  name : String
  envVar : String
  staticFlag : String
  points : UInt64
  category : String
  teamDescription : String
  preRequisites : List String
  outcomes : List String
  staticChallenge : Bool
  deriving DecidableEq

namespace ChallengeConfig

/-- The zero value. -/
def zero : ChallengeConfig where
  tag := ""
  name := ""
  envVar := ""
  staticFlag := ""
  points := 0
  category := ""
  teamDescription := ""
  preRequisites := []
  outcomes := []
  staticChallenge := false

/-- The fields of the other models. -/
def conf (c : ChallengeConfig) : ChildrenChalConfig := ⟨c.tag, c.staticFlag, c.staticChallenge⟩

/-- `ChalInfo` of a row. `render` makes HTML of the description, and sanitizes it. -/
def chalInfo (render : String → String) (c : ChallengeConfig) : ChallengeConfig :=
  { c with envVar := "", staticFlag := "", teamDescription := render c.teamDescription }

/-- `Challenge`, the column of the scoreboard. -/
def column (c : ChallengeConfig) : ScoreboardChallenge where
  name := c.name
  tag := c.tag
  points := c.points

end ChallengeConfig

/-! ### The challenges page -/

/-- `ChallengeCP`, with its texts. -/
structure PageRow where
  chalInfo : ChallengeConfig
  marks : ChallengeCP

/-- The `challenges` message. -/
structure Page where
  values : List PageRow
  isLabAssigned : Bool

/-- `initChallenges`, for the teams of the team store. -/
def challengesPage (render : String → String) (challenges : List ChallengeConfig)
    (ts : GoMap String TeamView) (teamId : String) : Page :=
  match ts.get? teamId with
  -- The error of `GetTeamByID` comes before the loop that fills the rows.
  | none =>
    { values := challenges.map fun _ => { chalInfo := .zero, marks := zeroRow }
      isLabAssigned := false }
  | some team =>
    { values := challenges.map fun c =>
        { chalInfo := c.chalInfo render, marks := challengeRow team ts.values c.conf }
      isLabAssigned := team.team.isLabAssigned }

/-- The challenge is on the page. -/
def Page.Shows (p : Page) (info : ChallengeConfig) : Prop := ∃ row ∈ p.values, row.chalInfo = info

variable {render : String → String} {challenges : List ChallengeConfig}
  {ts : GoMap String TeamView} {teamId : String}

/-- The marks of the page are those of `initChallenges`. -/
theorem challengesPage_rows :
    (challengesPage render challenges ts teamId).values.map PageRow.marks =
      (initChallenges (challenges.map ChallengeConfig.conf) ts teamId).values := by
  unfold challengesPage initChallenges
  cases ts.get? teamId with
  | none => simp only [List.map_map, Function.comp_def]
  | some team => simp only [List.map_map, Function.comp_def]

/-- The page shows each challenge to a known team, and the empty row otherwise. -/
theorem shows_challengesPage_iff {info : ChallengeConfig} :
    (challengesPage render challenges ts teamId).Shows info ↔
      if teamId ∈ ts then info ∈ challenges.map (ChallengeConfig.chalInfo render)
      else challenges ≠ [] ∧ info = .zero := by
  unfold challengesPage
  cases hteam : ts.get? teamId with
  -- To an unknown team each challenge is an empty row.
  | none =>
    have hnone : teamId ∉ ts := GoMap.get?_eq_none.mp hteam
    rw [if_neg hnone]
    constructor
    · intro h
      obtain ⟨row, hrow, hinfo⟩ := h
      obtain ⟨c, hc, rfl⟩ := List.mem_map.mp hrow
      exact ⟨List.ne_nil_of_mem hc, hinfo.symm⟩
    · intro h
      obtain ⟨c, hc⟩ := List.exists_mem_of_ne_nil _ h.1
      exact ⟨_, List.mem_map_of_mem hc, h.2.symm⟩
  | some team =>
    have hsome : teamId ∈ ts := GoMap.mem_iff_get?.mpr ⟨team, hteam⟩
    rw [if_pos hsome, List.mem_map]
    constructor
    · intro h
      obtain ⟨row, hrow, hinfo⟩ := h
      obtain ⟨c, hc, rfl⟩ := List.mem_map.mp hrow
      exact ⟨c, hc, hinfo⟩
    · intro h
      obtain ⟨c, hc, hinfo⟩ := h
      exact ⟨_, List.mem_map_of_mem hc, hinfo⟩

/-! ### The scoreboard -/

/-- `Scoreboard`. -/
structure Scoreboard where
  category : List Category
  teamRow : List TeamRow

/-- `getChallengeCategories`. -/
def getChallengeCategories (challenges : List ChallengeConfig) : List String :=
  challenges.foldl (fun cats c => if c.category ∈ cats then cats else cats ++ [c.category]) []

/-- A round of the loop that puts the challenges into their categories. -/
def addColumn (categories : List Category) (c : ChallengeConfig) : List Category :=
  categories.map fun rc =>
    if rc.categoryName = c.category then { rc with challenges := rc.challenges ++ [c.column] }
    else rc

/-- `sort.SliceStable` of a category. -/
def Category.sort (rc : Category) : Category :=
  { rc with challenges := rc.challenges.mergeSort fun a b => a.points ≤ b.points }

/-- The categories with their challenges. -/
def categories (challenges : List ChallengeConfig) : List Category :=
  let empty := (getChallengeCategories challenges).map fun c =>
    { categoryName := c, challenges := [] }
  (challenges.foldl addColumn empty).map Category.sort

/-- `initTeams`. -/
def scoreboard (challenges : List ChallengeConfig) (ts : GoMap String TeamView)
    (teamId : String) : Scoreboard where
  category := categories challenges
  teamRow := ts.values.map fun t =>
    { teamInfo t.team t.exercises.challenges (categories challenges) with
      isUser := t.team.id = teamId }

/-- The challenge is a column of its category. -/
def Scoreboard.Shows (sb : Scoreboard) (c : ChallengeConfig) : Prop :=
  ∃ rc ∈ sb.category, rc.categoryName = c.category ∧ c.column ∈ rc.challenges

/-- The categories are those of the challenges. -/
theorem mem_getChallengeCategories {name : String} :
    name ∈ getChallengeCategories challenges ↔ ∃ c ∈ challenges, c.category = name := by
  have hloop : ∀ cats : List String,
      name ∈ challenges.foldl
        (fun cats c => if c.category ∈ cats then cats else cats ++ [c.category]) cats ↔
        name ∈ cats ∨ ∃ c ∈ challenges, c.category = name := by
    induction challenges with
    | nil => simp
    | cons c rest ih =>
      intro cats
      rw [List.foldl_cons, ih, List.exists_mem_cons_iff]
      by_cases hmem : c.category ∈ cats
      · rw [if_pos hmem]
        constructor
        · rintro (h | h)
          · exact .inl h
          · exact .inr (.inr h)
        · rintro (h | rfl | h)
          · exact .inl h
          · exact .inl hmem
          · exact .inr h
      · rw [if_neg hmem, List.mem_append, List.mem_singleton, eq_comm (a := name), or_assoc]
  rw [getChallengeCategories, hloop]
  simp

/-- The loop puts each challenge into the categories of its name, in the order of the list. -/
theorem foldl_addColumn (cats : List Category) :
    challenges.foldl addColumn cats = cats.map fun rc =>
      { rc with
        challenges := rc.challenges ++
          (challenges.filter fun c => c.category = rc.categoryName).map
            ChallengeConfig.column } := by
  induction challenges generalizing cats with
  | nil => simp
  | cons c rest ih =>
    rw [List.foldl_cons, ih, addColumn, List.map_map]
    refine List.map_congr_left fun rc _ => ?_
    show Category.mk _ _ = Category.mk _ _
    by_cases hname : rc.categoryName = c.category
    · have hfilter : (c :: rest).filter (fun c => c.category = rc.categoryName) =
          c :: rest.filter fun c => c.category = rc.categoryName :=
        List.filter_cons_of_pos (by simp [hname])
      simp only [if_pos hname, hfilter, List.map_cons, List.append_assoc, List.cons_append,
        List.nil_append]
    · have hfilter : (c :: rest).filter (fun c => c.category = rc.categoryName) =
          rest.filter fun c => c.category = rc.categoryName :=
        List.filter_cons_of_neg (by simp [Ne.symm hname])
      simp only [if_neg hname, hfilter]

/-- The scoreboard shows the columns of all challenges. -/
theorem shows_scoreboard_iff {c : ChallengeConfig} :
    (scoreboard challenges ts teamId).Shows c ↔
      ∃ c' ∈ challenges, c'.category = c.category ∧ c'.column = c.column := by
  have hcategory : ∀ rc : Category, rc ∈ (scoreboard challenges ts teamId).category ↔
      ∃ name, (∃ c ∈ challenges, c.category = name) ∧ rc = Category.sort
        { categoryName := name
          challenges := (challenges.filter fun c => c.category = name).map
            ChallengeConfig.column } := fun rc => by
    simp only [scoreboard, categories, foldl_addColumn, List.map_map, List.mem_map,
      Function.comp, List.nil_append, mem_getChallengeCategories, eq_comm (a := rc)]
  simp only [Scoreboard.Shows, hcategory]
  constructor
  · rintro ⟨rc, ⟨name, -, rfl⟩, rfl, hcolumn⟩
    obtain ⟨c', hc', heq⟩ := List.mem_map.mp (List.mem_mergeSort.mp hcolumn)
    obtain ⟨hmem, hname⟩ := List.mem_filter.mp hc'
    exact ⟨c', hmem, of_decide_eq_true hname, heq⟩
  · rintro ⟨c', hc', hname, heq⟩
    refine ⟨_, ⟨c.category, ⟨c', hc', hname⟩, rfl⟩, rfl, List.mem_mergeSort.mpr ?_⟩
    rw [← heq]
    exact List.mem_map_of_mem (List.mem_filter.mpr ⟨hc', decide_eq_true hname⟩)

end Haaukins.Amigo
