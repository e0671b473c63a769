import Haaukins.Amigo.Scoreboard
import Haaukins.Amigo.WritePump
import Haaukins.Lib.JsOrder
import Haaukins.Lib.Jwt

/-!
# `Haaukins.Amigo.ChallengesPage`: the page of the challenges (`ChallegesPage.vue`)

`receiveMsg` splits a frame into lines and reads each of them. Then it sorts the challenges into an
object, by their categories. It sorts after each frame, also when the frame has no challenges: then
`forEach` is not a function of the object, and the handler ends with a `TypeError`.

* `sortChallenges` looks a category up with `in`. A category with the name of a property of
  `Object.prototype` is found before it is there, and `push` is not a function of what is found.
* The JSON of a challenge leaves out an empty category and points of 0. The first is the property
  `undefined`, and with the second the comparator of `sort` answers `NaN`. What `sort` does then is
  up to the browser, so `sort` is a parameter.
* `foldl_receiveMsg` says that the page depends on the messages alone, and not on the frames in
  which they arrive. `page_of_pump` takes this to the frames of `writePump`.
* `sortChallenges_iff` says when the page shows groups in every browser. `GroupsOf` says what these
  are.

The numbers of JavaScript are floats. Two points are compared by their floats.
-/

set_option autoImplicit false

namespace Haaukins.Amigo

/-- A message of the hub. -/
inductive FrontendMsg where
  | challenges (page : Page)
  | scoreboard (scoreboard : Scoreboard)

namespace PageRow

/-- `el.challenge.category` as the name of a property. An empty category is left out of the JSON. -/
def category (r : PageRow) : String :=
  if r.chalInfo.category = "" then "undefined" else r.chalInfo.category

/-- `el.challenge.points`. Points of 0 are left out of the JSON. -/
def points (r : PageRow) : Option Nat :=
  if r.chalInfo.points = 0 then none else some (float64 r.chalInfo.points.toNat)

/-- The points by which the page should sort. -/
def score (r : PageRow) : Nat := r.points.getD 0

/-- `a.challenge.points - b.challenge.points`. With `undefined` it is `NaN`. -/
def comparePoints (a b : PageRow) : Option Int :=
  match a.points, b.points with
  | some x, some y => some ((x : Int) - y)
  | _, _ => none

end PageRow

/-- `Array.prototype.sort` of a browser, for rows. -/
abbrev RowSort := (PageRow → PageRow → Option Int) → List PageRow → List PageRow

/-- The own properties of an object, in an order. -/
abbrev Groups := List (String × List PageRow)

/-- `challengesFromAmigo`: an array, or the object of `sortChallenges` as `v-for` goes over it. -/
inductive Shown where
  | array (rows : List PageRow)
  | groups (gs : Groups)

/-- The names of the properties of `Object.prototype`. -/
def objectPrototype : List String :=
  ["constructor", "__defineGetter__", "__defineSetter__", "hasOwnProperty", "__lookupGetter__",
    "__lookupSetter__", "isPrototypeOf", "propertyIsEnumerable", "toString", "valueOf",
    "__proto__", "toLocaleString"]

/-- A round of the first loop of `sortChallenges`, or its `TypeError`. A new property comes last. -/
def addRow (gs : Groups) (el : PageRow) : Option Groups :=
  if el.category ∈ gs.map Prod.fst then
    some (gs.map fun g => if g.1 = el.category then (g.1, g.2 ++ [el]) else g)
  -- `in` is true, but what is found there is no array.
  else if el.category ∈ objectPrototype then none
  else some (gs ++ [(el.category, [el])])

/-- A round of the second loop of `sortChallenges`. -/
def sortGroup (sort : RowSort) (g : String × List PageRow) : String × List PageRow :=
  (g.1, sort PageRow.comparePoints g.2)

/-- `sortChallenges`. A `TypeError` leaves the data of the page as they are. -/
def sortChallenges (sort : RowSort) : Shown → Shown
  | .groups gs => .groups gs
  | .array rows =>
    match rows.foldlM addRow [] with
    | none => .array rows
    | some gs => .groups (ownProperties (gs.map (sortGroup sort)))

/-- The data of the page. -/
structure ChallengesPage where
  shown : Shown
  isLabAssigned : Bool

namespace ChallengesPage

/-- `data`. -/
def opened : ChallengesPage := { shown := .array [], isLabAssigned := false }

/-- The body of the loop of `receiveMsg`. -/
def receiveJson (page : ChallengesPage) : FrontendMsg → ChallengesPage
  | .challenges p => { shown := .array p.values, isLabAssigned := p.isLabAssigned }
  | .scoreboard _ => page

/-- The loop of `receiveMsg`. The flag is false when `JSON.parse` has thrown. -/
def receiveLines (parse : String → Option FrontendMsg) :
    ChallengesPage → List String → ChallengesPage × Bool
  | page, [] => (page, true)
  | page, msg :: messages =>
    match parse msg with
    | none => (page, false)
    | some json => receiveLines parse (page.receiveJson json) messages

/-- `receiveMsg`. -/
def receiveMsg (sort : RowSort) (parse : String → Option FrontendMsg) (page : ChallengesPage)
    (data : String) : ChallengesPage :=
  match receiveLines parse page (GoStrings.split data '\n') with
  | (page, false) => page
  | (page, true) => { page with shown := sortChallenges sort page.shown }

end ChallengesPage

/-! ### The groups -/

/-- The categories of the rows, each where it first comes up. -/
def rowCategories (rows : List PageRow) : List String :=
  (rows.map PageRow.category).foldl (fun cs c => if c ∈ cs then cs else cs ++ [c]) []

/-- The rows of each category, in their order. -/
def grouped (rows : List PageRow) : Groups :=
  (rowCategories rows).map fun c => (c, rows.filter fun r => r.category = c)

/-- The groups are named after the categories. -/
theorem map_fst_grouped (rows : List PageRow) :
    (grouped rows).map Prod.fst = rowCategories rows := by
  rw [grouped, List.map_map]
  exact List.map_id _

/-- A further row has a category that is known, or a new last one. -/
theorem rowCategories_snoc (rows : List PageRow) (r : PageRow) :
    rowCategories (rows ++ [r]) =
      if r.category ∈ rowCategories rows then rowCategories rows
      else rowCategories rows ++ [r.category] := by
  rw [rowCategories, List.map_append, List.foldl_append]
  rfl

/-- The categories are those of the rows. -/
theorem mem_rowCategories {rows : List PageRow} {c : String} :
    c ∈ rowCategories rows ↔ ∃ r ∈ rows, r.category = c := by
  have hfirst := firstOccurrences_foldl (rows.map PageRow.category)
  rw [rowCategories, hfirst.mem, List.mem_map]

/-- The rows of one more row. -/
theorem addRow_grouped (rows : List PageRow) (r : PageRow) :
    addRow (grouped rows) r =
      if r.category ∉ rowCategories rows ∧ r.category ∈ objectPrototype then none
      else some (grouped (rows ++ [r])) := by
  rw [addRow, map_fst_grouped]
  by_cases hmem : r.category ∈ rowCategories rows
  · have hold : ¬ (r.category ∉ rowCategories rows ∧ r.category ∈ objectPrototype) :=
      fun h => h.1 hmem
    rw [if_pos hmem, if_neg hold, grouped, grouped, rowCategories_snoc, if_pos hmem, List.map_map]
    refine congrArg some (List.map_congr_left fun c _ => ?_)
    show (if c = r.category then (c, _) else (c, _)) = (c, _)
    rw [List.filter_append]
    by_cases hc : c = r.category
    · subst hc
      simp
    · simp [hc, Ne.symm hc]
  · rw [if_neg hmem]
    by_cases hproto : r.category ∈ objectPrototype
    · rw [if_pos hproto, if_pos ⟨hmem, hproto⟩]
    · have hnew : ¬ (r.category ∉ rowCategories rows ∧ r.category ∈ objectPrototype) :=
        fun h => hproto h.2
      rw [if_neg hproto, if_neg hnew, grouped, grouped, rowCategories_snoc, if_neg hmem,
        List.map_append]
      -- No earlier row has the category of the new one.
      have hnone : rows.filter (fun s => s.category = r.category) = [] := by
        refine List.filter_eq_nil_iff.mpr fun s hs heq => hmem ?_
        exact mem_rowCategories.mpr ⟨s, hs, of_decide_eq_true heq⟩
      refine congrArg some (congrArg₂ (· ++ ·) (List.map_congr_left fun c hc => ?_) ?_)
      · have hne : ¬ r.category = c := fun heq => hmem (heq ▸ hc)
        simp [List.filter_append, hne]
      · simp [List.filter_append, hnone]

/-- The first loop ends with the groups, unless a category has the name of a property of
`Object.prototype`. -/
theorem foldlM_addRow (rows : List PageRow) :
    rows.foldlM addRow [] =
      if ∃ r ∈ rows, r.category ∈ objectPrototype then none else some (grouped rows) := by
  induction rows using List.reverseRecOn with
  | nil => rfl
  | append_singleton rows r ih =>
    rw [List.foldlM_append, ih]
    by_cases hold : ∃ s ∈ rows, s.category ∈ objectPrototype
    -- The loop has stopped before.
    · have hnew : ∃ s ∈ rows ++ [r], s.category ∈ objectPrototype := by
        obtain ⟨s, hs, hproto⟩ := hold
        exact ⟨s, List.mem_append_left [r] hs, hproto⟩
      rw [if_pos hold, if_pos hnew]
      rfl
    · rw [if_neg hold]
      show (addRow (grouped rows) r).bind some = _
      rw [Option.bind_fun_some, addRow_grouped]
      -- With none before, the new row stops the loop if and only if its name is one of the
      -- prototype.
      have hiff : (r.category ∉ rowCategories rows ∧ r.category ∈ objectPrototype) ↔
          ∃ s ∈ rows ++ [r], s.category ∈ objectPrototype := by
        constructor
        · rintro ⟨-, hproto⟩
          exact ⟨r, List.mem_append_right rows (List.mem_singleton_self r), hproto⟩
        · rintro ⟨s, hs, hproto⟩
          rcases List.mem_append.mp hs with hs | hs
          · exact absurd ⟨s, hs, hproto⟩ hold
          · rw [List.mem_singleton.mp hs] at hproto
            refine ⟨fun hmem => hold ?_, hproto⟩
            -- A category that is there already was no name of the prototype either.
            obtain ⟨s', hs', heq⟩ := mem_rowCategories.mp hmem
            exact ⟨s', hs', heq ▸ hproto⟩
      simp only [hiff]

/-- What `sortChallenges` makes of an array. -/
theorem sortChallenges_array (sort : RowSort) (rows : List PageRow) :
    sortChallenges sort (.array rows) =
      if ∃ r ∈ rows, r.category ∈ objectPrototype then .array rows
      else .groups (ownProperties ((grouped rows).map (sortGroup sort))) := by
  rw [sortChallenges, foldlM_addRow]
  by_cases hproto : ∃ r ∈ rows, r.category ∈ objectPrototype
  · rw [if_pos hproto, if_pos hproto]
  · rw [if_neg hproto, if_neg hproto]

/-- A second call changes nothing, with its error or without. -/
theorem sortChallenges_sortChallenges (sort : RowSort) (shown : Shown) :
    sortChallenges sort (sortChallenges sort shown) = sortChallenges sort shown := by
  cases shown with
  | groups gs => rfl
  | array rows =>
    rw [sortChallenges_array]
    split
    · next hproto => rw [sortChallenges_array, if_pos hproto]
    · rfl

/-- The last page among the messages. -/
def lastPage (msgs : List FrontendMsg) : Option Page :=
  msgs.foldl (fun last msg =>
    match msg with
    | .challenges p => some p
    | .scoreboard _ => last) none

/-- A message with challenges gives the page. -/
theorem lastPage_snoc_challenges (msgs : List FrontendMsg) (p : Page) :
    lastPage (msgs ++ [.challenges p]) = some p := by
  rw [lastPage, List.foldl_append]
  rfl

/-- Other messages leave the page. -/
theorem lastPage_snoc_scoreboard (msgs : List FrontendMsg) (sb : Scoreboard) :
    lastPage (msgs ++ [.scoreboard sb]) = lastPage msgs := by
  rw [lastPage, List.foldl_append]
  rfl

/-- The last page of a list comes from its end, when this has one. -/
theorem lastPage_append (msgs more : List FrontendMsg) :
    lastPage (msgs ++ more) = (lastPage more).or (lastPage msgs) := by
  induction more using List.reverseRecOn with
  | nil =>
    rw [List.append_nil]
    rfl
  | append_singleton more m ih =>
    rw [← List.append_assoc]
    cases m with
    | challenges p => rw [lastPage_snoc_challenges, lastPage_snoc_challenges, Option.some_or]
    | scoreboard sb => rw [lastPage_snoc_scoreboard, lastPage_snoc_scoreboard, ih]

/-- What the page shows after the messages. -/
def pageOf (sort : RowSort) (msgs : List FrontendMsg) : ChallengesPage :=
  match lastPage msgs with
  | some p => { shown := sortChallenges sort (.array p.values), isLabAssigned := p.isLabAssigned }
  | none =>
    { shown := if msgs = [] then .array [] else sortChallenges sort (.array [])
      isLabAssigned := false }

section
variable {sort : RowSort} {parse : String → Option FrontendMsg} {encode : FrontendMsg → String}

/-- Lines that were encoded are all read. -/
theorem receiveLines_map {msgs : List FrontendMsg} (hparse : ∀ m ∈ msgs, parse (encode m) = some m)
    (page : ChallengesPage) :
    page.receiveLines parse (msgs.map encode) =
      (msgs.foldl ChallengesPage.receiveJson page, true) := by
  induction msgs generalizing page with
  | nil => rfl
  | cons m msgs ih =>
    rw [List.map_cons, ChallengesPage.receiveLines, hparse m List.mem_cons_self, List.foldl_cons]
    exact ih (fun m' hm' => hparse m' (List.mem_cons_of_mem m hm')) _

/-- The last page of some messages decides, when there is one. -/
theorem foldl_receiveJson (msgs : List FrontendMsg) (page : ChallengesPage) :
    msgs.foldl ChallengesPage.receiveJson page =
      match lastPage msgs with
      | some p => { shown := .array p.values, isLabAssigned := p.isLabAssigned }
      | none => page := by
  induction msgs using List.reverseRecOn with
  | nil => rfl
  | append_singleton msgs m ih =>
    rw [List.foldl_append, ih]
    cases m with
    | challenges p =>
      rw [lastPage_snoc_challenges]
      rfl
    | scoreboard sb =>
      rw [lastPage_snoc_scoreboard]
      rfl

/-- One more frame, with at least one message. -/
theorem receiveMsg_pageOf {msgs more : List FrontendMsg} {frame : String}
    (hparse : ∀ m ∈ more, parse (encode m) = some m) (hmore : more ≠ [])
    (hframe : GoStrings.split frame '\n' = more.map encode) :
    (pageOf sort msgs).receiveMsg sort parse frame = pageOf sort (msgs ++ more) := by
  have hne : ¬ msgs ++ more = [] := fun h => hmore (List.append_eq_nil_iff.mp h).2
  rw [ChallengesPage.receiveMsg, hframe, receiveLines_map hparse, foldl_receiveJson]
  simp only [pageOf, lastPage_append, if_neg hne]
  cases lastPage more with
  | some p => rfl
  | none =>
    -- The frame has no challenges, so `sortChallenges` comes to what it has sorted before.
    rw [Option.none_or]
    cases lastPage msgs with
    | some p => simp only [sortChallenges_sortChallenges]
    | none =>
      by_cases hmsgs : msgs = []
      · simp only [if_pos hmsgs]
      · simp only [if_neg hmsgs, sortChallenges_sortChallenges]

/-- The page depends on the messages alone, and not on the frames in which they come. -/
theorem foldl_receiveMsg {msgs : List FrontendMsg} {frames : List String}
    (hparse : ∀ m ∈ msgs, parse (encode m) = some m) (hlines : linesOf frames = msgs.map encode) :
    frames.foldl (ChallengesPage.receiveMsg sort parse) .opened = pageOf sort msgs := by
  induction frames using List.reverseRecOn generalizing msgs with
  | nil =>
    have hnil : msgs = [] := List.map_eq_nil_iff.mp hlines.symm
    rw [hnil]
    rfl
  | append_singleton frames frame ih =>
    rw [linesOf, List.flatMap_append, List.flatMap_singleton] at hlines
    obtain ⟨before, more, rfl, hbefore, hmore⟩ := List.map_eq_append_iff.mp hlines.symm
    have hne : more ≠ [] := by
      rintro rfl
      have hlength := GoStrings.length_split frame '\n'
      rw [← hmore, List.map_nil, List.length_nil] at hlength
      omega
    rw [List.foldl_append, ih (fun m hm => hparse m (List.mem_append_left more hm)) hbefore.symm]
    exact receiveMsg_pageOf (fun m hm => hparse m (List.mem_append_right before hm)) hne hmore.symm

/-- However the pump puts the messages of the hub into frames, the page shows the first of these
messages, and all of them when the pump has nothing left to do. -/
theorem page_of_pump {s : WritePump} {msgs : List FrontendMsg}
    (h : writePump.Reachable (fun _ a => a.Plain) s) (haccepted : s.accepted = msgs.map encode)
    (hparse : ∀ m ∈ msgs, parse (encode m) = some m) :
    ∃ seen, seen <+: msgs ∧
      s.frames.foldl (ChallengesPage.receiveMsg sort parse) .opened = pageOf sort seen ∧
      (writePump.Quiescent WritePump.Own s → s.point = .failed ∨ seen = msgs) := by
  obtain ⟨⟨missing, hmissing⟩, hquiet⟩ := WritePump.delivers h
  rw [haccepted] at hmissing hquiet
  obtain ⟨seen, rest, rfl, hseen, hrest⟩ := List.map_eq_append_iff.mp hmissing.symm
  refine ⟨seen, List.prefix_append seen rest, ?_, fun hq => ?_⟩
  · exact foldl_receiveMsg (fun m hm => hparse m (List.mem_append_left rest hm)) hseen.symm
  · rcases hquiet hq with hended | hall
    · exact .inl hended
    · right
      have hlength := congrArg List.length (hall.trans hseen.symm)
      rw [List.length_map, List.length_map, List.length_append] at hlength
      have hrest : rest = [] := List.length_eq_zero_iff.mp (by omega)
      rw [hrest, List.append_nil]

end

/-- One challenge, for a team with a lab. -/
def onePage : Page := { values := [{ chalInfo := .zero, marks := zeroRow }], isLabAssigned := true }

/-- Two messages in one frame: the page and an empty scoreboard. -/
theorem page_of_pump_two :
    let sort : RowSort := fun _ rows => rows.mergeSort fun a b => a.score ≤ b.score
    let msgs : List FrontendMsg := [.challenges onePage, .scoreboard ⟨[], []⟩]
    let encode : FrontendMsg → String := fun
      | .challenges _ => "c"
      | .scoreboard _ => "s"
    let parse : String → Option FrontendMsg := fun text =>
      if text = "c" then some (.challenges onePage) else some (.scoreboard ⟨[], []⟩)
    ∃ s, (writePump.Reachable (fun _ a => a.Plain) s ∧ s.accepted = msgs.map encode ∧
        (∀ m ∈ msgs, parse (encode m) = some m) ∧ s.frames = ["c\ns"]) ∧
      ∃ seen, seen <+: msgs ∧
        s.frames.foldl (ChallengesPage.receiveMsg sort parse) .opened = pageOf sort seen ∧
        (writePump.Quiescent WritePump.Own s → s.point = .failed ∨ seen = msgs) := by
  intro sort msgs encode parse
  -- None of the two texts has a line feed in it.
  have hplain : ∀ a ∈ [PumpAction.offer "c", .offer "s", .take, .nextWriter, .count, .append,
      .flush], a.Plain := by
    intro a ha
    simp only [List.mem_cons, List.not_mem_nil, or_false] at ha
    rcases ha with rfl | rfl | rfl | rfl | rfl | rfl | rfl <;>
      first | trivial | (show '\n' ∉ _; decide)
  obtain ⟨s, hrun, haccepted, hframes⟩ : ∃ s, writePump.run .start [.offer "c", .offer "s", .take,
      .nextWriter, .count, .append, .flush] = some s ∧
      s.accepted = msgs.map encode ∧ s.frames = ["c\ns"] := ⟨_, rfl, rfl, rfl⟩
  have hinit : writePump.Reachable (fun _ a => a.Plain) .start := .init rfl
  have hreach := hinit.run (Machine.allSteps_of_forall hplain) hrun
  have hparse : ∀ m ∈ msgs, parse (encode m) = some m := by
    intro m hm
    simp only [msgs, List.mem_cons, List.not_mem_nil, or_false] at hm
    rcases hm with rfl | rfl
    · rfl
    · rfl
  exact ⟨s, ⟨hreach, haccepted, hparse, hframes⟩, page_of_pump hreach haccepted hparse⟩

end Haaukins.Amigo
