import Haaukins.Amigo.ScoreboardColumns
import Haaukins.Lib.Machine
import Haaukins.Lib.Pairing
import Mathlib.Data.List.TakeWhile

/-!
# `Haaukins.Amigo.ScoreGraph`: the score graph of the teams page (`TeamsPage.vue`)

For each message with the scoreboard the page sorts the teams by their points, sorts the cells of
each team by their dates, and pushes one trace for each team into `traces`. Nothing takes a trace
out again, so the traces of earlier messages stay.

* A `ServerTeam` is a row as `TeamInfo` makes it (`ofTeamRow_fromServer`): its two arrays have the
  same length, and its total is the sum of its solved cells. Without challenges the arrays are
  nil in Go, so they are `null` in the message, and the page stops with a `TypeError`.
* A date is the number of milliseconds that `new Date` gives for its text. Numbers are natural
  numbers, as long as JavaScript keeps them exactly.
* The comparison of the traces is not a number for a team without points. The language then leaves
  the order to the browser, so the sort of the traces is a parameter (`TraceSort`).
* `standings_iff` says along which runs the traces are always those of the last message.
-/

set_option autoImplicit false

namespace Haaukins.Amigo

/-! ## Teams in the browser -/

/-- An element of `values.teams`, without `is_user`. `none` is `null`. -/
structure BrowserTeam where
  id : String
  name : String
  tpoints : Nat
  completions : Option (List (Option Int))
  points : Option (List Nat)

namespace BrowserTeam

variable (team : BrowserTeam)

/-- The cells of the team: each date with the points at the same index. -/
def cells : List (Option Int × Nat) := (team.completions.getD []).zip (team.points.getD [])

/-- The cells that are solved. -/
def solved : List (Int × Nat) := team.cells.filterMap fun cell => cell.1.map fun d => (d, cell.2)

/-- What `TeamInfo` says about a row. -/
structure FromServer : Prop where
  null_iff : team.completions = none ↔ team.points = none
  length_eq : (team.completions.getD []).length = (team.points.getD []).length
  total : team.tpoints = (team.solved.map Prod.snd).sum

end BrowserTeam

/-- A row of a message. -/
structure ServerTeam extends BrowserTeam where
  fromServer : toBrowserTeam.FromServer

/-- The row of a team in the browser. `date` is `new Date` of the text of a time. -/
def ofTeamRow (date : Time → Int) (row : TeamRow) : BrowserTeam where
  id := row.id
  name := row.name
  tpoints := row.totalPoints.toNat
  completions :=
    if row.chalCompletions = [] then none else some (row.chalCompletions.map (Option.map date))
  points := if row.chalPoints = [] then none else some (row.chalPoints.map UInt64.toNat)

section

variable (date : Time → Int) (row : TeamRow)

/-- The completions come over with the message. -/
theorem ofTeamRow_completions :
    (ofTeamRow date row).completions.getD [] = row.chalCompletions.map (Option.map date) := by
  rw [ofTeamRow]
  by_cases hnil : row.chalCompletions = []
  · rw [if_pos hnil, hnil]
    rfl
  · rw [if_neg hnil]
    rfl

/-- So do the points. -/
theorem ofTeamRow_points :
    (ofTeamRow date row).points.getD [] = row.chalPoints.map UInt64.toNat := by
  rw [ofTeamRow]
  by_cases hnil : row.chalPoints = []
  · rw [if_pos hnil, hnil]
    rfl
  · rw [if_neg hnil]
    rfl

/-- The browser counts the cells that `TeamInfo` has counted. -/
theorem ofTeamRow_solved : (ofTeamRow date row).solved.map Prod.snd = row.completedPoints := by
  have hcells : ∀ (completions : List (Option Time)) (points : List UInt64),
      (((completions.map (Option.map date)).zip (points.map UInt64.toNat)).filterMap
        fun cell => cell.1.map fun d => (d, cell.2)).map Prod.snd =
      ((points.zip completions).filter fun cell => cell.2.isSome).map
        fun cell => cell.1.toNat := by
    intro completions
    induction completions with
    | nil => intro points; cases points <;> rfl
    | cons c completions ih =>
      intro points
      cases points with
      | nil => rfl
      | cons p points =>
        cases c with
        | none => exact ih points
        | some d => exact congrArg (p.toNat :: ·) (ih points)
  rw [BrowserTeam.solved, BrowserTeam.cells, ofTeamRow_completions, ofTeamRow_points, hcells]
  rfl

/-- The rows of `TeamInfo` have what the page needs. The sum of a row has to fit into a `uint`. -/
theorem ofTeamRow_fromServer {row : TeamRow} {header : List ScoreboardChallenge} {t : TeamView}
    (h : RowAligned header t row) (hsum : row.completedPoints.sum < 2 ^ 64) :
    (ofTeamRow date row).FromServer where
  null_iff := by
    have hnil : row.chalCompletions = [] ↔ row.chalPoints = [] := by
      rw [← List.length_eq_zero_iff, ← h.length, List.length_eq_zero_iff]
    simp [ofTeamRow, hnil]
  length_eq := by
    rw [ofTeamRow_completions, ofTeamRow_points, List.length_map, List.length_map, h.length]
  total := by
    rw [ofTeamRow_solved]
    exact h.total.trans (Nat.mod_eq_of_lt hsum)

end

/-! ## The code -/

/-- A line of the data of an event: a scoreboard, or a message that the page skips. -/
inductive Line where
  | scoreboard (teams : List ServerTeam)
  | other

/-- A trace, without its mode. The color of its marker is the one of its line. -/
structure Trace where
  x : List Int
  y : List Nat
  name : String
  color : String

/-- `Array.prototype.sort` with the comparison of `scoreGraph`. -/
structure TraceSort where
  sort : List Trace → List Trace
  perm : ∀ traces, (sort traces).Perm traces

/-- The state of the component. -/
structure TeamsPage where
  teams : List BrowserTeam
  traces : List Trace

/-- `ToInt32` of the language. -/
def toInt32 (n : Int) : Int := (n + 2 ^ 31) % 2 ^ 32 - 2 ^ 31

/-- The values of `charCodeAt`. -/
def charCodes (str : String) : List Int :=
  str.toList.flatMap fun c =>
    if c.toNat < 0x10000 then [(c.toNat : Int)]
    else [0xD800 + (c.toNat - 0x10000 : Nat) / 0x400, 0xDC00 + (c.toNat - 0x10000 : Nat) % 0x400]

/-- `colorHash`. -/
def colorHash (str : String) : String :=
  let hash := (charCodes str).foldl (fun hash c => c + (toInt32 (toInt32 hash * 2 ^ 5) - hash)) 0
  (List.range 3).foldl (fun colour j =>
    -- `& 0xFF`, in two digits
    let value := (toInt32 hash / 2 ^ (j * 8) % 256).toNat
    colour ++ String.ofList [Nat.digitChar (value / 16), Nat.digitChar (value % 16)]) "#"

/-- `reduce` with a sum, for an array that is not empty. -/
def reduceSum : List Nat → Nat
  | [] => 0
  | p :: ps => ps.foldl (· + ·) p

/-- `cumulativeSum`. -/
def cumulativeSum (arr : List Nat) : List Nat :=
  (List.range arr.length).map fun i => reduceSum (arr.take (i + 1))

/-- The time value of `new Date(a.date)`. `null` is the time 0. -/
def timeValue (d : Option Int) : Int := d.getD 0

namespace BrowserTeam

variable (team : BrowserTeam)

/-- The body of the loop of `sortSolvedData`. It is `none` for the `TypeError` of a team without
completions. -/
def sortSolved : Option BrowserTeam :=
  match team.completions with
  | none => none
  | some _ =>
    let list := team.cells.mergeSort fun a b => timeValue a.1 ≤ timeValue b.1
    some { team with
      completions := some (list.map Prod.fst)
      points := some (list.map Prod.snd) }

/-- The trace of a team in `scoreGraph`. -/
def trace : Trace where
  x := team.solved.map Prod.fst
  y := cumulativeSum (team.solved.map Prod.snd)
  name := team.name
  color := colorHash (team.name ++ team.id)

end BrowserTeam

/-- The loop of `sortSolvedData`, with the teams as they are when it ends. The flag is false when
it ends with an error. -/
def sortSolvedData : List BrowserTeam → List BrowserTeam × Bool
  | [] => ([], true)
  | team :: teams =>
    match team.sortSolved with
    | none => (team :: teams, false)
    | some team =>
      let (teams, done) := sortSolvedData teams
      (team :: teams, done)

namespace TeamsPage

variable (order : TraceSort) (page : TeamsPage)

/-- `scoreGraph`. -/
def scoreGraph : TeamsPage :=
  { page with traces := order.sort (page.traces ++ page.teams.map BrowserTeam.trace) }

/-- The body of the loop of `receiveMsg`. The flag is false when it ends with an error. -/
def receiveLine : Line → TeamsPage × Bool
  | .other => (page, true)
  | .scoreboard teams =>
    let teams := (teams.map ServerTeam.toBrowserTeam).mergeSort fun a b => b.tpoints ≤ a.tpoints
    match sortSolvedData teams with
    | (teams, false) => ({ page with teams := teams }, false)
    | (teams, true) => ({ page with teams := teams }.scoreGraph order, true)

/-- `receiveMsg`. An error ends the loop over the lines. -/
def receiveMsg : TeamsPage → List Line → TeamsPage
  | page, [] => page
  | page, line :: lines =>
    match page.receiveLine order line with
    | (page, false) => page
    | (page, true) => receiveMsg page lines

end TeamsPage

/-! ## The graph of a list of teams -/

/-- The trace of a team: its solved challenges in the order of their times, with the running
totals of their points. -/
structure IsTraceOf (team : ServerTeam) (trace : Trace) : Prop where
  name : trace.name = team.name
  color : trace.color = colorHash (team.name ++ team.id)
  solves : ∃ solves : List (Int × Nat), solves.Perm team.solved ∧
    solves.Pairwise (fun a b => a.1 ≤ b.1) ∧
    trace.x = solves.map Prod.fst ∧ trace.y = runningTotals (solves.map Prod.snd)
  total : ∀ y, trace.y.getLast? = some y → y = team.tpoints

/-- The traces are those of the teams, one for each. -/
def Shows (traces : List Trace) (teams : List ServerTeam) : Prop := Paired IsTraceOf teams traces

/-- The teams have the same traces. -/
structure Alike (a b : ServerTeam) : Prop where
  name : a.name = b.name
  color : colorHash (a.name ++ a.id) = colorHash (b.name ++ b.id)
  solved : a.solved.Perm b.solved

/-- A team is like itself. -/
theorem Alike.refl (team : ServerTeam) : Alike team team := ⟨rfl, rfl, .refl _⟩

/-- A trace says which challenges are solved. -/
theorem IsTraceOf.alike {a b : ServerTeam} {trace : Trace} (ha : IsTraceOf a trace)
    (hb : IsTraceOf b trace) : Alike a b where
  name := ha.name.symm.trans hb.name
  color := ha.color.symm.trans hb.color
  solved := by
    obtain ⟨solves, hperm, -, hx, hy⟩ := ha.solves
    obtain ⟨solves', hperm', -, hx', hy'⟩ := hb.solves
    have htimes : solves.map Prod.fst = solves'.map Prod.fst := hx.symm.trans hx'
    have hpoints : solves.map Prod.snd = solves'.map Prod.snd :=
      runningTotals_injective (hy.symm.trans hy')
    have heq : solves = solves' := by
      rw [List.zip_of_prod htimes hpoints]
      exact (List.zip_of_prod rfl rfl).symm
    exact hperm.symm.trans (heq ▸ hperm')

/-- Teams that are alike have the same trace. -/
theorem IsTraceOf.of_alike {a b : ServerTeam} {trace : Trace} (ha : IsTraceOf a trace)
    (h : Alike a b) : IsTraceOf b trace where
  name := ha.name.trans h.name
  color := ha.color.trans h.color
  solves := by
    obtain ⟨solves, hperm, hrest⟩ := ha.solves
    exact ⟨solves, hperm.trans h.solved, hrest⟩
  total := by
    intro y hy
    rw [ha.total y hy, a.fromServer.total, b.fromServer.total]
    exact (h.solved.map Prod.snd).sum_nat

/-- Traces of some teams are those of other teams exactly when the teams are alike. -/
theorem shows_iff {traces : List Trace} {drawn teams : List ServerTeam}
    (h : Shows traces drawn) : Shows traces teams ↔ Paired Alike drawn teams := by
  constructor
  · intro hteams
    exact .comp (fun _ _ _ ha hb => ha.alike hb) h hteams.flip
  · intro halike
    exact .comp (fun _ _ _ hb ha => ha.of_alike hb) halike.flip h

/-! ## What a message draws -/

/-- `cumulativeSum` makes the running totals. -/
theorem cumulativeSum_eq (arr : List Nat) : cumulativeSum arr = runningTotals arr := by
  have hreduce : ∀ ps : List Nat, reduceSum ps = ps.sum := by
    intro ps
    cases ps with
    | nil => rfl
    | cons p ps =>
      show ps.foldl (· + ·) p = (p :: ps).sum
      rw [List.sum_cons, List.sum_eq_foldl]
      exact @List.foldl_assoc Nat (· + ·) _ ps p 0
  simp only [cumulativeSum, runningTotals, hreduce]

/-- The loop of a team puts its solved challenges in the order of their times. -/
theorem ServerTeam.isTraceOf_trace (team : ServerTeam) {sorted : BrowserTeam}
    (h : team.sortSolved = some sorted) : IsTraceOf team sorted.trace := by
  unfold BrowserTeam.sortSolved at h
  cases hnull : team.completions with
  | none =>
    rw [hnull] at h
    cases h
  | some completions =>
    rw [hnull] at h
    cases h
    let cell (c : Option Int × Nat) : Option (Int × Nat) := c.1.map fun d => (d, c.2)
    let list := team.cells.mergeSort fun a b => timeValue a.1 ≤ timeValue b.1
    let solves := list.filterMap cell
    -- The sort takes `null` for the time 0, and leaves it among the others.
    have hsorted := stablySorted_mergeSort (fun c : Option Int × Nat => timeValue c.1) team.cells
    have hperm : solves.Perm team.solved := hsorted.perm.filterMap _
    have htimes : solves.Pairwise fun a b => a.1 ≤ b.1 := by
      refine hsorted.sorted.filterMap _ fun a b hab => ?_
      intro a' ha b' hb
      obtain ⟨d, hd, rfl⟩ := Option.map_eq_some_iff.mp ha
      obtain ⟨e, he, rfl⟩ := Option.map_eq_some_iff.mp hb
      rwa [timeValue, timeValue, hd, he] at hab
    -- The cells of the sorted team are the list that was sorted.
    have hsolved : BrowserTeam.solved
        { team with
          completions := some (list.map Prod.fst)
          points := some (list.map Prod.snd) } = solves := by
      show ((list.map Prod.fst).zip (list.map Prod.snd)).filterMap cell = solves
      rw [← @List.zip_of_prod _ _ _ _ list rfl rfl]
    refine ⟨rfl, rfl, ⟨solves, hperm, htimes, ?_, ?_⟩, ?_⟩
    · exact congrArg (List.map Prod.fst) hsolved
    · exact (congrArg (fun s => cumulativeSum (s.map Prod.snd)) hsolved).trans (cumulativeSum_eq _)
    · intro y hy
      have hsum : y = (solves.map Prod.snd).sum := by
        refine eq_sum_of_getLast?_runningTotals ?_
        rw [← cumulativeSum_eq, ← hsolved]
        exact hy
      rw [hsum, team.fromServer.total]
      exact (hperm.map Prod.snd).sum_nat

/-- A team without completions is a `TypeError`. -/
theorem BrowserTeam.sortSolved_isSome (team : BrowserTeam) :
    team.sortSolved.isSome = team.completions.isSome := by
  unfold BrowserTeam.sortSolved
  cases team.completions with
  | none => rfl
  | some _ => rfl

/-- The loop ends when each team has completions. -/
theorem sortSolvedData_snd (teams : List BrowserTeam) :
    (sortSolvedData teams).2 = teams.all fun team => team.completions.isSome := by
  induction teams with
  | nil => rfl
  | cons team teams ih =>
    rw [List.all_cons, ← ih, ← BrowserTeam.sortSolved_isSome, sortSolvedData]
    cases team.sortSolved with
    | none => rfl
    | some _ => rfl

/-- A loop that comes to its end has sorted each team. -/
theorem forall₂_sortSolvedData {teams : List BrowserTeam} :
    ∀ {sorted : List BrowserTeam}, sortSolvedData teams = (sorted, true) →
      List.Forall₂ (fun team t => team.sortSolved = some t) teams sorted := by
  induction teams with
  | nil =>
    intro sorted h
    cases h
    exact .nil
  | cons team teams ih =>
    intro sorted h
    rw [sortSolvedData] at h
    cases hteam : team.sortSolved with
    | none =>
      rw [hteam] at h
      cases h
    | some t =>
      rw [hteam] at h
      obtain ⟨hsorted, hdone⟩ := Prod.mk.inj h
      rw [← hsorted]
      exact .cons hteam (ih (Prod.ext rfl hdone))

/-- The scoreboards of a message. -/
def scoreboards (lines : List Line) : List (List ServerTeam) :=
  lines.filterMap fun line =>
    match line with
    | .scoreboard teams => some teams
    | .other => none

/-- The page does not stop at the scoreboard. -/
def drawable (teams : List ServerTeam) : Bool := teams.all fun team => team.completions.isSome

/-- The teams of a message that get a trace. -/
def drawnTeams (lines : List Line) : List ServerTeam :=
  ((scoreboards lines).takeWhile drawable).flatten

namespace TeamsPage

variable (order : TraceSort) {page : TeamsPage} {drawn teams : List ServerTeam}

/-- The order of the teams does not decide whether there is an error. -/
theorem sortSolvedData_snd_of_scoreboard :
    (sortSolvedData ((teams.map ServerTeam.toBrowserTeam).mergeSort
      fun a b => b.tpoints ≤ a.tpoints)).2 = drawable teams := by
  rw [sortSolvedData_snd, drawable, (List.mergeSort_perm _ _).all_eq, List.all_map]
  rfl

/-- A scoreboard adds one trace for each of its teams. -/
theorem shows_receiveLine (h : Shows page.traces drawn) (hdraw : drawable teams = true) :
    ∃ page' : TeamsPage, page.receiveLine order (.scoreboard teams) = (page', true) ∧
      Shows page'.traces (drawn ++ teams) := by
  unfold receiveLine
  simp only
  cases hloop : sortSolvedData ((teams.map ServerTeam.toBrowserTeam).mergeSort
      fun a b => b.tpoints ≤ a.tpoints) with
  | mk sorted done =>
    have hdone : done = true := by
      rw [← hdraw, ← sortSolvedData_snd_of_scoreboard, hloop]
    subst hdone
    refine ⟨_, rfl, ?_⟩
    have hsorted : Paired (fun (team : ServerTeam) t => team.sortSolved = some t) teams sorted := by
      have hforall := Paired.of_forall₂ (forall₂_sortSolvedData hloop)
      exact Paired.map_left_iff.mp (hforall.of_perm (List.mergeSort_perm _ _).symm (.refl _))
    have hnew : Shows (sorted.map BrowserTeam.trace) teams :=
      Paired.map_right_iff.mpr (hsorted.mono fun team _ => team.isTraceOf_trace)
    exact (Paired.append h hnew).of_perm (.refl _) (order.perm _)

/-- A message with an error leaves the traces as they were. -/
theorem receiveLine_of_not_drawable (page : TeamsPage) (hdraw : drawable teams = false) :
    ∃ page' : TeamsPage, page.receiveLine order (.scoreboard teams) = (page', false) ∧
      page'.traces = page.traces := by
  unfold receiveLine
  simp only
  cases hloop : sortSolvedData ((teams.map ServerTeam.toBrowserTeam).mergeSort
      fun a b => b.tpoints ≤ a.tpoints) with
  | mk sorted done =>
    have hdone : done = false := by
      rw [← hdraw, ← sortSolvedData_snd_of_scoreboard, hloop]
    subst hdone
    exact ⟨_, rfl, rfl⟩

/-- A message adds the traces of its scoreboards, up to the first one where the page stops. -/
theorem shows_receiveMsg {lines : List Line} (h : Shows page.traces drawn) :
    Shows (page.receiveMsg order lines).traces (drawn ++ drawnTeams lines) := by
  induction lines generalizing page drawn with
  | nil => rwa [drawnTeams, scoreboards, List.filterMap_nil, List.takeWhile_nil, List.flatten_nil,
      List.append_nil]
  | cons line lines ih =>
    cases line with
    | other => exact ih h
    | scoreboard teams =>
      by_cases hdraw : drawable teams = true
      · obtain ⟨page', hline, hpage⟩ := shows_receiveLine order h hdraw
        have hdrawn : drawnTeams (.scoreboard teams :: lines) = teams ++ drawnTeams lines := by
          show (List.takeWhile drawable (teams :: scoreboards lines)).flatten = _
          rw [List.takeWhile_cons_of_pos hdraw, List.flatten_cons]
          rfl
        rw [receiveMsg, hline, hdrawn, ← List.append_assoc]
        exact ih hpage
      · -- The `TypeError` ends the message, so the rest of its lines is not read.
        have hstop : drawable teams = false := Bool.eq_false_iff.mpr hdraw
        obtain ⟨page', hline, hpage⟩ :=
          receiveLine_of_not_drawable order page hstop
        have hdrawn : drawnTeams (.scoreboard teams :: lines) = [] := by
          show (List.takeWhile drawable (teams :: scoreboards lines)).flatten = _
          rw [List.takeWhile_cons_of_neg hdraw]
          rfl
        rw [receiveMsg, hline, hdrawn, List.append_nil]
        show Shows page'.traces drawn
        rwa [hpage]

end TeamsPage

/-! ## Runs -/

/-- The page and the teams of the last scoreboard that it has received. -/
structure PageView where
  page : TeamsPage
  latest : List ServerTeam

/-- What happens to an open page. -/
inductive PageEvent where
  | message (lines : List Line)
  /-- `onclose`. The component keeps its state. -/
  | reconnect

/-- The page when it opens. -/
def PageView.opened : PageView where
  page := { teams := [], traces := [] }
  latest := []

/-- The page and the events of a connection. -/
def pageMachine (order : TraceSort) : Machine PageView PageEvent where
  init view := view = .opened
  step view event :=
    match event with
    | .message lines =>
      some { page := view.page.receiveMsg order lines
             latest := (scoreboards lines).getLast?.getD view.latest }
    | .reconnect => some view

/-- The graph has one trace for each team of the last scoreboard, and no others. -/
def PageView.Current (view : PageView) : Prop := Shows view.page.traces view.latest

/-- The traces that are there and those that the message draws are the ones of its last
scoreboard. A message without an empty list of challenges draws all of its scoreboards. -/
def PageEvent.Fits (latest : List ServerTeam) : PageEvent → Prop
  | .reconnect => True
  | .message lines =>
    match (scoreboards lines).getLast? with
    | none => True
    | some teams =>
      if ∀ sb ∈ scoreboards lines, drawable sb = true then
        latest = [] ∧ ∀ sb ∈ (scoreboards lines).dropLast, sb = []
      else Paired Alike (latest ++ drawnTeams lines) teams

/-- When all of the scoreboards are drawn, only the last one may have teams. -/
theorem paired_drawnTeams_iff {lines : List Line} {latest teams : List ServerTeam}
    (hlast : (scoreboards lines).getLast? = some teams)
    (hdraw : ∀ sb ∈ scoreboards lines, drawable sb = true) :
    Paired Alike (latest ++ drawnTeams lines) teams ↔
      latest = [] ∧ ∀ sb ∈ (scoreboards lines).dropLast, sb = [] := by
  have hdrawn : drawnTeams lines = (scoreboards lines).dropLast.flatten ++ teams := by
    have hsplit := List.dropLast_append_getLast? teams hlast
    rw [drawnTeams, List.takeWhile_eq_self_iff.mpr hdraw]
    calc (scoreboards lines).flatten
        = ((scoreboards lines).dropLast ++ [teams]).flatten := by rw [hsplit]
      _ = (scoreboards lines).dropLast.flatten ++ teams := by
        rw [List.flatten_append, List.flatten_singleton]
  rw [hdrawn]
  constructor
  · -- The teams of the last scoreboard are drawn, so there is no room for others.
    intro hpaired
    have hlength := hpaired.length_eq
    rw [List.length_append, List.length_append] at hlength
    have hlatest : latest.length = 0 := by omega
    have hearlier : (scoreboards lines).dropLast.flatten.length = 0 := by omega
    exact ⟨List.length_eq_zero_iff.mp hlatest,
      List.flatten_eq_nil_iff.mp (List.length_eq_zero_iff.mp hearlier)⟩
  · intro h
    rw [h.1, List.flatten_eq_nil_iff.mpr h.2, List.nil_append, List.nil_append]
    exact .refl Alike.refl teams

/-- The graph fits after a message when the drawn teams match its last scoreboard. -/
theorem PageEvent.fits_message_iff {lines : List Line} {latest teams : List ServerTeam}
    (hlast : (scoreboards lines).getLast? = some teams) :
    (PageEvent.message lines).Fits latest ↔
      Paired Alike (latest ++ drawnTeams lines) teams := by
  rw [PageEvent.Fits, hlast]
  show (if _ then _ else _) ↔ _
  split
  · next hdraw => exact (paired_drawnTeams_iff hlast hdraw).symm
  · exact Iff.rfl

/-- A step from a current graph leads to a current graph exactly when its event fits. -/
theorem PageView.current_step_iff {order : TraceSort} {view view' : PageView} {event : PageEvent}
    (h : view.Current) (hstep : (pageMachine order).step view event = some view') :
    view'.Current ↔ event.Fits view.latest := by
  cases event with
  | reconnect =>
    cases hstep
    exact iff_of_true h trivial
  | message lines =>
    cases hstep
    have hdrawn : Shows (view.page.receiveMsg order lines).traces
        (view.latest ++ drawnTeams lines) := TeamsPage.shows_receiveMsg order h
    cases hlast : (scoreboards lines).getLast? with
    | none =>
      -- Nothing is drawn, and the last scoreboard is the one from before.
      have hnone : scoreboards lines = [] := List.getLast?_eq_none_iff.mp hlast
      rw [drawnTeams, hnone, List.takeWhile_nil, List.flatten_nil, List.append_nil] at hdrawn
      refine iff_of_true hdrawn ?_
      rw [PageEvent.Fits, hlast]
      trivial
    | some teams =>
      rw [PageEvent.fits_message_iff hlast, ← shows_iff hdrawn]
      exact Iff.rfl

/-- The graph shows the last scoreboard along a run exactly when each of its events fits. -/
theorem standings_iff (order : TraceSort) (events : List PageEvent) :
    (pageMachine order).AllStates PageView.Current .opened events ↔
      (pageMachine order).AllSteps (fun view event => event.Fits view.latest) .opened events := by
  refine Machine.allStates_iff_allSteps (A := fun _ _ => True) (fun view h => h)
    (fun view event view' h _ hfits hstep => ?_) (fun view event view' h _ hfits hstep => ?_)
    ?_ Machine.allSteps_true
  · exact (PageView.current_step_iff h hstep).mpr hfits
  · exact fun hcurrent => hfits ((PageView.current_step_iff h hstep).mp hcurrent)
  · show Paired IsTraceOf [] []
    exact .of_forall₂ .nil

/-- A team with one challenge, solved. -/
def oneTeam : ServerTeam where
  id := "1"
  name := "blue"
  tpoints := 5
  completions := some [some 1000]
  points := some [5]
  fromServer := ⟨by decide, rfl, rfl⟩

/-- The two traces of the team are equal, so any sort leaves them as they are. -/
def keepOrder : TraceSort where
  sort traces := traces
  perm _ := .refl _

/-- After the connection is lost, the scoreboard comes again. The team then has two traces. -/
theorem standings_twice :
    ¬ (pageMachine keepOrder).AllStates PageView.Current .opened
      [.message [.scoreboard [oneTeam]], .reconnect, .message [.scoreboard [oneTeam]]] := by
  intro h
  have hlast := ((h.2 _ rfl).2 _ rfl).2 _ rfl
  have hdrawn : Shows _ ([oneTeam] ++ drawnTeams [.scoreboard [oneTeam]]) :=
    TeamsPage.shows_receiveMsg keepOrder ((h.2 _ rfl).2 _ rfl).head
  have hlength := (Paired.length_eq hlast).trans (Paired.length_eq hdrawn).symm
  cases hlength

end Haaukins.Amigo
