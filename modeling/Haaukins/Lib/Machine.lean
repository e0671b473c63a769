import Mathlib.Data.List.Basic
import Mathlib.Data.Option.Basic

/-!
# `Haaukins.Lib.Machine`: machines, runs and their invariants

A `Machine` is a state machine whose steps are labelled by actions. `step s a` is `none`
when the action `a` is not enabled in `s`. All choices of a scheduler or of the environment
are part of the action, so `step` is a function and a run is a list of actions.

* `Reachable ok` collects the states of the runs whose steps all meet `ok`. The rule
  `Reachable.invariant` turns a step lemma into a fact about every such state.
* `AllStates P` and `AllSteps ok` speak about one run: `P` holds in each state that the run
  passes, and `ok` holds at each step that it takes. `AllStates.of_run` takes such a fact to the
  last state of a run that was computed.
* `allStates_iff_allSteps` is the rule for an exact condition. One step lemma shows that an
  `ok` step keeps the invariant, another that a step which is not `ok` breaks `P`. Then `P`
  holds along a run if and only if each of its steps is `ok`. `allSteps_and_allStates_iff` is
  the rule for a run with conditions on its steps and on its states.
* `Quiescent internal` says that no internal action is enabled.
-/

set_option autoImplicit false

/-- A state machine: the states in which a run can start, and the step of each action. -/
structure Machine (σ α : Type*) where
  init : σ → Prop
  step : σ → α → Option σ

namespace Machine

variable {σ α : Type*} (M : Machine σ α)

/-- The state after the actions of a list, or `none` when one of them is not enabled. -/
def run (s : σ) (as : List α) : Option σ := as.foldlM M.step s

/-- The empty run. -/
@[simp] theorem run_nil (s : σ) : M.run s [] = some s := rfl

/-- A run is its first step and the rest. -/
@[simp] theorem run_cons (s : σ) (a : α) (as : List α) :
    M.run s (a :: as) = (M.step s a).bind fun t => M.run t as := rfl

/-- A run over two lists is a run over the first list, followed by a run over the second. -/
theorem run_append (s : σ) (as bs : List α) :
    M.run s (as ++ bs) = (M.run s as).bind fun t => M.run t bs := by
  simp only [run, List.foldlM_append]
  rfl

/-- The states of the runs whose steps all meet `ok`. -/
inductive Reachable (ok : σ → α → Prop) : σ → Prop where
  | init {s : σ} : M.init s → Reachable ok s
  | step {s : σ} {a : α} {t : σ} :
      Reachable ok s → ok s a → M.step s a = some t → Reachable ok t

variable {M}

/-- The invariant rule: what holds initially and survives each `ok` step holds in every
state that is reachable by `ok` steps. -/
theorem Reachable.invariant {ok : σ → α → Prop} (I : σ → Prop)
    (hinit : ∀ s, M.init s → I s)
    (hstep : ∀ s a t, I s → ok s a → M.step s a = some t → I t)
    {s : σ} (h : M.Reachable ok s) : I s := by
  induction h with
  | init h => exact hinit _ h
  | step _ hok hs ih => exact hstep _ _ _ ih hok hs

/-- Steps that meet `ok` in the states of an invariant meet `ok'` there. -/
theorem Reachable.strengthen {ok ok' : σ → α → Prop} (I : σ → Prop)
    (hinit : ∀ s, M.init s → I s)
    (hstep : ∀ s a t, I s → ok s a → M.step s a = some t → I t ∧ ok' s a)
    {s : σ} (h : M.Reachable ok s) : M.Reachable ok' s := by
  have hboth : I s ∧ M.Reachable ok' s := by
    induction h with
    | init h => exact ⟨hinit _ h, .init h⟩
    | step _ hok hs ih =>
      obtain ⟨hI, hok'⟩ := hstep _ _ _ ih.1 hok hs
      exact ⟨hI, ih.2.step hok' hs⟩
  exact hboth.2

/-- An invariant of single steps is an invariant of runs. -/
theorem run_invariant {I : σ → Prop} {A : α → Prop}
    (hstep : ∀ s a t, I s → A a → M.step s a = some t → I t) :
    ∀ {as : List α} {s t : σ}, I s → (∀ a ∈ as, A a) → M.run s as = some t → I t := by
  intro as
  induction as with
  | nil =>
    intro s t hs _ hrun
    cases hrun
    exact hs
  | cons a as ih =>
    intro s t hs hok hrun
    obtain ⟨u, hu, hrun⟩ := Option.bind_eq_some_iff.mp hrun
    exact ih (hstep s a u hs (hok a (by simp)) hu) (fun b hb => hok b (by simp [hb])) hrun

/-- The variant rule: when each step keeps the invariant and lowers the measure, a run is no
longer than the measure of its first state. -/
theorem run_length_le {I : σ → Prop} {ok : α → Prop} {m : σ → Nat}
    (hstep : ∀ s a t, I s → ok a → M.step s a = some t → I t ∧ m t < m s) :
    ∀ {as : List α} {s t : σ}, I s → (∀ a ∈ as, ok a) → M.run s as = some t →
      as.length ≤ m s := by
  intro as
  induction as with
  | nil => simp
  | cons a as ih =>
    intro s t hs hok hrun
    obtain ⟨u, hu, hrun⟩ := Option.bind_eq_some_iff.mp hrun
    obtain ⟨hIu, hlt⟩ := hstep s a u hs (hok a (by simp)) hu
    have := ih hIu (fun b hb => hok b (by simp [hb])) hrun
    simp only [List.length_cons]
    omega

variable (M)

/-- `P` holds in each state that the run over the list passes, its first state included. -/
def AllStates (P : σ → Prop) : σ → List α → Prop
  | s, [] => P s
  | s, a :: as => P s ∧ ∀ t, M.step s a = some t → AllStates P t as

/-- `ok` holds at each step that the run over the list takes. -/
def AllSteps (ok : σ → α → Prop) : σ → List α → Prop
  | _, [] => True
  | s, a :: as => ∀ t, M.step s a = some t → ok s a ∧ AllSteps ok t as

variable {M}

/-- Every step meets the trivial condition. -/
@[simp] theorem allSteps_true {s : σ} {as : List α} : M.AllSteps (fun _ _ => True) s as := by
  induction as generalizing s with
  | nil => trivial
  | cons a as ih => exact fun t _ => ⟨trivial, ih⟩

/-- The steps of a run in two parts. -/
theorem allSteps_append {ok : σ → α → Prop} {as bs : List α} {s : σ} :
    M.AllSteps ok s (as ++ bs) ↔
      M.AllSteps ok s as ∧ ∀ t, M.run s as = some t → M.AllSteps ok t bs := by
  induction as generalizing s with
  | nil => simp [AllSteps]
  | cons a as ih =>
    simp only [List.cons_append, AllSteps, ih, run_cons, Option.bind_eq_some_iff]
    constructor
    · intro h
      exact ⟨fun t ht => ⟨(h t ht).1, (h t ht).2.1⟩, fun u ⟨t, ht, hu⟩ => (h t ht).2.2 u hu⟩
    · intro h t ht
      exact ⟨(h.1 t ht).1, (h.1 t ht).2, fun u hu => h.2 u ⟨t, ht, hu⟩⟩

/-- A run of `ok` steps from a reachable state ends in a reachable state. -/
theorem Reachable.run {ok : σ → α → Prop} {s : σ} (h : M.Reachable ok s) :
    ∀ {as : List α} {t : σ}, M.AllSteps ok s as → M.run s as = some t → M.Reachable ok t := by
  intro as
  induction as generalizing s with
  | nil =>
    intro t _ hrun
    cases hrun
    exact h
  | cons a as ih =>
    intro t hok hrun
    obtain ⟨u, hu, hrun⟩ := Option.bind_eq_some_iff.mp hrun
    obtain ⟨hoka, hrest⟩ := hok u hu
    exact ih (h.step hoka hu) hrest hrun

/-- `AllStates` is what its name says: `P` holds at the end of every prefix of the run. -/
theorem allStates_iff {P : σ → Prop} :
    ∀ {as : List α} {s : σ}, M.AllStates P s as ↔
      ∀ bs t, bs <+: as → M.run s bs = some t → P t := by
  intro as
  induction as with
  | nil =>
    intro s
    simp only [AllStates, List.prefix_nil]
    constructor
    · rintro h bs t rfl hrun
      cases hrun
      exact h
    · intro h
      exact h [] s rfl rfl
  | cons a as ih =>
    intro s
    simp only [AllStates, ih]
    constructor
    · rintro ⟨hs, hrest⟩ bs t hpre hrun
      cases bs with
      | nil =>
        cases hrun
        exact hs
      | cons b bs =>
        obtain ⟨rfl, htail⟩ := List.cons_prefix_cons.mp hpre
        obtain ⟨u, hu, hrun⟩ := Option.bind_eq_some_iff.mp hrun
        exact hrest u hu bs t htail hrun
    · intro h
      refine ⟨h [] s List.nil_prefix rfl, fun t ht bs u hpre hrun => ?_⟩
      exact h (a :: bs) u (List.cons_prefix_cons.mpr ⟨rfl, hpre⟩) (by simp [ht, hrun])

/-- What holds along a run holds of its last state, of which `f` computes a part. -/
theorem AllStates.of_run {β : Type*} {P : σ → Prop} {s : σ} {as : List α}
    (h : M.AllStates P s as) (f : σ → β) (b : β) (hrun : (M.run s as).map f = some b) :
    ∃ t, f t = b ∧ P t := by
  obtain ⟨t, hrun, ht⟩ := Option.map_eq_some_iff.mp hrun
  exact ⟨t, ht, allStates_iff.mp h as t List.prefix_rfl hrun⟩

/-- Conditions that agree in each state of an invariant agree along a run. -/
theorem allStates_congr_of_invariant {I P Q : σ → Prop}
    (hkeep : ∀ s a t, I s → M.step s a = some t → I t) (h : ∀ s, I s → (P s ↔ Q s)) :
    ∀ {as : List α} {s : σ}, I s → (M.AllStates P s as ↔ M.AllStates Q s as) := by
  intro as
  induction as with
  | nil => exact fun hs => h _ hs
  | cons a as ih =>
    intro s hs
    exact and_congr (h s hs) (forall₂_congr fun t ht => ih (hkeep s a t hs ht))

/-- A weaker condition is met as well. -/
theorem AllSteps.mono {ok ok' : σ → α → Prop} (h : ∀ s a, ok s a → ok' s a) :
    ∀ {as : List α} {s : σ}, M.AllSteps ok s as → M.AllSteps ok' s as := by
  intro as
  induction as with
  | nil => exact fun _ => trivial
  | cons a as ih => exact fun hall t ht => ⟨h _ a (hall t ht).1, ih (hall t ht).2⟩

/-- Conditions that agree in each state agree along a run. -/
theorem allSteps_congr {ok ok' : σ → α → Prop} (h : ∀ s a, ok s a ↔ ok' s a) {as : List α}
    {s : σ} : M.AllSteps ok s as ↔ M.AllSteps ok' s as :=
  ⟨AllSteps.mono fun s a => (h s a).mp, AllSteps.mono fun s a => (h s a).mpr⟩

/-- Conditions that agree at each step from a state of an invariant agree along a run. `A` is what
is known of the actions of the run. -/
theorem allSteps_congr_of_invariant {I : σ → Prop} {A : α → Prop} {ok ok' : σ → α → Prop}
    (hkeep : ∀ s a t, I s → A a → M.step s a = some t → I t)
    (h : ∀ s a t, I s → M.step s a = some t → (ok s a ↔ ok' s a)) :
    ∀ {as : List α} {s : σ}, I s → (∀ a ∈ as, A a) →
      (M.AllSteps ok s as ↔ M.AllSteps ok' s as) := by
  intro as
  induction as with
  | nil => exact fun _ _ => Iff.rfl
  | cons a as ih =>
    intro s hs hA
    refine forall₂_congr fun t ht => and_congr (h s a t hs ht) ?_
    have hrest : ∀ b ∈ as, A b := fun b hb => hA b (List.mem_cons_of_mem a hb)
    exact ih (hkeep s a t hs (hA a List.mem_cons_self) ht) hrest

/-- The invariant rule along one run: `P` follows from the invariant, and the steps of the run
keep the invariant. -/
theorem AllSteps.allStates {P I : σ → Prop} {ok : σ → α → Prop} (hP : ∀ s, I s → P s)
    (hkeep : ∀ s a t, I s → ok s a → M.step s a = some t → I t) :
    ∀ {as : List α} {s : σ}, I s → M.AllSteps ok s as → M.AllStates P s as := by
  intro as
  induction as with
  | nil => exact fun hs _ => hP _ hs
  | cons a as ih =>
    intro s hs hall
    exact ⟨hP s hs, fun t ht => ih (hkeep s a t hs (hall t ht).1 ht) (hall t ht).2⟩

/-- What holds of each `ok` step in the invariant holds along a run of `ok` steps. -/
theorem AllSteps.strengthen {I : σ → Prop} {ok ok' : σ → α → Prop}
    (hkeep : ∀ s a t, I s → ok s a → M.step s a = some t → I t)
    (hstep : ∀ s a, I s → ok s a → ok' s a) :
    ∀ {as : List α} {s : σ}, I s → M.AllSteps ok s as → M.AllSteps ok' s as := by
  intro as
  induction as with
  | nil => exact fun _ _ => trivial
  | cons a as ih =>
    intro s hs hall t ht
    obtain ⟨hok, hrest⟩ := hall t ht
    exact ⟨hstep s a hs hok, ih (hkeep s a t hs hok ht) hrest⟩

/-- A condition that can be tested at each step can be tested along a run. -/
instance decidableAllSteps {ok : σ → α → Prop} [∀ s a, Decidable (ok s a)] :
    ∀ (s : σ) (as : List α), Decidable (M.AllSteps ok s as)
  | _, [] => isTrue trivial
  | s, a :: as =>
    match h : M.step s a with
    | none => isTrue (by simp [AllSteps, h])
    | some t =>
      have : Decidable (M.AllSteps ok t as) := decidableAllSteps t as
      decidable_of_iff (ok s a ∧ M.AllSteps ok t as) (by simp [AllSteps, h])

/-- A condition on the actions of the list holds at each step that the run takes. -/
theorem allSteps_of_forall {A : α → Prop} :
    ∀ {as : List α} {s : σ}, (∀ a ∈ as, A a) → M.AllSteps (fun _ => A) s as := by
  intro as
  induction as with
  | nil => exact fun _ => trivial
  | cons a as ih =>
    intro s h t _
    exact ⟨h a (by simp), ih fun b hb => h b (by simp [hb])⟩

/-- The rule for an exact condition. `I` is the invariant: it gives `P`, and each `ok`
step keeps it. If each step that is not `ok` breaks `P`, then `P` holds along a run if and
only if all its steps are `ok`. `A` is what is known of the steps of the run. -/
theorem allStates_iff_allSteps {P I : σ → Prop} {A ok : σ → α → Prop}
    (hP : ∀ s, I s → P s)
    (hkeep : ∀ s a t, I s → A s a → ok s a → M.step s a = some t → I t)
    (hbreak : ∀ s a t, I s → A s a → ¬ ok s a → M.step s a = some t → ¬ P t) :
    ∀ {as : List α} {s : σ}, I s → M.AllSteps A s as →
      (M.AllStates P s as ↔ M.AllSteps ok s as) := by
  intro as
  induction as with
  | nil =>
    intro s hs _
    simp [AllStates, AllSteps, hP s hs]
  | cons a as ih =>
    intro s hs hA
    simp only [AllStates, AllSteps, hP s hs, true_and]
    refine forall₂_congr fun t ht => ?_
    obtain ⟨ha, hrest⟩ := hA t ht
    by_cases hok : ok s a
    · simp [hok, ih (hkeep s a t hs ha hok ht) hrest]
    · -- The state right after the step already breaks `P`.
      have hPt : ¬ P t := hbreak s a t hs ha hok ht
      have : ¬ M.AllStates P t as := fun h => hPt (by cases as <;> simp_all [AllStates])
      simp [hok, this]

/-- The first state is one of the states. -/
theorem AllStates.head {P : σ → Prop} {s : σ} {as : List α} (h : M.AllStates P s as) : P s := by
  cases as with
  | nil => exact h
  | cons a as => exact h.1

/-- The rule for a run that has to meet `ok` at its steps and `P` in its states. A step does both
exactly when it meets `ok'`. -/
theorem allSteps_and_allStates_iff {P I : σ → Prop} {ok ok' : σ → α → Prop}
    (hP : ∀ s, I s → P s)
    (hkeep : ∀ s a t, I s → P t → M.step s a = some t → I t)
    (hstep : ∀ s a t, I s → M.step s a = some t → (ok s a ∧ P t ↔ ok' s a)) :
    ∀ {as : List α} {s : σ}, I s →
      (M.AllSteps ok s as ∧ M.AllStates P s as ↔ M.AllSteps ok' s as) := by
  intro as
  induction as with
  | nil =>
    intro s hs
    simp [AllStates, AllSteps, hP s hs]
  | cons a as ih =>
    intro s hs
    constructor
    · rintro ⟨hok, -, hstates⟩ t ht
      have hPt : P t := (hstates t ht).head
      have hIt : I t := hkeep s a t hs hPt ht
      exact ⟨(hstep s a t hs ht).mp ⟨(hok t ht).1, hPt⟩,
        (ih hIt).mp ⟨(hok t ht).2, hstates t ht⟩⟩
    · intro hall
      have hboth : ∀ t, M.step s a = some t →
          ok s a ∧ M.AllSteps ok t as ∧ M.AllStates P t as := by
        intro t ht
        obtain ⟨hok', hrest⟩ := hall t ht
        obtain ⟨hok, hPt⟩ := (hstep s a t hs ht).mpr hok'
        exact ⟨hok, (ih (hkeep s a t hs hPt ht)).mpr hrest⟩
      exact ⟨fun t ht => ⟨(hboth t ht).1, (hboth t ht).2.1⟩,
        hP s hs, fun t ht => (hboth t ht).2.2⟩

/-- The rule for a permanent loss. When exactly the steps that are not `ok` lead to a loss, and
no step undoes it, a run has no loss at its end if and only if all its steps are `ok`. -/
theorem not_lost_iff_allSteps {I L : σ → Prop} {ok : σ → α → Prop}
    (hI : ∀ s a t, I s → M.step s a = some t → I t)
    (hkeep : ∀ s a t, I s → ¬ L s → ok s a → M.step s a = some t → ¬ L t)
    (hbreak : ∀ s a t, I s → ¬ ok s a → M.step s a = some t → L t)
    (hlost : ∀ s a t, I s → L s → M.step s a = some t → L t) :
    ∀ {as : List α} {s t : σ}, I s → ¬ L s → M.run s as = some t →
      (¬ L t ↔ M.AllSteps ok s as) := by
  intro as
  induction as with
  | nil =>
    intro s t _ hs hrun
    cases hrun
    simp [AllSteps, hs]
  | cons a as ih =>
    intro s t hIs hs hrun
    obtain ⟨u, hu, hrun⟩ := Option.bind_eq_some_iff.mp hrun
    have hIu : I u := hI s a u hIs hu
    have hsteps : M.AllSteps ok s (a :: as) ↔ ok s a ∧ M.AllSteps ok u as := by
      simp [AllSteps, hu]
    rw [hsteps]
    by_cases hok : ok s a
    · simp [hok, ih hIu (hkeep s a u hIs hs hok hu) hrun]
    · have hLt : I t ∧ L t :=
        run_invariant (I := fun u => I u ∧ L u) (A := fun _ => True)
          (fun s a t h _ hstep => ⟨hI s a t h.1 hstep, hlost s a t h.1 h.2 hstep⟩)
          ⟨hIu, hbreak s a u hIs hok hu⟩ (fun _ _ => trivial) hrun
      simp [hok, hLt.2]

variable (M)

/-- No internal action is enabled. -/
def Quiescent (internal : α → Prop) (s : σ) : Prop := ∀ a, internal a → M.step s a = none

end Machine
