import Mathlib.Logic.Function.Basic
import Haaukins.Lib.Machine

/-!
# `Haaukins.Lib.Threads`: threads over a shared state

A `Program` is what one thread does: a step reads and writes the shared state, and moves the
thread on. `Program.threads` is the machine of any number of threads that run the program, in
any interleaving of their steps. A thread is a number.

* `allStates_shared_iff` is the rule for a property of the shared state alone. When a step keeps
  it exactly under a condition, it holds along a run exactly when all steps meet the condition.
* `threads_step_self` takes a step of the machine apart. An invariant that relates the positions
  of the threads is proved from it.
* `thread_invariant` is the rule for what each thread keeps on its own.
* `Locks.exclusive` is the rule for a lock: when each step leaves it, takes a free one, or gives
  back its own, at most one thread is behind it.
-/

set_option autoImplicit false

/-- What a thread does, on shared states in `σ`, with its own position in `μ`. -/
structure Program (σ μ α : Type*) where
  init : σ → Prop
  /-- The position at which each thread starts. -/
  start : μ
  step : σ → μ → α → Option (σ × μ)

/-- A shared state, and the positions of the threads. -/
structure Threads (σ μ : Type*) where
  shared : σ
  thread : Nat → μ

namespace Program

variable {σ μ α : Type*} (P : Program σ μ α)

/-- The threads that run the program. An action is a step of one thread. -/
def threads : Machine (Threads σ μ) (Nat × α) where
  init s := P.init s.shared ∧ s.thread = fun _ => P.start
  step s a := (P.step s.shared (s.thread a.1) a.2).map fun r =>
    { shared := r.1, thread := Function.update s.thread a.1 r.2 }

variable {P} {s t : Threads σ μ} {i : Nat} {a : α}

/-- A step is one of a single thread. -/
theorem threads_step : P.threads.step s (i, a) = some t ↔
    ∃ x l, P.step s.shared (s.thread i) a = some (x, l) ∧
      t = { shared := x, thread := Function.update s.thread i l } := by
  simp only [threads, Option.map_eq_some_iff, Prod.exists, eq_comm (a := t)]

/-- A step of the machine is a step of one thread, and leaves the others where they are. -/
theorem threads_step_self (hs : P.threads.step s (i, a) = some t) :
    P.step s.shared (s.thread i) a = some (t.shared, t.thread i) ∧
      ∀ j, j ≠ i → t.thread j = s.thread j := by
  obtain ⟨x, l, hx, rfl⟩ := threads_step.mp hs
  refine ⟨?_, fun j hj => Function.update_of_ne hj l s.thread⟩
  show P.step s.shared (s.thread i) a = some (x, Function.update s.thread i l i)
  rw [hx, Function.update_self]

/-- The rule for a property of one thread. What holds at its start and survives each of its steps
holds of all threads, in every interleaving. -/
theorem thread_invariant {I : μ → Prop} (hstart : I P.start)
    (hstep : ∀ x l a x' l', I l → P.step x l a = some (x', l') → I l')
    (h : P.threads.Reachable (fun _ _ => True) s) (i : Nat) : I (s.thread i) := by
  refine h.invariant (fun s => ∀ i, I (s.thread i)) ?_ ?_ i
  · rintro s ⟨-, hs⟩ i
    rw [hs]
    exact hstart
  · rintro s ⟨j, a⟩ t hs - hstep' i
    obtain ⟨hself, hothers⟩ := threads_step_self hstep'
    by_cases hij : i = j
    · subst hij
      exact hstep _ _ _ _ _ (hs i) hself
    · rw [hothers i hij]
      exact hs i

/-- The threads at positions that `holds` are behind a lock. A step leaves the lock as it is, takes
the free lock, or gives back its own. -/
structure Locks (P : Program σ μ α) (locked : σ → Bool) (holds : μ → Bool) : Prop where
  init : ∀ x, P.init x → locked x = false
  start : holds P.start = false
  step : ∀ x l a x' l', P.step x l a = some (x', l') →
    (locked x' = locked x ∧ holds l' = holds l) ∨
      (locked x = false ∧ holds l = false ∧ locked x' = true ∧ holds l' = true) ∨
        (holds l = true ∧ locked x' = false ∧ holds l' = false)

/-- At most one thread is behind the lock, and there is one exactly when it is taken. -/
structure Exclusive (locked : σ → Bool) (holds : μ → Bool) (s : Threads σ μ) : Prop where
  unique : ∀ i j, holds (s.thread i) = true → holds (s.thread j) = true → i = j
  locked_iff : locked s.shared = true ↔ ∃ i, holds (s.thread i) = true

/-- The rule for a lock. -/
theorem Locks.exclusive {locked : σ → Bool} {holds : μ → Bool} (h : P.Locks locked holds)
    (hs : P.threads.Reachable (fun _ _ => True) s) : Exclusive locked holds s := by
  refine hs.invariant (Exclusive locked holds) ?_ ?_
  -- Nobody holds the lock at first.
  · rintro s ⟨hinit, hthread⟩
    have hnone : ∀ i, holds (s.thread i) = false := fun i => by rw [hthread, h.start]
    refine ⟨fun i j hi => ?_, ?_⟩
    · rw [hnone] at hi
      cases hi
    · simp [h.init _ hinit, hnone]
  · rintro s ⟨k, a⟩ t hI - hstep
    obtain ⟨hself, hothers⟩ := threads_step_self hstep
    -- The thread of the step stays on its side of the lock, takes it or leaves it.
    have hlocked := hI.locked_iff
    obtain ⟨hlock, hpos⟩ | ⟨hfree, -, hlock, hpos⟩ | ⟨hold, hlock, hpos⟩ := h.step _ _ _ _ _ hself
    · -- The lock stays as it is.
      have hsame : ∀ i, holds (t.thread i) = holds (s.thread i) := fun i => by
        by_cases hi : i = k
        · rw [hi, hpos]
        · rw [hothers i hi]
      refine ⟨fun i j => ?_, ?_⟩
      · rw [hsame, hsame]
        exact hI.unique i j
      · simp only [hlock, hsame, hlocked]
    · -- Nobody was behind the lock before.
      have hnone : ∀ i, holds (s.thread i) = false := fun i =>
        Bool.eq_false_iff.mpr fun hi => by
          rw [hlocked.mpr ⟨i, hi⟩] at hfree
          cases hfree
      have honly : ∀ i, holds (t.thread i) = true → i = k := fun i hi => by
        by_contra hne
        rw [hothers i hne, hnone] at hi
        cases hi
      exact ⟨fun i j hi hj => (honly i hi).trans (honly j hj).symm,
        iff_of_true hlock ⟨k, hpos⟩⟩
    · -- The thread was the only one, and leaves.
      have hnone : ∀ i, holds (t.thread i) = false := fun i => by
        by_cases hi : i = k
        · rw [hi, hpos]
        · rw [hothers i hi]
          exact Bool.eq_false_iff.mpr fun hheld => hi (hI.unique i k hheld hold)
      refine ⟨fun i j hi => ?_, ?_⟩
      · rw [hnone] at hi
        cases hi
      · simp [hlock, hnone]

/-- The rule for a property of the shared state. The invariant `I` gives the property `Q`, each
step that is `ok` keeps `I`, and each other step breaks `Q`. -/
theorem allStates_shared_iff {I Q : σ → Prop} {ok : σ → μ → α → Prop}
    (hQ : ∀ x, I x → Q x)
    (hkeep : ∀ x l a x' l', I x → ok x l a → P.step x l a = some (x', l') → I x')
    (hbreak : ∀ x l a x' l', I x → ¬ ok x l a → P.step x l a = some (x', l') → ¬ Q x')
    {as : List (Nat × α)} (hs : I s.shared) :
    P.threads.AllStates (fun s => Q s.shared) s as ↔
      P.threads.AllSteps (fun s a => ok s.shared (s.thread a.1) a.2) s as := by
  refine Machine.allStates_iff_allSteps (I := fun s => I s.shared) (A := fun _ _ => True)
    (fun s => hQ s.shared) ?_ ?_ hs Machine.allSteps_true
  · rintro s ⟨i, a⟩ t hI - hok hstep
    obtain ⟨x, l, hx, rfl⟩ := threads_step.mp hstep
    exact hkeep _ _ _ _ _ hI hok hx
  · rintro s ⟨i, a⟩ t hI - hnot hstep
    obtain ⟨x, l, hx, rfl⟩ := threads_step.mp hstep
    exact hbreak _ _ _ _ _ hI hnot hx

end Program
