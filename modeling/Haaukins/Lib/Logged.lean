import Mathlib.Data.List.Basic

/-!
# `Haaukins.Lib.Logged`: functions with a log of their calls

A `Logged` result has the calls that a function made, its failure and its new state. `andThen`
goes on when there was no failure. `loop`, `each` and `eachGo` are the loops over a list: with a
common state, on each element, and on each element at the same time.

`Keeps I clean fails` says of a result that all its calls are clean, that it has a failure if and
only if one of its calls failed, and that its state is in `I`. There is one rule for each way to
build a result. `NilIff I clean fails ok` leaves room for failures of other reasons: a result
without a failing call has no failure if and only if `ok`.
-/

set_option autoImplicit false

variable {σ γ κ ε : Type*}

/-- The calls of a function, and its failure. -/
structure Operation (κ ε : Type*) where
  calls : List κ
  failure : Option ε
  deriving DecidableEq

/-- An `Operation` that changes a state. -/
structure Logged (σ κ ε : Type*) extends Operation κ ε where
  state : σ

namespace Logged

/-- `return nil`. -/
def ok (s : σ) : Logged σ κ ε := { calls := [], failure := none, state := s }

/-- `return err`. -/
def fail (s : σ) (err : ε) : Logged σ κ ε := { calls := [], failure := some err, state := s }

/-- A call with its result. -/
def call (s : σ) (c : κ) (err : Option ε) : Logged σ κ ε :=
  { calls := [c], failure := err, state := s }

/-- `if err := …; err != nil { return err }`, with what follows it. -/
def andThen (r : Logged σ κ ε) (f : σ → Logged σ κ ε) : Logged σ κ ε :=
  match r.failure with
  | some _ => r
  | none => { f r.state with calls := r.calls ++ (f r.state).calls }

/-- `for _, c := range cs { if err := f(c); err != nil { return err } }`. -/
def loop (f : γ → σ → Logged σ κ ε) : List γ → σ → Logged σ κ ε
  | [], s => ok s
  | c :: cs, s => (f c s).andThen (loop f cs)

/-- The loop over elements that `f` changes. -/
def each (f : σ → Logged σ κ ε) : List σ → Logged (List σ) κ ε
  | [] => ok []
  | s :: ss =>
    match (f s).failure with
    | some _ => { toOperation := (f s).toOperation, state := (f s).state :: ss }
    | none =>
      { calls := (f s).calls ++ (each f ss).calls
        failure := (each f ss).failure
        state := (f s).state :: (each f ss).state }

/-- `f` runs on all elements at the same time, and one of the errors is kept. -/
def eachGo (f : σ → Logged σ κ ε) (ss : List σ) : Logged (List σ) κ ε where
  calls := ss.flatMap fun s => (f s).calls
  failure := ss.findSome? fun s => (f s).failure
  state := ss.map fun s => (f s).state

/-- The calls of a result are clean, its failure is that of a call, and its state is in `I`. -/
structure Keeps (I : σ → Prop) (clean fails : κ → Prop) (r : Logged σ κ ε) : Prop where
  clean : ∀ c ∈ r.calls, clean c
  failure : r.failure = none ↔ ∀ c ∈ r.calls, ¬ fails c
  state : I r.state

/-- The calls of a result are clean, its state is in `I`, and it has no failure without a failing
call if and only if `ok`. -/
structure NilIff (I : σ → Prop) (clean fails : κ → Prop) (ok : Prop) (r : Logged σ κ ε) :
    Prop where
  clean : ∀ c ∈ r.calls, clean c
  nil : ((∀ c ∈ r.calls, ¬ fails c) → r.failure = none) ↔ ok
  state : I r.state

variable {I J : σ → Prop} {clean fails : κ → Prop} {r : Logged σ κ ε} {s : σ}

/-- A success goes on with its state. -/
theorem andThen_ok {f : σ → Logged σ κ ε} : (ok s : Logged σ κ ε).andThen f = f s := rfl

/-- A weaker invariant is kept, too. -/
theorem Keeps.mono (h : r.Keeps I clean fails) (hIJ : ∀ s, I s → J s) :
    r.Keeps J clean fails where
  clean := h.clean
  failure := h.failure
  state := hIJ _ h.state

/-- Nothing is called, so nothing is broken. -/
theorem keeps_ok (hs : I s) : (ok s : Logged σ κ ε).Keeps I clean fails where
  clean := fun _ hc => absurd hc List.not_mem_nil
  failure := iff_of_true rfl fun _ hc => absurd hc List.not_mem_nil
  state := hs

/-- One call that keeps the invariant and reports its failure. -/
theorem keeps_call {c : κ} {err : Option ε} (hs : I s) (hclean : clean c)
    (herr : err = none ↔ ¬ fails c) : (call s c err).Keeps I clean fails where
  clean := by
    intro c' hc
    rw [List.mem_singleton.mp hc]
    exact hclean
  failure := by
    simp only [call, List.mem_singleton, forall_eq]
    exact herr
  state := hs

/-- A computation that cannot be refused returns nil when it does not fail. -/
theorem Keeps.nilIff {ok : Prop} (h : r.Keeps I clean fails) (hok : ok) :
    r.NilIff I clean fails ok where
  clean := h.clean
  nil := iff_of_true h.failure.mpr hok
  state := h.state

/-- A refusal without a call. -/
theorem nilIff_fail {ok : Prop} {err : ε} (hs : I s) (hnot : ¬ ok) :
    (fail s err : Logged σ κ ε).NilIff I clean fails ok where
  clean := fun _ hc => absurd hc List.not_mem_nil
  nil := by
    refine iff_of_false (fun h => ?_) hnot
    cases h fun _ hc => absurd hc List.not_mem_nil
  state := hs

/-- A result after one that succeeded. -/
theorem Keeps.nilIff_append {τ : Type*} {K : τ → Prop} {r' : Logged τ κ ε} {ok : Prop}
    (h : r.Keeps I clean fails) (hnone : r.failure = none) (hnext : r'.NilIff K clean fails ok) :
    ({ r' with calls := r.calls ++ r'.calls } : Logged τ κ ε).NilIff K clean fails ok where
  clean := List.forall_mem_append.mpr ⟨h.clean, hnext.clean⟩
  nil := by
    show ((∀ c ∈ r.calls ++ r'.calls, ¬ fails c) → r'.failure = none) ↔ ok
    rw [List.forall_mem_append, and_iff_right (h.failure.mp hnone)]
    exact hnext.nil
  state := hnext.state

/-- A failure ends the computation. -/
theorem andThen_of_failure {f : σ → Logged σ κ ε} (h : r.failure ≠ none) : r.andThen f = r := by
  obtain ⟨err, herr⟩ := Option.ne_none_iff_exists'.mp h
  rw [andThen, herr]

/-- Without a failure the second part follows, with its calls. -/
theorem andThen_of_none {f : σ → Logged σ κ ε} (h : r.failure = none) :
    r.andThen f = { f r.state with calls := r.calls ++ (f r.state).calls } := by
  rw [andThen, h]

/-- The calls of the first part are made. -/
theorem calls_subset_andThen {f : σ → Logged σ κ ε} : r.calls ⊆ (r.andThen f).calls := by
  by_cases h : r.failure = none
  · rw [andThen_of_none h]
    exact List.subset_append_left _ _
  · rw [andThen_of_failure h]
    exact List.Subset.refl _

/-- Both parts have to succeed. -/
theorem andThen_failure {f : σ → Logged σ κ ε} :
    (r.andThen f).failure = none ↔ r.failure = none ∧ (f r.state).failure = none := by
  by_cases h : r.failure = none
  · rw [andThen_of_none h, and_iff_right h]
  · simp [andThen_of_failure h, h]

/-- Two parts that keep their invariants, in a row. -/
theorem Keeps.andThen {f : σ → Logged σ κ ε} (h : r.Keeps I clean fails)
    (hf : ∀ s, I s → (f s).Keeps J clean fails) (hIJ : ∀ s, I s → J s) :
    (r.andThen f).Keeps J clean fails := by
  by_cases hfailure : r.failure = none
  · have hnext := hf r.state h.state
    rw [andThen_of_none hfailure]
    refine ⟨List.forall_mem_append.mpr ⟨h.clean, hnext.clean⟩, ?_, hnext.state⟩
    show (f r.state).failure = none ↔ ∀ c ∈ r.calls ++ (f r.state).calls, ¬ fails c
    rw [List.forall_mem_append, ← h.failure, ← hnext.failure, and_iff_right hfailure]
  · rw [andThen_of_failure hfailure]
    exact h.mono hIJ

/-- A loop keeps what each of its rounds keeps. -/
theorem keeps_loop {f : γ → σ → Logged σ κ ε} {cs : List γ}
    (hf : ∀ c ∈ cs, ∀ s, I s → (f c s).Keeps I clean fails) (hs : I s) :
    (loop f cs s).Keeps I clean fails := by
  induction cs generalizing s with
  | nil => exact keeps_ok hs
  | cons c cs ih =>
    have hhead := hf c List.mem_cons_self s hs
    exact hhead.andThen (fun _ => ih fun c hc => hf c (List.mem_cons_of_mem _ hc)) fun _ => id

/-- A loop whose body keeps the state. -/
theorem loop_failure {f : γ → σ → Logged σ κ ε} {cs : List γ}
    (hstate : ∀ c ∈ cs, (f c s).state = s) :
    (loop f cs s).failure = none ↔ ∀ c ∈ cs, (f c s).failure = none := by
  induction cs with
  | nil => simp [loop, ok]
  | cons c cs ih =>
    rw [loop, andThen_failure, hstate c List.mem_cons_self,
      ih fun c hc => hstate c (List.mem_cons_of_mem _ hc), List.forall_mem_cons]

/-! ### Loops over elements -/

variable {f : σ → Logged σ κ ε} {ss : List σ}

/-- A failing element ends the loop, and the rest stays as it was. -/
theorem each_of_failure (h : (f s).failure ≠ none) : each f (s :: ss) =
    { toOperation := (f s).toOperation, state := (f s).state :: ss } := by
  obtain ⟨err, herr⟩ := Option.ne_none_iff_exists'.mp h
  simp only [each, herr]

/-- A success goes on with the rest. -/
theorem each_of_none (h : (f s).failure = none) : each f (s :: ss) =
    { calls := (f s).calls ++ (each f ss).calls
      failure := (each f ss).failure
      state := (f s).state :: (each f ss).state } := by
  simp only [each, h]

/-- What `f` keeps of an element, `each f` keeps of all of them. -/
theorem map_each_state {β : Type*} {g : σ → β} (hg : ∀ s, g (f s).state = g s) (ss : List σ) :
    (each f ss).state.map g = ss.map g := by
  induction ss with
  | nil => rfl
  | cons s ss ih =>
    by_cases h : (f s).failure = none
    · rw [each_of_none h]
      simp only [List.map_cons, hg, ih]
    · rw [each_of_failure h]
      simp only [List.map_cons, hg]

/-- A loop that stops at the first failure. An element for which `f` does nothing is passed by, and
when `f` acts on one without changing it, it fails. So the loop changes nothing if and only if it
does not change the first element that it acts on. -/
theorem each_state_eq_iff (acts : σ → Bool)
    (hskip : ∀ s ∈ ss, acts s = false → (f s).state = s ∧ (f s).failure = none)
    (hact : ∀ s ∈ ss, acts s = true → (f s).state = s → (f s).failure ≠ none) :
    (each f ss).state = ss ↔ ∀ s, ss.find? acts = some s → (f s).state = s := by
  induction ss with
  | nil => simp [each, ok]
  | cons s ss ih =>
    obtain ⟨hskip₀, hskip⟩ := List.forall_mem_cons.mp hskip
    obtain ⟨hact₀, hact⟩ := List.forall_mem_cons.mp hact
    cases hs : acts s with
    | false =>
      obtain ⟨hsame, hnone⟩ := hskip₀ hs
      rw [each_of_none hnone, List.find?_cons_of_neg (by simp [hs]), ← ih hskip hact]
      simp only [hsame, List.cons.injEq, true_and]
    | true =>
      rw [List.find?_cons_of_pos hs]
      simp only [Option.some.injEq, forall_eq']
      by_cases hnone : (f s).failure = none
      · -- It did not fail, so it was changed.
        have hchanged : (f s).state ≠ s := fun hsame => hact₀ hs hsame hnone
        rw [each_of_none hnone]
        simp only [List.cons.injEq, hchanged, false_and]
      · rw [each_of_failure hnone]
        simp only [List.cons.injEq, and_true]

/-- Such a loop that changes nothing has no failure if and only if it finds nothing to act on. -/
theorem each_failure_iff_of_same (acts : σ → Bool)
    (hskip : ∀ s ∈ ss, acts s = false → (f s).state = s ∧ (f s).failure = none)
    (hact : ∀ s ∈ ss, acts s = true → (f s).state = s → (f s).failure ≠ none)
    (hsame : (each f ss).state = ss) :
    (each f ss).failure = none ↔ ∀ s ∈ ss, acts s = false := by
  induction ss with
  | nil => simp [each, ok]
  | cons s ss ih =>
    obtain ⟨hskip₀, hskip⟩ := List.forall_mem_cons.mp hskip
    obtain ⟨hact₀, hact⟩ := List.forall_mem_cons.mp hact
    rw [List.forall_mem_cons]
    by_cases hnone : (f s).failure = none
    · rw [each_of_none hnone, List.cons.injEq] at hsame
      rw [each_of_none hnone, ← ih hskip hact hsame.2]
      refine (and_iff_right ?_).symm
      by_contra hacts
      exact hact₀ (by simpa using hacts) hsame.1 hnone
    · rw [each_of_failure hnone]
      refine iff_of_false hnone fun hall => hnone (hskip₀ hall.1).2

/-- The calls of the first element are made. -/
theorem calls_subset_each : (f s).calls ⊆ (each f (s :: ss)).calls := by
  by_cases h : (f s).failure = none
  · rw [each_of_none h]
    exact List.subset_append_left _ _
  · rw [each_of_failure h]
    exact List.Subset.refl _

/-- The invariant at the element that fails. -/
theorem Keeps.each_of_failure (h : (f s).Keeps I clean fails) (hfailure : (f s).failure ≠ none)
    (hrest : ∀ s ∈ ss, I s) :
    (each f (s :: ss)).Keeps (fun ss => ∀ s ∈ ss, I s) clean fails := by
  rw [Logged.each_of_failure hfailure]
  exact ⟨h.clean, h.failure, List.forall_mem_cons.mpr ⟨h.state, hrest⟩⟩

/-- The invariant at an element that succeeds. -/
theorem Keeps.each_of_none (h : (f s).Keeps I clean fails) (hfailure : (f s).failure = none)
    (hnext : (each f ss).Keeps (fun ss => ∀ s ∈ ss, I s) clean fails) :
    (each f (s :: ss)).Keeps (fun ss => ∀ s ∈ ss, I s) clean fails := by
  rw [Logged.each_of_none hfailure]
  refine ⟨List.forall_mem_append.mpr ⟨h.clean, hnext.clean⟩, ?_,
    List.forall_mem_cons.mpr ⟨h.state, hnext.state⟩⟩
  show (each f ss).failure = none ↔ ∀ c ∈ (f s).calls ++ (each f ss).calls, ¬ fails c
  rw [List.forall_mem_append, ← h.failure, ← hnext.failure, and_iff_right hfailure]

/-- By induction on the list: a loop over elements keeps what holds of each. -/
theorem keeps_each (hI : ∀ s ∈ ss, I s) (hf : ∀ s ∈ ss, (f s).Keeps I clean fails) :
    (each f ss).Keeps (fun ss => ∀ s ∈ ss, I s) clean fails := by
  induction ss with
  | nil => exact keeps_ok hI
  | cons s ss ih =>
    obtain ⟨-, hrest⟩ := List.forall_mem_cons.mp hI
    obtain ⟨hhead, htail⟩ := List.forall_mem_cons.mp hf
    by_cases h : (f s).failure = none
    · exact hhead.each_of_none h (ih hrest htail)
    · exact hhead.each_of_failure h hrest

/-- The same for a loop that goes on after a failure. -/
theorem keeps_eachGo (hf : ∀ s ∈ ss, (f s).Keeps I clean fails) :
    (eachGo f ss).Keeps (fun ss => ∀ s ∈ ss, I s) clean fails where
  clean := by
    intro c hc
    obtain ⟨s, hs, hc⟩ := List.mem_flatMap.mp hc
    exact (hf s hs).clean c hc
  failure := by
    show ss.findSome? _ = none ↔ ∀ c ∈ ss.flatMap _, ¬ fails c
    rw [List.findSome?_eq_none_iff]
    constructor
    · intro h c hc
      obtain ⟨s, hs, hc⟩ := List.mem_flatMap.mp hc
      exact (hf s hs).failure.mp (h s hs) c hc
    · intro h s hs
      exact (hf s hs).failure.mpr fun c hc => h c (List.mem_flatMap.mpr ⟨s, hs, hc⟩)
  state := by
    intro s' hs'
    obtain ⟨s, hs, rfl⟩ := List.mem_map.mp hs'
    exact (hf s hs).state

end Logged
