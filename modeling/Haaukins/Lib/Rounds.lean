import Mathlib.Order.Basic

/-!
# `Haaukins.Lib.Rounds`: loops whose rounds may return

`untilReturn` runs the rounds of a loop up to the first that returns an error, or ends the process.

A loop as a whole may hide what its rounds do: a later round can undo an earlier one.
`untilReturn_iff` is the rule for loops where that does not happen. A view of the state never goes
down, and a round that changes something lifts it above a bound. The loop then changes nothing if
and only if no round does, up to the first that returns (`UpToFirst`).
-/

set_option autoImplicit false

variable {σ α β ε : Type*}

/-- The rounds of a loop. A round that ends the process has no result, and a round with an error
is the last one. -/
def untilReturn (step : σ → α → Option (σ × Option ε)) : σ → List α → Option (σ × Option ε)
  | s, [] => some (s, none)
  | s, a :: as =>
    match step s a with
    | none => none
    | some (s', some err) => some (s', some err)
    | some (s', none) => untilReturn step s' as

/-- What holds of each round, up to the first one that stops the loop. -/
def UpToFirst (stops keeps : α → Prop) : List α → Prop
  | [] => True
  | a :: as => keeps a ∧ (¬ stops a → UpToFirst stops keeps as)

/-- Without a round that stops the loop, it holds of all rounds. -/
theorem upToFirst_of_not {stops keeps : α → Prop} (hnot : ∀ a, ¬ stops a) (as : List α) :
    UpToFirst stops keeps as ↔ ∀ a ∈ as, keeps a := by
  induction as with
  | nil => exact iff_of_true trivial fun a ha => absurd ha List.not_mem_nil
  | cons a as ih => rw [UpToFirst, imp_iff_right (hnot a), ih, List.forall_mem_cons]

/-- A round keeps the view, or lifts it. -/
theorem le_untilReturn [Preorder β] {step : σ → α → Option (σ × Option ε)} (view : σ → β)
    (hup : ∀ s a s' err, step s a = some (s', err) → view s ≤ view s') {s s' : σ} {as : List α}
    {err : Option ε} (h : untilReturn step s as = some (s', err)) : view s ≤ view s' := by
  induction as generalizing s with
  | nil =>
    cases h
    exact le_rfl
  | cons a as ih =>
    rw [untilReturn] at h
    split at h
    · cases h
    · next hstep =>
      cases h
      exact hup _ _ _ _ hstep
    · next hstep => exact (hup _ _ _ _ hstep).trans (ih h)

/-- A loop whose rounds have no errors has none. -/
theorem untilReturn_error {step : σ → α → Option (σ × Option ε)}
    (hstep : ∀ s a s' err, step s a = some (s', err) → err = none) {s s' : σ} {as : List α}
    {err : Option ε} (h : untilReturn step s as = some (s', err)) : err = none := by
  induction as generalizing s with
  | nil =>
    cases h
    rfl
  | cons a as ih =>
    rw [untilReturn] at h
    split at h
    · cases h
    · next hround => exact absurd (hstep _ _ _ _ hround) (Option.some_ne_none _)
    · exact ih h

/-- A loop that changes nothing for good is one whose rounds change nothing. `I` is what the
rounds rely on, and `Q` says that nothing was changed. -/
theorem untilReturn_iff [Preorder β] {step : σ → α → Option (σ × Option ε)} (view : σ → β)
    (bound : β) (I Q : σ → Prop) (stops keeps : α → Prop) {as : List α}
    (hup : ∀ s a s' err, step s a = some (s', err) → view s ≤ view s')
    (hbound : ∀ s, Q s → view s ≤ bound) (hinv : ∀ s, I s → Q s)
    (hround : ∀ a ∈ as, ∀ s s' err, I s → step s a = some (s', err) →
      (keeps a ∧ Q s' ∧ (stops a ↔ err ≠ none) ∧ (err = none → I s')) ∨
        (¬ keeps a ∧ ¬ view s' ≤ bound))
    {s s' : σ} {err : Option ε} (hs : I s) (h : untilReturn step s as = some (s', err)) :
    (Q s' ↔ UpToFirst stops keeps as) ∧ (Q s' → err = none → I s') := by
  -- The view can only rise, so that what is above the bound after one round stays there.
  induction as generalizing s with
  | nil =>
    cases h
    exact ⟨iff_of_true (hinv _ hs) trivial, fun _ _ => hs⟩
  | cons a as ih =>
    rw [untilReturn] at h
    rw [UpToFirst]
    cases hstep : step s a with
    -- A round that panics leaves no state.
    | none =>
      rw [hstep] at h
      cases h
    | some r =>
    obtain ⟨s₁, err₁⟩ := r
    rw [hstep] at h
    rcases hround a List.mem_cons_self s s₁ err₁ hs hstep with
      ⟨hkeeps, hQ, hstops, hnext⟩ | ⟨hnot, hlifted⟩
    · rw [and_iff_right hkeeps, hstops]
      cases err₁ with
      -- The round returns, and what is behind it is not reached.
      | some text =>
        cases h
        exact ⟨iff_of_true hQ fun hgo => absurd (Option.some_ne_none text) hgo, nofun⟩
      | none =>
        rw [imp_iff_right (not_not.mpr rfl)]
        exact ih (fun b hb => hround b (List.mem_cons_of_mem a hb)) (hnext rfl) h
    · -- The view stays above the bound in the rounds that follow.
      have hle : view s₁ ≤ view s' := by
        cases err₁ with
        | some text =>
          cases h
          exact le_rfl
        | none => exact le_untilReturn view hup h
      have hQ : ¬ Q s' := fun hQ => hlifted (hle.trans (hbound s' hQ))
      exact ⟨iff_of_false hQ fun hboth => hnot hboth.1, fun hsame => absurd hsame hQ⟩
