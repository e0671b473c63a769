import Mathlib.Logic.Function.Iterate

/-!
# `Haaukins.Lib.Retry`: loops that try again

`retryLoop judge perform n` judges the state that the last try left, and performs another try
when `judge` asks for one. It tries again at most `n` times. `rounds k` is the state after `k`
further tries, whatever `judge` said. `retryLoop_cases` says where the loop ends: at the first
state that `judge` is content with, or after `n` rounds. That last state is not judged.
-/

set_option autoImplicit false

variable {σ : Type*}

/-- `for i := 1; i <= n; i++ { if !judge() { break }; perform() }`. -/
def retryLoop (judge : σ → Bool × σ) (perform : σ → σ) : Nat → σ → σ
  | 0, s => s
  | n + 1, s =>
    match judge s with
    | (false, t) => t
    | (true, t) => retryLoop judge perform n (perform t)

/-- The state after `k` rounds of the loop. -/
def rounds (judge : σ → Bool × σ) (perform : σ → σ) (k : Nat) (s : σ) : σ :=
  (fun t => perform (judge t).2)^[k] s

variable {judge : σ → Bool × σ} {perform : σ → σ}

/-- No rounds change nothing. -/
@[simp] theorem rounds_zero (s : σ) : rounds judge perform 0 s = s := rfl

/-- One more round comes last. -/
theorem rounds_succ (k : Nat) (s : σ) :
    rounds judge perform (k + 1) s = perform (judge (rounds judge perform k s)).2 :=
  Function.iterate_succ_apply' _ k s

/-- One more round comes first. -/
theorem rounds_succ' (k : Nat) (s : σ) :
    rounds judge perform (k + 1) s = rounds judge perform k (perform (judge s).2) :=
  Function.iterate_succ_apply _ k s

/-- The loop ends at the first round that does not ask for another try, or after all rounds. -/
theorem retryLoop_cases (judge : σ → Bool × σ) (perform : σ → σ) (n : Nat) (s : σ) :
    (∃ k < n, (∀ j < k, (judge (rounds judge perform j s)).1 = true) ∧
      (judge (rounds judge perform k s)).1 = false ∧
      retryLoop judge perform n s = (judge (rounds judge perform k s)).2) ∨
    ((∀ j < n, (judge (rounds judge perform j s)).1 = true) ∧
      retryLoop judge perform n s = rounds judge perform n s) := by
  induction n generalizing s with
  | zero => exact .inr ⟨fun j hj => absurd hj (Nat.not_lt_zero j), rfl⟩
  | succ n ih =>
    cases hjudge : judge s with
    | mk again t =>
      cases again with
      | false =>
        refine .inl ⟨0, Nat.succ_pos n, fun j hj => absurd hj (Nat.not_lt_zero j), ?_, ?_⟩
        · rw [rounds_zero, hjudge]
        · rw [rounds_zero, retryLoop, hjudge]
      | true =>
        -- The rounds after the first are those of the state that the first leaves.
        have hnext (j : Nat) :
            rounds judge perform (j + 1) s = rounds judge perform j (perform t) := by
          rw [rounds_succ', hjudge]
        have hloop : retryLoop judge perform (n + 1) s = retryLoop judge perform n (perform t) := by
          rw [retryLoop, hjudge]
        have hall {k : Nat} (hk : ∀ j < k, (judge (rounds judge perform j (perform t))).1 = true) :
            ∀ j < k + 1, (judge (rounds judge perform j s)).1 = true := by
          intro j hj
          cases j with
          | zero => rw [rounds_zero, hjudge]
          | succ j =>
            rw [hnext]
            exact hk j (Nat.lt_of_succ_lt_succ hj)
        rcases ih (perform t) with ⟨k, hk, hbefore, hstop, heq⟩ | ⟨hbefore, heq⟩
        · refine .inl ⟨k + 1, Nat.succ_lt_succ hk, hall hbefore, ?_, ?_⟩
          · rw [hnext, hstop]
          · rw [hloop, heq, hnext]
        · exact .inr ⟨hall hbefore, by rw [hloop, heq, hnext]⟩
