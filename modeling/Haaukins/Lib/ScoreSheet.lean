import Mathlib.Logic.Function.Basic

/-!
# `Haaukins.Lib.ScoreSheet`: a score sheet

A score sheet has at most one entry for each task: its flag, and the time of its completion.
`add` enters a task that has no entry yet, and `verify` completes a task when it gets the flag
of the task. `Extends` says that one sheet is a later state of another: entries stay, flags
stay, and completion times stay. Both operations extend the sheet.
-/

set_option autoImplicit false

/-- The flag and the completion time of each task in `τ` that has an entry. -/
abbrev ScoreSheet (τ φ ω : Type*) := τ → Option (φ × Option ω)

namespace ScoreSheet

variable {τ φ ω : Type*}

/-- The sheet without entries. -/
def empty : ScoreSheet τ φ ω := fun _ => none

/-- The completion time of a task. -/
def completed (s : ScoreSheet τ φ ω) (tag : τ) : Option ω := (s tag).bind Prod.snd

/-- `s'` has the entries of `s`, with their flags and their completion times. -/
def Extends (s' s : ScoreSheet τ φ ω) : Prop :=
  ∀ tag f ct, s tag = some (f, ct) →
    ∃ ct', s' tag = some (f, ct') ∧ ∀ time, ct = some time → ct' = some time

/-- A recorded time stays. -/
theorem Extends.completed {s' s : ScoreSheet τ φ ω} (h : s'.Extends s) {tag : τ} {time : ω}
    (htime : s.completed tag = some time) : s'.completed tag = some time := by
  obtain ⟨⟨f, ct⟩, hentry, rfl⟩ := Option.bind_eq_some_iff.mp htime
  obtain ⟨ct', hentry', hkept⟩ := h tag f (some time) hentry
  simp [ScoreSheet.completed, hentry', hkept time rfl]

variable [DecidableEq τ]

/-- A task without an entry gets one. -/
def add (s : ScoreSheet τ φ ω) (tag : τ) (f : φ) (done : Option ω) : ScoreSheet τ φ ω :=
  match s tag with
  | none => Function.update s tag (some (f, done))
  | some _ => s

/-- A task that is not completed is completed by its flag. -/
def verify [DecidableEq φ] (s : ScoreSheet τ φ ω) (tag : τ) (f : φ) (now : ω) :
    ScoreSheet τ φ ω :=
  match s tag with
  | some (f', none) => if f' = f then Function.update s tag (some (f, some now)) else s
  | _ => s

variable {s : ScoreSheet τ φ ω} {tag : τ} {f : φ}

/-- A new tag is registered with its flag. -/
theorem add_of_none (h : s tag = none) (done : Option ω) (tag' : τ) :
    s.add tag f done tag' = if tag' = tag then some (f, done) else s tag' := by
  simp only [add, h, Function.update_apply]

/-- A registered tag is not registered again. -/
theorem add_of_some (h : s tag ≠ none) (done : Option ω) : s.add tag f done = s := by
  obtain ⟨entry, hentry⟩ := Option.ne_none_iff_exists'.mp h
  simp only [add, hentry]

/-- Adding only extends the sheet. -/
theorem add_extends (done : Option ω) : (s.add tag f done).Extends s := by
  intro tag' f' ct hentry
  by_cases h : s tag = none
  · rw [add_of_none h]
    have hne : tag' ≠ tag := by
      rintro rfl
      cases h.symm.trans hentry
    exact ⟨ct, by rw [if_neg hne, hentry], fun _ htime => htime⟩
  · rw [add_of_some h]
    exact ⟨ct, hentry, fun _ htime => htime⟩

variable [DecidableEq φ]

/-- The right flag of an open challenge records the time. -/
theorem verify_of_open (h : s tag = some (f, none)) (now : ω) (tag' : τ) :
    s.verify tag f now tag' = if tag' = tag then some (f, some now) else s tag' := by
  simp only [verify, h, if_true, Function.update_apply]

/-- Any other flag records nothing. -/
theorem verify_of_not_open (h : s tag ≠ some (f, none)) (now : ω) :
    s.verify tag f now = s := by
  unfold verify
  split
  · next f' hentry =>
    rw [if_neg]
    rintro rfl
    exact h hentry
  · rfl

/-- Verifying only extends the sheet. -/
theorem verify_extends (now : ω) : (s.verify tag f now).Extends s := by
  intro tag' f' ct hentry
  by_cases h : s tag = some (f, none)
  · rw [verify_of_open h]
    by_cases heq : tag' = tag
    · subst heq
      cases h.symm.trans hentry
      exact ⟨some now, by rw [if_pos rfl], by simp⟩
    · exact ⟨ct, by rw [if_neg heq, hentry], fun _ htime => htime⟩
  · rw [verify_of_not_open h]
    exact ⟨ct, hentry, fun _ htime => htime⟩

end ScoreSheet
