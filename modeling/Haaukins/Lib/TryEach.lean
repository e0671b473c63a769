import Mathlib.Data.List.Basic

/-!
# `Haaukins.Lib.TryEach`: loops that end at the first error

`tryEach f` runs `f` on the elements of a list one after another. `f` changes its element and
may fail. The loop returns the first error, and the elements behind it stay as they are.
-/

set_option autoImplicit false

variable {α ε : Type*}

/-- `for i := range xs { if err := f(&xs[i]); err != nil { return err } }`. -/
def tryEach (f : α → α × Option ε) : List α → List α × Option ε
  | [] => ([], none)
  | x :: xs =>
    match f x with
    | (y, some err) => (y :: xs, some err)
    | (y, none) => (y :: (tryEach f xs).1, (tryEach f xs).2)

variable {f : α → α × Option ε} {xs : List α}

/-- When `f` does not fail, the loop is a map. -/
theorem tryEach_eq_map (h : ∀ x ∈ xs, (f x).2 = none) :
    tryEach f xs = (xs.map fun x => (f x).1, none) := by
  induction xs with
  | nil => rfl
  | cons x xs ih =>
    have hx : f x = ((f x).1, none) := Prod.ext rfl (h x List.mem_cons_self)
    rw [tryEach, hx, ih fun y hy => h y (List.mem_cons_of_mem x hy)]
    rfl

/-- When a second call of `f` does what the first one did, so does a second loop. -/
theorem tryEach_tryEach (h : ∀ x, f (f x).1 = f x) (xs : List α) :
    tryEach f (tryEach f xs).1 = tryEach f xs := by
  induction xs with
  | nil => rfl
  | cons x xs ih =>
    have hx := h x
    cases hf : f x with
    | mk y e =>
      rw [hf] at hx
      cases e with
      | some err => simp only [tryEach, hf, hx]
      | none => simp only [tryEach, hf, hx, ih]
