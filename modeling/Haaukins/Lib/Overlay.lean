import Mathlib.Data.List.Perm.Basic

/-!
# `Haaukins.Lib.Overlay`: entries on top of a list

Several parties put entries at the head of one list and delete the first entry that is equal to
theirs. `Overlay base xs out` says that `xs` is `base` with the entries `out` on top, in some
order. It stays true when an entry comes to both and when one goes from both, and with no entry
left the list is `base` again.

`flatMap_set_perm` is the bookkeeping for a party that is one of several: what the others own is
the same before and after its move.
-/

set_option autoImplicit false

variable {α β : Type*}

/-- `xs` is `base` with the entries `out` on top, in some order. -/
def Overlay (base xs out : List α) : Prop := ∃ top, xs = top ++ base ∧ top.Perm out

namespace Overlay

variable {base xs out out' : List α} {a : α}

/-- Nothing is laid over. -/
theorem refl (base : List α) : Overlay base base [] := ⟨[], rfl, .refl _⟩

/-- The order of what is laid over does not matter. -/
theorem perm (h : Overlay base xs out) (hperm : out.Perm out') : Overlay base xs out' := by
  obtain ⟨top, hxs, htop⟩ := h
  exact ⟨top, hxs, htop.trans hperm⟩

/-- A new entry at the head. -/
theorem insert (h : Overlay base xs out) (a : α) : Overlay base (a :: xs) (a :: out) := by
  obtain ⟨top, rfl, htop⟩ := h
  exact ⟨a :: top, rfl, htop.cons a⟩

/-- The first equal entry lies on top of the list, so its deletion leaves `base` alone. -/
theorem delete [DecidableEq α] (h : Overlay base xs (a :: out)) :
    Overlay base (xs.erase a) out := by
  obtain ⟨top, rfl, htop⟩ := h
  have hmem : a ∈ top := htop.mem_iff.mpr List.mem_cons_self
  refine ⟨top.erase a, List.erase_append_left base hmem, ?_⟩
  have herase := htop.erase a
  rwa [List.erase_cons_head] at herase

/-- With nothing laid over the base is left. -/
theorem eq_of_nil (h : Overlay base xs []) : xs = base := by
  obtain ⟨top, rfl, htop⟩ := h
  rw [List.perm_nil.mp htop, List.nil_append]

/-- What is laid over is in the list. -/
theorem mem (h : Overlay base xs out) (ha : a ∈ out) : a ∈ xs := by
  obtain ⟨top, rfl, htop⟩ := h
  exact List.mem_append_left base (htop.mem_iff.mpr ha)

end Overlay

/-- The entries of one element of a list, and those of the others, which stay when the element
is replaced or taken out. -/
theorem flatMap_set_perm {xs : List β} {i : Nat} {x : β} (h : xs[i]? = some x)
    (f : β → List α) :
    ∃ others : List α, (xs.flatMap f).Perm (f x ++ others) ∧
      (∀ y, ((xs.set i y).flatMap f).Perm (f y ++ others)) ∧
      ((xs.eraseIdx i).flatMap f).Perm others := by
  induction xs generalizing i with
  | nil => cases h
  | cons x₀ xs ih =>
    cases i with
    | zero =>
      obtain rfl : x₀ = x := by simpa using h
      exact ⟨xs.flatMap f, by simp, fun y => by simp, by simp⟩
    | succ i =>
      obtain ⟨others, hperm, hset, herase⟩ := ih (i := i) (by simpa using h)
      have hfront : ∀ ys : List α, (f x₀ ++ (ys ++ others)).Perm (ys ++ (f x₀ ++ others)) :=
        fun ys => by
          rw [← List.append_assoc, ← List.append_assoc]
          exact List.perm_append_comm.append_right others
      refine ⟨f x₀ ++ others, ?_, fun y => ?_, ?_⟩
      · rw [List.flatMap_cons]
        exact (hperm.append_left _).trans (hfront _)
      · rw [List.set_cons_succ, List.flatMap_cons]
        exact ((hset y).append_left _).trans (hfront _)
      · rw [List.eraseIdx_cons_succ, List.flatMap_cons]
        exact herase.append_left _
