import Mathlib.Data.List.Basic
import Mathlib.Logic.Function.Basic

/-!
# `Haaukins.Lib.Shuffle`: one log with several writers

A log to which several writers append holds the entries of each writer in their order, in between
the entries of the others. `Shuffle log parts` says so, where `parts i` is what the writer `i` has
appended. The constructor `push` is one step of a writer.

`Shuffle.sublist` and `Shuffle.mem_iff` say that the log keeps the order of each part, and that it
holds the entries of the parts and no others.
-/

set_option autoImplicit false

/-- The log is a shuffle of the parts. -/
inductive Shuffle {α ι : Type*} [DecidableEq ι] : List α → (ι → List α) → Prop where
  | nil : Shuffle [] fun _ => []
  | push {log : List α} {parts : ι → List α} (i : ι) (a : α) :
      Shuffle log parts → Shuffle (log ++ [a]) (Function.update parts i (parts i ++ [a]))

namespace Shuffle

variable {α ι : Type*} [DecidableEq ι] {log : List α} {parts : ι → List α}

/-- A writer that appends a list appends its elements one after the other. -/
theorem append (h : Shuffle log parts) (i : ι) (xs : List α) :
    Shuffle (log ++ xs) (Function.update parts i (parts i ++ xs)) := by
  induction xs generalizing log parts with
  | nil => simpa using h
  | cons a xs ih => simpa using ih (h.push i a)

/-- The entries of a writer stand in the log in their order. -/
theorem sublist (h : Shuffle log parts) (i : ι) : (parts i).Sublist log := by
  induction h with
  | nil => exact List.Sublist.slnil
  | @push log parts j a _ ih =>
    by_cases hij : i = j
    · subst hij
      rw [Function.update_self]
      exact ih.append (List.Sublist.refl [a])
    · rw [Function.update_of_ne hij]
      exact ih.trans (List.sublist_append_left log [a])

/-- Each entry of the log is one of some writer. -/
theorem mem_iff (h : Shuffle log parts) {a : α} : a ∈ log ↔ ∃ i, a ∈ parts i := by
  constructor
  · intro ha
    induction h with
    | nil => cases ha
    | @push log parts j b _ ih =>
      rcases List.mem_append.mp ha with hlog | hb
      · obtain ⟨i, hi⟩ := ih hlog
        refine ⟨i, ?_⟩
        by_cases hij : i = j
        · subst hij
          rw [Function.update_self]
          exact List.mem_append_left [b] hi
        · rwa [Function.update_of_ne hij]
      · refine ⟨j, ?_⟩
        rw [Function.update_self]
        exact List.mem_append_right _ hb
  · rintro ⟨i, hi⟩
    exact (h.sublist i).subset hi

end Shuffle
