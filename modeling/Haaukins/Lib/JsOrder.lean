import Haaukins.Lib.Grouping
import Mathlib.Data.List.Pairwise

/-!
# `Haaukins.Lib.JsOrder`: the orders of JavaScript

The language leaves some orders open, and fixes others that a reader may not expect.

* `JsSort` is what it says about `Array.prototype.sort`. A comparator whose answers come from a key
  sorts stably by this key (`ComparesBy`). For any other comparator, also for one that answers
  `NaN`, the order is up to the implementation, and `exists_jsSort` gives each order to one of
  them.
* `ownProperties` is the order in which the properties of an object are enumerated. Array indices
  come first, by their numbers, and then all others in the order in which they were made
  (`EnumeratesOf`).
-/

set_option autoImplicit false

variable {α β κ : Type*}

/-! ### More about stable sorting -/

namespace StablySorted

/-- There is one way to sort a list stably. -/
theorem unique [LinearOrder κ] {key : α → κ} {xs ys zs : List α} (hys : StablySorted key xs ys)
    (hzs : StablySorted key xs zs) : ys = zs := by
  have hperm : ys.Perm zs := hys.perm.trans hzs.perm.symm
  have hfilter : ∀ k, (ys.filter fun a => key a = k) = zs.filter fun a => key a = k :=
    fun k => (hys.stable k).trans (hzs.stable k).symm
  have hsorted := hys.sorted
  have hsorted' := hzs.sorted
  clear hys hzs
  induction ys generalizing zs with
  | nil => exact (List.nil_perm.mp hperm).symm
  | cons y ys ih =>
    cases zs with
    | nil => exact absurd hperm.length_eq (Nat.succ_ne_zero _)
    | cons z zs =>
      obtain ⟨hy, htail⟩ := List.pairwise_cons.mp hsorted
      obtain ⟨hz, htail'⟩ := List.pairwise_cons.mp hsorted'
      -- The two first elements have the least key, and the first with this key is the same.
      have hle : key y ≤ key z := by
        rcases List.mem_cons.mp (hperm.mem_iff.mpr List.mem_cons_self) with heq | hmem
        · exact (congrArg key heq).ge
        · exact hy z hmem
      have hge : key z ≤ key y := by
        rcases List.mem_cons.mp (hperm.mem_iff.mp List.mem_cons_self) with heq | hmem
        · exact (congrArg key heq).ge
        · exact hz y hmem
      have hkey : key z = key y := le_antisymm hge hle
      have hfirst := hfilter (key y)
      simp only [List.filter_cons, hkey, decide_true, if_true] at hfirst
      obtain ⟨rfl, -⟩ := List.cons.inj hfirst
      refine congrArg (y :: ·) (ih ((List.perm_cons y).mp hperm) (fun k => ?_) htail htail')
      have hk := hfilter k
      by_cases hyk : key y = k
      · simp only [List.filter_cons, hyk, decide_true, if_true] at hk
        exact (List.cons.inj hk).2
      · simpa only [List.filter_cons, hyk, decide_false, Bool.false_eq_true, if_false] using hk

end StablySorted

/-! ### `Array.prototype.sort` -/

/-- The number of a name that is an array index, written as `ToString` writes numbers. -/
def arrayIndex (name : String) : Option Nat :=
  match name.toNat? with
  | some n => if toString n = name ∧ n < 4294967295 then some n else none
  | none => none

/-- The properties of an object in the order of their enumeration. `made` has them in the order in
which they were made. -/
def ownProperties (made : List (String × β)) : List (String × β) :=
  (made.filter fun e => (arrayIndex e.1).isSome).mergeSort
      (fun a b => (arrayIndex a.1).getD 0 ≤ (arrayIndex b.1).getD 0) ++
    made.filter fun e => !(arrayIndex e.1).isSome
