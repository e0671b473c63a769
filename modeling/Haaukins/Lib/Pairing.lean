import Mathlib.Algebra.GroupWithZero.Nat
import Mathlib.Data.Multiset.AddSub
import Mathlib.Data.Multiset.MapFold

/-!
# `Haaukins.Lib.Pairing`: two lists that can be paired off

`Paired r xs ys` says that the elements of the two lists form pairs which `r` relates, in some
order. Each element is in one pair, so the lists have the same length. `Paired.comp` composes two
pairings at the list between them.

`runningTotals` are the sums of a list of numbers up to each element. `runningTotals_injective`
gets the list back from them.
-/

set_option autoImplicit false

variable {α β γ : Type*} {r : α → β → Prop} {p : β → γ → Prop} {q : α → γ → Prop}
  {as as' : List α} {bs bs' : List β} {cs : List γ}

/-- The elements of the lists form pairs that `r` relates. -/
def Paired (r : α → β → Prop) (as : List α) (bs : List β) : Prop :=
  Multiset.Rel r (as : Multiset α) (bs : Multiset β)

namespace Paired

/-- Lists that match place by place. -/
theorem of_forall₂ (h : List.Forall₂ r as bs) : Paired r as bs := by
  induction h with
  | nil => exact .zero
  | cons hab _ ih => exact .cons hab ih

/-- Two matches beside each other. -/
theorem append (h : Paired r as bs) (h' : Paired r as' bs') :
    Paired r (as ++ as') (bs ++ bs') := by
  show Multiset.Rel r ↑(as ++ as') ↑(bs ++ bs')
  rw [← Multiset.coe_add, ← Multiset.coe_add]
  exact Multiset.Rel.add h h'

/-- The orders of the two lists do not count. -/
theorem of_perm (h : Paired r as bs) (hleft : as'.Perm as) (hright : bs'.Perm bs) :
    Paired r as' bs' := by
  show Multiset.Rel r ↑as' ↑bs'
  rw [Multiset.coe_eq_coe.mpr hleft, Multiset.coe_eq_coe.mpr hright]
  exact h

/-- A map on the left goes into the relation. -/
theorem map_left_iff {f : γ → α} :
    Paired r (cs.map f) bs ↔ Paired (fun c b => r (f c) b) cs bs := by
  rw [Paired, ← Multiset.map_coe]
  exact Multiset.rel_map_left

/-- A map on the right goes into the relation. -/
theorem map_right_iff {f : γ → β} :
    Paired r as (cs.map f) ↔ Paired (fun a c => r a (f c)) as cs := by
  rw [Paired, ← Multiset.map_coe]
  exact Multiset.rel_map_right

/-- A weaker relation matches, too. -/
theorem mono {r' : α → β → Prop} (hrel : ∀ a b, r a b → r' a b) (h : Paired r as bs) :
    Paired r' as bs :=
  Multiset.Rel.mono h fun a _ b _ hab => hrel a b hab

/-- The match seen from the other side. -/
theorem flip (h : Paired r as bs) : Paired (fun b a => r a b) bs as := Multiset.rel_flip.mpr h

/-- Matched lists have the same length. -/
theorem length_eq (h : Paired r as bs) : as.length = bs.length :=
  Multiset.card_eq_card_of_rel h

/-- A list matches itself. -/
theorem refl {r : α → α → Prop} (h : ∀ a, r a a) (as : List α) : Paired r as as :=
  Multiset.rel_refl_of_refl_on fun a _ => h a

/-- Two pairings with a list between them. -/
theorem comp (hrel : ∀ a b c, r a b → p b c → q a c) (h : Paired r as bs)
    (h' : Paired p bs cs) : Paired q as cs := by
  have hpair : ∀ (s : Multiset α) (t : Multiset β), Multiset.Rel r s t →
      ∀ u : Multiset γ, Multiset.Rel p t u → Multiset.Rel q s u := by
    intro s t hst
    induction hst with
    | zero =>
      intro u hu
      rw [Multiset.rel_zero_left.mp hu]
      exact .zero
    | cons hab _ ih =>
      intro u hu
      obtain ⟨c, u', hbc, hrest, rfl⟩ := Multiset.rel_cons_left.mp hu
      exact .cons (hrel _ _ _ hab hbc) (ih u' hrest)
  exact hpair _ _ h _ h'

end Paired

/-! ### Running totals -/

/-- The sums of the first elements, up to each element. -/
def runningTotals (xs : List Nat) : List Nat :=
  (List.range xs.length).map fun i => (xs.take (i + 1)).sum

/-- The first summand is in each total. -/
theorem runningTotals_cons (x : Nat) (xs : List Nat) :
    runningTotals (x :: xs) = x :: (runningTotals xs).map (x + ·) := by
  simp only [runningTotals, List.length_cons, List.range_succ_eq_map, List.map_cons, List.map_map,
    List.take_succ_cons, List.take_zero, List.sum_cons, List.sum_nil, Nat.add_zero]
  rfl

/-- The totals tell the summands. -/
theorem runningTotals_injective : Function.Injective runningTotals := by
  intro xs
  induction xs with
  | nil =>
    intro ys h
    cases ys with
    | nil => rfl
    | cons y ys =>
      rw [runningTotals_cons] at h
      cases h
  | cons x xs ih =>
    intro ys h
    cases ys with
    | nil =>
      rw [runningTotals_cons] at h
      cases h
    | cons y ys =>
      rw [runningTotals_cons, runningTotals_cons, List.cons.injEq] at h
      obtain ⟨rfl, htail⟩ := h
      have hadd : Function.Injective (x + ·) := fun _ _ => Nat.add_left_cancel
      rw [ih (List.map_injective_iff.mpr hadd htail)]

/-- The last running total is the sum. -/
theorem eq_sum_of_getLast?_runningTotals {xs : List Nat} {y : Nat}
    (h : (runningTotals xs).getLast? = some y) : y = xs.sum := by
  rw [runningTotals, List.getLast?_map, List.getLast?_range] at h
  by_cases hnil : xs.length = 0
  · rw [if_pos hnil] at h
    cases h
  · rw [if_neg hnil] at h
    cases h
    show (xs.take (xs.length - 1 + 1)).sum = xs.sum
    rw [show xs.length - 1 + 1 = xs.length by omega, List.take_length]
