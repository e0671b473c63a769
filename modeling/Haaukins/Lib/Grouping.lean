import Mathlib.Data.List.Perm.Basic
import Mathlib.Data.List.Sort

/-!
# `Haaukins.Lib.Grouping`: lists in groups

* `FirstOccurrences xs ys` says that `ys` has the elements of `xs` once each, in the order in
  which they first come up. `firstOccurrences_foldl` is the loop that collects them.
* `StablySorted key xs ys` says that `ys` is `xs` in the order of `key`, where elements with the
  same key keep their order. `stablySorted_mergeSort` is the stable sort.
* `perm_flatMap_filter` puts a list together again from its groups.
-/

set_option autoImplicit false

variable {α κ : Type*}

/-- `ys` has the elements of `xs` in the order of their first occurrences. -/
structure FirstOccurrences [DecidableEq α] (xs ys : List α) : Prop where
  nodup : ys.Nodup
  mem : ∀ a, a ∈ ys ↔ a ∈ xs
  order : ys.Pairwise fun a b => xs.idxOf a < xs.idxOf b

/-- `ys` has the elements of `xs` in the order of `key`, and those with the same key in the order
of `xs`. -/
structure StablySorted [LE κ] [DecidableEq κ] (key : α → κ) (xs ys : List α) : Prop where
  perm : ys.Perm xs
  sorted : ys.Pairwise fun a b => key a ≤ key b
  stable : ∀ k, (ys.filter fun a => key a = k) = xs.filter fun a => key a = k

/-! ### First occurrences -/

section

variable [DecidableEq α] {xs ys : List α} {x : α}

/-- An empty list has no occurrences. -/
theorem firstOccurrences_nil : FirstOccurrences ([] : List α) [] where
  nodup := .nil
  mem := fun _ => Iff.rfl
  order := .nil

/-- The loop has met the elements of `xs` and comes to `x`. -/
theorem FirstOccurrences.append_singleton (h : FirstOccurrences xs ys) :
    FirstOccurrences (xs ++ [x]) (if x ∈ ys then ys else ys ++ [x]) := by
  have hold : ys.Pairwise fun a b => (xs ++ [x]).idxOf a < (xs ++ [x]).idxOf b := by
    refine h.order.imp_of_mem fun {a b} ha hb hlt => ?_
    rwa [List.idxOf_append_of_mem ((h.mem a).mp ha), List.idxOf_append_of_mem ((h.mem b).mp hb)]
  split
  · next hx =>
    refine ⟨h.nodup, fun a => ?_, hold⟩
    rw [h.mem, List.mem_append, List.mem_singleton, or_iff_left_of_imp]
    rintro rfl
    exact (h.mem a).mp hx
  · next hx =>
    have hnew : x ∉ xs := mt (h.mem x).mpr hx
    refine ⟨?_, fun a => ?_, ?_⟩
    · exact List.nodup_append.mpr ⟨h.nodup, List.nodup_singleton x, by
        rintro a ha b hb rfl
        exact hx (List.mem_singleton.mp hb ▸ ha)⟩
    · rw [List.mem_append, List.mem_append, h.mem]
    · refine List.pairwise_append.mpr ⟨hold, List.pairwise_singleton _ _, fun a ha b hb => ?_⟩
      obtain rfl := List.mem_singleton.mp hb
      have hmem := (h.mem a).mp ha
      rw [List.idxOf_append_of_mem hmem, List.idxOf_append_of_notMem hnew]
      exact Nat.lt_add_right _ (List.idxOf_lt_length_of_mem hmem)

/-- The loop that appends what is new keeps first occurrences. -/
theorem firstOccurrences_foldl (xs : List α) :
    FirstOccurrences xs (xs.foldl (fun ys x => if x ∈ ys then ys else ys ++ [x]) []) := by
  have hloop : ∀ (rest seen ys : List α), FirstOccurrences seen ys →
      FirstOccurrences (seen ++ rest)
        (rest.foldl (fun ys x => if x ∈ ys then ys else ys ++ [x]) ys) := by
    intro rest
    induction rest with
    | nil =>
      intro seen ys h
      rwa [List.append_nil]
    | cons x rest ih =>
      intro seen ys h
      have hnext := ih (seen ++ [x]) _ h.append_singleton
      rwa [List.append_assoc, List.singleton_append] at hnext
  exact hloop xs [] [] firstOccurrences_nil

end

/-! ### Stable sorting -/

/-- The merge sort is stable. -/
theorem stablySorted_mergeSort [LE κ] [DecidableLE κ] [DecidableEq κ] [Std.IsLinearPreorder κ]
    (key : α → κ) (xs : List α) :
    StablySorted key xs (xs.mergeSort fun a b => key a ≤ key b) := by
  have htrans : ∀ a b c : α, decide (key a ≤ key b) = true → decide (key b ≤ key c) = true →
      decide (key a ≤ key c) = true := by
    simp only [decide_eq_true_eq]
    exact fun a b c => Std.IsPreorder.le_trans (key a) (key b) (key c)
  have htotal : ∀ a b : α, (decide (key a ≤ key b) || decide (key b ≤ key a)) = true := by
    simp only [Bool.or_eq_true, decide_eq_true_eq]
    exact fun a b => Std.IsLinearPreorder.le_total (key a) (key b)
  have hperm := List.mergeSort_perm xs fun a b => decide (key a ≤ key b)
  refine ⟨hperm, ?_, fun k => ?_⟩
  · exact (List.pairwise_mergeSort htrans htotal xs).imp fun h => of_decide_eq_true h
  · -- The elements with one key are sorted, so the sort keeps them in their order.
    have hsame : (xs.filter fun a => key a = k).Pairwise fun a b =>
        decide (key a ≤ key b) = true := by
      refine List.pairwise_of_forall_mem_list fun a ha b hb => ?_
      have ha := (List.mem_filter.mp ha).2
      have hb := (List.mem_filter.mp hb).2
      simp only [decide_eq_true_eq] at ha hb ⊢
      rw [ha, hb]
      exact Std.IsPreorder.le_refl k
    have hsub := (List.sublist_mergeSort htrans htotal hsame List.filter_sublist).filter
      fun a => decide (key a = k)
    rw [List.filter_filter] at hsub
    simp only [Bool.and_self] at hsub
    exact (hsub.eq_of_length (hperm.filter _).length_eq.symm).symm

/-! ### Groups -/

/-- The groups of different keys make up the elements with these keys. -/
theorem perm_flatMap_filter [DecidableEq κ] (key : α → κ) (xs : List α) {ks : List κ}
    (h : ks.Nodup) :
    (ks.flatMap fun k => xs.filter fun a => key a = k).Perm (xs.filter fun a => key a ∈ ks) := by
  induction ks with
  | nil => simp
  | cons k ks ih =>
    obtain ⟨hk, hnodup⟩ := List.nodup_cons.mp h
    have hsplit := List.filter_append_perm (fun a => decide (key a = k))
      (xs.filter fun a => key a ∈ k :: ks)
    rw [List.filter_filter, List.filter_filter] at hsplit
    rw [List.flatMap_cons]
    refine .trans (.append (.of_eq ?_) ((ih hnodup).trans (.of_eq ?_))) hsplit
    · refine List.filter_congr fun a _ => ?_
      by_cases ha : key a = k
      · simp [ha]
      · simp [ha]
    · refine List.filter_congr fun a _ => ?_
      by_cases ha : key a = k
      · simp [ha, hk]
      · simp [ha]
