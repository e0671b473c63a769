import Mathlib.Algebra.BigOperators.Group.List.Basic
import Mathlib.Algebra.Ring.Int.Defs
import Mathlib.Data.Finset.Card
import Mathlib.Data.List.Perm.Basic

/-!
# `Haaukins.Lib.WeightedPool`: pools that draw until they find a free value

A `WeightedPool` has a set of taken values and a table of keys with weights. A draw chooses a key
by its weight and makes a value of it, until a value is not taken.

* `pick` is the choice of a key for one order of the table and one random number. `picks_iff`
  says which keys it can choose. A weight may be negative. `card_pick_first` counts the numbers
  that choose the first key of the order.
* `reserve` takes a value and lowers the weight of its key. `weights_reserveAll` and
  `mem_taken_reserveAll` say what is left after a list of them.
* `draw` is the search. `exists_free` is its exit while there are more values than taken ones.
-/

set_option autoImplicit false

/-- A pool of values of type `α`. The keys of `weights` are distinct. -/
structure WeightedPool (κ α : Type*) where
  taken : Finset α
  weights : List (κ × Int)

namespace WeightedPool

variable {κ α ε : Type*}

/-! ### The choice of a key -/

/-- The sum of the weights. -/
def totalWeight (m : List (κ × Int)) : Int := (m.map Prod.snd).sum

/-- The first key at which the weights add up to `r`. -/
def pick : List (κ × Int) → Int → Option κ
  | [], _ => none
  | (k, w) :: m, r => if r - w ≤ 0 then some k else pick m (r - w)

/-- The key is chosen for some order of the table and some random number below the sum. -/
def Picks (m : List (κ × Int)) (k : κ) : Prop :=
  ∃ order r, order.Perm m ∧ 0 ≤ r ∧ r < totalWeight m ∧ pick order r = some k

/-- A number below the total weight picks a key. -/
theorem pick_isSome {m : List (κ × Int)} {r : Int} (hr : 0 ≤ r) (hlt : r < totalWeight m) :
    (pick m r).isSome := by
  induction m generalizing r with
  | nil =>
    simp only [totalWeight, List.map_nil, List.sum_nil] at hlt
    omega
  | cons kw m ih =>
    simp only [totalWeight, List.map_cons, List.sum_cons] at hlt
    rw [pick]
    split
    · rfl
    · exact ih (by omega) (by rw [totalWeight]; omega)

/-- A chosen key is one of the table. -/
theorem mem_of_pick {m : List (κ × Int)} {r : Int} {k : κ} (h : pick m r = some k) :
    k ∈ m.map Prod.fst := by
  induction m generalizing r with
  | nil => cases h
  | cons kw m ih =>
    rw [List.map_cons]
    rw [pick] at h
    split at h
    · cases h
      exact List.mem_cons_self
    · exact List.mem_cons_of_mem kw.1 (ih h)

/-- The first key is chosen for the numbers up to its weight. -/
theorem pick_first_iff {m : List (κ × Int)} {k : κ} (hk : k ∉ m.map Prod.fst) (w r : Int) :
    pick ((k, w) :: m) r = some k ↔ r ≤ w := by
  rw [pick]
  split
  · next hle => exact iff_of_true rfl (by omega)
  · next hgt => exact iff_of_false (fun h => hk (mem_of_pick h)) (by omega)

/-- Among the numbers below `n`, one more than its weight choose the first key, when there are as
many. -/
theorem card_pick_first [DecidableEq κ] {m : List (κ × Int)} {k : κ} (hk : k ∉ m.map Prod.fst)
    (w n : Nat) :
    ((Finset.range n).filter fun r : Nat => pick ((k, (w : Int)) :: m) r = some k).card =
      min (w + 1) n := by
  have hrange : ((Finset.range n).filter fun r : Nat => pick ((k, (w : Int)) :: m) r = some k) =
      Finset.range (min (w + 1) n) := by
    ext r
    rw [Finset.mem_filter, Finset.mem_range, Finset.mem_range, pick_first_iff hk]
    omega
  rw [hrange, Finset.card_range]

/-- The weight of a chosen key is not negative. -/
theorem exists_weight_of_pick {m : List (κ × Int)} {r : Int} {k : κ} (hr : 0 ≤ r)
    (h : pick m r = some k) : ∃ w, (k, w) ∈ m ∧ 0 ≤ w := by
  induction m generalizing r with
  | nil => cases h
  | cons kw m ih =>
    rw [pick] at h
    split at h
    · cases h
      exact ⟨kw.2, List.mem_cons_self, by omega⟩
    · obtain ⟨w, hmem, hw⟩ := ih (by omega) h
      exact ⟨w, List.mem_cons_of_mem kw hmem, hw⟩

/-- A key can be chosen exactly when its weight is not negative and the sum is positive. -/
theorem picks_iff {m : List (κ × Int)} {k : κ} :
    Picks m k ↔ 0 < totalWeight m ∧ ∃ w, (k, w) ∈ m ∧ 0 ≤ w := by
  constructor
  · rintro ⟨order, r, horder, hr, hlt, hpick⟩
    obtain ⟨w, hmem, hw⟩ := exists_weight_of_pick hr hpick
    exact ⟨by omega, w, horder.mem_iff.mp hmem, hw⟩
  · rintro ⟨htotal, w, hmem, hw⟩
    -- The order in which the key comes first chooses it for the number zero.
    obtain ⟨before, after, rfl⟩ := List.append_of_mem hmem
    refine ⟨(k, w) :: (before ++ after), 0, List.perm_middle.symm, le_rfl, htotal, ?_⟩
    rw [pick, if_pos (by omega)]

/-- Each order of the table and each number below the sum choose a key. -/
theorem exists_pick {m order : List (κ × Int)} {r : Int} (horder : order.Perm m) (hr : 0 ≤ r)
    (hlt : r < totalWeight m) : ∃ k, pick order r = some k ∧ Picks m k := by
  have htotal : totalWeight order = totalWeight m := (horder.map Prod.snd).sum_eq
  obtain ⟨k, hk⟩ := Option.isSome_iff_exists.mp (pick_isSome hr (hlt.trans_eq htotal.symm))
  exact ⟨k, hk, order, r, horder, hr, hlt, hk⟩

/-! ### Reserved values -/

section
variable [DecidableEq κ]

/-- Lower the weight of a key by one. -/
def lower (m : List (κ × Int)) (k : κ) : List (κ × Int) :=
  m.map fun kw => if kw.1 = k then (kw.1, kw.2 - 1) else kw

/-- The keys stay. -/
theorem map_fst_lower (m : List (κ × Int)) (k : κ) :
    (lower m k).map Prod.fst = m.map Prod.fst := by
  rw [lower, List.map_map]
  refine List.map_congr_left fun kw _ => ?_
  simp only [Function.comp]
  split <;> rfl

/-- An unknown key lowers no weight. -/
theorem lower_of_notMem {m : List (κ × Int)} {k : κ} (h : k ∉ m.map Prod.fst) :
    lower m k = m := by
  have hsame : ∀ kw ∈ m, (if kw.1 = k then (kw.1, kw.2 - 1) else kw) = kw := by
    intro kw hkw
    refine if_neg fun heq => h ?_
    rw [← heq]
    exact List.mem_map_of_mem hkw
  rw [lower, List.map_congr_left hsame, List.map_id']

/-- Each key of the list lowers its weight by one. -/
theorem foldl_lower (ks : List κ) (m : List (κ × Int)) :
    ks.foldl lower m = m.map fun kw => (kw.1, kw.2 - (ks.count kw.1 : Int)) := by
  induction ks generalizing m with
  | nil => simp
  | cons k ks ih =>
    rw [List.foldl_cons, ih, lower, List.map_map]
    refine List.map_congr_left fun kw _ => ?_
    by_cases hk : kw.1 = k
    · simp only [Function.comp, hk, List.count_cons_self]
      refine Prod.ext rfl ?_
      push_cast
      omega
    · simp only [Function.comp, if_neg hk, List.count_cons_of_ne (Ne.symm hk)]

end

section
variable [DecidableEq κ] [DecidableEq α]

/-- Take a value, and lower the weight of its key, when the pool has the key. -/
def reserve (p : WeightedPool κ α) (kv : κ × α) : WeightedPool κ α :=
  if kv.1 ∈ p.weights.map Prod.fst then
    { taken := insert kv.2 p.taken, weights := lower p.weights kv.1 }
  else p

/-- Reserving lowers the weight of the key. -/
theorem weights_reserve (p : WeightedPool κ α) (kv : κ × α) :
    (p.reserve kv).weights = lower p.weights kv.1 := by
  rw [reserve]
  split
  · rfl
  · next hkey => exact (lower_of_notMem hkey).symm

/-- Only a value of a known key is taken. -/
theorem mem_taken_reserve {p : WeightedPool κ α} {kv : κ × α} {v : α} :
    v ∈ (p.reserve kv).taken ↔
      v ∈ p.taken ∨ kv.1 ∈ p.weights.map Prod.fst ∧ v = kv.2 := by
  rw [reserve]
  split
  · next hkey => simp [hkey, or_comm]
  · next hkey => simp [hkey]

/-- The weights after a list of reservations. -/
theorem weights_reserveAll (kvs : List (κ × α)) (p : WeightedPool κ α) :
    (kvs.foldl reserve p).weights =
      p.weights.map fun kw => (kw.1, kw.2 - ((kvs.map Prod.fst).count kw.1 : Int)) := by
  rw [← foldl_lower]
  induction kvs generalizing p with
  | nil => rfl
  | cons kv kvs ih => rw [List.foldl_cons, ih, weights_reserve, List.map_cons, List.foldl_cons]

/-- The values that are taken after a list of reservations. -/
theorem mem_taken_reserveAll {kvs : List (κ × α)} {p : WeightedPool κ α} {v : α} :
    v ∈ (kvs.foldl reserve p).taken ↔
      v ∈ p.taken ∨ ∃ kv ∈ kvs, kv.1 ∈ p.weights.map Prod.fst ∧ v = kv.2 := by
  induction kvs generalizing p with
  | nil => simp
  | cons kv kvs ih =>
    rw [List.foldl_cons, ih, mem_taken_reserve, weights_reserve, map_fst_lower, or_assoc,
      List.exists_mem_cons_iff]

end

/-! ### The search for a free value -/

/-- A pool that is not full has a free value among more values than its limit. -/
theorem exists_free {p : WeightedPool κ α} {limit : Nat} {values : Finset α}
    (hlimit : p.taken.card ≤ limit) (hvalues : limit < values.card) : ∃ v ∈ values, v ∉ p.taken :=
  Finset.exists_mem_notMem_of_card_lt_card (hlimit.trans_lt hvalues)

section
variable [DecidableEq α]

/-- The search over the values that are drawn. It is `none` while the search goes on. -/
def draw (p : WeightedPool κ α) (limit : Nat) (full : ε) (drawn : List α) :
    Option (Except ε α × WeightedPool κ α) :=
  if limit < p.taken.card then some (.error full, p)
  else
    match drawn.find? fun v => v ∉ p.taken with
    | none => none
    | some v => some (.ok v, { p with taken := insert v p.taken })

variable {p q : WeightedPool κ α} {limit : Nat} {full : ε} {drawn : List α} {v : α}

/-- Over the limit nothing is drawn. -/
theorem draw_full (h : limit < p.taken.card) :
    p.draw limit full drawn = some (.error full, p) := if_pos h

/-- A value that is drawn was free, and is taken then. -/
theorem draw_ok (h : p.draw limit full drawn = some (.ok v, q)) :
    p.taken.card ≤ limit ∧ v ∈ drawn ∧ v ∉ p.taken ∧
      q = { p with taken := insert v p.taken } := by
  rw [draw] at h
  split at h
  · cases h
  next hlimit =>
  split at h
  · cases h
  · next hfind =>
    cases h
    exact ⟨not_lt.mp hlimit, List.mem_of_find?_eq_some hfind,
      by simpa using List.find?_some hfind, rfl⟩

/-- Only a pool that is full gives an error. -/
theorem draw_error {err : ε} (h : p.draw limit full drawn = some (.error err, q)) :
    limit < p.taken.card ∧ err = full ∧ q = p := by
  rw [draw] at h
  split at h
  · next hlimit =>
    cases h
    exact ⟨hlimit, rfl, rfl⟩
  · split at h <;> cases h

/-- The first value is drawn when it is free. -/
theorem draw_cons (hlimit : p.taken.card ≤ limit) (hfree : v ∉ p.taken) :
    p.draw limit full (v :: drawn) = some (.ok v, { p with taken := insert v p.taken }) := by
  rw [draw, if_neg (not_lt.mpr hlimit), List.find?_cons_of_pos (by simpa using hfree)]

/-- The search goes on while it draws taken values. -/
theorem draw_eq_none (hlimit : p.taken.card ≤ limit) (htaken : ∀ v ∈ drawn, v ∈ p.taken) :
    p.draw limit full drawn = none := by
  have hfind : drawn.find? (fun v => v ∉ p.taken) = none := by
    rw [List.find?_eq_none]
    intro v hv
    simpa using htaken v hv
  rw [draw, if_neg (not_lt.mpr hlimit), hfind]

end

end WeightedPool
