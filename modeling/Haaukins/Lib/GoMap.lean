import Mathlib.Data.List.AList

/-!
# `Haaukins.Lib.GoMap`: maps as association lists

`GoMap κ ν` is Mathlib's `AList` with one value type: an association list whose keys are
distinct. Its order stands for the order in which a `range` loop happens to visit the map.
A lookup after an update is one `if` (`get?_set`, `get?_delete`), and the `values` of an
updated map are stated for a new key, which is what a sweep over a map needs.

`Keyed key m` says that each value stands under its own key. `ofList key` is the loop that
enters a list into such a map, and `eraseP` on a list is the deletion of one key.
-/

set_option autoImplicit false

/-- A finite map with keys in `κ` and values in `ν`. -/
abbrev GoMap (κ ν : Type*) := AList fun _ : κ => ν

namespace GoMap

variable {κ ν : Type*}

/-- The values of the map, in the order of its entries. -/
def values (m : GoMap κ ν) : List ν := m.entries.map Sigma.snd

/-- The keys of the map with their values, in the order of its entries. -/
def pairs (m : GoMap κ ν) : List (κ × ν) := m.entries.map fun e => (e.1, e.2)

/-- The number of entries, `len(m)`. -/
def size (m : GoMap κ ν) : Nat := m.entries.length

/-- There is one value for each key. -/
@[simp] theorem length_values (m : GoMap κ ν) : m.values.length = m.size := by
  simp [values, size]

/-- The empty map has no values. -/
@[simp] theorem values_empty : values (∅ : GoMap κ ν) = [] := rfl

/-- The empty map has size 0. -/
@[simp] theorem size_empty : size (∅ : GoMap κ ν) = 0 := rfl

/-- A map with a key is not empty. -/
theorem size_pos_of_mem {m : GoMap κ ν} {k : κ} (h : k ∈ m) : 0 < m.size := by
  have := List.length_pos_of_mem (AList.mem_keys.mp h)
  simpa [size, AList.keys, List.keys] using this

/-- No key comes twice among the pairs. -/
theorem nodup_map_pairs (m : GoMap κ ν) : (m.pairs.map Prod.fst).Nodup := by
  have hkeys : m.pairs.map Prod.fst = m.entries.keys := by
    rw [pairs, List.map_map]
    rfl
  rw [hkeys]
  exact m.nodupKeys

/-- The keys of the map, in the order of its entries. -/
def keyList (m : GoMap κ ν) : List κ := AList.keys m

/-- No key comes twice in the list of keys. -/
theorem nodup_keyList (m : GoMap κ ν) : m.keyList.Nodup := AList.keys_nodup m

/-- The list of keys has the keys of the map. -/
theorem mem_keyList {m : GoMap κ ν} {k : κ} : k ∈ m.keyList ↔ k ∈ m := AList.mem_keys.symm

variable [DecidableEq κ]

/-- The value under a key, `m[k]`. -/
def get? (m : GoMap κ ν) (k : κ) : Option ν := AList.lookup k m

/-- The map after `m[k] = v`. -/
def set (m : GoMap κ ν) (k : κ) (v : ν) : GoMap κ ν := AList.insert k v m

/-- The map after `delete(m, k)`. -/
def delete (m : GoMap κ ν) (k : κ) : GoMap κ ν := AList.erase k m

/-- The empty map has no entry. -/
@[simp] theorem get?_empty (k : κ) : get? (∅ : GoMap κ ν) k = none := AList.lookup_empty k

/-- A write is read back at its key, and nowhere else. -/
theorem get?_set (m : GoMap κ ν) (k k' : κ) (v : ν) :
    (m.set k v).get? k' = if k' = k then some v else m.get? k' := by
  unfold get? set
  split
  · next h => subst h; exact AList.lookup_insert m
  · next h => exact AList.lookup_insert_ne h

/-- A write is read back. -/
@[simp] theorem get?_set_self (m : GoMap κ ν) (k : κ) (v : ν) :
    (m.set k v).get? k = some v := by
  simp [get?_set]

/-- A deletion is seen at its key, and nowhere else. -/
theorem get?_delete (m : GoMap κ ν) (k k' : κ) :
    (m.delete k).get? k' = if k' = k then none else m.get? k' := by
  unfold get? delete
  split
  · next h => subst h; exact AList.lookup_erase k' m
  · next h => exact AList.lookup_erase_ne h

/-- A deleted key has no entry. -/
@[simp] theorem get?_delete_self (m : GoMap κ ν) (k : κ) : (m.delete k).get? k = none := by
  simp [get?_delete]

/-- There is no entry exactly for a key that is not there. -/
theorem get?_eq_none {m : GoMap κ ν} {k : κ} : m.get? k = none ↔ k ∉ m :=
  AList.lookup_eq_none

/-- A write adds its key. -/
theorem mem_set {m : GoMap κ ν} {k k' : κ} {v : ν} : k' ∈ m.set k v ↔ k' = k ∨ k' ∈ m :=
  AList.mem_insert m

/-- A deletion takes its key away. -/
theorem mem_delete {m : GoMap κ ν} {k k' : κ} : k' ∈ m.delete k ↔ k' ≠ k ∧ k' ∈ m :=
  AList.mem_erase

/-- A key is there when it has an entry. -/
theorem mem_iff_get? {m : GoMap κ ν} {k : κ} : k ∈ m ↔ ∃ v, m.get? k = some v := by
  rw [← not_iff_not, ← get?_eq_none, Option.eq_none_iff_forall_ne_some, not_exists]

/-- The values are those of the entries. -/
theorem mem_values {m : GoMap κ ν} {v : ν} : v ∈ m.values ↔ ∃ k, m.get? k = some v := by
  simp only [values, List.mem_map]
  constructor
  · rintro ⟨⟨k, w⟩, hmem, rfl⟩
    exact ⟨k, AList.mem_lookup_iff.mpr hmem⟩
  · rintro ⟨k, hk⟩
    exact ⟨⟨k, v⟩, AList.mem_lookup_iff.mp hk, rfl⟩

/-- The pairs are the entries. -/
theorem mem_pairs {m : GoMap κ ν} {k : κ} {v : ν} : (k, v) ∈ m.pairs ↔ m.get? k = some v := by
  simp only [pairs, List.mem_map, Prod.mk.injEq]
  constructor
  · rintro ⟨⟨k', v'⟩, hmem, rfl, rfl⟩
    exact AList.mem_lookup_iff.mpr hmem
  · intro hk
    exact ⟨⟨k, v⟩, AList.mem_lookup_iff.mp hk, rfl, rfl⟩

/-- A new key puts its value in front. -/
theorem values_set_of_notMem {m : GoMap κ ν} {k : κ} (h : k ∉ m) (v : ν) :
    (m.set k v).values = v :: m.values := by
  rw [set, values, AList.entries_insert_of_notMem h]
  rfl

/-- A new key makes the map larger by one. -/
theorem size_set_of_notMem {m : GoMap κ ν} {k : κ} (h : k ∉ m) (v : ν) :
    (m.set k v).size = m.size + 1 := by
  rw [set, size, AList.entries_insert_of_notMem h]
  rfl

/-- A key that is present keeps the size of the map. -/
theorem size_set_of_mem {m : GoMap κ ν} {k : κ} (h : k ∈ m) (v : ν) :
    (m.set k v).size = m.size := by
  have hk : k ∈ m.keys := AList.mem_keys.mp h
  have hlen : (m.set k v).keys.length = m.keys.length := by
    rw [set, AList.keys_insert, List.length_cons, List.length_erase_of_mem hk]
    have := List.length_pos_of_mem hk
    omega
  simpa [size, AList.keys, List.keys] using hlen

section Fold

variable {α : Type*} (xs : List α) (key : α → κ) (value : α → ν) (m : GoMap κ ν)

/-- A loop of writes makes the map larger by at most one in each round. -/
theorem size_foldl_set_le :
    (xs.foldl (fun m x => m.set (key x) (value x)) m).size ≤ m.size + xs.length := by
  induction xs generalizing m with
  | nil => exact le_rfl
  | cons x xs ih =>
    have := ih (m.set (key x) (value x))
    rw [List.foldl_cons, List.length_cons]
    by_cases hx : key x ∈ m
    · rw [size_set_of_mem hx] at this
      omega
    · rw [size_set_of_notMem hx] at this
      omega

/-- The loop over different keys, all of them new, keeps each value. -/
theorem values_foldl_set_perm (hkeys : (xs.map key).Nodup) (hnew : ∀ x ∈ xs, key x ∉ m) :
    (xs.foldl (fun m x => m.set (key x) (value x)) m).values.Perm
      (m.values ++ xs.map value) := by
  induction xs generalizing m with
  | nil => simp
  | cons x xs ih =>
    obtain ⟨hx, hkeys⟩ := List.nodup_cons.mp hkeys
    have hrest : ∀ y ∈ xs, key y ∉ m.set (key x) (value x) := by
      intro y hy hmem
      rcases mem_set.mp hmem with heq | hmem
      · exact hx (heq ▸ List.mem_map_of_mem hy)
      · exact hnew y (List.mem_cons_of_mem _ hy) hmem
    refine (ih _ hkeys hrest).trans ?_
    rw [values_set_of_notMem (hnew x List.mem_cons_self), List.map_cons]
    exact List.perm_middle.symm

/-- A loop whose keys are not all different and new overwrites a value. -/
theorem size_foldl_set_lt (h : ¬ ((xs.map key).Nodup ∧ ∀ x ∈ xs, key x ∉ m)) :
    (xs.foldl (fun m x => m.set (key x) (value x)) m).size < m.size + xs.length := by
  induction xs generalizing m with
  | nil => exact absurd ⟨List.nodup_nil, by simp⟩ h
  | cons x xs ih =>
    rw [List.foldl_cons, List.length_cons]
    by_cases hx : key x ∈ m
    · have := size_foldl_set_le xs key value (m.set (key x) (value x))
      rw [size_set_of_mem hx] at this
      omega
    · have := ih (m.set (key x) (value x)) ?_
      · rw [size_set_of_notMem hx] at this
        omega
      · rintro ⟨hkeys, hnew⟩
        refine h ⟨List.nodup_cons.mpr ⟨fun hmem => ?_, hkeys⟩, fun y hy hmem => ?_⟩
        · obtain ⟨y, hy, heq⟩ := List.mem_map.mp hmem
          exact hnew y hy (mem_set.mpr (.inl heq))
        · rcases List.mem_cons.mp hy with rfl | hy
          · exact hx hmem
          · exact hnew y hy (mem_set.mpr (.inr hmem))

end Fold

/-- A deletion does not make the map larger. -/
theorem size_delete_le (m : GoMap κ ν) (k : κ) : (m.delete k).size ≤ m.size :=
  (List.kerase_sublist k m.entries).length_le

/-- A loop that sets keys has the keys from before and its own. -/
theorem mem_foldl_set {α : Type*} {xs : List α} {key : α → κ} {value : α → ν} {m : GoMap κ ν}
    {k : κ} :
    k ∈ xs.foldl (fun m x => m.set (key x) (value x)) m ↔ k ∈ m ∨ ∃ x ∈ xs, key x = k := by
  induction xs generalizing m with
  | nil => simp
  | cons x xs ih =>
    rw [List.foldl_cons, ih, mem_set, List.exists_mem_cons_iff, eq_comm (a := k)]
    tauto

/-- What holds of the values from before and of those that a loop sets, holds after the loop. -/
theorem forall_foldl_set {α : Type*} {xs : List α} {key : α → κ} {value : α → ν} {m : GoMap κ ν}
    {P : ν → Prop} (hm : ∀ k v, m.get? k = some v → P v) (hvalue : ∀ x ∈ xs, P (value x)) :
    ∀ k v, (xs.foldl (fun m x => m.set (key x) (value x)) m).get? k = some v → P v := by
  induction xs generalizing m with
  | nil => exact hm
  | cons x xs ih =>
    refine ih (fun k v hk => ?_) fun y hy => hvalue y (List.mem_cons_of_mem _ hy)
    rw [get?_set] at hk
    split at hk
    · cases hk
      exact hvalue x List.mem_cons_self
    · exact hm k v hk

/-- A loop that sets distinct keys enters each of its values. -/
theorem get?_foldl_set {α : Type*} {xs : List α} {key : α → κ} (h : (xs.map key).Nodup)
    (value : α → ν) (m : GoMap κ ν) (k : κ) (v : ν) :
    (xs.foldl (fun m x => m.set (key x) (value x)) m).get? k = some v ↔
      (∃ x ∈ xs, key x = k ∧ value x = v) ∨ (m.get? k = some v ∧ k ∉ xs.map key) := by
  induction xs generalizing m with
  | nil => simp
  | cons x xs ih =>
    rw [List.map_cons, List.nodup_cons] at h
    rw [List.foldl_cons, ih h.2, get?_set, List.exists_mem_cons_iff, List.map_cons,
      List.mem_cons, not_or]
    have hx : key x ∉ xs.map key := h.1
    constructor
    · rintro (hlater | ⟨hm, hk⟩)
      · exact .inl (.inr hlater)
      · split at hm
        · next heq => exact .inl (.inl ⟨heq.symm, Option.some.inj hm⟩)
        · next hne => exact .inr ⟨hm, hne, hk⟩
    · rintro ((⟨rfl, rfl⟩ | hlater) | ⟨hm, hne, hk⟩)
      · exact .inr ⟨if_pos rfl, hx⟩
      · exact .inl hlater
      · exact .inr ⟨by rw [if_neg hne, hm], hk⟩

/-- After a loop that sets keys, each key has the value that was set last. -/
theorem get?_foldl_last (xs : List (κ × ν)) (m : GoMap κ ν) (k : κ) :
    (xs.foldl (fun m x => m.set x.1 x.2) m).get? k =
      ((xs.reverse.find? fun x => x.1 = k).map Prod.snd).or (m.get? k) := by
  induction xs generalizing m with
  | nil => rfl
  | cons x xs ih =>
    rw [List.foldl_cons, ih, List.reverse_cons, List.find?_append, get?_set]
    cases xs.reverse.find? fun x => x.1 = k with
    | some y => rfl
    | none =>
      by_cases hk : x.1 = k
      · simp [hk]
      · simp [hk, Ne.symm hk]

/-- The loop over a map `m'` sets its keys, and keeps the other ones. -/
theorem get?_foldl_pairs (m m' : GoMap κ ν) (k : κ) :
    (m'.pairs.foldl (fun m e => m.set e.1 e.2) m).get? k = (m'.get? k).or (m.get? k) := by
  ext v
  rw [get?_foldl_set m'.nodup_map_pairs Prod.snd]
  have hmem : k ∈ m'.pairs.map Prod.fst ↔ k ∈ m' := by
    rw [mem_iff_get?]
    constructor
    · intro hk
      obtain ⟨⟨k', v'⟩, hpair, rfl⟩ := List.mem_map.mp hk
      exact ⟨v', mem_pairs.mp hpair⟩
    · rintro ⟨v', hv'⟩
      exact List.mem_map.mpr ⟨(k, v'), mem_pairs.mpr hv', rfl⟩
  have hpair : (∃ x ∈ m'.pairs, x.1 = k ∧ x.2 = v) ↔ m'.get? k = some v := by
    constructor
    · rintro ⟨x, hx, rfl, rfl⟩
      exact mem_pairs.mp hx
    · intro hv
      exact ⟨(k, v), mem_pairs.mpr hv, rfl, rfl⟩
  rw [hmem, hpair, Option.or_eq_some_iff, get?_eq_none, and_comm (b := k ∉ m')]

/-! ### Loops over the keys -/

section Range

variable {ε : Type*} (f : κ → ν → ν × Option ε)

/-- `for k, v := range m` with a body that gives `m[k]` a new value and may report an error. The
order of the keys is an argument. -/
def rangeLoop : List κ → GoMap κ ν → GoMap κ ν × List ε
  | [], m => (m, [])
  | k :: ks, m =>
    match m.get? k with
    | none => rangeLoop ks m
    | some v =>
      let (m', errs) := rangeLoop ks (m.set k (f k v).1)
      (m', (f k v).2.toList ++ errs)

variable {f} {ks : List κ} {m : GoMap κ ν}

/-- A loop over distinct keys runs its body once for each of them. -/
theorem get?_rangeLoop (h : ks.Nodup) (k : κ) :
    (rangeLoop f ks m).1.get? k =
      if k ∈ ks then (m.get? k).map fun v => (f k v).1 else m.get? k := by
  induction ks generalizing m with
  | nil => rfl
  | cons k' ks ih =>
    obtain ⟨hk', hks⟩ := List.nodup_cons.mp h
    rw [rangeLoop]
    cases hget : m.get? k' with
    | none =>
      simp only [ih hks, List.mem_cons]
      by_cases hk : k = k'
      · subst hk
        simp [hk', hget]
      · simp [hk]
    | some v =>
      simp only [ih hks, List.mem_cons, get?_set]
      by_cases hk : k = k'
      · subst hk
        simp [hk', hget]
      · simp [hk]

/-- The errors of the loop are those of its rounds. -/
theorem mem_errs_rangeLoop (h : ks.Nodup) {err : ε} :
    err ∈ (rangeLoop f ks m).2 ↔ ∃ k ∈ ks, ∃ v, m.get? k = some v ∧ (f k v).2 = some err := by
  induction ks generalizing m with
  | nil => simp [rangeLoop]
  | cons k' ks ih =>
    obtain ⟨hk', hks⟩ := List.nodup_cons.mp h
    rw [rangeLoop, List.exists_mem_cons_iff]
    cases hget : m.get? k' with
    | none => simp [ih hks]
    | some v =>
      -- The later rounds do not meet this key again.
      have hrest : ∀ k ∈ ks, (m.set k' (f k' v).1).get? k = m.get? k := fun k hk => by
        rw [get?_set, if_neg]
        rintro rfl
        exact hk' hk
      simp only [List.mem_append, Option.mem_toList, ih hks, Option.some.injEq, exists_eq_left']
      refine or_congr_right (exists_congr fun k => and_congr_right fun hk => ?_)
      rw [hrest k hk]

variable (f) in
/-- The same loop with a body that returns at its first error. -/
def rangeUntil : List κ → GoMap κ ν → GoMap κ ν × Option ε
  | [], m => (m, none)
  | k :: ks, m =>
    match m.get? k with
    | none => rangeUntil ks m
    | some v =>
      match f k v with
      | (v, some err) => (m.set k v, some err)
      | (v, none) => rangeUntil ks (m.set k v)

/-- A key that the loop does not visit keeps its value. -/
theorem get?_rangeUntil_of_notMem {k : κ} (h : k ∉ ks) :
    (rangeUntil f ks m).1.get? k = m.get? k := by
  induction ks generalizing m with
  | nil => rfl
  | cons k' ks ih =>
    obtain ⟨hk', hks⟩ := List.ne_and_not_mem_of_not_mem_cons h
    have hset : ∀ v, (m.set k' v).get? k = m.get? k := fun v => by
      rw [get?_set, if_neg hk']
    rw [rangeUntil]
    split
    · exact ih hks
    · split
      · exact hset _
      · rw [ih hks, hset]

/-- The loop over distinct keys changes nothing if and only if it does not change the first value
that it acts on. A body that acts on a value without changing it returns an error. -/
theorem rangeUntil_same_iff {acts : κ → ν → Bool} (h : ks.Nodup)
    (hskip : ∀ k v, acts k v = false → f k v = (v, none))
    (hact : ∀ k v, acts k v = true → (f k v).1 = v → (f k v).2 ≠ none) :
    (∀ k, (rangeUntil f ks m).1.get? k = m.get? k) ↔
      ∀ k v, (ks.find? fun k => (m.get? k).any (acts k)) = some k → m.get? k = some v →
        (f k v).1 = v := by
  induction ks generalizing m with
  | nil => simp [rangeUntil]
  | cons k ks ih =>
    obtain ⟨hk, hks⟩ := List.nodup_cons.mp h
    rw [rangeUntil]
    cases hget : m.get? k with
    | none =>
      -- The key is not there, and the round does nothing.
      rw [List.find?_cons_of_neg (by simp [hget])]
      exact ih hks
    | some v =>
      cases hacts : acts k v with
      | false =>
        -- The body leaves the value, so that the rest of the loop decides.
        have hsame : (m.set k v).get? = m.get? := by
          funext k'
          rw [get?_set]
          split
          · next heq => rw [heq, hget]
          · rfl
        have hrest := ih hks (m := m.set k v)
        simp only [hsame] at hrest
        simp only [hskip k v hacts]
        rw [List.find?_cons_of_neg (by simp [hget, hacts])]
        exact hrest
      | true =>
        rw [List.find?_cons_of_pos (by simp [hget, hacts])]
        simp only [Option.some.injEq]
        have hright : (∀ k' v', k = k' → m.get? k' = some v' → (f k' v').1 = v') ↔
            (f k v).1 = v := by
          constructor
          · exact fun hall => hall k v rfl hget
          · rintro hv k' v' rfl hv'
            rw [hget] at hv'
            cases hv'
            exact hv
        rw [hright]
        rcases hf : f k v with ⟨v', _ | err⟩
        · -- The value was changed, and no later round visits its key.
          have hchanged : v' ≠ v := fun heq => hact k v hacts (by rw [hf, heq]) (by rw [hf])
          refine iff_of_false (fun hall => hchanged ?_) hchanged
          have hkey := hall k
          rw [get?_rangeUntil_of_notMem hk, get?_set_self, hget] at hkey
          exact Option.some.inj hkey
        -- The error ends the loop with this value.
        · constructor
          · intro hall
            have hkey := hall k
            rw [get?_set_self, hget] at hkey
            exact Option.some.inj hkey
          · intro hv k'
            rw [show v' = v from hv, get?_set]
            split
            · next heq => rw [heq, hget]
            · rfl

end Range

/-! ### Values that know their key -/

/-- Each value of the map stands under the key that `key` reads off it. -/
def Keyed (key : ν → κ) (m : GoMap κ ν) : Prop := ∀ k v, m.get? k = some v → key v = k

variable {key : ν → κ}

/-- The empty map is keyed. -/
theorem keyed_empty : Keyed key (∅ : GoMap κ ν) := by
  intro k v h
  simp at h

/-- A write at the right key keeps a map keyed. -/
theorem Keyed.set {m : GoMap κ ν} (h : Keyed key m) {k : κ} {v : ν} (hv : key v = k) :
    Keyed key (m.set k v) := by
  intro k' v' hk
  rw [get?_set] at hk
  split at hk
  · next heq =>
    cases hk
    exact hv.trans heq.symm
  · exact h k' v' hk

/-- A deletion keeps a map keyed. -/
theorem Keyed.delete {m : GoMap κ ν} (h : Keyed key m) (k : κ) : Keyed key (m.delete k) := by
  intro k' v' hk
  rw [get?_delete] at hk
  split at hk
  · cases hk
  · exact h k' v' hk

/-- The values of a keyed map have pairwise distinct keys. -/
theorem Keyed.nodup_values {m : GoMap κ ν} (h : Keyed key m) : (m.values.map key).Nodup := by
  have hkeys : m.values.map key = m.entries.keys := by
    rw [values, List.map_map, List.keys]
    refine List.map_congr_left fun s hs => ?_
    exact h s.1 s.2 (AList.mem_lookup_iff.mpr hs)
  rw [hkeys]
  exact m.nodupKeys

/-- The map of the loop `for _, v := range xs { m[key(v)] = v }`. -/
def ofList (key : ν → κ) (xs : List ν) : GoMap κ ν := xs.foldl (fun m v => m.set (key v) v) ∅

/-- A map that is filled from a list is keyed. -/
theorem keyed_ofList (key : ν → κ) (xs : List ν) : Keyed key (ofList key xs) := by
  have hfold : ∀ m, Keyed key m → Keyed key (xs.foldl (fun m v => m.set (key v) v) m) := by
    induction xs with
    | nil => exact fun m hm => hm
    | cons x xs ih => exact fun m hm => ih _ (hm.set rfl)
  exact hfold ∅ keyed_empty

/-- With different keys, each element of the list is found. -/
theorem get?_ofList {xs : List ν} (h : (xs.map key).Nodup) (k : κ) (v : ν) :
    (ofList key xs).get? k = some v ↔ v ∈ xs ∧ key v = k := by
  have hloop := get?_foldl_set h id ∅ k v
  simpa [ofList] using hloop

/-- Removing the first value with a key from a list with distinct keys removes exactly the
value with this key. -/
theorem mem_eraseP_key {xs : List ν} (h : (xs.map key).Nodup) (k : κ) (v : ν) :
    v ∈ xs.eraseP (fun x => k = key x) ↔ v ∈ xs ∧ key v ≠ k := by
  induction xs with
  | nil => simp
  | cons x xs ih =>
    rw [List.map_cons, List.nodup_cons] at h
    by_cases hx : k = key x
    · simp only [List.eraseP_cons, hx, decide_true, cond_true, List.mem_cons]
      constructor
      · intro hv
        exact ⟨.inr hv, fun heq => h.1 (heq ▸ List.mem_map_of_mem hv)⟩
      · rintro ⟨rfl | hv, hne⟩
        · exact absurd rfl hne
        · exact hv
    · simp only [List.eraseP_cons, hx, decide_false, cond_false, List.mem_cons, ih h.2]
      constructor
      · rintro (rfl | ⟨hv, hne⟩)
        · exact ⟨.inl rfl, fun heq => hx heq.symm⟩
        · exact ⟨.inr hv, hne⟩
      · rintro ⟨rfl | hv, hne⟩
        · exact .inl rfl
        · exact .inr ⟨hv, hne⟩

end GoMap
