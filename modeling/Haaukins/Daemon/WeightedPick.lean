import Haaukins.Daemon.Net
import Haaukins.Lib.GoMap
import Haaukins.Virtual.SubnetPool
import Mathlib.Algebra.Order.BigOperators.Group.List

/-!
# `Haaukins.Daemon.WeightedPick`: how often a key is picked (`daemon/net.go`)

`randomPickWeighted` is there twice, in the daemon and in the package of Docker
(`virtual/docker/docker.go`). Both subtract the weights from a random number `r` below their sum
until nothing is left, and compare with `r <= 0`. Since `r` begins at 0, the key that the loop
visits first gets one number more than its weight, and some key after it one less.

`RespectsWeights` says that each key is picked for as many numbers as its weight. It holds exactly
when the first key has the whole weight (`randomPickWeighted_respects_iff`).
-/

set_option autoImplicit false

namespace Haaukins.Daemon

open WeightedPool (pick)

/-- A map of weights that are not negative and not all zero. The order of its entries is the one in
which the loops visit it. -/
structure WeightMap where
  weights : GoMap String Int
  nonneg : ∀ k w, weights.get? k = some w → 0 ≤ w
  total_pos : 0 < WeightedPool.totalWeight weights.pairs

namespace WeightMap

variable (m : WeightMap)

/-- The weight of a key. A key that is not in the map has none. -/
def weight (k : String) : Int := (m.weights.get? k).getD 0

/-- The sum of the weights. -/
def total : Nat := (WeightedPool.totalWeight m.weights.pairs).toNat

/-- The number of values of `rand.Intn(totalWeight)` for which this function returns `k`. -/
def timesPicked (randomPick : List (String × Int) → Int → String) (k : String) : Nat :=
  ((Finset.range m.total).filter fun r : Nat => randomPick m.weights.pairs r = k).card

/-- Each text is returned for as many random values as its weight. -/
def RespectsWeights (randomPick : List (String × Int) → Int → String) : Prop :=
  ∀ k, (m.timesPicked randomPick k : Int) = m.weight k

/-- The key that the loop visits first has the whole weight. -/
def FirstHasAll : Prop := ∀ kw ∈ m.weights.pairs.tail, kw.2 = 0

/-! ### The first key -/

/-- The total is the sum of the weights. -/
theorem total_eq : (m.total : Int) = WeightedPool.totalWeight m.weights.pairs :=
  Int.toNat_of_nonneg m.total_pos.le

/-- There is a first key, and the rest of the weight is the one of the other keys. -/
theorem exists_first :
    ∃ (k : String) (w : Nat) (rest : List (String × Int)),
      m.weights.pairs = (k, (w : Int)) :: rest ∧ k ∉ rest.map Prod.fst ∧
        (∀ kw ∈ rest, 0 ≤ kw.2) ∧ (m.total : Int) = w + (rest.map Prod.snd).sum := by
  have htotal := m.total_eq
  have hpos := m.total_pos
  have hkeys := m.weights.nodup_map_pairs
  have hnonneg : ∀ kw ∈ m.weights.pairs, 0 ≤ kw.2 := fun kw hkw =>
    m.nonneg kw.1 kw.2 (GoMap.mem_pairs.mp hkw)
  cases hpairs : m.weights.pairs with
  | nil =>
    rw [hpairs] at hpos
    exact absurd hpos (by decide)
  | cons kw rest =>
    rw [hpairs] at hkeys hnonneg htotal
    obtain ⟨w, hw⟩ := Int.eq_ofNat_of_zero_le (hnonneg kw List.mem_cons_self)
    refine ⟨kw.1, w, rest, ?_, (List.nodup_cons.mp hkeys).1,
      fun kw' hkw' => hnonneg kw' (List.mem_cons_of_mem kw hkw'), ?_⟩
    · rw [← hw]
    · rw [htotal, ← hw]
      rfl

variable {m} {randomPick : List (String × Int) → Int → String}

/-- Below the sum of the weights some key is chosen, so the empty text is never returned instead
of one. -/
theorem timesPicked_eq (hpick : ∀ ws r, randomPick ws r = (pick ws r).getD "") (k : String) :
    m.timesPicked randomPick k =
      ((Finset.range m.total).filter fun r : Nat => pick m.weights.pairs r = some k).card := by
  unfold timesPicked
  congr 1
  refine Finset.filter_congr fun r hr => ?_
  have hlt : (r : Int) < WeightedPool.totalWeight m.weights.pairs := by
    rw [← m.total_eq]
    exact Int.ofNat_lt.mpr (Finset.mem_range.mp hr)
  obtain ⟨k', hk'⟩ := Option.isSome_iff_exists.mp
    (WeightedPool.pick_isSome (Int.natCast_nonneg r) hlt)
  rw [hpick, hk', Option.getD_some, Option.some.injEq]

/-- The first key is picked once more than its weight says, unless it has the whole weight. -/
theorem timesPicked_first (hpick : ∀ ws r, randomPick ws r = (pick ws r).getD "") {k : String}
    {w : Nat} {rest : List (String × Int)} (hpairs : m.weights.pairs = (k, (w : Int)) :: rest)
    (hk : k ∉ rest.map Prod.fst) : m.timesPicked randomPick k = min (w + 1) m.total := by
  rw [timesPicked_eq hpick, hpairs, WeightedPool.card_pick_first hk]

/-- When the first key has all of the weight, it is chosen for all numbers. -/
theorem timesPicked_other (hpick : ∀ ws r, randomPick ws r = (pick ws r).getD "") {k k' : String}
    {w : Nat} {rest : List (String × Int)} (hpairs : m.weights.pairs = (k, (w : Int)) :: rest)
    (hk : k ∉ rest.map Prod.fst) (htotal : m.total ≤ w) (hne : k' ≠ k) :
    m.timesPicked randomPick k' = 0 := by
  rw [timesPicked_eq hpick, Finset.card_eq_zero, Finset.filter_eq_empty_iff]
  intro r hr hpicked
  have hchosen : pick m.weights.pairs r = some k := by
    rw [hpairs, WeightedPool.pick_first_iff hk]
    have := Finset.mem_range.mp hr
    omega
  rw [hpicked, Option.some.injEq] at hchosen
  exact hne hchosen

/-- With all weight on the first key the others have none. -/
theorem weight_other {k k' : String} {w : Int} {rest : List (String × Int)}
    (hpairs : m.weights.pairs = (k, w) :: rest) (hzero : ∀ kw ∈ rest, kw.2 = 0) (hne : k' ≠ k) :
    m.weight k' = 0 := by
  unfold weight
  cases hget : m.weights.get? k' with
  | none => rfl
  | some w' =>
    have hmem := GoMap.mem_pairs.mpr hget
    rw [hpairs] at hmem
    rcases List.mem_cons.mp hmem with hsame | hmem
    · exact absurd (congrArg Prod.fst hsame) hne
    · exact hzero _ hmem

/-- The pick respects the weights if and only if the first key has all of them. -/
theorem respectsWeights_iff (hpick : ∀ ws r, randomPick ws r = (pick ws r).getD "") :
    m.RespectsWeights randomPick ↔ m.FirstHasAll := by
  obtain ⟨k, w, rest, hpairs, hk, hnonneg, htotal⟩ := m.exists_first
  have hfirst := timesPicked_first hpick hpairs hk
  have hweight : m.weight k = w := by
    have hget : m.weights.get? k = some (w : Int) :=
      GoMap.mem_pairs.mp (hpairs ▸ List.mem_cons_self)
    rw [weight, hget, Option.getD_some]
  have htail : m.weights.pairs.tail = rest := by rw [hpairs, List.tail_cons]
  unfold FirstHasAll
  rw [htail]
  constructor
  · intro h kw hkw
    have hcount := h k
    rw [hfirst, hweight] at hcount
    have hle : kw.2 ≤ (rest.map Prod.snd).sum := by
      refine List.single_le_sum (fun v hv => ?_) _ (List.mem_map_of_mem hkw)
      obtain ⟨kw', hkw', rfl⟩ := List.mem_map.mp hv
      exact hnonneg kw' hkw'
    have := hnonneg kw hkw
    omega
  · intro h k'
    have hsum : (rest.map Prod.snd).sum = 0 := by
      refine List.sum_eq_zero fun v hv => ?_
      obtain ⟨kw, hkw, rfl⟩ := List.mem_map.mp hv
      exact h kw hkw
    by_cases heq : k' = k
    · rw [heq, hfirst, hweight]
      omega
    · rw [timesPicked_other hpick hpairs hk (by omega) heq, weight_other hpairs h heq]
      rfl

end WeightMap

/-- Both functions respect the weights exactly when the key that their loop visits first has the
whole weight. -/
theorem randomPickWeighted_respects_iff (m : WeightMap) :
    (m.RespectsWeights randomPickWeighted ↔ m.FirstHasAll) ∧
      (m.RespectsWeights Virtual.randomPickWeighted ↔ m.FirstHasAll) :=
  ⟨WeightMap.respectsWeights_iff randomPickWeighted_eq,
    WeightMap.respectsWeights_iff fun _ _ => rfl⟩

/-- The weights of a new pool, in the order in which `35` comes first. -/
def newPoolWeights : WeightMap where
  weights := ((∅ : GoMap String Int).set "25" (255 * 255)).set "35" (1 * 255)
  nonneg := by
    intro k w hw
    rw [GoMap.get?_set, GoMap.get?_set] at hw
    split at hw
    · cases hw
      decide
    · split at hw
      · cases hw
        decide
      · cases hw
  total_pos := by decide

/-- `35` has the weight 255 and is returned for 256 of the 65280 random values. -/
theorem newPoolWeights_not_respected :
    newPoolWeights.weight "35" = 255 ∧
      newPoolWeights.timesPicked randomPickWeighted "35" = 256 ∧
      ¬ newPoolWeights.RespectsWeights randomPickWeighted := by
  have hpairs : newPoolWeights.weights.pairs = [("35", ((255 : Nat) : Int)), ("25", 65025)] := by
    decide
  have hcount : newPoolWeights.timesPicked randomPickWeighted "35" = 256 := by
    rw [WeightMap.timesPicked_first randomPickWeighted_eq hpairs (by decide)]
    decide
  have hweight : newPoolWeights.weight "35" = 255 := by decide
  refine ⟨hweight, hcount, fun h => ?_⟩
  have heq := h "35"
  rw [hcount, hweight] at heq
  exact absurd heq (by decide)

end Haaukins.Daemon
