import Haaukins.Daemon.Net
import Haaukins.Lib.IPv4
import Haaukins.Lib.Machine

/-!
# `Haaukins.Daemon.VPNPool`: calls of the pool of VPN addresses (`daemon/net.go`)

A run of the pool is a list of calls of `Get` and `ReleaseIP`. `SafeGet` says that the loop of the
next `Get` has an exit, and that a prefix which it returns is new and is not the prefix of an
address of the host.

There are 510 prefixes, and the limit of the pool is 60000 entries. The entries for the host have
three octets and the prefixes have two, so no entry for the host hides a prefix. `vpnPool_safe_iff`
gives the runs in which each `Get` is safe all the same, and `vpnPool_exhausted` is the run after
which no `Get` returns.
-/

set_option autoImplicit false

namespace Haaukins.Daemon

/-- The state of a run: the pool, and the prefixes that were handed out and not released. -/
structure PoolRun where
  pool : IPPool
  handed : Finset String

/-- A call of the pool. A call of `Get` has the draws of its loop. -/
inductive PoolCall where
  | get (draws : List Draw)
  | releaseIP (ip : String)

/-- The pool of a host before the first call. -/
def PoolRun.new (addrs : List IPv4) : PoolRun :=
  { pool := newIPPoolFromHost (addrs.map IPv4.parts), handed := ∅ }

/-- The pool and its calls. -/
def vpnPool : Machine PoolRun PoolCall where
  init s := ∃ addrs, s = .new addrs
  step
    | s, .get draws =>
      if ∀ d ∈ draws, d.Possible s.pool.weights then
        match s.pool.get draws with
        | none => none
        | some (.error _, pool) => some { s with pool }
        | some (.ok ip, pool) => some { pool, handed := insert ip s.handed }
      else none
    | s, .releaseIP ip => some { pool := s.pool.releaseIP ip, handed := s.handed.erase ip }

/-- A `Get` in this state fails with the error or has an exit, and a prefix that it returns is new
and is not that of an address of the host. -/
structure PoolRun.SafeGet (addrs : List IPv4) (s : PoolRun) : Prop where
  exit : (∀ draws, s.pool.get draws = some (.error noAvailableIPsErr, s.pool)) ∨
    ∃ d : Draw, d.Possible s.pool.weights ∧ d.genIP ∉ s.pool.ips
  fresh : ∀ draws ip pool, (∀ d ∈ draws, d.Possible s.pool.weights) →
    s.pool.get draws = some (.ok ip, pool) → ip ∉ s.handed
  host : ∀ draws ip pool, (∀ d ∈ draws, d.Possible s.pool.weights) →
    s.pool.get draws = some (.ok ip, pool) → ∀ addr ∈ addrs, ip ≠ addr.firstTwo

/-- The addresses of the host with this first octet. -/
def hostsAt (addrs : List IPv4) (octet : Nat) : Nat :=
  addrs.countP fun addr => addr.first.toNat = octet

/-- The addresses of the host leave a weight for the range and for the pool. -/
def Drawable (addrs : List IPv4) (octet : Nat) : Prop :=
  hostsAt addrs 25 + hostsAt addrs 35 < 256 * 255 ∧
    (octet = 25 ∧ hostsAt addrs 25 ≤ 255 * 255 ∨ octet = 35 ∧ hostsAt addrs 35 ≤ 255)

/-- The prefixes of a range. -/
def rangeIPs (octet : Nat) : Finset String :=
  (Finset.range 255).image fun n => dotted [octet, n]

/-- The pool is full, or a range has room, and the host has no address in what is left of the
ranges. -/
structure PoolRun.Fits (addrs : List IPv4) (s : PoolRun) : Prop where
  room : s.pool.ips.card ≤ 60000 →
    ∃ octet, Drawable addrs octet ∧ (s.handed ∩ rangeIPs octet).card < 255
  host : s.pool.ips.card ≤ 60000 → ∀ addr ∈ addrs, Drawable addrs addr.first.toNat →
    addr.second.toNat < 255 → addr.firstTwo ∈ s.handed

/-! ### The pool as a weighted pool -/

/-- The pool with the taken prefixes of `ips`. -/
def IPPool.weighted (p : IPPool) : WeightedPool String String :=
  { taken := p.ips, weights := p.weights }

/-- An address of the host reserves its prefix in the weighted pool. -/
theorem weighted_addHostAddr (p : IPPool) (addr : IPv4) :
    (p.addHostAddr addr.parts).weighted =
      p.weighted.reserve (addr.first.toNat.repr, addr.firstThree) := by
  have hkey : addr.firstThree = addr.parts.1 ++ "." ++ addr.parts.2.1 ++ "." ++
      addr.parts.2.2.1 := dotted_three _ _ _
  rw [IPPool.addHostAddr, WeightedPool.reserve, hkey]
  by_cases hrange : addr.parts.1 ∈ p.weights.map Prod.fst
  · exact (congrArg IPPool.weighted (if_pos hrange)).trans (if_pos hrange).symm
  · exact (congrArg IPPool.weighted (if_neg hrange)).trans (if_neg hrange).symm

/-- The pool of the host, as a weighted pool. -/
theorem weighted_newIPPoolFromHost (addrs : List IPv4) :
    (newIPPoolFromHost (addrs.map IPv4.parts)).weighted =
      (addrs.map fun addr => (addr.first.toNat.repr, addr.firstThree)).foldl
        WeightedPool.reserve { taken := ∅, weights := [("35", 1 * 255), ("25", 255 * 255)] } := by
  rw [newIPPoolFromHost, List.foldl_map, List.foldl_map]
  exact (List.foldl_hom IPPool.weighted fun p addr => (weighted_addHostAddr p addr).symm).symm

/-- `Get` is the search of the weighted pool. -/
theorem get_eq_draw (p : IPPool) (draws : List Draw) :
    p.get draws = (p.weighted.draw 60000 noAvailableIPsErr (draws.map Draw.genIP)).map
      fun result => (result.1, { ips := result.2.taken, weights := result.2.weights }) := by
  rw [IPPool.get, WeightedPool.draw, List.find?_map]
  by_cases hfull : 60000 < p.ips.card
  · rw [if_pos hfull, if_pos (show 60000 < p.weighted.taken.card from hfull)]
    rfl
  · rw [if_neg hfull, if_neg (show ¬ 60000 < p.weighted.taken.card from hfull)]
    have hfind : draws.find? (fun d => d.genIP ∉ p.ips) =
        draws.find? ((fun ip => ip ∉ p.weighted.taken) ∘ Draw.genIP) := rfl
    rw [hfind]
    cases draws.find? ((fun ip => ip ∉ p.weighted.taken) ∘ Draw.genIP) <;> rfl

section
variable {p q : IPPool} {draws : List Draw} {ip : String}

/-- Past the limit `Get` returns its error. -/
theorem get_full (h : 60000 < p.ips.card) : p.get draws = some (.error noAvailableIPsErr, p) :=
  if_pos h

/-- What `Get` returns was drawn, was free, and is taken afterwards. -/
theorem get_ok (h : p.get draws = some (.ok ip, q)) :
    p.ips.card ≤ 60000 ∧ (∃ d ∈ draws, d.genIP = ip) ∧ ip ∉ p.ips ∧
      q = { p with ips := insert ip p.ips } := by
  rw [get_eq_draw] at h
  obtain ⟨result, hdraw, hsame⟩ := Option.map_eq_some_iff.mp h
  obtain ⟨r, pool⟩ := result
  cases hsame
  obtain ⟨hlimit, hmem, hfree, rfl⟩ := WeightedPool.draw_ok hdraw
  exact ⟨hlimit, List.mem_map.mp hmem, hfree, rfl⟩

/-- An error changes nothing. -/
theorem get_error {err : String} (h : p.get draws = some (.error err, q)) : q = p := by
  rw [get_eq_draw] at h
  obtain ⟨result, hdraw, hsame⟩ := Option.map_eq_some_iff.mp h
  obtain ⟨r, pool⟩ := result
  cases hsame
  obtain ⟨-, -, rfl⟩ := WeightedPool.draw_error hdraw
  rfl

/-- The first draw of a free prefix is taken. -/
theorem get_singleton {d : Draw} (hlimit : p.ips.card ≤ 60000) (hfree : d.genIP ∉ p.ips) :
    p.get [d] = some (.ok d.genIP, { p with ips := insert d.genIP p.ips }) := by
  have hdraw : p.weighted.draw 60000 noAvailableIPsErr [d.genIP] =
      some (.ok d.genIP, { p.weighted with taken := insert d.genIP p.ips }) :=
    WeightedPool.draw_cons hlimit hfree
  rw [get_eq_draw, List.map_singleton, hdraw]
  rfl

/-- While each draw is taken, the loop goes on. -/
theorem get_eq_none (hlimit : p.ips.card ≤ 60000) (htaken : ∀ d ∈ draws, d.genIP ∈ p.ips) :
    p.get draws = none := by
  have hdraw : p.weighted.draw 60000 noAvailableIPsErr (draws.map Draw.genIP) = none := by
    refine WeightedPool.draw_eq_none hlimit fun ip hip => ?_
    obtain ⟨d, hd, rfl⟩ := List.mem_map.mp hip
    exact htaken d hd
  rw [get_eq_draw, hdraw]
  rfl

end

/-! ### What can be drawn -/

/-- The key `25` is the octet 25. -/
theorem repr_eq_25_iff {octet : Nat} : octet.repr = "25" ↔ octet = 25 :=
  ⟨fun h => Nat.repr_injective (h.trans rfl), fun h => h ▸ rfl⟩

/-- The key `35` is the octet 35. -/
theorem repr_eq_35_iff {octet : Nat} : octet.repr = "35" ↔ octet = 35 :=
  ⟨fun h => Nat.repr_injective (h.trans rfl), fun h => h ▸ rfl⟩

/-- The keys of the host's addresses are counted by their first octets. -/
theorem count_first (addrs : List IPv4) (octet : Nat) :
    (addrs.map fun addr => addr.first.toNat.repr).count octet.repr = hostsAt addrs octet := by
  rw [List.count, List.countP_map, hostsAt]
  refine List.countP_congr fun addr _ => ?_
  simp [Nat.repr_inj]

/-- The addresses of the host lower the weights. -/
theorem weights_newIPPoolFromHost (addrs : List IPv4) :
    (newIPPoolFromHost (addrs.map IPv4.parts)).weights =
      [("35", 255 - (hostsAt addrs 35 : Int)), ("25", 255 * 255 - (hostsAt addrs 25 : Int))] := by
  have hweights : (newIPPoolFromHost (addrs.map IPv4.parts)).weights =
      (newIPPoolFromHost (addrs.map IPv4.parts)).weighted.weights := rfl
  rw [hweights, weighted_newIPPoolFromHost, WeightedPool.weights_reserveAll, List.map_map,
    ← count_first addrs 25, ← count_first addrs 35]
  rfl

/-- A range can be chosen exactly when the host leaves it a weight. -/
theorem picks_iff_drawable {addrs : List IPv4} {octet : Nat} :
    WeightedPool.Picks (newIPPoolFromHost (addrs.map IPv4.parts)).weights octet.repr ↔
      Drawable addrs octet := by
  rw [WeightedPool.picks_iff, weights_newIPPoolFromHost, Drawable]
  simp only [WeightedPool.totalWeight, List.map_cons, List.map_nil, List.sum_cons, List.sum_nil,
    List.mem_cons, List.not_mem_nil, or_false, Prod.mk.injEq, repr_eq_25_iff, repr_eq_35_iff]
  refine and_congr (by omega) ?_
  constructor
  · rintro ⟨w, ⟨rfl, rfl⟩ | ⟨rfl, rfl⟩, hw⟩
    · exact .inr ⟨rfl, by omega⟩
    · exact .inl ⟨rfl, by omega⟩
  · rintro (⟨rfl, hle⟩ | ⟨rfl, hle⟩)
    · exact ⟨_, .inr ⟨rfl, rfl⟩, by omega⟩
    · exact ⟨_, .inl ⟨rfl, rfl⟩, by omega⟩

/-- `genIP` puts the drawn number behind one of the two keys. -/
theorem genIP_of_key {d : Draw} {octet : Nat} (hoctet : octet = 25 ∨ octet = 35)
    (h : randomPickWeighted d.order d.r = octet.repr) : d.genIP = dotted [octet, d.n] := by
  rw [dotted_two, ← h]
  unfold Draw.genIP
  -- The text of the octet is the key that the `switch` compares.
  rcases hoctet with rfl | rfl
  · rw [h]
    exact if_pos rfl
  · rw [h]
    exact if_neg (by decide)

/-- The prefixes that the loop of `Get` can draw. -/
theorem exists_draw_iff {addrs : List IPv4} {ip : String} :
    (∃ d : Draw, d.Possible (newIPPoolFromHost (addrs.map IPv4.parts)).weights ∧ d.genIP = ip) ↔
      ∃ octet n, Drawable addrs octet ∧ n < 255 ∧ ip = dotted [octet, n] := by
  constructor
  · rintro ⟨d, ⟨horder, hr, hlt, hn⟩, rfl⟩
    obtain ⟨k, hk, hpicks⟩ := WeightedPool.exists_pick horder hr hlt
    have hkey : randomPickWeighted d.order d.r = k := by rw [randomPickWeighted_eq, hk]; rfl
    obtain ⟨octet, hoctet, rfl⟩ : ∃ octet, (octet = 25 ∨ octet = 35) ∧ k = octet.repr := by
      obtain ⟨-, w, hmem, -⟩ := WeightedPool.picks_iff.mp hpicks
      have hrange := (newIPPoolFromHost_spec (addrs.map IPv4.parts)).1 k
        (List.mem_map_of_mem hmem)
      exact hrange.elim (fun h => ⟨25, .inl rfl, h⟩) fun h => ⟨35, .inr rfl, h⟩
    exact ⟨octet, d.n, picks_iff_drawable.mp hpicks, hn, genIP_of_key hoctet hkey⟩
  · rintro ⟨octet, n, hdrawable, hn, rfl⟩
    obtain ⟨order, r, horder, hr, hlt, hpick⟩ := picks_iff_drawable.mpr hdrawable
    obtain ⟨d, hd⟩ : ∃ d : Draw, d = { order, r, n } := ⟨_, rfl⟩
    refine ⟨d, ⟨hd ▸ horder, hd ▸ hr, hd ▸ hlt, hd ▸ hn⟩, ?_⟩
    have hkey : randomPickWeighted d.order d.r = octet.repr := by
      rw [hd, randomPickWeighted_eq, hpick]
      rfl
    have hoctet : octet = 25 ∨ octet = 35 := hdrawable.2.imp And.left And.left
    rw [genIP_of_key hoctet hkey, hd]

/-! ### The prefixes of the ranges -/

/-- The prefixes of a key. -/
theorem mem_rangeIPs {octet : Nat} {ip : String} :
    ip ∈ rangeIPs octet ↔ ∃ n, n < 255 ∧ dotted [octet, n] = ip := by
  simp [rangeIPs]

/-- There are 255 prefixes of a key. -/
theorem card_rangeIPs (octet : Nat) : (rangeIPs octet).card = 255 := by
  have hinj : Function.Injective fun n : Nat => dotted [octet, n] := by
    intro m n h
    simpa using dotted_injective (by simp) (by simp) h
  rw [rangeIPs, Finset.card_image_of_injective _ hinj, Finset.card_range]

/-- A range has room exactly when one of its prefixes is left. -/
theorem card_inter_rangeIPs_lt_iff {handed : Finset String} {octet : Nat} :
    (handed ∩ rangeIPs octet).card < 255 ↔ ∃ n, n < 255 ∧ dotted [octet, n] ∉ handed := by
  constructor
  · intro hlt
    obtain ⟨ip, hip, hnot⟩ := Finset.exists_mem_notMem_of_card_lt_card
      (hlt.trans_eq (card_rangeIPs octet).symm)
    obtain ⟨n, hn, rfl⟩ := mem_rangeIPs.mp hip
    exact ⟨n, hn, fun hmem => hnot (Finset.mem_inter.mpr ⟨hmem, hip⟩)⟩
  · rintro ⟨n, hn, hnot⟩
    have hmem : dotted [octet, n] ∈ rangeIPs octet := mem_rangeIPs.mpr ⟨n, hn, rfl⟩
    have hstrict : handed ∩ rangeIPs octet ⊂ rangeIPs octet :=
      Finset.ssubset_iff_subset_ne.mpr ⟨Finset.inter_subset_right, fun heq =>
        hnot (Finset.mem_inter.mp (heq.symm ▸ hmem)).1⟩
    exact (Finset.card_lt_card hstrict).trans_eq (card_rangeIPs octet)

/-- The prefixes of `Get` are those of the two ranges. -/
theorem vpnIPs_eq : vpnIPs = rangeIPs 25 ∪ rangeIPs 35 := by
  have hrange : ∀ octet : Nat, (fun n => octet.repr ++ "." ++ toString n) =
      fun n : Nat => dotted [octet, n] := fun octet => funext fun n => (dotted_two octet n).symm
  rw [vpnIPs, rangeIPs, rangeIPs, ← hrange 25, ← hrange 35]
  rfl

/-- What can be drawn is a prefix of the VPN. -/
theorem Drawable.mem_vpnIPs {addrs : List IPv4} {octet n : Nat} (h : Drawable addrs octet)
    (hn : n < 255) : dotted [octet, n] ∈ vpnIPs := by
  rw [vpnIPs_eq, Finset.mem_union, mem_rangeIPs, mem_rangeIPs]
  rcases h.2 with ⟨rfl, -⟩ | ⟨rfl, -⟩
  · exact .inl ⟨n, hn, rfl⟩
  · exact .inr ⟨n, hn, rfl⟩

/-- The entries for the host hide no prefix. -/
theorem notMem_newIPPoolFromHost (addrs : List IPv4) {ip : String} (h : ip ∈ vpnIPs) :
    ip ∉ (newIPPoolFromHost (addrs.map IPv4.parts)).ips := by
  have hips : (newIPPoolFromHost (addrs.map IPv4.parts)).ips =
      (newIPPoolFromHost (addrs.map IPv4.parts)).weighted.taken := rfl
  rw [hips, weighted_newIPPoolFromHost, WeightedPool.mem_taken_reserveAll]
  rintro (hempty | ⟨kv, hkv, -, rfl⟩)
  · exact absurd hempty (Finset.notMem_empty ip)
  · obtain ⟨addr, -, rfl⟩ := List.mem_map.mp hkv
    -- Three octets are no text of two.
    rw [vpnIPs_eq, Finset.mem_union, mem_rangeIPs, mem_rangeIPs] at h
    rcases h with ⟨n, -, htext⟩ | ⟨n, -, htext⟩
    · exact IPv4.dotted_two_ne_firstThree 25 n addr htext
    · exact IPv4.dotted_two_ne_firstThree 35 n addr htext

/-! ### Runs -/

namespace PoolRun

/-- What holds in each state of a run: the prefixes that are out are those that the pool has. -/
structure Inv (addrs : List IPv4) (s : PoolRun) : Prop where
  weights : s.pool.weights = (newIPPoolFromHost (addrs.map IPv4.parts)).weights
  handed : ∀ ip, ip ∈ s.handed ↔ ip ∈ s.pool.ips ∧ ip ∈ vpnIPs

variable {addrs : List IPv4} {s t : PoolRun}

/-- A new pool has what the host has reserved. -/
theorem inv_new (addrs : List IPv4) : Inv addrs (.new addrs) where
  weights := rfl
  handed ip := by
    refine iff_of_false (Finset.notMem_empty ip) ?_
    rintro ⟨hmem, hip⟩
    exact notMem_newIPPoolFromHost addrs hip hmem

/-- The pool has the two keys, with their weights. -/
theorem Inv.ranges (hinv : Inv addrs s) : s.pool.Ranges := by
  rw [IPPool.Ranges, hinv.weights]
  exact (newIPPoolFromHost_spec (addrs.map IPv4.parts)).1

/-- What one call does to the pool and to the prefixes that are out. -/
theorem step_cases {call : PoolCall} (h : vpnPool.step s call = some t) :
    t = s ∨
      (∃ d : Draw, d.Possible s.pool.weights ∧ d.genIP ∉ s.pool.ips ∧
        t = { pool := { s.pool with ips := insert d.genIP s.pool.ips },
              handed := insert d.genIP s.handed }) ∨
      ∃ ip, t = { pool := s.pool.releaseIP ip, handed := s.handed.erase ip } := by
  cases call with
  | get draws =>
    dsimp only [vpnPool] at h
    split at h
    · next hpossible =>
      split at h
      · cases h
      · next err pool hget =>
        rw [get_error hget] at h
        cases h
        exact .inl rfl
      · next ip pool hget =>
        obtain ⟨-, ⟨d, hd, rfl⟩, hfree, rfl⟩ := get_ok hget
        cases h
        exact .inr (.inl ⟨d, hpossible d hd, hfree, rfl⟩)
    · cases h
  | releaseIP ip =>
    cases h
    exact .inr (.inr ⟨ip, rfl⟩)

/-- Each call keeps the invariant. -/
theorem Inv.step {call : PoolCall} (hinv : Inv addrs s) (h : vpnPool.step s call = some t) :
    Inv addrs t := by
  rcases step_cases h with rfl | ⟨d, hpossible, -, rfl⟩ | ⟨ip, rfl⟩
  · exact hinv
  · refine ⟨hinv.weights, fun ip => ?_⟩
    have hip : d.genIP ∈ vpnIPs := Draw.genIP_mem hinv.ranges hpossible
    rw [Finset.mem_insert, Finset.mem_insert, hinv.handed ip]
    constructor
    · rintro (rfl | ⟨hmem, hvpn⟩)
      · exact ⟨.inl rfl, hip⟩
      · exact ⟨.inr hmem, hvpn⟩
    · rintro ⟨rfl | hmem, hvpn⟩
      · exact .inl rfl
      · exact .inr ⟨hmem, hvpn⟩
  · refine ⟨hinv.weights, fun ip' => ?_⟩
    rw [Finset.mem_erase, IPPool.releaseIP, Finset.mem_erase, hinv.handed ip', and_assoc]

/-- The prefixes that are left are those that a draw can find. -/
theorem Inv.exists_free_iff (hinv : Inv addrs s) :
    (∃ d : Draw, d.Possible s.pool.weights ∧ d.genIP ∉ s.pool.ips) ↔
      ∃ octet n, Drawable addrs octet ∧ n < 255 ∧ dotted [octet, n] ∉ s.handed := by
  rw [hinv.weights]
  constructor
  · rintro ⟨d, hpossible, hfree⟩
    obtain ⟨octet, n, hdrawable, hn, hip⟩ := exists_draw_iff.mp ⟨d, hpossible, rfl⟩
    rw [hip] at hfree
    exact ⟨octet, n, hdrawable, hn, fun hmem => hfree ((hinv.handed _).mp hmem).1⟩
  · rintro ⟨octet, n, hdrawable, hn, hnot⟩
    obtain ⟨d, hpossible, hip⟩ := exists_draw_iff.mpr ⟨octet, n, hdrawable, hn, rfl⟩
    rw [← hip] at hnot
    refine ⟨d, hpossible, fun hmem => hnot ((hinv.handed _).mpr ⟨hmem, ?_⟩)⟩
    rw [hip]
    exact hdrawable.mem_vpnIPs hn

/-- A `Get` has an exit exactly when the pool is full or a range has room. -/
theorem Inv.exit_iff (hinv : Inv addrs s) :
    ((∀ draws, s.pool.get draws = some (.error noAvailableIPsErr, s.pool)) ∨
        ∃ d : Draw, d.Possible s.pool.weights ∧ d.genIP ∉ s.pool.ips) ↔
      (s.pool.ips.card ≤ 60000 →
        ∃ octet, Drawable addrs octet ∧ (s.handed ∩ rangeIPs octet).card < 255) := by
  have hroom : (∃ d : Draw, d.Possible s.pool.weights ∧ d.genIP ∉ s.pool.ips) ↔
      ∃ octet, Drawable addrs octet ∧ (s.handed ∩ rangeIPs octet).card < 255 := by
    simp only [hinv.exists_free_iff, card_inter_rangeIPs_lt_iff, exists_and_left]
  rw [hroom]
  rcases Nat.lt_or_ge 60000 s.pool.ips.card with hfull | hlimit
  · exact iff_of_true (.inl fun _ => get_full hfull) fun hle => absurd hfull (not_lt.mpr hle)
  · rw [imp_iff_right hlimit, or_iff_right]
    intro hfails
    have hnone : s.pool.get [] = none := get_eq_none hlimit (by simp)
    rw [hfails []] at hnone
    cases hnone

/-- A `Get` returns no prefix of the host exactly when it is full or the host has no address in
what is left of the ranges. -/
theorem Inv.host_iff (hinv : Inv addrs s) :
    (∀ draws ip pool, (∀ d ∈ draws, d.Possible s.pool.weights) →
        s.pool.get draws = some (.ok ip, pool) → ∀ addr ∈ addrs, ip ≠ addr.firstTwo) ↔
      (s.pool.ips.card ≤ 60000 → ∀ addr ∈ addrs, Drawable addrs addr.first.toNat →
        addr.second.toNat < 255 → addr.firstTwo ∈ s.handed) := by
  constructor
  · intro hget hlimit addr haddr hdrawable hsecond
    by_contra hnot
    -- The prefix is free and in a range, so the next call can draw it.
    obtain ⟨d, hpossible, hdraw⟩ := exists_draw_iff.mpr ⟨_, _, hdrawable, hsecond, rfl⟩
    have hip : d.genIP = addr.firstTwo := hdraw
    have hfree : d.genIP ∉ s.pool.ips := by
      intro hmem
      refine hnot ((hinv.handed _).mpr ⟨hip ▸ hmem, hdrawable.mem_vpnIPs hsecond⟩)
    refine hget [d] d.genIP _ ?_ (get_singleton hlimit hfree) addr haddr hip
    intro d' hd'
    rw [List.mem_singleton.mp hd', hinv.weights]
    exact hpossible
  · rintro hleft draws ip pool hpossible hget addr haddr rfl
    -- What was drawn was not out, but the prefix of this address is.
    obtain ⟨hlimit, ⟨d, hd, hip⟩, hfree, -⟩ := get_ok hget
    have hdraw := hpossible d hd
    rw [hinv.weights] at hdraw
    obtain ⟨octet, n, hdrawable, hn, htext⟩ := exists_draw_iff.mp ⟨d, hdraw, hip⟩
    obtain ⟨rfl, rfl⟩ := IPv4.firstTwo_eq_iff.mp htext.symm
    exact hfree ((hinv.handed _).mp (hleft hlimit addr haddr hdrawable hn)).1

/-- The condition on a state is exact. -/
theorem Inv.safeGet_iff (hinv : Inv addrs s) : s.SafeGet addrs ↔ s.Fits addrs := by
  constructor
  · intro hsafe
    exact ⟨hinv.exit_iff.mp hsafe.exit, hinv.host_iff.mp hsafe.host⟩
  · intro hfits
    refine ⟨hinv.exit_iff.mpr hfits.room, fun draws ip pool _ hget hmem => ?_,
      hinv.host_iff.mpr hfits.host⟩
    obtain ⟨-, -, hfree, -⟩ := get_ok hget
    exact hfree ((hinv.handed ip).mp hmem).1

/-- A call that draws a free prefix at once. -/
theorem step_get_singleton {d : Draw} (hpossible : d.Possible s.pool.weights)
    (hlimit : s.pool.ips.card ≤ 60000) (hfree : d.genIP ∉ s.pool.ips) :
    vpnPool.step s (.get [d]) =
      some { pool := { s.pool with ips := insert d.genIP s.pool.ips },
             handed := insert d.genIP s.handed } := by
  have hall : ∀ d' ∈ [d], d'.Possible s.pool.weights := by
    intro d' hd'
    rwa [List.mem_singleton.mp hd']
  dsimp only [vpnPool]
  rw [if_pos hall, get_singleton hlimit hfree]

/-- Calls of `Get` can take each prefix of a list. -/
theorem Inv.exists_run (ips : List String)
    (hips : ∀ ip ∈ ips, ∃ octet n, Drawable addrs octet ∧ n < 255 ∧ ip = dotted [octet, n])
    (hinv : Inv addrs s) (hlimit : s.pool.ips.card + ips.length ≤ 60000) :
    ∃ calls t, vpnPool.run s calls = some t ∧ Inv addrs t ∧ s.pool.ips ⊆ t.pool.ips ∧
      (∀ ip ∈ ips, ip ∈ t.pool.ips) ∧ t.pool.ips.card ≤ s.pool.ips.card + ips.length := by
  induction ips generalizing s with
  | nil => exact ⟨[], s, rfl, hinv, fun _ hip => hip, by simp, by simp⟩
  | cons ip ips ih =>
    rw [List.length_cons] at hlimit ⊢
    have hrest : ∀ ip' ∈ ips, ∃ octet n, Drawable addrs octet ∧ n < 255 ∧
        ip' = dotted [octet, n] := fun ip' hip' => hips ip' (List.mem_cons_of_mem ip hip')
    by_cases hmem : ip ∈ s.pool.ips
    -- A taken prefix needs no call.
    · obtain ⟨calls, t, hrun, hinvt, hsub, hall, hcard⟩ := ih hrest hinv (by omega)
      exact ⟨calls, t, hrun, hinvt, hsub, List.forall_mem_cons.mpr ⟨hsub hmem, hall⟩, by omega⟩
    · obtain ⟨d, hpossible, rfl⟩ := exists_draw_iff.mpr (hips ip List.mem_cons_self)
      have hstep := step_get_singleton (hinv.weights ▸ hpossible) (by omega) hmem
      have hcard : (insert d.genIP s.pool.ips).card ≤ s.pool.ips.card + 1 :=
        Finset.card_insert_le _ _
      obtain ⟨calls, t, hrun, hinvt, hsub, hall, hcardt⟩ :=
        ih hrest (hinv.step hstep) (by dsimp only; omega)
      dsimp only at hsub hcardt
      refine ⟨.get [d] :: calls, t, ?_, hinvt, ?_, ?_, by omega⟩
      · rw [Machine.run_cons, hstep]
        exact hrun
      · exact (Finset.subset_insert _ _).trans hsub
      · exact List.forall_mem_cons.mpr ⟨hsub (Finset.mem_insert_self _ _), hall⟩

end PoolRun

/-- The host has at most as many addresses at an octet as it has at all. -/
theorem hostsAt_le_length (addrs : List IPv4) (octet : Nat) : hostsAt addrs octet ≤ addrs.length :=
  List.countP_le_length

/-- With few addresses of the host there are calls of `Get` after which no `Get` returns. -/
theorem vpnPool_exhausted (addrs : List IPv4) (hfew : addrs.length ≤ 255) :
    ∃ calls s, vpnPool.run (.new addrs) calls = some s ∧
      ∀ draws, (∀ d ∈ draws, d.Possible s.pool.weights) → s.pool.get draws = none := by
  have h25 := hostsAt_le_length addrs 25
  have h35 := hostsAt_le_length addrs 35
  have hips : ∀ ip ∈ vpnIPs.toList, ∃ octet n, Drawable addrs octet ∧ n < 255 ∧
      ip = dotted [octet, n] := by
    intro ip hip
    rw [Finset.mem_toList, vpnIPs_eq, Finset.mem_union, mem_rangeIPs, mem_rangeIPs] at hip
    rcases hip with ⟨n, hn, rfl⟩ | ⟨n, hn, rfl⟩
    · exact ⟨25, n, ⟨by omega, .inl ⟨rfl, by omega⟩⟩, hn, rfl⟩
    · exact ⟨35, n, ⟨by omega, .inr ⟨rfl, by omega⟩⟩, hn, rfl⟩
  have hcard : (PoolRun.new addrs).pool.ips.card ≤ addrs.length := by
    have hle := (newIPPoolFromHost_spec (addrs.map IPv4.parts)).2
    rwa [List.length_map] at hle
  have hvpn : vpnIPs.toList.length ≤ 510 := by
    rw [Finset.length_toList]
    exact card_vpnIPs_le
  obtain ⟨calls, s, hrun, hinv, -, hall, hcards⟩ :=
    (PoolRun.inv_new addrs).exists_run vpnIPs.toList hips (by omega)
  refine ⟨calls, s, hrun, fun draws hpossible => get_eq_none (by omega) fun d hd => ?_⟩
  exact hall _ (Finset.mem_toList.mpr (Draw.genIP_mem hinv.ranges (hpossible d hd)))

/-- Along a run of the pool each `Get` is safe if and only if in each state the pool is full, or
fewer than 255 prefixes of a range are out that the host leaves a weight, and the prefix of each
address of the host in such a range is out. -/
theorem vpnPool_safe_iff (addrs : List IPv4) (calls : List PoolCall) :
    vpnPool.AllStates (PoolRun.SafeGet addrs) (.new addrs) calls ↔
      vpnPool.AllStates (PoolRun.Fits addrs) (.new addrs) calls :=
  Machine.allStates_congr_of_invariant (fun _ _ _ hinv hstep => PoolRun.Inv.step hinv hstep)
    (fun _ hinv => hinv.safeGet_iff) (PoolRun.inv_new addrs)

/-- A state in which no `Get` returns is not safe. -/
theorem PoolRun.not_safeGet_of_get_eq_none {addrs : List IPv4} {s : PoolRun}
    (hnone : ∀ draws, (∀ d ∈ draws, d.Possible s.pool.weights) → s.pool.get draws = none) :
    ¬ s.SafeGet addrs := by
  intro hsafe
  have hlimit : s.pool.ips.card ≤ 60000 := by
    by_contra hfull
    have hget := hnone [] (by simp)
    rw [get_full (not_le.mp hfull)] at hget
    cases hget
  rcases hsafe.exit with hfails | ⟨d, hpossible, hfree⟩
  · have hget := hnone [] (by simp)
    rw [hfails []] at hget
    cases hget
  · have hget := hnone [d] (by simpa using hpossible)
    rw [get_singleton hlimit hfree] at hget
    cases hget

/-- A host inside the range of 25. -/
def vpnHost : List IPv4 := [⟨25, 43, 7, 9⟩]

/-- The draw of this host's own prefix. -/
def vpnHostDraw : Draw where
  order := [("25", 65024), ("35", 255)]
  r := 7
  n := 43

/-- Without an address of the host there is a run after which `Get` does not return. A host with
the address 25.43.7.9 can get its own prefix in the first call. -/
theorem vpnPool_not_safe :
    (∃ calls, ¬ vpnPool.AllStates (PoolRun.SafeGet []) (.new []) calls) ∧
      ¬ vpnPool.AllStates (PoolRun.SafeGet vpnHost) (.new vpnHost) [] := by
  constructor
  · obtain ⟨calls, s, hrun, hnone⟩ := vpnPool_exhausted [] (by simp)
    refine ⟨calls, fun hsafe => ?_⟩
    exact PoolRun.not_safeGet_of_get_eq_none hnone
      (Machine.allStates_iff.mp hsafe calls s List.prefix_rfl hrun)
  · intro hsafe
    have hs : (PoolRun.new vpnHost).SafeGet vpnHost := hsafe
    exact hs.host [vpnHostDraw] vpnHostDraw.genIP _ (by decide)
      (get_singleton (by decide) (by decide)) ⟨25, 43, 7, 9⟩ (by decide) (by decide)

end Haaukins.Daemon
