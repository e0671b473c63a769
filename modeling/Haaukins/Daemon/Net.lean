import Mathlib.Data.Finset.Card
import Mathlib.Data.Finset.Image
import Mathlib.Data.Finset.Union
import Mathlib.Data.List.Perm.Basic
import Mathlib.Tactic.Linarith
import Haaukins.Lib.GoStrings
import Haaukins.Lib.WeightedPool

/-!
# `Haaukins.Daemon.Net`: the pool of VPN addresses (`daemon/net.go`)

`IPPool.Get` draws an address until it finds one that is not taken, and `ReleaseIP` gives it
back. An address is the text of the first two octets, such as `25.43`.

* The random choices are arguments. A `Draw` is one pass of the loop of `Get`: the order in
  which the loop of `randomPickWeighted` visits the weights, and the values of the two calls
  of `rand.Intn`. `Draw.Possible` says that the draw can occur.
* `newIPPoolFromHost` enters the addresses of the host's interfaces. They have three octets,
  so they never meet an address of `Get`; they only count towards its limit.
-/

set_option autoImplicit false

namespace Haaukins.Daemon

/-- `NoAvailableIPsErr`. -/
def noAvailableIPsErr : String := "no available VPN IPs"

/-- `IPPool`. The keys of `weights` are distinct. -/
structure IPPool where
  ips : Finset String
  weights : List (String × Int)

/-- The sum `totalWeight`. -/
def totalWeight (m : List (String × Int)) : Int := (m.map Prod.snd).sum

/-- The loop of `randomPickWeighted` over the weights in the given order, for `r`. -/
def randomPickWeighted : List (String × Int) → Int → String
  | [], _ => ""
  | (k, w) :: m, r => if r - w ≤ 0 then k else randomPickWeighted m (r - w)

/-- The random choices of one pass of the loop of `Get`. -/
structure Draw where
  order : List (String × Int)
  r : Int
  n : Nat

/-- `genIP` of `Get`. -/
def Draw.genIP (d : Draw) : String :=
  let ip := randomPickWeighted d.order d.r
  if ip = "25" then ip ++ "." ++ toString d.n
  else if ip = "35" then ip ++ "." ++ toString d.n
  else ip

/-- The draw can occur: `rand.Intn(k)` returns a number from `0` to `k-1`. -/
def Draw.Possible (weights : List (String × Int)) (d : Draw) : Prop :=
  d.order.Perm weights ∧ 0 ≤ d.r ∧ d.r < totalWeight weights ∧ d.n < 255

instance (weights : List (String × Int)) (d : Draw) : Decidable (d.Possible weights) :=
  inferInstanceAs (Decidable (_ ∧ _ ∧ _ ∧ _))

namespace IPPool

/-- `Get` when its loop makes these draws. It is `none` while the loop goes on. -/
def get (p : IPPool) (draws : List Draw) : Option (Except String String × IPPool) :=
  if 60000 < p.ips.card then some (.error noAvailableIPsErr, p)
  else
    match draws.find? fun d => d.genIP ∉ p.ips with
    | none => none
    | some d => some (.ok d.genIP, { p with ips := insert d.genIP p.ips })

/-- `ReleaseIP`. -/
def releaseIP (p : IPPool) (ip : String) : IPPool := { p with ips := p.ips.erase ip }

end IPPool

/-- The body of the loop of `newIPPoolFromHost`, for the parts of one IPv4 address. -/
def IPPool.addHostAddr (p : IPPool) (ipParts : String × String × String × String) : IPPool :=
  let lvl1 := ipParts.1
  if lvl1 ∈ p.weights.map Prod.fst then
    { ips := insert (lvl1 ++ "." ++ ipParts.2.1 ++ "." ++ ipParts.2.2.1) p.ips
      weights := p.weights.map fun kw => if kw.1 = lvl1 then (kw.1, kw.2 - 1) else kw }
  else p

/-- `newIPPoolFromHost`, for the IPv4 addresses of the host's interfaces. -/
def newIPPoolFromHost (addrs : List (String × String × String × String)) : IPPool :=
  addrs.foldl IPPool.addHostAddr
    { ips := ∅, weights := [("35", 1 * 255), ("25", 255 * 255)] }

/-! ### What `Get` can return -/

/-- `randomPickWeighted` is the choice of a weighted pool. -/
theorem randomPickWeighted_eq (m : List (String × Int)) (r : Int) :
    randomPickWeighted m r = (WeightedPool.pick m r).getD "" := by
  induction m generalizing r with
  | nil => rfl
  | cons kw m ih =>
    obtain ⟨k, w⟩ := kw
    rw [randomPickWeighted, WeightedPool.pick]
    split
    · rfl
    · exact ih (r - w)

/-- `randomPickWeighted` returns one of the keys. -/
theorem randomPickWeighted_mem :
    ∀ {m : List (String × Int)} {r : Int}, 0 ≤ r → r < totalWeight m →
      randomPickWeighted m r ∈ m.map Prod.fst := by
  intro m r hr hlt
  obtain ⟨k, hk, hpicks⟩ := WeightedPool.exists_pick (List.Perm.refl m) hr hlt
  obtain ⟨-, w, hmem, -⟩ := WeightedPool.picks_iff.mp hpicks
  rw [randomPickWeighted_eq, hk]
  exact List.mem_map_of_mem hmem

/-- The addresses that `Get` draws from. -/
def vpnIPs : Finset String :=
  (Finset.range 255).image (fun n => "25" ++ "." ++ toString n) ∪
    (Finset.range 255).image (fun n => "35" ++ "." ++ toString n)

/-- The pool has at most 510 subnets. -/
theorem card_vpnIPs_le : vpnIPs.card ≤ 510 := by
  have h25 := Finset.card_image_le (s := Finset.range 255)
    (f := fun n => "25" ++ "." ++ toString n)
  have h35 := Finset.card_image_le (s := Finset.range 255)
    (f := fun n => "35" ++ "." ++ toString n)
  have := Finset.card_union_le ((Finset.range 255).image fun n => "25" ++ "." ++ toString n)
    ((Finset.range 255).image fun n => "35" ++ "." ++ toString n)
  simp only [Finset.card_range] at h25 h35
  unfold vpnIPs
  omega

/-- No address of `Get` has a slash. -/
theorem slash_notMem_of_mem_vpnIPs {ip : String} (h : ip ∈ vpnIPs) : '/' ∉ ip.toList := by
  have hdigits (n : Nat) : '/' ∉ n.repr.toList := GoStrings.notMem_repr (by decide) n
  simp only [vpnIPs, Finset.mem_union, Finset.mem_image] at h
  rcases h with ⟨n, -, rfl⟩ | ⟨n, -, rfl⟩
  · simp only [String.toList_append, List.mem_append, not_or, Nat.toString_eq_repr]
    exact ⟨⟨by decide, by decide⟩, hdigits n⟩
  · simp only [String.toList_append, List.mem_append, not_or, Nat.toString_eq_repr]
    exact ⟨⟨by decide, by decide⟩, hdigits n⟩

/-- The weights of a pool are those of the two address ranges. -/
def IPPool.Ranges (p : IPPool) : Prop := ∀ k ∈ p.weights.map Prod.fst, k = "25" ∨ k = "35"

/-- A drawn subnet is one of the pool. -/
theorem Draw.genIP_mem {p : IPPool} (hp : p.Ranges) {d : Draw} (hd : d.Possible p.weights) :
    d.genIP ∈ vpnIPs := by
  obtain ⟨horder, hr, hlt, hn⟩ := hd
  have hkey : randomPickWeighted d.order d.r ∈ p.weights.map Prod.fst := by
    have hsum : totalWeight d.order = totalWeight p.weights := (horder.map Prod.snd).sum_eq
    rw [← (horder.map Prod.fst).mem_iff]
    exact randomPickWeighted_mem hr (hsum ▸ hlt)
  have hmem : d.n ∈ Finset.range 255 := Finset.mem_range.mpr hn
  unfold genIP vpnIPs
  simp only [Finset.mem_union, Finset.mem_image]
  rcases hp _ hkey with hk | hk
  · exact .inl ⟨d.n, hmem, by simp [hk]⟩
  · exact .inr ⟨d.n, hmem, by simp [hk]⟩

/-- What a call of `Get` does below its limit: it takes a new address of the two ranges. -/
theorem IPPool.get_cases {p q : IPPool} {draws : List Draw} {r : Except String String}
    (hp : p.Ranges) (hcard : p.ips.card ≤ 60000) (hdraws : ∀ d ∈ draws, d.Possible p.weights)
    (h : p.get draws = some (r, q)) :
    ∃ ip, r = .ok ip ∧ ip ∈ vpnIPs ∧ ip ∉ p.ips ∧ q = { p with ips := insert ip p.ips } := by
  unfold get at h
  rw [if_neg (by omega)] at h
  split at h
  · cases h
  · next d hd =>
    cases h
    have hmem := List.mem_of_find?_eq_some hd
    have hnot := List.find?_some hd
    exact ⟨d.genIP, rfl, Draw.genIP_mem hp (hdraws d hmem), by simpa using hnot, rfl⟩

/-- An address of the host keeps the first octets of the pool. -/
theorem IPPool.ranges_addHostAddr {p : IPPool} (hp : p.Ranges)
    (ipParts : String × String × String × String) : (p.addHostAddr ipParts).Ranges := by
  simp only [addHostAddr]
  split
  · have hkeys : ∀ m : List (String × Int),
        (m.map fun kw => if kw.1 = ipParts.1 then (kw.1, kw.2 - 1) else kw).map Prod.fst =
          m.map Prod.fst := by
      intro m
      rw [List.map_map]
      refine List.map_congr_left fun kw _ => ?_
      simp only [Function.comp]
      split <;> rfl
    intro k hk
    exact hp k (hkeys p.weights ▸ hk)
  · exact hp

/-- It sets at most one subnet aside. -/
theorem IPPool.card_addHostAddr_le (p : IPPool) (ipParts : String × String × String × String) :
    (p.addHostAddr ipParts).ips.card ≤ p.ips.card + 1 := by
  simp only [addHostAddr]
  split
  · exact Finset.card_insert_le _ _
  · omega

/-- The pool of a host has the two ranges, and each address of the host takes at most one. -/
theorem newIPPoolFromHost_spec (addrs : List (String × String × String × String)) :
    (newIPPoolFromHost addrs).Ranges ∧ (newIPPoolFromHost addrs).ips.card ≤ addrs.length := by
  have hfold : ∀ p : IPPool, p.Ranges → (addrs.foldl IPPool.addHostAddr p).Ranges ∧
      (addrs.foldl IPPool.addHostAddr p).ips.card ≤ p.ips.card + addrs.length := by
    induction addrs with
    | nil => exact fun p hp => ⟨hp, le_rfl⟩
    | cons a addrs ih =>
      intro p hp
      obtain ⟨hranges, hcard⟩ := ih _ (IPPool.ranges_addHostAddr hp a)
      have := p.card_addHostAddr_le a
      refine ⟨hranges, ?_⟩
      simp only [List.foldl_cons, List.length_cons]
      omega
  have hnew : IPPool.Ranges { ips := ∅, weights := [("35", 1 * 255), ("25", 255 * 255)] } := by
    simp [IPPool.Ranges]
  obtain ⟨hranges, hcard⟩ := hfold _ hnew
  rw [Finset.card_empty, Nat.zero_add] at hcard
  exact ⟨hranges, hcard⟩

end Haaukins.Daemon
