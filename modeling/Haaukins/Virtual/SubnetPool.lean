import Haaukins.Lib.IPv4
import Haaukins.Lib.Machine
import Haaukins.Lib.WeightedPool
import Haaukins.Virtual.Network
import Mathlib.Data.List.Nodup

/-!
# `Haaukins.Virtual.SubnetPool`: the pool of subnets (`virtual/docker/docker.go`)

Each network gets its subnet from one pool. `IPPool.Get` draws the first three octets of an address
until it finds a prefix that is not taken. A prefix is never given back.

* The random choices are arguments. A `Draw` is one pass of the loop of `Get`, and `Draw.Possible`
  says that it can occur.
* `newIPPoolFromHost` takes the prefixes of the host's own addresses. Each of them lowers a weight
  by one.
* `subnetPool_handsOut` is about all calls of `Get`. The pool makes 65025 prefixes that begin with
  77, more than its limit, so the loop has an exit as long as the weights allow them.
-/

set_option autoImplicit false

namespace Haaukins.Virtual

open WeightedPool (pick totalWeight)

/-- `NoAvailableIPsErr`. -/
def noAvailableIPsErr : String := "no available IPs"

/-- `IPPool`: the taken prefixes `ips`, and the weights of the first octets. -/
abbrev IPPool := WeightedPool String String

/-- `randomPickWeighted`, for the order in which its loop visits the weights and for `r`. -/
def randomPickWeighted (m : List (String × Int)) (r : Int) : String := (pick m r).getD ""

/-- The random choices of one pass of the loop of `Get`. -/
structure Draw where
  order : List (String × Int)
  r : Int
  second : Nat
  third : Nat

/-- `genIP` of `Get`. -/
def Draw.genIP (d : Draw) : String :=
  let ip := randomPickWeighted d.order d.r
  let ip :=
    if ip = "34" then ip ++ "." ++ (d.second + 25).repr
    else if ip = "22" then ip ++ ".168"
    else if ip = "77" then ip ++ "." ++ d.second.repr
    else ip
  ip ++ "." ++ d.third.repr

/-- The draw can occur: `rand.Intn(k)` returns a number from `0` to `k-1`. -/
def Draw.Possible (weights : List (String × Int)) (d : Draw) : Prop :=
  d.order.Perm weights ∧ 0 ≤ d.r ∧ d.r < totalWeight weights ∧
    d.second < (if randomPickWeighted d.order d.r = "34" then 6 else 255) ∧ d.third < 255

instance (weights : List (String × Int)) (d : Draw) : Decidable (d.Possible weights) :=
  inferInstanceAs (Decidable (_ ∧ _ ∧ _ ∧ _ ∧ _))

/-- `Get` when its loop makes these draws. It is `none` while the loop goes on. -/
def IPPool.get (p : IPPool) (draws : List Draw) : Option (Except String String × IPPool) :=
  p.draw 60000 noAvailableIPsErr (draws.map Draw.genIP)

/-- The weights of `newIPPoolFromHost`. -/
def subnetWeights : List (String × Int) := [("34", 7 * 255), ("77", 255 * 255), ("22", 1 * 255)]

/-- The body of the loop of `newIPPoolFromHost`, for one IPv4 address. -/
def IPPool.addHostAddr (p : IPPool) (addr : IPv4) : IPPool :=
  let ipParts := GoStrings.split addr.string '.'
  p.reserve (ipParts.headD "", (String.singleton '.').intercalate (ipParts.take 3))

/-- `newIPPoolFromHost`, for the IPv4 addresses of the host's interfaces. -/
def newIPPoolFromHost (addrs : List IPv4) : IPPool :=
  addrs.foldl IPPool.addHostAddr { taken := ∅, weights := subnetWeights }

/-- The first octet of the address is one of the pool. -/
def UsesPool (addr : IPv4) : Prop := addr.first.toNat.repr ∈ subnetWeights.map Prod.fst

instance (addr : IPv4) : Decidable (UsesPool addr) := inferInstanceAs (Decidable (_ ∈ _))

/-! ### Runs of the pool -/

/-- The pool, and the prefixes that `Get` has returned. -/
structure SubnetRun where
  pool : IPPool
  returned : List String

/-- The pool of a host before the first call. -/
def SubnetRun.new (addrs : List IPv4) : SubnetRun :=
  { pool := newIPPoolFromHost addrs, returned := [] }

/-- Calls of `Get`. An action is the list of the draws of one call. -/
def subnetPool (addrs : List IPv4) : Machine SubnetRun (List Draw) where
  init s := s = .new addrs
  step s draws :=
    if ∀ d ∈ draws, d.Possible s.pool.weights then
      match s.pool.get draws with
      | none => none
      | some (.error _, pool) => some { s with pool }
      | some (.ok ip, pool) => some { pool, returned := s.returned ++ [ip] }
    else none

/-- Three octets that begin with 34.25 to 34.30, with 22.168, or with 77.0 to 77.254. -/
def OfPool (ip : String) : Prop :=
  ∃ first second third, ip = dotted [first, second, third] ∧ third ≤ 255 ∧
    (first = 34 ∧ 25 ≤ second ∧ second ≤ 30 ∨ first = 22 ∧ second = 168 ∨
      first = 77 ∧ second ≤ 254)

/-- The returned prefixes are different ones of the pool, none is that of the host, and the next
call has an exit. -/
structure SubnetRun.HandsOut (addrs : List IPv4) (s : SubnetRun) : Prop where
  nodup : s.returned.Nodup
  host : ∀ ip ∈ s.returned, ∀ addr ∈ addrs, ip ≠ addr.firstThree
  ofPool : ∀ ip ∈ s.returned, OfPool ip
  exit : (∀ draws, s.pool.get draws = some (.error noAvailableIPsErr, s.pool)) ∨
    ∃ d : Draw, d.Possible s.pool.weights ∧ d.genIP ∉ s.pool.taken

/-! ### The pool of a host -/

/-- An address of the host reserves its subnet. -/
theorem addHostAddr_eq (p : IPPool) (addr : IPv4) :
    p.addHostAddr addr = p.reserve (addr.first.toNat.repr, addr.firstThree) := by
  rw [IPPool.addHostAddr, addr.split_string]
  rfl

/-- The pool of the host, as a weighted pool. -/
theorem newIPPoolFromHost_eq (addrs : List IPv4) :
    newIPPoolFromHost addrs =
      (addrs.map fun addr => (addr.first.toNat.repr, addr.firstThree)).foldl
        WeightedPool.reserve { taken := ∅, weights := subnetWeights } := by
  have hbody : IPPool.addHostAddr = fun p addr =>
      p.reserve (addr.first.toNat.repr, addr.firstThree) := funext₂ addHostAddr_eq
  rw [newIPPoolFromHost, List.foldl_map, hbody]

/-- The addresses of the host lower the weights. -/
theorem weights_newIPPoolFromHost (addrs : List IPv4) :
    (newIPPoolFromHost addrs).weights = subnetWeights.map fun kw =>
      (kw.1, kw.2 - ((addrs.map fun addr => addr.first.toNat.repr).count kw.1 : Int)) := by
  rw [newIPPoolFromHost_eq, WeightedPool.weights_reserveAll, List.map_map]
  rfl

/-- The prefix of an address of the host is taken from the start. -/
theorem firstThree_mem_newIPPoolFromHost {addrs : List IPv4} {addr : IPv4} (h : addr ∈ addrs)
    (huses : UsesPool addr) : addr.firstThree ∈ (newIPPoolFromHost addrs).taken := by
  rw [newIPPoolFromHost_eq, WeightedPool.mem_taken_reserveAll]
  exact .inr ⟨_, List.mem_map_of_mem h, huses, rfl⟩

/-! ### The prefixes that are drawn -/

/-- A draw chooses one of the first octets. -/
theorem Draw.Possible.randomPickWeighted_mem {weights : List (String × Int)} {d : Draw}
    (h : d.Possible weights) : randomPickWeighted d.order d.r ∈ weights.map Prod.fst := by
  obtain ⟨horder, hr, hlt, -, -⟩ := h
  obtain ⟨k, hk, hpicks⟩ := WeightedPool.exists_pick horder hr hlt
  obtain ⟨-, w, hmem, -⟩ := WeightedPool.picks_iff.mp hpicks
  rw [randomPickWeighted, hk]
  exact List.mem_map_of_mem hmem

/-- The subnets of the key `34`. -/
theorem genIP_34 {d : Draw} (h : randomPickWeighted d.order d.r = "34") :
    d.genIP = dotted [34, d.second + 25, d.third] := by
  simp only [Draw.genIP, h, if_true]
  exact (dotted_three 34 (d.second + 25) d.third).symm

/-- The subnets of the key `22`. -/
theorem genIP_22 {d : Draw} (h : randomPickWeighted d.order d.r = "22") :
    d.genIP = dotted [22, 168, d.third] := by
  have h34 : ¬ "22" = "34" := by decide
  simp only [Draw.genIP, h, if_neg h34, if_true]
  exact (dotted_three 22 168 d.third).symm

/-- The subnets of the key `77`. -/
theorem genIP_77 {d : Draw} (h : randomPickWeighted d.order d.r = "77") :
    d.genIP = dotted [77, d.second, d.third] := by
  have h34 : ¬ "77" = "34" := by decide
  have h22 : ¬ "77" = "22" := by decide
  simp only [Draw.genIP, h, if_neg h34, if_neg h22, if_true]
  exact (dotted_three 77 d.second d.third).symm

/-- Each possible draw gives a subnet of one of the three keys. -/
theorem genIP_ofPool {weights : List (String × Int)}
    (hkeys : weights.map Prod.fst = subnetWeights.map Prod.fst) {d : Draw}
    (h : d.Possible weights) : OfPool d.genIP := by
  have hmem := h.randomPickWeighted_mem
  obtain ⟨-, -, -, hsecond, hthird⟩ := h
  rw [hkeys, subnetWeights] at hmem
  simp only [List.map_cons, List.map_nil, List.mem_cons, List.not_mem_nil, or_false] at hmem
  rcases hmem with hk | hk | hk
  · rw [hk, if_pos rfl] at hsecond
    exact ⟨34, d.second + 25, d.third, genIP_34 hk, by omega, by omega⟩
  · rw [hk, if_neg (by decide)] at hsecond
    exact ⟨77, d.second, d.third, genIP_77 hk, by omega, by omega⟩
  · exact ⟨22, 168, d.third, genIP_22 hk, by omega, by omega⟩

/-- The prefixes that begin with 77. -/
def prefixes77 : Finset String :=
  (Finset.range (255 * 255)).image fun n => dotted [77, n / 255, n % 255]

/-- The key `77` alone has 65025 subnets. -/
theorem card_prefixes77 : prefixes77.card = 255 * 255 := by
  have hinj : Function.Injective fun n : Nat => dotted [77, n / 255, n % 255] := by
    intro m n h
    have hlist := dotted_injective (by simp) (by simp) h
    simp only [List.cons.injEq, and_true, true_and] at hlist
    omega
  rw [prefixes77, Finset.card_image_of_injective _ hinj, Finset.card_range]

/-- Below its limit the pool has a free prefix that a draw can find, when the weights allow one
that begins with 77. -/
theorem exists_free_draw {p : IPPool} (hlimit : p.taken.card ≤ 60000)
    (hpicks : WeightedPool.Picks p.weights "77") :
    ∃ d : Draw, d.Possible p.weights ∧ d.genIP ∉ p.taken := by
  -- There are more prefixes than the pool has entries.
  have hcard : 60000 < prefixes77.card := by
    rw [card_prefixes77]
    omega
  obtain ⟨ip, hip, hfree⟩ := WeightedPool.exists_free hlimit hcard
  rw [prefixes77, Finset.mem_image] at hip
  obtain ⟨n, hn, hn77⟩ := hip
  rw [Finset.mem_range] at hn
  obtain ⟨order, r, horder, hr, hlt, hpick⟩ := hpicks
  obtain ⟨d, hd⟩ : ∃ d : Draw, d = { order, r, second := n / 255, third := n % 255 } := ⟨_, rfl⟩
  have hkey : randomPickWeighted d.order d.r = "77" := by
    rw [hd, randomPickWeighted, hpick]
    rfl
  refine ⟨d, ⟨hd ▸ horder, hd ▸ hr, hd ▸ hlt, ?_, ?_⟩, ?_⟩
  · rw [hkey, if_neg (by decide), hd]
    exact Nat.div_lt_of_lt_mul hn
  · rw [hd]
    exact Nat.mod_lt n (by decide)
  · rw [genIP_77 hkey, hd, hn77]
    exact hfree

/-- With few addresses of the host among its prefixes, the pool keeps all weights positive. -/
theorem picks_newIPPoolFromHost {addrs : List IPv4}
    (hfew : addrs.countP (fun addr => UsesPool addr) < 255) :
    WeightedPool.Picks (newIPPoolFromHost addrs).weights "77" := by
  have hcount : ∀ kw ∈ subnetWeights,
      (addrs.map fun addr => addr.first.toNat.repr).count kw.1 ≤
        addrs.countP fun addr => UsesPool addr := by
    intro kw hkw
    rw [List.count, List.countP_map]
    refine List.countP_mono_left fun addr _ hkey => ?_
    have hfirst : addr.first.toNat.repr = kw.1 := by simpa using hkey
    have huses : UsesPool addr := by
      rw [UsesPool, hfirst]
      exact List.mem_map_of_mem hkw
    simpa using huses
  -- Each weight is lowered fewer than 255 times, and none begins below 255.
  rw [WeightedPool.picks_iff, weights_newIPPoolFromHost]
  have h34 := hcount ("34", 7 * 255) (by simp [subnetWeights])
  have h77 := hcount ("77", 255 * 255) (by simp [subnetWeights])
  have h22 := hcount ("22", 1 * 255) (by simp [subnetWeights])
  simp only at h34 h77 h22
  constructor
  · simp only [totalWeight, subnetWeights, List.map_cons, List.map_nil, List.sum_cons,
      List.sum_nil]
    omega
  · refine ⟨_, List.mem_map_of_mem (a := ("77", 255 * 255)) (by simp [subnetWeights]), ?_⟩
    simp only
    omega

/-! ### All calls -/

/-- An address of the host whose prefix is one of the pool has a first octet of the pool. -/
theorem usesPool_of_ofPool {addr : IPv4} (h : OfPool addr.firstThree) : UsesPool addr := by
  obtain ⟨first, second, third, htext, -, hrange⟩ := h
  have hlist := dotted_injective (by simp) (by simp) htext
  simp only [List.cons.injEq, and_true] at hlist
  rw [UsesPool, hlist.1]
  rcases hrange with ⟨rfl, -⟩ | ⟨rfl, -⟩ | ⟨rfl, -⟩ <;> decide

namespace SubnetRun

/-- What holds in each state of a run. -/
structure Inv (addrs : List IPv4) (s : SubnetRun) : Prop where
  weights : s.pool.weights = (newIPPoolFromHost addrs).weights
  hostTaken : ∀ addr ∈ addrs, UsesPool addr → addr.firstThree ∈ s.pool.taken
  taken : ∀ ip ∈ s.returned, ip ∈ s.pool.taken
  nodup : s.returned.Nodup
  host : ∀ ip ∈ s.returned, ∀ addr ∈ addrs, ip ≠ addr.firstThree
  ofPool : ∀ ip ∈ s.returned, OfPool ip

variable {addrs : List IPv4} {s t : SubnetRun} {draws : List Draw}

/-- A new pool has handed out nothing. -/
theorem inv_new (addrs : List IPv4) : Inv addrs (.new addrs) where
  weights := rfl
  hostTaken _ haddr huses := firstThree_mem_newIPPoolFromHost haddr huses
  taken := by simp [new]
  nodup := List.nodup_nil
  host := by simp [new]
  ofPool := by simp [new]

/-- A call returns a prefix that was free, or leaves the pool as it is. -/
theorem step_cases (h : (subnetPool addrs).step s draws = some t) :
    t = s ∨ ∃ d ∈ draws, d.Possible s.pool.weights ∧ d.genIP ∉ s.pool.taken ∧
      t = { pool := { s.pool with taken := insert d.genIP s.pool.taken },
            returned := s.returned ++ [d.genIP] } := by
  dsimp only [subnetPool] at h
  split at h
  · next hpossible =>
    split at h
    · cases h
    · next err pool hget =>
      obtain ⟨-, -, rfl⟩ := WeightedPool.draw_error hget
      cases h
      exact .inl rfl
    · next ip pool hget =>
      obtain ⟨-, hmem, hfree, rfl⟩ := WeightedPool.draw_ok hget
      obtain ⟨d, hd, rfl⟩ := List.mem_map.mp hmem
      cases h
      exact .inr ⟨d, hd, hpossible d hd, hfree, rfl⟩
  · cases h

/-- The addresses of the host change weights and no keys. -/
theorem keys_newIPPoolFromHost (addrs : List IPv4) :
    (newIPPoolFromHost addrs).weights.map Prod.fst = subnetWeights.map Prod.fst := by
  rw [weights_newIPPoolFromHost, List.map_map]
  rfl

/-- Each call keeps the invariant. -/
theorem Inv.step (hinv : Inv addrs s) (h : (subnetPool addrs).step s draws = some t) :
    Inv addrs t := by
  rcases step_cases h with rfl | ⟨d, -, hpossible, hfree, rfl⟩
  · exact hinv
  have hkeys : s.pool.weights.map Prod.fst = subnetWeights.map Prod.fst := by
    rw [hinv.weights, keys_newIPPoolFromHost]
  have hofPool : OfPool d.genIP := genIP_ofPool hkeys hpossible
  -- A prefix of the host with a first octet of the pool is taken, so it was not drawn.
  have hhost : ∀ addr ∈ addrs, d.genIP ≠ addr.firstThree := by
    intro addr haddr heq
    rw [heq] at hofPool hfree
    exact hfree (hinv.hostTaken addr haddr (usesPool_of_ofPool hofPool))
  refine ⟨hinv.weights, fun addr haddr huses => ?_, fun ip hip => ?_, ?_, fun ip hip => ?_,
    fun ip hip => ?_⟩
  · exact Finset.mem_insert_of_mem (hinv.hostTaken addr haddr huses)
  · rcases List.mem_append.mp hip with hold | hnew
    · exact Finset.mem_insert_of_mem (hinv.taken ip hold)
    · rw [List.mem_singleton.mp hnew]
      exact Finset.mem_insert_self _ _
  · rw [← List.concat_eq_append]
    exact List.Nodup.concat (fun hmem => hfree (hinv.taken _ hmem)) hinv.nodup
  · rcases List.mem_append.mp hip with hold | hnew
    · exact hinv.host ip hold
    · rw [List.mem_singleton.mp hnew]
      exact hhost
  · rcases List.mem_append.mp hip with hold | hnew
    · exact hinv.ofPool ip hold
    · rw [List.mem_singleton.mp hnew]
      exact hofPool

/-- A call in a state of a run fails with the error, or has an exit. -/
theorem Inv.exit (hinv : Inv addrs s)
    (hfew : addrs.countP (fun addr => UsesPool addr) < 255) :
    (∀ draws, s.pool.get draws = some (.error noAvailableIPsErr, s.pool)) ∨
      ∃ d : Draw, d.Possible s.pool.weights ∧ d.genIP ∉ s.pool.taken := by
  rcases Nat.lt_or_ge 60000 s.pool.taken.card with hfull | hlimit
  · exact .inl fun _ => WeightedPool.draw_full hfull
  · exact .inr (exists_free_draw hlimit (hinv.weights ▸ picks_newIPPoolFromHost hfew))

end SubnetRun

/-- Where fewer than 255 addresses of the host have a first octet of the pool, the calls of `Get`
return different prefixes of the pool, none of them that of the host, and each call fails with
the error or has an exit. -/
theorem subnetPool_handsOut (addrs : List IPv4)
    (hfew : addrs.countP (fun addr => UsesPool addr) < 255) {s : SubnetRun}
    (h : (subnetPool addrs).Reachable (fun _ _ => True) s) : s.HandsOut addrs := by
  have hinv : s.Inv addrs := by
    refine h.invariant (SubnetRun.Inv addrs) ?_ fun _ _ _ hinv _ hstep => hinv.step hstep
    rintro s rfl
    exact SubnetRun.inv_new addrs
  exact ⟨hinv.nodup, hinv.host, hinv.ofPool, hinv.exit hfew⟩

/-- Networks that get their addresses from the pool have different subnets. -/
theorem SubnetRun.HandsOut.nodup_subnets {addrs : List IPv4} {s : SubnetRun}
    (h : s.HandsOut addrs) : (s.returned.map fun ip => (newNetwork ip).subnet).Nodup := by
  refine h.nodup.map fun ip ip' hsame => ?_
  have hsubnet : ip ++ ".0/24" = ip' ++ ".0/24" := hsame
  simpa using hsubnet

/-- The addresses of a host, one of which begins with 77. -/
def hostAddrs : List IPv4 := [⟨127, 0, 0, 1⟩, ⟨77, 3, 4, 5⟩]

/-- A draw for the pool of this host. -/
def hostDraw : Draw where
  order := [("34", 1785), ("77", 65024), ("22", 255)]
  r := 1800
  second := 3
  third := 9

/-- A host with an address in a subnet of the pool, and one call. -/
theorem subnetPool_handsOut_host :
    ∃ s, (subnetPool hostAddrs).run (.new hostAddrs) [[hostDraw]] = some s ∧
      s.returned = ["77.3.9"] ∧ s.HandsOut hostAddrs := by
  refine ⟨_, rfl, rfl, subnetPool_handsOut hostAddrs (by decide) ?_⟩
  exact .step (a := [hostDraw]) (.init rfl) trivial rfl

end Haaukins.Virtual
