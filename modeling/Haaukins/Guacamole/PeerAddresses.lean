import Haaukins.Lib.Machine
import Haaukins.Guacamole.Event

/-!
# `Haaukins.Guacamole.PeerAddresses`: the peer addresses of a VPN event

`CreateVPNConn` takes four addresses from the end of `ipAddrs`, one for each of the third
octets 240 to 243. The list holds 1012 of them, four times the range from 2 to 254, so the
last octet that a `pop` returns depends on the length of the list modulo 253.

`PeerState.Distinct` is the claim: no `pop` has met an empty list, and two teams of the store
have no peer address in common. The property holds along a run exactly when each call finds
enough addresses, and adds no peer whose third octet another team of the store used when the
list was 253, 506 or 759 longer (`Supplied`).

Four and 253 are coprime. So calls that all succeed use a third octet at the same length
modulo 253 only after 1012 addresses, and the condition holds for the first 253 of them
(`supplied_of_succeeds`).
-/

set_option autoImplicit false

namespace Haaukins.Guacamole

open Store

/-- A VPN event. `issued` counts the calls of `NewTeam`, and `panicked` tells that a `pop`
has met an empty list. -/
structure PeerState where
  ev : Event
  issued : Nat
  panicked : Bool

/-- Signups, deletions, and calls of `CreateVPNConn` for the team of a number. -/
inductive PeerAction where
  | signup (name : String) (db : Option String)
  | deleteTeam (id : String) (db : Option String)
  | createVPNConn (team : Nat) (subnet : String) (calls : VPNCalls)

namespace PeerState

/-- A signup of the team with the given id. -/
def signup (s : PeerState) (id name : String) (db : Option String) : PeerState :=
  { s with
      ev := (s.ev.signup (newTeam id name) db).1
      issued := s.issued + 1 }

/-- A call of `CreateVPNConn`. -/
def createVPNConn (s : PeerState) (t subnet : String) (calls : VPNCalls) : PeerState :=
  { s with
      ev := (s.ev.createVPNConn t subnet calls).1
      panicked := s.panicked || (s.ev.createVPNConn t subnet calls).2 == some .panicked }

end PeerState

/-- The VPN events of capacity at most 253, when `NewTeam` draws the ids `newID`. That these ids of
8 characters are different is an assumption on the draws. The address of the event is the one that
the daemon makes from the address of its pool. -/
def vpnEvent (newID : Nat → String) : Machine PeerState PeerAction where
  init s := s.panicked = false ∧
    (∃ createdBy vpn capacity ip store, (vpn = onlyVPN ∨ vpn = vpnBrowser) ∧
      capacity ≤ (253 : Int) ∧ '/' ∉ ip.toList ∧
      s.ev = newEvent createdBy vpn capacity (ip ++ ".240.1/22") store) ∧
    ∀ t ∈ s.ev.store.teams, ∃ k < s.issued, newID k = t
  step s
    | .signup name db => some (s.signup (newID s.issued) name db)
    | .deleteTeam id db => some { s with ev := (s.ev.deleteTeam id db).1 }
    | .createVPNConn team subnet calls =>
      if team < s.issued then some (s.createVPNConn (newID team) subnet calls) else none

/-! ### The addresses of the list -/

/-- The first `n` addresses of the list. -/
def addresses (n : Nat) : List Nat := (List.range n).map fun k => 2 + k % 253

/-- The list of a new event has 1012 addresses. -/
theorem eventVPNIPs_eq : eventVPNIPs = addresses 1012 := by decide +kernel

/-- There are as many addresses as the number says. -/
@[simp] theorem length_addresses (n : Nat) : (addresses n).length = n := by simp [addresses]

/-- The empty list has no last address. -/
theorem pop_zero : pop (addresses 0) = none := rfl

/-- `pop` takes the last address. -/
theorem pop_succ (n : Nat) : pop (addresses (n + 1)) = some (2 + n % 253, addresses n) := by
  simp [pop, addresses, List.range_succ]

/-- Two peer addresses of an event are equal only when both octets are. -/
theorem peerIP_inj {ev : Event} {ip : String} (hip : '/' ∉ ip.toList)
    (hev : ev.vpnAddress = ip ++ ".240.1/22") {i i' v v' : Nat} :
    ev.peerIP i v = ev.peerIP i' v' ↔ i = i' ∧ v = v' := by
  have hpeer : ∀ i v, (ev.peerIP i v).toList =
      (ip ++ ".").toList ++ (i.repr.toList ++ '.' :: (v.repr.toList ++ "/32".toList)) := by
    intro i v
    have hsplit : ev.vpnAddress = (ip ++ ".") ++ "240.1/22" := by
      rw [hev, String.append_assoc]
      rfl
    have hslash : '/' ∉ (ip ++ ".").toList := by
      simpa [String.toList_append] using hip
    rw [Event.peerIP, hsplit, GoStrings.replace_append _ (by decide : '/' ∈ _) hslash]
    simp [String.toList_append]
  constructor
  · intro h
    -- The dot ends the third octet, and the slash of the mask ends the fourth.
    have hlist := congrArg String.toList h
    rw [hpeer, hpeer, List.append_right_inj] at hlist
    have hdot : ∀ n : Nat, '.' ∉ n.repr.toList := GoStrings.notMem_repr (by decide)
    obtain ⟨hi, hv⟩ := GoStrings.append_cons_inj (hdot i) (hdot i') hlist
    rw [List.append_left_inj] at hv
    exact ⟨Nat.repr_injective (String.toList_inj.mp hi),
      Nat.repr_injective (String.toList_inj.mp hv)⟩
  · rintro ⟨rfl, rfl⟩
    rfl

/-! ### What one call takes and adds -/

/-- The calls of `pop` that the loop makes while there are addresses. -/
def pops (calls : Nat → PeerCalls) : List Nat → Nat
  | [] => 0
  | i :: is => if (calls i).succeeds then pops calls is + 1 else 1

/-- The peers that the loop adds when it finds `n` addresses: the third octet of each, and
the length of the list before its `pop`. -/
def added (calls : Nat → PeerCalls) : Nat → List Nat → List (Nat × Nat)
  | _, [] => []
  | n, i :: is =>
    if (calls i).succeeds then (i, n) :: added calls (n - 1) is
    else if (calls i).adds then [(i, n)] else []

/-- The peer of a third octet, made from a list of the given length. -/
def Event.newPeer (ev : Event) (t : String) (x : Nat × Nat) : Peer :=
  ⟨t, x.1, x.2, ev.peerIP x.1 (2 + (x.2 - 1) % 253)⟩

variable {ev : Event} {t : String} {n : Nat}

/-- By induction on the loop: the peers take addresses from the end of the list. -/
theorem length_mem_added {calls : Nat → PeerCalls} {x : Nat × Nat} :
    ∀ {is : List Nat} {n : Nat}, pops calls is ≤ n → x ∈ added calls n is →
      n - pops calls is < x.2 ∧ x.2 ≤ n := by
  intro is
  induction is with
  | nil => simp [added]
  | cons i is ih =>
    intro n hle hx
    simp only [pops] at hle ⊢
    simp only [added] at hx
    split at hx
    · next hi =>
      -- The peer of this call is the one with the longest list.
      simp only [hi, if_true] at hle ⊢
      rcases List.mem_cons.mp hx with rfl | hx
      · simp only
        omega
      · have := ih (by omega) hx
        omega
    · next hi =>
      simp only [hi, Bool.false_eq_true, if_false] at hle ⊢
      split at hx
      · obtain rfl := List.mem_singleton.mp hx
        simp only
        omega
      · cases hx

/-- With enough addresses the loop does not panic, and takes and adds what its calls say. -/
theorem createPeers_spec (calls : Nat → PeerCalls) :
    ∀ (is : List Nat) (n : Nat) (ev : Event), ev.ipAddrs = addresses n → pops calls is ≤ n →
      (Event.createPeers t calls is ev).1 =
          ev.withPeers (addresses (n - pops calls is)) ((added calls n is).map (ev.newPeer t)) ∧
        (Event.createPeers t calls is ev).2 ≠ .error .panicked := by
  -- The induction is on the third octets that are left; the addresses go down with them.
  intro is
  induction is with
  | nil =>
    intro n ev hev _
    simp [Event.createPeers, added, pops, Event.withPeers, ← hev]
  | cons i is ih =>
    intro n ev hev hle
    simp only [pops] at hle ⊢
    simp only [added]
    obtain ⟨n, rfl⟩ : ∃ m, n = m + 1 := ⟨n - 1, by split at hle <;> omega⟩
    have hpop : pop ev.ipAddrs = some (2 + n % 253, addresses n) := hev ▸ pop_succ n
    have hleft : ev.ipAddrs.length = n + 1 := by rw [hev, length_addresses]
    unfold Event.createPeers
    by_cases hi : (calls i).succeeds = true
    · -- The loop goes on with one address less and one peer more.
      rw [if_pos hi] at hle ⊢
      rw [if_pos hi, Nat.add_sub_cancel, Event.createPeer_of_succeeds hpop t i hi,
        Nat.add_sub_add_right, hleft]
      obtain ⟨hev', hok⟩ := ih n (ev.withPeers (addresses n)
        [⟨t, i, n + 1, ev.peerIP i (2 + n % 253)⟩]) rfl (by omega)
      rw [Event.withPeers_withPeers] at hev'
      simp only
      split
      · next err h =>
        rw [h] at hev' hok
        exact ⟨hev', hok⟩
      · next h =>
        rw [h] at hev'
        exact ⟨hev', by simp⟩
    · -- The call has taken its address, and the loop ends with its error.
      obtain ⟨err, heq⟩ := Event.createPeer_of_fails hpop t i hi
      rw [if_neg hi, if_neg hi, Nat.add_sub_cancel, heq, hleft]
      refine ⟨?_, by simp⟩
      simp only
      split <;> rfl

/-- Without enough addresses the loop panics. -/
theorem createPeers_panics (calls : Nat → PeerCalls) :
    ∀ (is : List Nat) (n : Nat) (ev : Event), ev.ipAddrs = addresses n → n < pops calls is →
      (Event.createPeers t calls is ev).2 = .error .panicked := by
  intro is
  induction is with
  | nil =>
    intro n ev _ hlt
    simp [pops] at hlt
  | cons i is ih =>
    intro n ev hev hlt
    simp only [pops] at hlt
    unfold Event.createPeers
    cases n with
    | zero =>
      simp [Event.createPeer_of_empty (hev ▸ pop_zero : pop ev.ipAddrs = none)]
    | succ n =>
      -- One address is there, so the panic comes in a later call.
      have hi : (calls i).succeeds = true := by
        by_contra hi
        rw [if_neg hi] at hlt
        omega
      rw [if_pos hi] at hlt
      have hpanic := ih n (ev.withPeers (addresses n)
        [⟨t, i, ev.ipAddrs.length, ev.peerIP i (2 + n % 253)⟩]) rfl (by omega)
      rw [Event.createPeer_of_succeeds (hev ▸ pop_succ n : pop ev.ipAddrs = _) t i hi]
      simp only
      split
      · next h =>
        rw [h] at hpanic
        exact hpanic
      · next h =>
        rw [h] at hpanic
        cases hpanic

/-- The calls of `pop` that `CreateVPNConn` makes while there are addresses. -/
def VPNCalls.pops (calls : VPNCalls) : Nat :=
  if calls.serverKey.isSome then 0 else Guacamole.pops calls.peer Event.thirdOctets

/-- The peers that `CreateVPNConn` adds when it finds `n` addresses. -/
def VPNCalls.added (calls : VPNCalls) (n : Nat) : List (Nat × Nat) :=
  if calls.serverKey.isSome then [] else Guacamole.added calls.peer n Event.thirdOctets

/-- The same for the four peers of a call. -/
theorem VPNCalls.length_mem_added {calls : VPNCalls} {x : Nat × Nat} (hle : calls.pops ≤ n)
    (hx : x ∈ calls.added n) : n - calls.pops < x.2 ∧ x.2 ≤ n := by
  unfold VPNCalls.added at hx
  unfold VPNCalls.pops at hle ⊢
  split at hx
  · cases hx
  · next hkey =>
    rw [if_neg hkey] at hle ⊢
    exact Guacamole.length_mem_added hle hx

/-- What `CreateVPNConn` does to the addresses and the peers when the list is long enough. -/
structure Added (ev : Event) (t : String) (n : Nat) (calls : VPNCalls) (ev' : Event) : Prop where
  ipAddrs : ev'.ipAddrs = addresses (n - calls.pops)
  peers : ev'.peers = ev.peers ++ (calls.added n).map (ev.newPeer t)
  store : ev'.store = ev.store
  vpnAddress : ev'.vpnAddress = ev.vpnAddress

/-- With enough addresses a call adds its peers and does not panic. -/
theorem createVPNConn_spec (hev : ev.ipAddrs = addresses n) (subnet : String) {calls : VPNCalls}
    (hle : calls.pops ≤ n) :
    Added ev t n calls (ev.createVPNConn t subnet calls).1 ∧
      (ev.createVPNConn t subnet calls).2 ≠ some .panicked := by
  unfold Event.createVPNConn
  cases hkey : calls.serverKey with
  | some err =>
    -- Without the key of the server no peer is created.
    refine ⟨⟨?_, ?_, rfl, rfl⟩, by simp⟩
    · simp [VPNCalls.pops, hkey, hev]
    · simp [VPNCalls.added, hkey]
  | none =>
    simp only [VPNCalls.pops, hkey, Option.isSome_none, Bool.false_eq_true, if_false] at hle
    obtain ⟨hev', hok⟩ := createPeers_spec (t := t) calls.peer Event.thirdOctets n ev hev hle
    simp only
    split
    · next err h =>
      rw [h] at hev' hok
      simp only at hev'
      subst hev'
      refine ⟨⟨?_, ?_, rfl, rfl⟩, by simpa using hok⟩
      · simp [VPNCalls.pops, hkey, Event.withPeers]
      · simp [VPNCalls.added, hkey, Event.withPeers]
    · next vpnIPs h =>
      rw [h] at hev'
      simp only at hev'
      subst hev'
      refine ⟨⟨?_, ?_, rfl, rfl⟩, by simp⟩
      · simp [VPNCalls.pops, hkey, Event.withPeers, Event.createRules]
      · simp [VPNCalls.added, hkey, Event.withPeers, Event.createRules]

/-- With fewer addresses it panics. -/
theorem createVPNConn_panics (hev : ev.ipAddrs = addresses n) (subnet : String)
    {calls : VPNCalls} (hlt : n < calls.pops) :
    (ev.createVPNConn t subnet calls).2 = some .panicked := by
  have hkey : calls.serverKey = none := by
    by_contra hkey
    simp [VPNCalls.pops, Option.isSome_iff_ne_none.mpr hkey] at hlt
  simp only [VPNCalls.pops, hkey, Option.isSome_none, Bool.false_eq_true, if_false] at hlt
  have hpanic := createPeers_panics (t := t) calls.peer Event.thirdOctets n ev hev hlt
  unfold Event.createVPNConn
  simp only [hkey]
  split
  · next h =>
    rw [h] at hpanic
    cases hpanic
    rfl
  · next h =>
    rw [h] at hpanic
    cases hpanic

@[inherit_doc VPNCalls.succeeds]
def PeerAction.succeeds : PeerAction → Bool
  | .createVPNConn _ _ calls => calls.succeeds
  | _ => true

/-- The action is a call of `CreateVPNConn`. -/
def PeerAction.connects : PeerAction → Bool
  | .createVPNConn _ _ _ => true
  | _ => false

/-! ### Distinct addresses along a run -/

namespace PeerState

/-- No `pop` has met an empty list, and two teams of the store have no peer address in
common. -/
structure Distinct (s : PeerState) : Prop where
  alive : s.panicked = false
  distinct : ∀ p ∈ s.ev.peers, ∀ q ∈ s.ev.peers, p.team ∈ s.ev.store.teams →
    q.team ∈ s.ev.store.teams → p.team ≠ q.team → p.allowedIPs ≠ q.allowedIPs

/-- The call finds enough addresses. It adds no peer for a team of the store whose third octet
another team of the store used when the list was a multiple of 253 longer. -/
def Supplied (newID : Nat → String) (s : PeerState) : PeerAction → Prop
  | .createVPNConn team _ calls => calls.pops ≤ s.ev.ipAddrs.length ∧
      (newID team ∈ s.ev.store.teams → ∀ x ∈ calls.added s.ev.ipAddrs.length,
        ∀ p ∈ s.ev.peers, p.team ∈ s.ev.store.teams → p.team ≠ newID team → p.third = x.1 →
          (p.left - x.2) % 253 ≠ 0)
  | _ => True

instance (newID : Nat → String) (s : PeerState) (a : PeerAction) :
    Decidable (Supplied newID s a) := by
  cases a <;> dsimp only [Supplied] <;> infer_instance

/-- The invariant behind `Distinct`. The list is an initial part of the addresses of the
event, and each peer has the address that belonged to the length of the list at its `pop`. -/
structure Numbered (newID : Nat → String) (s : PeerState) : Prop where
  alive : s.panicked = false
  address : ∃ ip : String, '/' ∉ ip.toList ∧ s.ev.vpnAddress = ip ++ ".240.1/22"
  ipAddrs : s.ev.ipAddrs = addresses s.ev.ipAddrs.length
  peers : ∀ p ∈ s.ev.peers, s.ev.ipAddrs.length < p.left ∧
    p = s.ev.newPeer p.team (p.third, p.left)
  issued : ∀ t, t ∈ s.ev.store.teams ∨ (∃ p ∈ s.ev.peers, p.team = t) →
    ∃ k < s.issued, newID k = t
  apart : ∀ p ∈ s.ev.peers, ∀ q ∈ s.ev.peers, p.team ∈ s.ev.store.teams →
    q.team ∈ s.ev.store.teams → p.team ≠ q.team → p.third = q.third →
      p.left % 253 ≠ q.left % 253

variable {newID : Nat → String} {s s' : PeerState} {a : PeerAction}

/-- Two peers have one address exactly when they have one third octet and their lengths agree
modulo 253. -/
theorem Numbered.allowedIPs_eq_iff (h : s.Numbered newID) {p q : Peer} (hp : p ∈ s.ev.peers)
    (hq : q ∈ s.ev.peers) :
    p.allowedIPs = q.allowedIPs ↔ p.third = q.third ∧ p.left % 253 = q.left % 253 := by
  obtain ⟨ip, hip, haddr⟩ := h.address
  obtain ⟨hlt, heq⟩ := h.peers p hp
  obtain ⟨hlt', heq'⟩ := h.peers q hq
  rw [congrArg Peer.allowedIPs heq, congrArg Peer.allowedIPs heq']
  simp only [Event.newPeer, peerIP_inj hip haddr]
  omega

/-- Numbered peers have different addresses. -/
theorem Numbered.distinct (h : s.Numbered newID) : s.Distinct := by
  refine ⟨h.alive, fun p hp q hq hps hqs hne heq => ?_⟩
  obtain ⟨hthird, hleft⟩ := (h.allowedIPs_eq_iff hp hq).mp heq
  exact h.apart p hp q hq hps hqs hne hthird hleft

/-- A new event has no peers. -/
theorem numbered_init (hs : (vpnEvent newID).init s) : s.Numbered newID := by
  obtain ⟨hpanicked, ⟨createdBy, vpn, capacity, ip, store, -, -, hip, hev⟩, hteams⟩ := hs
  have hlength : s.ev.ipAddrs.length = 1012 := by
    rw [hev, newEvent, eventVPNIPs_eq, length_addresses]
  refine ⟨hpanicked, ⟨ip, hip, by rw [hev]; rfl⟩, ?_, ?_, ?_, ?_⟩
  · rw [hlength, hev, newEvent, eventVPNIPs_eq]
  · simp [hev, newEvent]
  · rintro t (ht | ⟨p, hp, -⟩)
    · exact hteams t ht
    · simp [hev, newEvent] at hp
  · simp [hev, newEvent]

/-- A new team has no peers. -/
theorem Numbered.signup (hid : Function.Injective newID) (h : s.Numbered newID) (name : String)
    (db : Option String) : (s.signup (newID s.issued) name db).Numbered newID := by
  obtain ⟨es, hev, hteams⟩ := Event.signup_eq s.ev (newTeam (newID s.issued) name) db
  rw [PeerState.signup, hev]
  have hnew : ∀ t, t ∈ es.teams → t ∈ s.ev.store.teams ∨ t = newID s.issued := by
    intro t ht
    obtain ⟨team, hteam⟩ := GoMap.mem_iff_get?.mp ht
    exact (hteams t).imp (fun heq => GoMap.mem_iff_get?.mpr ⟨team, heq ▸ hteam⟩) And.left
  -- The peers belong to ids that were issued before, and the new id is another one.
  have hold : ∀ p ∈ s.ev.peers, p.team ∈ es.teams → p.team ∈ s.ev.store.teams := by
    intro p hp hmem
    refine (hnew p.team hmem).resolve_right fun heq => ?_
    obtain ⟨k, hk, hkey⟩ := h.issued p.team (.inr ⟨p, hp, rfl⟩)
    have := hid (hkey.trans heq)
    omega
  refine ⟨h.alive, h.address, h.ipAddrs, h.peers, ?_, ?_⟩
  · have hlater : ∀ t, (∃ k < s.issued, newID k = t) → ∃ k < s.issued + 1, newID k = t :=
      fun t ⟨k, hk, heq⟩ => ⟨k, Nat.lt_succ_of_lt hk, heq⟩
    rintro t (ht | ht)
    · rcases hnew t ht with hmem | rfl
      · exact hlater t (h.issued t (.inl hmem))
      · exact ⟨s.issued, Nat.lt_succ_self _, rfl⟩
    · exact hlater t (h.issued t (.inr ht))
  · intro p hp q hq hps hqs
    exact h.apart p hp q hq (hold p hp hps) (hold q hq hqs)

/-- The peers of a deleted team stay, and do not count any more. -/
theorem Numbered.deleteTeam (h : s.Numbered newID) (id : String) (db : Option String) :
    Numbered newID { s with ev := (s.ev.deleteTeam id db).1 } := by
  rw [Event.deleteTeam_eq]
  refine ⟨h.alive, h.address, h.ipAddrs, h.peers, ?_, ?_⟩
  · simp only [TeamStore.mem_deleteTeam]
    exact fun t ht => h.issued t (ht.imp_left And.right)
  · simp only [TeamStore.mem_deleteTeam]
    exact fun p hp q hq hps hqs => h.apart p hp q hq hps.2 hqs.2

/-- The peers of a supplied call have addresses of their own. -/
theorem Numbered.createVPNConn (h : s.Numbered newID) {k : Nat} (hk : k < s.issued)
    {subnet : String} {calls : VPNCalls} (hok : s.Supplied newID (.createVPNConn k subnet calls)) :
    (s.createVPNConn (newID k) subnet calls).Numbered newID := by
  obtain ⟨hpops, hcollide⟩ := hok
  obtain ⟨hadded, herr⟩ := createVPNConn_spec (t := newID k) h.ipAddrs subnet hpops
  have hnew : ∀ p ∈ (s.ev.createVPNConn (newID k) subnet calls).1.peers,
      p ∈ s.ev.peers ∨ ∃ x ∈ calls.added s.ev.ipAddrs.length, p = s.ev.newPeer (newID k) x := by
    intro p hp
    rw [hadded.peers, List.mem_append, List.mem_map] at hp
    exact hp.imp_right fun ⟨x, hx, heq⟩ => ⟨x, hx, heq.symm⟩
  have hlength : ∀ x ∈ calls.added s.ev.ipAddrs.length,
      s.ev.ipAddrs.length - calls.pops < x.2 ∧ x.2 ≤ s.ev.ipAddrs.length :=
    fun x hx => VPNCalls.length_mem_added hpops hx
  have hpeer : ∀ t x, (s.ev.createVPNConn (newID k) subnet calls).1.newPeer t x =
      s.ev.newPeer t x := by
    intro t x
    simp only [Event.newPeer, Event.peerIP, hadded.vpnAddress]
  rw [PeerState.createVPNConn]
  -- In the order of the fields: no panic, the address, the free ones, the peers, the ids, and that
  -- peers are apart.
  refine ⟨?_, ?_, ?_, ?_, ?_, ?_⟩
  · simp [h.alive, herr]
  · simpa only [hadded.vpnAddress] using h.address
  · rw [hadded.ipAddrs, length_addresses]
  · intro p hp
    simp only [hadded.ipAddrs, length_addresses, hpeer]
    rcases hnew p hp with hp | ⟨x, hx, rfl⟩
    · obtain ⟨hlt, heq⟩ := h.peers p hp
      exact ⟨by omega, heq⟩
    · exact ⟨(hlength x hx).1, rfl⟩
  · rintro t (ht | ⟨p, hp, rfl⟩)
    · exact h.issued t (.inl (hadded.store ▸ ht))
    · rcases hnew p hp with hp | ⟨x, hx, rfl⟩
      · exact h.issued p.team (.inr ⟨p, hp, rfl⟩)
      · -- The new peers belong to the team of the call.
        exact ⟨k, hk, rfl⟩
  · -- An old and a new peer differ because the call is supplied.
    have hmixed : ∀ p ∈ s.ev.peers, ∀ x ∈ calls.added s.ev.ipAddrs.length,
        p.team ∈ s.ev.store.teams → newID k ∈ s.ev.store.teams → p.team ≠ newID k →
          p.third = x.1 → p.left % 253 ≠ x.2 % 253 := by
      intro p hp x hx hps hks hne hthird
      have hdiff := hcollide hks x hx p hp hps hne hthird
      have hlt := (h.peers p hp).1
      have hle := (hlength x hx).2
      omega
    simp only [hadded.store]
    intro p hp q hq hps hqs hne hthird
    rcases hnew p hp with hp | ⟨x, hx, rfl⟩ <;> rcases hnew q hq with hq | ⟨y, hy, rfl⟩
    · exact h.apart p hp q hq hps hqs hne hthird
    · exact hmixed p hp y hy hps hqs hne hthird
    · exact (hmixed q hq x hx hqs hps hne.symm hthird.symm).symm
    · exact absurd rfl hne

/-- A supplied step numbers its new peers. -/
theorem numbered_step (hid : Function.Injective newID) (h : s.Numbered newID)
    (hok : s.Supplied newID a) (hs : (vpnEvent newID).step s a = some s') :
    s'.Numbered newID := by
  cases a with
  | signup name db =>
    cases hs
    exact h.signup hid name db
  | deleteTeam id db =>
    cases hs
    exact h.deleteTeam id db
  | createVPNConn k subnet calls =>
    simp only [vpnEvent] at hs
    split at hs
    · next hk =>
      cases hs
      exact h.createVPNConn hk hok
    · cases hs

/-- A call that is not supplied panics, or gives a team the address of another team. -/
theorem not_distinct_step (h : s.Numbered newID) (hnot : ¬ s.Supplied newID a)
    (hs : (vpnEvent newID).step s a = some s') : ¬ s'.Distinct := by
  cases a with
  | createVPNConn k subnet calls =>
    simp only [vpnEvent] at hs
    split at hs
    · cases hs
      intro hdistinct
      rw [PeerState.createVPNConn] at hdistinct
      by_cases hpops : calls.pops ≤ s.ev.ipAddrs.length
      · -- The new peer has the octets of an old peer of another team.
        simp only [Supplied, hpops, true_and, not_forall, not_not] at hnot
        obtain ⟨hks, x, hx, p, hp, hps, hne, hthird, hdiff⟩ := hnot
        obtain ⟨hadded, -⟩ := createVPNConn_spec (t := newID k) h.ipAddrs subnet hpops
        have hp' : p ∈ (s.ev.createVPNConn (newID k) subnet calls).1.peers := by
          rw [hadded.peers]
          exact List.mem_append_left _ hp
        have hx' : s.ev.newPeer (newID k) x ∈
            (s.ev.createVPNConn (newID k) subnet calls).1.peers := by
          rw [hadded.peers]
          exact List.mem_append_right _ (List.mem_map_of_mem hx)
        refine hdistinct.distinct p hp' _ hx' (by rwa [hadded.store]) (by rwa [hadded.store])
          hne ?_
        obtain ⟨hlt, heq⟩ := h.peers p hp
        have hlength := VPNCalls.length_mem_added hpops hx
        have hleft : (p.left - 1) % 253 = (x.2 - 1) % 253 := by omega
        rw [congrArg Peer.allowedIPs heq]
        simp only [Event.newPeer, hthird, hleft]
      · -- The list is too short.
        have hpanic := createVPNConn_panics (t := newID k) h.ipAddrs subnet (not_le.mp hpops)
        have halive := hdistinct.alive
        simp [hpanic] at halive
    · cases hs
  | _ => exact absurd trivial hnot

/-- What `m` equal calls leave of the addresses. -/
theorem run_replicate (newID : Nat → String) (k : Nat) (subnet : String) (calls : VPNCalls) :
    ∀ (m n : Nat) (s : PeerState), s.ev.ipAddrs = addresses n → k < s.issued →
      m * calls.pops ≤ n → ∃ s', (vpnEvent newID).run s
          (List.replicate m (.createVPNConn k subnet calls)) = some s' ∧
        s'.ev.ipAddrs = addresses (n - m * calls.pops) ∧ s'.issued = s.issued := by
  intro m
  induction m with
  | zero =>
    intro n s hev _ _
    exact ⟨s, rfl, by simpa using hev, rfl⟩
  | succ m ih =>
    intro n s hev hk hle
    rw [Nat.add_mul, Nat.one_mul] at hle ⊢
    have hpops : calls.pops ≤ n := by omega
    obtain ⟨hadded, -⟩ := createVPNConn_spec (t := newID k) hev subnet hpops
    obtain ⟨s', hrun, haddrs, hissued⟩ := ih (n - calls.pops)
      (s.createVPNConn (newID k) subnet calls) hadded.ipAddrs hk (by omega)
    refine ⟨s', ?_, ?_, hissued⟩
    · rw [List.replicate_succ, Machine.run_cons]
      simp only [vpnEvent, hk, if_true, Option.bind_some]
      exact hrun
    · rw [haddrs, Nat.sub_sub, Nat.add_comm]

/-- The list is a multiple of four long, and each peer has the third octet that belongs to the
length of the list modulo four. -/
structure Aligned (s : PeerState) : Prop where
  ipAddrs : s.ev.ipAddrs.length % 4 = 0
  max : s.ev.ipAddrs.length ≤ 1012
  peers : ∀ p ∈ s.ev.peers, p.left ≤ 1012 ∧ (p.left + p.third) % 4 = 0

/-- The list of a new event is whole. -/
theorem aligned_init (hs : (vpnEvent newID).init s) : s.Aligned := by
  obtain ⟨-, ⟨createdBy, vpn, capacity, ip, store, -, -, -, hev⟩, -⟩ := hs
  have hlength : s.ev.ipAddrs.length = 1012 := by
    rw [hev, newEvent, eventVPNIPs_eq, length_addresses]
  exact ⟨by rw [hlength], by rw [hlength], by simp [hev, newEvent]⟩

/-- A call that succeeds takes four addresses and adds one peer for each third octet. -/
theorem added_of_succeeds {calls : VPNCalls} (hcalls : calls.succeeds = true) (n : Nat) :
    calls.pops = 4 ∧
      calls.added n = [(240, n), (241, n - 1), (242, n - 1 - 1), (243, n - 1 - 1 - 1)] := by
  simp only [VPNCalls.succeeds, Event.thirdOctets, List.all_cons, List.all_nil, Bool.and_eq_true,
    Option.isNone_iff_eq_none, and_true] at hcalls
  obtain ⟨hkey, h240, h241, h242, h243⟩ := hcalls
  simp [VPNCalls.pops, VPNCalls.added, Event.thirdOctets, Guacamole.pops, Guacamole.added, hkey,
    h240, h241, h242, h243]

/-- Four and 253 are coprime: aligned peers of one third octet that agree modulo 253 are 1012
addresses apart. -/
theorem Aligned.supplied (h : s.Aligned) (hnumbered : s.Numbered newID) {k : Nat}
    {subnet : String} {calls : VPNCalls} (hcalls : calls.succeeds = true)
    (hle : 4 ≤ s.ev.ipAddrs.length) : s.Supplied newID (.createVPNConn k subnet calls) := by
  obtain ⟨hpops, hadded⟩ := added_of_succeeds hcalls s.ev.ipAddrs.length
  refine ⟨hpops ▸ hle, fun _ x hx p hp _ _ hthird => ?_⟩
  have hlength := h.ipAddrs
  obtain ⟨hleft, hmod⟩ := h.peers p hp
  have hlt := (hnumbered.peers p hp).1
  simp only [hadded, List.mem_cons, List.not_mem_nil, or_false] at hx
  -- One case for each third octet.
  rcases hx with rfl | rfl | rfl | rfl <;> simp only at hthird ⊢ <;> omega

/-- What a successful step does to the alignment and to the number of addresses. -/
theorem aligned_step (hnumbered : s.Numbered newID) (h : s.Aligned)
    (ha : a.succeeds = true) (hle : a.connects = true → 4 ≤ s.ev.ipAddrs.length)
    (hs : (vpnEvent newID).step s a = some s') :
    s'.Aligned ∧ s'.ev.ipAddrs.length + (if a.connects then 4 else 0) = s.ev.ipAddrs.length := by
  cases a with
  | signup name db =>
    cases hs
    obtain ⟨es, hev, -⟩ := Event.signup_eq s.ev (newTeam (newID s.issued) name) db
    rw [PeerState.signup, hev]
    exact ⟨⟨h.ipAddrs, h.max, h.peers⟩, rfl⟩
  -- A deletion takes the team out of the store; its peers and their addresses stay.
  | deleteTeam id db =>
    cases hs
    rw [Event.deleteTeam_eq]
    exact ⟨⟨h.ipAddrs, h.max, h.peers⟩, rfl⟩
  | createVPNConn k subnet calls =>
    simp only [vpnEvent] at hs
    split at hs
    · cases hs
      have hle := hle rfl
      obtain ⟨hpops, hnew⟩ := added_of_succeeds ha s.ev.ipAddrs.length
      obtain ⟨hadded, -⟩ :=
        createVPNConn_spec (t := newID k) hnumbered.ipAddrs subnet (hpops ▸ hle)
      have hlength := h.ipAddrs
      have hmax := h.max
      rw [PeerState.createVPNConn]
      refine ⟨⟨?_, ?_, ?_⟩, ?_⟩
      · simp only [hadded.ipAddrs, length_addresses, hpops]
        omega
      · simp only [hadded.ipAddrs, length_addresses]
        omega
      · intro p hp
        rw [hadded.peers, hnew, List.mem_append] at hp
        rcases hp with hp | hp
        · exact h.peers p hp
        -- The new peers take four addresses in a row, in the order of the third octets.
        · simp only [List.map_cons, List.map_nil, List.mem_cons, List.not_mem_nil, or_false] at hp
          rcases hp with rfl | rfl | rfl | rfl <;> simp only [Event.newPeer] <;> omega
      · simp only [hadded.ipAddrs, length_addresses, hpops, PeerAction.connects, if_true]
        omega
    · cases hs

/-- The first 253 calls are supplied when they all succeed, whoever signs up or is deleted in
between. -/
theorem supplied_of_succeeds (hid : Function.Injective newID) (hs : (vpnEvent newID).init s)
    {as : List PeerAction} (hsucceed : ∀ a ∈ as, a.succeeds = true)
    (hcount : as.countP PeerAction.connects ≤ 253) :
    (vpnEvent newID).AllSteps (Supplied newID) s as := by
  have hmain : ∀ (as : List PeerAction) (s : PeerState), s.Numbered newID → s.Aligned →
      (∀ a ∈ as, a.succeeds = true) → 4 * as.countP PeerAction.connects ≤ s.ev.ipAddrs.length →
      (vpnEvent newID).AllSteps (Supplied newID) s as := by
    intro as
    induction as with
    | nil => exact fun _ _ _ _ _ => trivial
    | cons a as ih =>
      intro s hnumbered haligned hsucceed hcount s' hs'
      rw [List.countP_cons] at hcount
      have hle : a.connects = true → 4 ≤ s.ev.ipAddrs.length := by
        intro ha
        rw [if_pos ha] at hcount
        omega
      have ha := hsucceed a (by simp)
      have hok : s.Supplied newID a := by
        cases a with
        | createVPNConn k subnet calls => exact haligned.supplied hnumbered ha (hle rfl)
        | _ => trivial
      obtain ⟨haligned', hlength⟩ := aligned_step hnumbered haligned ha hle hs'
      refine ⟨hok, ih s' (numbered_step hid hnumbered hok hs') haligned'
        (fun b hb => hsucceed b (by simp [hb])) ?_⟩
      by_cases hconnects : a.connects = true
      · rw [if_pos hconnects] at hcount hlength
        omega
      · rw [if_neg hconnects] at hcount hlength
        omega
  refine hmain as s (numbered_init hs) (aligned_init hs) hsucceed ?_
  obtain ⟨-, ⟨createdBy, vpn, capacity, ip, store, -, -, -, hev⟩, -⟩ := hs
  rw [hev, newEvent, eventVPNIPs_eq, length_addresses]
  omega

end PeerState

/-- In every state of a run the addresses suffice and are distinct if and only if each call of
`CreateVPNConn` finds enough addresses, and adds no peer whose third octet another team of the
store used when the list was a multiple of 253 longer. -/
theorem vpnEvent_distinct_iff (newID : Nat → String) (hid : Function.Injective newID)
    (s : PeerState) (hs : (vpnEvent newID).init s) (as : List PeerAction) :
    (vpnEvent newID).AllStates PeerState.Distinct s as ↔
      (vpnEvent newID).AllSteps (PeerState.Supplied newID) s as :=
  Machine.allStates_iff_allSteps (A := fun _ _ => True) (fun _ h => h.distinct)
    (fun _ _ _ h _ hok hs => PeerState.numbered_step hid h hok hs)
    (fun _ _ _ h _ hnot hs => PeerState.not_distinct_step h hnot hs)
    (PeerState.numbered_init hs) Machine.allSteps_true

/-- A VPN event for 253 teams, whose teams have the ids `""`, `"a"` and so on. -/
def newPeerState : PeerState where
  ev := newEvent "tkp" onlyVPN 253 ("25.43" ++ ".240.1/22") .new
  issued := 0
  panicked := false

/-- A new event without teams may start. -/
theorem newPeerState_init (newID : Nat → String) : (vpnEvent newID).init newPeerState :=
  ⟨rfl, ⟨_, _, _, "25.43", _, .inl rfl, by decide, by decide, rfl⟩,
    by simp [newPeerState, newEvent, TeamStore.new]⟩

/-- The request `GetPrivateKey` for the last peer has the given outcome, and all other requests
succeed. -/
def peerCalls (last : Option String) : VPNCalls where
  serverKey := none
  peer i := ⟨none, none, none, none, if i = 243 then last else none⟩
  rejectRule := true
  stateRule := true
  acceptRule := true

/-- Two teams of the store get their peers, the second one after a failure. -/
theorem vpnEvent_distinct_retry :
    (vpnEvent GoStrings.letters).AllStates PeerState.Distinct newPeerState
      [.signup "kali" none, .signup "parrot" none,
        .createVPNConn 0 "77.179.0" (peerCalls none),
        .createVPNConn 1 "77.179.1" (peerCalls (some "unavailable")),
        .createVPNConn 1 "77.179.1" (peerCalls none)] := by
  refine (vpnEvent_distinct_iff _ GoStrings.letters_injective _ (newPeerState_init _) _).mpr ?_
  decide +kernel

/-- A call for the team `""` whose last request fails. -/
def retry : PeerAction := .createVPNConn 0 "77.179.0" (peerCalls (some "unavailable"))

/-- The only team of an event tries 254 times, and its last call finds no address. -/
theorem vpnEvent_not_distinct :
    ¬ ∀ (newID : Nat → String) (s : PeerState), Function.Injective newID →
      (vpnEvent newID).init s → ∀ as : List PeerAction,
        (vpnEvent newID).AllStates PeerState.Distinct s as := by
  intro h
  have hall := Machine.allStates_iff.mp (h GoStrings.letters newPeerState
    GoStrings.letters_injective (newPeerState_init _)
    (.signup "kali" none :: (List.replicate 253 retry ++ [retry])))
  obtain ⟨s, hsignup, hissued, haddrs⟩ : ∃ s,
      (vpnEvent GoStrings.letters).step newPeerState (.signup "kali" none) = some s ∧
        s.issued = 1 ∧ s.ev.ipAddrs = addresses 1012 :=
    ⟨_, rfl, rfl, eventVPNIPs_eq⟩
  have hpops : (peerCalls (some "unavailable")).pops = 4 := by decide
  obtain ⟨s', hrun, haddrs', hissued'⟩ := PeerState.run_replicate GoStrings.letters 0 "77.179.0"
    (peerCalls (some "unavailable")) 253 1012 s haddrs (by omega) (by omega)
  rw [hpops] at haddrs'
  have hpanic := createVPNConn_panics (t := GoStrings.letters 0) haddrs' "77.179.0"
    (hpops ▸ by decide : _ < (peerCalls (some "unavailable")).pops)
  have halive := (hall _ (s'.createVPNConn (GoStrings.letters 0) "77.179.0"
    (peerCalls (some "unavailable"))) List.prefix_rfl ?_).alive
  · simp [PeerState.createVPNConn, hpanic] at halive
  · have hteam : 0 < s'.issued := by omega
    rw [Machine.run_cons, hsignup, Option.bind_some, Machine.run_append, retry, hrun,
      Option.bind_some, Machine.run_cons]
    simp [vpnEvent, hteam]

end Haaukins.Guacamole
