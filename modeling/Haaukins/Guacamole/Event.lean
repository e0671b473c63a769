import Haaukins.Lib.GoStrings
import Haaukins.Store.Team
import Haaukins.Guacamole.IPTables

/-!
# `Haaukins.Guacamole.Event`: one event (`svcs/guacamole/event.go`)

The state of an event and the functions that give a lab to a team and delete a team. A lab is
the number that the hub gave it, and its subnet is an argument of the functions. What the
WireGuard service, Guacamole, `iptables` and the store service answer is an argument too.

* `AssignLab` is `connect`, its calls to other services, followed by `recordLab`.
* `pop` is `none` where the source indexes an empty slice. The server recovers from this
  panic, so the request ends and the event goes on.
* `peers` records the calls of `AddPeer` that succeeded. No function reads it.
* Texts that no function reads are left out: keys, client configurations, hosts and flags.
-/

set_option autoImplicit false

namespace Haaukins.Guacamole

open Store

/-- `docker.NoVPN`, `docker.OnlyVPN` and `docker.VPNBrowser`. -/
def noVPN : Int := 0

@[inherit_doc noVPN]
def onlyVPN : Int := 1

@[inherit_doc noVPN]
def vpnBrowser : Int := 2

/-- `RdpConfErr`. -/
def rdpConfErr : String := "error too few rdp connections"

/-- The error of `handleSignupPOST` for a full event. -/
def capacityReachedErr : String := "capacity reached for this event"

/-- How a call to another service, or `pop`, ends `AssignLab`. -/
inductive ConnErr where
  | failed (err : String)
  /-- The index of `pop` is out of range. -/
  | panicked
  deriving DecidableEq, Repr

/-- `ipRules`. -/
structure IPRules where
  labsubnet : String
  vpnIps : List String
  deriving DecidableEq, Repr

/-- A successful `AddPeer`: the team, the third octet and the text of `AllowedIPs`. `left` is
the number of addresses in `ipAddrs` before the `pop` for this peer. -/
structure Peer where
  team : String
  third : Nat
  left : Nat
  allowedIPs : String
  deriving DecidableEq, Repr

/-- `event`, with the fields of its configuration that the functions read. -/
structure Event where
  createdBy : String
  onlyVPN : Int
  capacity : Int
  vpnAddress : String
  store : TeamStore
  labs : GoMap String Nat
  ipRules : GoMap String IPRules
  ipAddrs : List Nat
  chain : Chain
  peers : List Peer

/-- `makeRange`. -/
def makeRange (min max : Nat) : List Nat := (List.range (max - min + 1)).map (min + ·)

/-- The value of `ipAddrs` in `NewEvent`: four copies of the range from `2` to `254`. -/
def eventVPNIPs : List Nat := (List.replicate 4 (makeRange 2 254)).flatten

/-- `NewEvent`. -/
def newEvent (createdBy : String) (onlyVPN capacity : Int) (vpnAddress : String)
    (store : TeamStore) : Event where
  createdBy := createdBy
  onlyVPN := onlyVPN
  capacity := capacity
  vpnAddress := vpnAddress
  store := store
  labs := ∅
  ipRules := ∅
  ipAddrs := eventVPNIPs
  chain := []
  peers := []

/-- `pop`: the last address and the addresses before it. -/
def pop (alist : List Nat) : Option (Nat × List Nat) :=
  alist.getLast?.map fun rv => (rv, alist.dropLast)

/-- The errors of the calls that `CreateVPNConn` makes for one peer. -/
structure PeerCalls where
  genPrivateKey : Option String
  genPublicKey : Option String
  getPublicKey : Option String
  addPeer : Option String
  getPrivateKey : Option String

/-- What the other services answer to `CreateVPNConn`: the error for the key of the server,
the errors for the peer of each third octet, and whether each `iptables` command succeeds. -/
structure VPNCalls where
  serverKey : Option String
  peer : Nat → PeerCalls
  rejectRule : Bool
  stateRule : Bool
  acceptRule : Bool

/-- What the other services answer to `createGuacConn`. `rdpConns` has the error of
`CreateRDPConn` for each port of `lab.RdpConnPorts()`. -/
structure GuacCalls where
  createUser : Option String
  hostIP : Option String
  rdpConns : List (Option String)

/-- What the other services answer to `AssignLab`. -/
structure AssignCalls where
  guac : GuacCalls
  vpn : VPNCalls

/-- The error of the first failing call before `AddPeer`. -/
def PeerCalls.keys (calls : PeerCalls) : Option String :=
  calls.genPrivateKey <|> calls.genPublicKey <|> calls.getPublicKey

/-- `AddPeer` is called and succeeds. -/
def PeerCalls.adds (calls : PeerCalls) : Bool := calls.keys.isNone && calls.addPeer.isNone

/-- All calls for the peer succeed. -/
def PeerCalls.succeeds (calls : PeerCalls) : Bool := calls.adds && calls.getPrivateKey.isNone

/-- `createGuacConn`. It changes no field of the model. -/
def createGuacConn (calls : GuacCalls) : Option String :=
  if calls.rdpConns.length = 0 then some rdpConfErr
  else calls.createUser <|> calls.hostIP <|> calls.rdpConns.findSome? id

namespace Event

variable (ev : Event)

/-- `peerIP`, made from the address of the event. -/
def peerIP (i ipAddr : Nat) : String :=
  GoStrings.replace ev.vpnAddress "240.1/22" (i.repr ++ "." ++ ipAddr.repr ++ "/32") 2

/-- The body of the loop of `CreateVPNConn` for the third octet `i`. -/
def createPeer (teamID : String) (i : Nat) (calls : PeerCalls) : Event × Except ConnErr String :=
  match pop ev.ipAddrs with
  -- `alist[f-1]` of an empty slice.
  | none => (ev, .error .panicked)
  | some (ipAddr, rest) =>
    -- The address is taken before the calls, and no error gives it back.
    let left := ev.ipAddrs.length
    let ev := { ev with ipAddrs := rest }
    match calls.keys with
    | some err => (ev, .error (.failed err))
    | none =>
      let peerIP := ev.peerIP i ipAddr
      match calls.addPeer with
      | some err => (ev, .error (.failed err))
      | none =>
        let ev := { ev with peers := ev.peers ++ [⟨teamID, i, left, peerIP⟩] }
        -- The peer stays when this call fails.
        match calls.getPrivateKey with
        | some err => (ev, .error (.failed err))
        | none => (ev, .ok peerIP)

/-- The loop of `CreateVPNConn`, with the list `vpnIPs` that it collects. -/
def createPeers (teamID : String) (calls : Nat → PeerCalls) :
    List Nat → Event → Event × Except ConnErr (List String)
  | [], ev => (ev, .ok [])
  | i :: is, ev =>
    match ev.createPeer teamID i (calls i) with
    | (ev, .error err) => (ev, .error err)
    | (ev, .ok peerIP) =>
      match createPeers teamID calls is ev with
      | (ev, .error err) => (ev, .error err)
      | (ev, .ok vpnIPs) => (ev, .ok (peerIP :: vpnIPs))

/-- `lowBound := 240` up to `upperBound := 244`. -/
def thirdOctets : List Nat := [240, 241, 242, 243]

/-- The addresses at the end of `ipAddrs`, in the order in which the loop takes them for the
third octets `is`. -/
def nextPeerIPs (is : List Nat) : List String := List.zipWith ev.peerIP is ev.ipAddrs.reverse

end Event

/-- All requests of `CreateVPNConn` to the WireGuard service succeed. -/
def VPNCalls.succeeds (calls : VPNCalls) : Bool :=
  calls.serverKey.isNone && Event.thirdOctets.all fun i => (calls.peer i).succeeds

/-- Each call to another service succeeds. -/
def allSucceed : AssignCalls where
  guac := { createUser := none, hostIP := none, rdpConns := [none] }
  vpn :=
    { serverKey := none
      peer := fun _ => ⟨none, none, none, none, none⟩
      rejectRule := true
      stateRule := true
      acceptRule := true }

/-- All calls of `AssignLab` succeed, and `ipAddrs` has an address for each peer that it
adds. -/
def AssignCalls.Succeeds (calls : AssignCalls) (ev : Event) : Prop :=
  (ev.onlyVPN = noVPN ∨ ev.onlyVPN = vpnBrowser → createGuacConn calls.guac = none) ∧
    (ev.onlyVPN ≠ noVPN → calls.vpn.succeeds = true ∧ 4 ≤ ev.ipAddrs.length)

instance (calls : AssignCalls) (ev : Event) : Decidable (calls.Succeeds ev) := by
  unfold AssignCalls.Succeeds
  infer_instance

namespace Event

variable (ev : Event)

/-- The rules that `CreateVPNConn` makes for a team. -/
def createRules (teamID labSubnet : String) (vpnIPs : List String) (calls : VPNCalls) : Event :=
  { ev with
      chain := ((ev.chain.createRejectRule labSubnet calls.rejectRule).createStateRule labSubnet
        calls.stateRule).createAcceptRule labSubnet vpnIPs calls.acceptRule
      ipRules := ev.ipRules.set teamID { labsubnet := labSubnet, vpnIps := vpnIPs } }

/-- `CreateVPNConn` for a team and the subnet of its lab. -/
def createVPNConn (teamID subnet : String) (calls : VPNCalls) : Event × Option ConnErr :=
  let labSubnet := subnet ++ "/24"
  match calls.serverKey with
  | some err => (ev, some (.failed err))
  | none =>
    match createPeers teamID calls.peer thirdOctets ev with
    | (ev, .error err) => (ev, some err)
    | (ev, .ok vpnIPs) => (ev.createRules teamID labSubnet (vpnIPs ++ [labSubnet]) calls, none)

/-- `AssignLab` up to `ev.labs[t.ID()] = lab`. -/
def connect (teamID subnet : String) (calls : AssignCalls) : Event × Option ConnErr :=
  if ev.onlyVPN = noVPN then (ev, (createGuacConn calls.guac).map .failed)
  else
    -- Only an event with both ways in has a Guacamole connection besides the VPN.
    match if ev.onlyVPN = vpnBrowser then createGuacConn calls.guac else none with
    | some err => (ev, some (.failed err))
    | none => ev.createVPNConn teamID subnet calls.vpn

/-- `ev.labs[t.ID()] = lab`. -/
def recordLab (teamID : String) (lab : Nat) : Event :=
  { ev with labs := ev.labs.set teamID lab }

/-- `t.CorrectedAssignedLab()`. -/
def correctedAssignedLab (teamID : String) : Event :=
  { ev with store := ev.store.correctedAssignedLab teamID }

/-- `AssignLab`. -/
def assignLab (teamID : String) (lab : Nat) (subnet : String) (calls : AssignCalls) :
    Event × Option ConnErr :=
  match ev.connect teamID subnet calls with
  | (ev, some err) => (ev, some err)
  | (ev, none) => ((ev.recordLab teamID lab).correctedAssignedLab teamID, none)

/-- `GetLabByTeam`. -/
def getLabByTeam (teamId : String) : Option Nat := ev.labs.get? teamId

/-- `DeleteTeam`, where `db` is the error of the store service. -/
def deleteTeam (id : String) (db : Option String) : Event × Option String :=
  match ev.store.getTeamByID id with
  | .error err => (ev, some err)
  | .ok t =>
    let (es, err) := ev.store.deleteTeam t.id db
    ({ ev with store := es }, err)

/-- `handleSignupPOST` up to its hook, for a well-formed request that may sign up. -/
def signup (t : Team) (db : Option String) : Event × Option String :=
  if (ev.store.teams.size : Int) = ev.capacity then (ev, some capacityReachedErr)
  else
    let (es, err) := ev.store.saveTeam t db
    ({ ev with store := es }, err)

/-- `removeIPTableRules`, where the answers to the three commands belong to the team. -/
def removeIPTableRules (ok : String → Bool × Bool × Bool) : Event :=
  ev.ipRules.entries.foldl
    (fun ev r =>
      { ev with
          chain := ((ev.chain.removeRejectRule r.2.labsubnet (ok r.1).1).removeStateRule
            r.2.labsubnet (ok r.1).2.1).removeAcceptRule r.2.labsubnet r.2.vpnIps (ok r.1).2.2 })
    ev

/-! ### What the functions change -/

variable {ev} {t id subnet : String}

/-- The peers that an event gains, and the addresses that it has left. -/
def withPeers (ev : Event) (ipAddrs : List Nat) (ps : List Peer) : Event :=
  { ev with ipAddrs := ipAddrs, peers := ev.peers ++ ps }

/-- Peers are added one after the other. -/
theorem withPeers_withPeers (addrs addrs' : List Nat) (ps ps' : List Peer) :
    (ev.withPeers addrs ps).withPeers addrs' ps' = ev.withPeers addrs' (ps ++ ps') := by
  simp [withPeers]

/-- An empty list ends the process. -/
theorem createPeer_of_empty (h : pop ev.ipAddrs = none) (t : String) (i : Nat)
    (calls : PeerCalls) : ev.createPeer t i calls = (ev, .error .panicked) := by
  simp [createPeer, h]

/-- A peer with the last address of the list. -/
theorem createPeer_of_succeeds {ipAddr : Nat} {rest : List Nat}
    (h : pop ev.ipAddrs = some (ipAddr, rest)) (t : String) (i : Nat) {calls : PeerCalls}
    (hcalls : calls.succeeds = true) :
    ev.createPeer t i calls =
      (ev.withPeers rest [⟨t, i, ev.ipAddrs.length, ev.peerIP i ipAddr⟩],
        .ok (ev.peerIP i ipAddr)) := by
  simp only [PeerCalls.succeeds, PeerCalls.adds, Bool.and_eq_true, Option.isNone_iff_eq_none]
    at hcalls
  simp [createPeer, h, hcalls, withPeers, peerIP]

/-- A failure uses the address up, and may have added the peer. -/
theorem createPeer_of_fails {ipAddr : Nat} {rest : List Nat}
    (h : pop ev.ipAddrs = some (ipAddr, rest)) (t : String) (i : Nat) {calls : PeerCalls}
    (hcalls : ¬ calls.succeeds = true) :
    ∃ err, ev.createPeer t i calls =
      (ev.withPeers rest
        (if calls.adds then [⟨t, i, ev.ipAddrs.length, ev.peerIP i ipAddr⟩] else []),
        .error (.failed err)) := by
  simp only [createPeer, h]
  cases hkeys : calls.keys with
  | some err => simp [PeerCalls.adds, hkeys, withPeers]
  | none =>
    cases hadd : calls.addPeer with
    | some err => simp [PeerCalls.adds, hkeys, hadd, withPeers]
    | none =>
      cases hget : calls.getPrivateKey with
      | some err => simp [PeerCalls.adds, hkeys, hadd, withPeers, peerIP]
      | none => simp [PeerCalls.succeeds, PeerCalls.adds, hkeys, hadd, hget] at hcalls

/-- A peer changes the list of addresses and the peers, and nothing else. -/
theorem createPeer_cases (ev : Event) (t : String) (i : Nat) (calls : PeerCalls) :
    ∃ addrs ps, (ev.createPeer t i calls).1 = ev.withPeers addrs ps ∧
      (∀ p ∈ ps, p.team = t) ∧
      ∀ ip, (ev.createPeer t i calls).2 = .ok ip → ps.map Peer.allowedIPs = [ip] := by
  cases hpop : pop ev.ipAddrs with
  | none =>
    rw [createPeer_of_empty hpop]
    exact ⟨ev.ipAddrs, [], by simp [withPeers]⟩
  | some popped =>
    by_cases hcalls : calls.succeeds = true
    · rw [createPeer_of_succeeds hpop t i hcalls]
      exact ⟨_, _, rfl, by simp, by simp⟩
    · obtain ⟨err, heq⟩ := createPeer_of_fails hpop t i hcalls
      rw [heq]
      refine ⟨_, _, rfl, ?_, by simp⟩
      split <;> simp

/-- When the loop ends, it returns the last addresses of `ipAddrs`. -/
theorem createPeers_ips (t : String) (calls : Nat → PeerCalls) :
    ∀ (is : List Nat) (ev : Event) (ips : List String),
      (createPeers t calls is ev).2 = .ok ips → ips = ev.nextPeerIPs is := by
  intro is
  induction is with
  | nil =>
    intro ev ips h
    cases h
    simp [nextPeerIPs]
  | cons i is ih =>
    intro ev ips h
    unfold createPeers at h
    cases hpop : pop ev.ipAddrs with
    -- Without an address the loop ends with a panic, not with addresses.
    | none =>
      rw [createPeer_of_empty hpop] at h
      cases h
    | some popped =>
      by_cases hcalls : (calls i).succeeds = true
      · -- The address that `pop` takes is the first of the reversed list.
        have haddrs : ev.ipAddrs.reverse = popped.1 :: popped.2.reverse := by
          obtain ⟨x, hx, rfl⟩ := Option.map_eq_some_iff.mp hpop
          obtain ⟨rest, hrest⟩ := List.getLast?_eq_some_iff.mp hx
          simp [hrest]
        rw [createPeer_of_succeeds hpop t i hcalls] at h
        dsimp only at h
        split at h
        · cases h
        · next hvpn =>
          cases h
          rw [ih _ _ (congrArg Prod.snd hvpn)]
          simp only [nextPeerIPs, haddrs, withPeers, List.zipWith_cons_cons]
          rfl
      -- The call that fails ends the loop.
      · obtain ⟨err, heq⟩ := createPeer_of_fails hpop t i hcalls
        rw [heq] at h
        cases h

/-- The loop only takes addresses and adds peers of the team. When it ends, it returns the
addresses of these peers. -/
theorem createPeers_cases (t : String) (calls : Nat → PeerCalls) :
    ∀ (is : List Nat) (ev : Event), ∃ addrs ps,
      (createPeers t calls is ev).1 = ev.withPeers addrs ps ∧ (∀ p ∈ ps, p.team = t) ∧
      ∀ ips, (createPeers t calls is ev).2 = .ok ips → ps.map Peer.allowedIPs = ips := by
  intro is
  induction is with
  | nil =>
    intro ev
    exact ⟨ev.ipAddrs, [], by simp [createPeers, withPeers]⟩
  | cons i is ih =>
    intro ev
    obtain ⟨addrs, ps, hev, hteam, hips⟩ := createPeer_cases ev t i (calls i)
    unfold createPeers
    split
    · next ev₁ err h =>
      exact ⟨addrs, ps, by simp [← hev, h], hteam, by simp⟩
    · next ev₁ ip h =>
      obtain ⟨addrs', ps', hev', hteam', hips'⟩ := ih ev₁
      have hev₁ : ev₁ = ev.withPeers addrs ps := by simp [← hev, h]
      have hpeers : ev₁.withPeers addrs' ps' = ev.withPeers addrs' (ps ++ ps') := by
        rw [hev₁, withPeers_withPeers]
      have hboth : ∀ p ∈ ps ++ ps', p.team = t := by
        intro p hp
        exact (List.mem_append.mp hp).elim (hteam p) (hteam' p)
      split
      · next h' => exact ⟨addrs', ps ++ ps', by simp [← hpeers, ← hev', h'], hboth, by simp⟩
      · next vpnIPs h' =>
        refine ⟨addrs', ps ++ ps', by simp [← hpeers, ← hev', h'], hboth, ?_⟩
        intro ips heq
        cases heq
        simp [hips ip (by simp [h]), hips' vpnIPs (by simp [h'])]

/-- `CreateVPNConn` adds peers of the team. When it succeeds, it makes the rules for exactly
these peers. -/
theorem createVPNConn_cases (ev : Event) (t subnet : String) (calls : VPNCalls) :
    ∃ addrs ps, (∀ p ∈ ps, p.team = t) ∧
      ((∃ err, ev.createVPNConn t subnet calls = (ev.withPeers addrs ps, some err)) ∨
        (ps.map Peer.allowedIPs = ev.nextPeerIPs thirdOctets ∧ ev.createVPNConn t subnet calls =
          ((ev.withPeers addrs ps).createRules t (subnet ++ "/24")
            (ps.map Peer.allowedIPs ++ [subnet ++ "/24"]) calls, none))) := by
  unfold createVPNConn
  split
  · next err _ => exact ⟨ev.ipAddrs, [], by simp, .inl ⟨.failed err, by simp [withPeers]⟩⟩
  · obtain ⟨addrs, ps, hev, hteam, hips⟩ := createPeers_cases t calls.peer thirdOctets ev
    refine ⟨addrs, ps, hteam, ?_⟩
    split
    · next ev₁ err h =>
      exact .inl ⟨err, by simp [← hev, h]⟩
    · next ev₁ vpnIPs h =>
      have hnext := createPeers_ips t calls.peer thirdOctets ev vpnIPs (by simp [h])
      rw [hips vpnIPs (by simp [h]), ← hev, h]
      exact .inr ⟨hnext, rfl⟩

/-- The loop ends if and only if its calls succeed and there are enough addresses. -/
theorem createPeers_ok_iff (t : String) (calls : Nat → PeerCalls) :
    ∀ (is : List Nat) (ev : Event), (∃ ips, (createPeers t calls is ev).2 = .ok ips) ↔
      (∀ i ∈ is, (calls i).succeeds = true) ∧ is.length ≤ ev.ipAddrs.length := by
  intro is
  induction is with
  | nil =>
    intro ev
    simp [createPeers]
  | cons i is ih =>
    intro ev
    unfold createPeers
    cases hpop : pop ev.ipAddrs with
    | none =>
      have hempty : ev.ipAddrs = [] := by simpa [pop] using hpop
      rw [createPeer_of_empty hpop]
      simp [hempty]
    | some popped =>
      by_cases hcalls : (calls i).succeeds = true
      · have hlength : ev.ipAddrs.length = popped.2.length + 1 := by
          -- `pop` takes exactly one address.
          obtain ⟨x, hx, rfl⟩ := Option.map_eq_some_iff.mp hpop
          have := List.length_pos_of_mem (List.mem_of_getLast? hx)
          simp only [List.length_dropLast]
          omega
        obtain ⟨ev₁, ip, heq, haddrs⟩ : ∃ ev₁ ip,
            ev.createPeer t i (calls i) = (ev₁, .ok ip) ∧ ev₁.ipAddrs = popped.2 :=
          ⟨_, _, createPeer_of_succeeds hpop t i hcalls, rfl⟩
        have hrest := ih ev₁
        rw [haddrs] at hrest
        simp only [heq, List.mem_cons, forall_eq_or_imp, hcalls, true_and, List.length_cons,
          hlength, Nat.add_le_add_iff_right, ← hrest]
        split
        · next h => simp [h]
        · next h => simp [h]
      -- The failing call is one of the conditions.
      · obtain ⟨err, heq⟩ := createPeer_of_fails hpop t i hcalls
        rw [heq]
        simp [hcalls]

/-- The call succeeds when its services do and four addresses are left. -/
theorem createVPNConn_eq_none_iff (t subnet : String) (calls : VPNCalls) :
    (ev.createVPNConn t subnet calls).2 = none ↔
      calls.succeeds = true ∧ 4 ≤ ev.ipAddrs.length := by
  have hpeers := createPeers_ok_iff t calls.peer thirdOctets ev
  unfold createVPNConn VPNCalls.succeeds
  cases calls.serverKey with
  | some err => simp
  | none =>
    simp only [Option.isNone_none, Bool.true_and, List.all_eq_true]
    rw [show 4 = thirdOctets.length from rfl, ← hpeers]
    split
    · next h => simp [h]
    · next h => simp [h]

/-- `AssignLab` succeeds when its calls do. -/
theorem connect_eq_none_iff (ev : Event) (t subnet : String) (calls : AssignCalls) :
    (ev.connect t subnet calls).2 = none ↔ calls.Succeeds ev := by
  unfold connect AssignCalls.Succeeds
  by_cases hno : ev.onlyVPN = noVPN
  · simp [hno, noVPN, vpnBrowser]
  · rw [if_neg hno]
    by_cases hbrowser : ev.onlyVPN = vpnBrowser
    · rw [if_pos hbrowser]
      cases createGuacConn calls.guac with
      | some err => simp [hbrowser]
      | none => simp [hno, createVPNConn_eq_none_iff]
    · rw [if_neg hbrowser]
      simp [hno, hbrowser, createVPNConn_eq_none_iff]

/-- What `AssignLab` has done when it comes to the lab map. -/
theorem connect_cases (ev : Event) (t subnet : String) (calls : AssignCalls) :
    ∃ addrs ps, (∀ p ∈ ps, p.team = t) ∧
      ((∃ err, ev.connect t subnet calls = (ev.withPeers addrs ps, some err)) ∨
        (ev.onlyVPN = noVPN ∧ ev.connect t subnet calls = (ev, none)) ∨
        (ev.onlyVPN ≠ noVPN ∧ ps.map Peer.allowedIPs = ev.nextPeerIPs thirdOctets ∧
          ev.connect t subnet calls =
            ((ev.withPeers addrs ps).createRules t (subnet ++ "/24")
              (ps.map Peer.allowedIPs ++ [subnet ++ "/24"]) calls.vpn, none))) := by
  have hsame : ev = ev.withPeers ev.ipAddrs [] := by simp [withPeers]
  unfold connect
  split
  · next hno =>
    refine ⟨ev.ipAddrs, [], by simp, ?_⟩
    cases createGuacConn calls.guac with
    | none => exact .inr (.inl ⟨hno, rfl⟩)
    | some err => exact .inl ⟨.failed err, by rw [← hsame]; rfl⟩
  · next hvpn =>
    split
    · next err _ => exact ⟨ev.ipAddrs, [], by simp, .inl ⟨.failed err, by rw [← hsame]⟩⟩
    · obtain ⟨addrs, ps, hteam, herr | hok⟩ := createVPNConn_cases ev t subnet calls.vpn
      · exact ⟨addrs, ps, hteam, .inl herr⟩
      · exact ⟨addrs, ps, hteam, .inr (.inr ⟨hvpn, hok⟩)⟩

/-- The teams of the store are not touched. -/
@[simp] theorem connect_store (ev : Event) (t subnet : String) (calls : AssignCalls) :
    (ev.connect t subnet calls).1.store = ev.store := by
  obtain ⟨addrs, ps, -, ⟨err, h⟩ | ⟨-, h⟩ | ⟨-, -, h⟩⟩ := connect_cases ev t subnet calls <;>
    rw [h] <;> rfl

/-- The labs are entered after this. -/
@[simp] theorem connect_labs (ev : Event) (t subnet : String) (calls : AssignCalls) :
    (ev.connect t subnet calls).1.labs = ev.labs := by
  obtain ⟨addrs, ps, -, ⟨err, h⟩ | ⟨-, h⟩ | ⟨-, -, h⟩⟩ := connect_cases ev t subnet calls <;>
    rw [h] <;> rfl

/-- `AssignLab` either fails and leaves the lab map and the store alone, or it enters the lab
and sets the flag of the team. -/
theorem assignLab_cases (ev : Event) (t : String) (lab : Nat) (subnet : String)
    (calls : AssignCalls) :
    ((ev.assignLab t lab subnet calls).1.labs = ev.labs ∧
      (ev.assignLab t lab subnet calls).1.store = ev.store) ∨
    ((ev.assignLab t lab subnet calls).1.labs = ev.labs.set t lab ∧
      (ev.assignLab t lab subnet calls).1.store = ev.store.correctedAssignedLab t) := by
  have hstore := connect_store ev t subnet calls
  have hlabs := connect_labs ev t subnet calls
  unfold assignLab
  split
  · next h =>
    rw [h] at hstore hlabs
    exact .inl ⟨hlabs, hstore⟩
  · next h =>
    rw [h] at hstore hlabs
    exact .inr ⟨by rw [← hlabs]; rfl, by rw [← hstore]; rfl⟩

/-- `CreateVPNConn` makes one ACCEPT rule, if the command for it succeeds. -/
theorem accept_mem_createRules_chain (ev : Event) (t : String) {labSubnet : String}
    {vpnIPs : List String} {calls : VPNCalls} {sub : String} {dests : List String} :
    Rule.accept sub dests ∈ (ev.createRules t labSubnet vpnIPs calls).chain ↔
      Rule.accept sub dests ∈ ev.chain ∨
        (calls.acceptRule = true ∧ sub = labSubnet ∧ dests = vpnIPs) := by
  simp only [createRules, Chain.createAcceptRule, Chain.createStateRule, Chain.createRejectRule,
    Chain.mem_insertRule, Rule.accept.injEq, reduceCtorEq, and_false, false_or]
  exact or_comm

/-- What a successful `AssignLab` does to the lab map, the store, the peers and the ACCEPT
rules of the event. -/
structure Assigned (ev ev' : Event) (t : String) (lab : Nat) (labSubnet : String)
    (acceptRule : Bool) : Prop where
  labs : ev'.labs = ev.labs.set t lab
  store : ev'.store = ev.store.correctedAssignedLab t
  peers : ∃ ps, ev'.peers = ev.peers ++ ps ∧ (∀ p ∈ ps, p.team = t) ∧
    (ev.onlyVPN ≠ noVPN → ps.map Peer.allowedIPs = ev.nextPeerIPs thirdOctets)
  accept : ∀ sub dests, Rule.accept sub dests ∈ ev'.chain ↔ Rule.accept sub dests ∈ ev.chain ∨
    (ev.onlyVPN ≠ noVPN ∧ acceptRule = true ∧ sub = labSubnet ∧
      dests = ev.nextPeerIPs thirdOctets ++ [labSubnet])

/-- `AssignLab` with a failing call takes addresses and adds peers, and that is all. -/
theorem assignLab_of_fails {calls : AssignCalls} (h : ¬ calls.Succeeds ev) (t : String)
    (lab : Nat) (subnet : String) :
    ∃ addrs ps, (ev.assignLab t lab subnet calls).1 = ev.withPeers addrs ps := by
  rw [← connect_eq_none_iff ev t subnet calls] at h
  obtain ⟨addrs, ps, -, ⟨err, heq⟩ | ⟨-, heq⟩ | ⟨-, -, heq⟩⟩ := connect_cases ev t subnet calls
  · exact ⟨addrs, ps, by rw [assignLab, heq]⟩
  · exact absurd (by rw [heq]) h
  · exact absurd (by rw [heq]) h

/-- A successful `AssignLab` enters the lab and its rules. -/
theorem assignLab_of_succeeds {calls : AssignCalls} (h : calls.Succeeds ev) (t : String)
    (lab : Nat) (subnet : String) :
    Assigned ev (ev.assignLab t lab subnet calls).1 t lab (subnet ++ "/24")
      calls.vpn.acceptRule := by
  rw [← connect_eq_none_iff ev t subnet calls] at h
  obtain ⟨addrs, ps, hteam, ⟨err, heq⟩ | ⟨hno, heq⟩ | ⟨hvpn, hips, heq⟩⟩ :=
    connect_cases ev t subnet calls
  · rw [heq] at h
    cases h
  · rw [assignLab, heq]
    exact
      { labs := rfl
        store := rfl
        peers := ⟨[], (List.append_nil _).symm, by simp, fun hvpn => absurd hno hvpn⟩
        accept := fun sub dests => by simp [recordLab, correctedAssignedLab, hno] }
  · rw [assignLab, heq]
    exact
      { labs := rfl
        store := rfl
        peers := ⟨ps, rfl, hteam, fun _ => hips⟩
        accept := fun sub dests => by
          simp only [recordLab, correctedAssignedLab, accept_mem_createRules_chain, hips]
          simp [withPeers, hvpn] }

/-- `DeleteTeam` removes the team from the store, whatever the service answers. -/
theorem deleteTeam_eq (id : String) (db : Option String) :
    (ev.deleteTeam id db).1 = { ev with store := (ev.store.deleteTeam id db).1 } := by
  unfold deleteTeam TeamStore.getTeamByID
  cases h : ev.store.teams.get? id with
  | none => simp [TeamStore.deleteTeam, h]
  | some t => simp [ev.store.keyed id t h]

/-- A signup changes nothing but the store, and the store gains at most the new team. -/
theorem signup_eq (ev : Event) (t : Team) (db : Option String) :
    ∃ es, (ev.signup t db).1 = { ev with store := es } ∧
      ∀ id, es.teams.get? id = ev.store.teams.get? id ∨
        (id = t.id ∧ id ∈ es.teams) := by
  unfold signup
  split
  · exact ⟨ev.store, rfl, fun id => .inl rfl⟩
  · refine ⟨(ev.store.saveTeam t db).1, rfl, fun id => ?_⟩
    rw [TeamStore.get?_saveTeam]
    split
    · next h =>
      refine .inr ⟨h.2, GoMap.mem_iff_get?.mpr ⟨{ t with dbc := t.dbc || db.isNone }, ?_⟩⟩
      rw [TeamStore.get?_saveTeam, if_pos h]
    · exact .inl rfl

end Event

end Haaukins.Guacamole
