import Haaukins.Guacamole.Event

/-!
# `Haaukins.Guacamole.VPNKeys`: the keys of the VPN (`svcs/guacamole/event.go`,
`svcs/amigo/amigo.go`)

`CreateVPNConn` once more, with the keys that `Haaukins.Guacamole.Event` leaves out, and
`handleVPNStatus`, which asks the WireGuard service about the configurations of a team.

* `createVPNConn_event`: without the keys this is the `CreateVPNConn` of an event.
* The configurations of a team are numbered from `0` and its keys from `240`. `getVPNKey_eq`: the
  handler finds no key for a configuration, so it asks for the empty key.
* `statusRight_iff`: the answer is right only if the peers are registered with the empty key too.

Of the text of a configuration only the fields that differ from peer to peer are here.
-/

set_option autoImplicit false

namespace Haaukins.Guacamole

/-- What the WireGuard service answers for one peer. -/
structure PeerAnswers where
  genPrivateKey : Option String
  genPublicKey : Option String
  getPublicKey : Except String String
  addPeer : Option String
  getPrivateKey : Except String String

/-- The error of an answer. -/
def failure {ε α : Type} : Except ε α → Option ε
  | .error err => some err
  | .ok _ => none

/-- The errors among the answers. -/
def PeerAnswers.calls (a : PeerAnswers) : PeerCalls where
  genPrivateKey := a.genPrivateKey
  genPublicKey := a.genPublicKey
  getPublicKey := failure a.getPublicKey
  addPeer := a.addPeer
  getPrivateKey := failure a.getPrivateKey

/-- `AddPReq`. The interface is the one of the event. -/
structure AddPReq where
  allowedIPs : String
  publicKey : String
  deriving DecidableEq, Repr

/-- `clientConfig`. -/
structure ClientConfig where
  address : String
  privateKey : String
  deriving DecidableEq, Repr

/-- `Team`, with its fields for the VPN. -/
structure VPNTeam where
  isLabAssigned : Bool
  vpnKeys : GoMap Nat String
  vpnConf : List ClientConfig

namespace VPNTeam

/-- `NewTeam`. -/
def new : VPNTeam where
  isLabAssigned := false
  vpnKeys := ∅
  vpnConf := []

/-- `SetVPNKeys`. -/
def setVPNKeys (t : VPNTeam) (id : Nat) (key : String) : VPNTeam :=
  { t with vpnKeys := t.vpnKeys.set id key }

/-- `SetVPNConn`. -/
def setVPNConn (t : VPNTeam) (clientConfig : List ClientConfig) : VPNTeam :=
  { t with vpnConf := clientConfig }

/-- `CorrectedAssignedLab`. -/
def correctedAssignedLab (t : VPNTeam) : VPNTeam := { t with isLabAssigned := true }

/-- `teamVPNKeys[i]` of `GetVPNKeys`. -/
def getVPNKey (t : VPNTeam) (i : Nat) : String := (t.vpnKeys.get? i).getD ""

end VPNTeam

/-- What a call of `CreateVPNConn` has changed so far, and the requests `AddPeer` that it made
with success. -/
structure VPNConn where
  ev : Event
  team : VPNTeam
  addPeers : List AddPReq

namespace VPNConn

/-- The body of the loop of `CreateVPNConn` for the third octet `i`. -/
def createPeer (s : VPNConn) (teamID : String) (i : Nat) (a : PeerAnswers) :
    VPNConn × Except ConnErr ClientConfig :=
  match pop s.ev.ipAddrs with
  | none => (s, .error .panicked)
  | some (ipAddr, rest) =>
    let left := s.ev.ipAddrs.length
    let s := { s with ev := { s.ev with ipAddrs := rest } }
    match a.genPrivateKey <|> a.genPublicKey with
    | some err => (s, .error (.failed err))
    | none =>
      match a.getPublicKey with
      | .error err => (s, .error (.failed err))
      | .ok publicKey =>
        let peerIP := s.ev.peerIP i ipAddr
        match a.addPeer with
        | some err => (s, .error (.failed err))
        | none =>
          let s := { s with
            ev := { s.ev with peers := s.ev.peers ++ [⟨teamID, i, left, peerIP⟩] }
            addPeers := s.addPeers ++ [⟨peerIP, publicKey⟩] }
          match a.getPrivateKey with
          | .error err => (s, .error (.failed err))
          | .ok privateKey =>
            ({ s with team := s.team.setVPNKeys i publicKey }, .ok ⟨peerIP, privateKey⟩)

/-- The loop of `CreateVPNConn`, with the list `teamConfigFiles` that it collects. -/
def createPeers (teamID : String) (answers : Nat → PeerAnswers) :
    List Nat → VPNConn → VPNConn × Except ConnErr (List ClientConfig)
  | [], s => (s, .ok [])
  | i :: is, s =>
    match s.createPeer teamID i (answers i) with
    | (s, .error err) => (s, .error err)
    | (s, .ok clientConfig) =>
      match createPeers teamID answers is s with
      | (s, .error err) => (s, .error err)
      | (s, .ok teamConfigFiles) => (s, .ok (clientConfig :: teamConfigFiles))

end VPNConn

/-- What the other services answer to `CreateVPNConn`. -/
structure VPNAnswers where
  serverKey : Except String String
  peer : Nat → PeerAnswers
  rejectRule : Bool
  stateRule : Bool
  acceptRule : Bool

/-- The errors among the answers. -/
def VPNAnswers.calls (a : VPNAnswers) : VPNCalls where
  serverKey := failure a.serverKey
  peer := fun i => (a.peer i).calls
  rejectRule := a.rejectRule
  stateRule := a.stateRule
  acceptRule := a.acceptRule

/-- `CreateVPNConn`. -/
def createVPNConn (ev : Event) (t : VPNTeam) (teamID subnet : String) (a : VPNAnswers) :
    VPNConn × Except ConnErr (List ClientConfig) :=
  let labSubnet := subnet ++ "/24"
  let s := { ev := ev, team := t, addPeers := [] }
  match a.serverKey with
  | .error err => (s, .error (.failed err))
  | .ok _ =>
    match VPNConn.createPeers teamID a.peer Event.thirdOctets s with
    | (s, .error err) => (s, .error err)
    | (s, .ok teamConfigFiles) =>
      let vpnIPs := teamConfigFiles.map ClientConfig.address ++ [labSubnet]
      ({ s with ev := s.ev.createRules teamID labSubnet vpnIPs a.calls }, .ok teamConfigFiles)

/-! ### Without the keys -/

/-- One peer, without its keys. -/
theorem VPNConn.createPeer_event (s : VPNConn) (teamID : String) (i : Nat) (a : PeerAnswers) :
    ((s.createPeer teamID i a).1.ev, (s.createPeer teamID i a).2.map ClientConfig.address) =
      s.ev.createPeer teamID i a.calls := by
  unfold createPeer Event.createPeer PeerCalls.keys PeerAnswers.calls
  rcases pop s.ev.ipAddrs with - | ⟨ipAddr, rest⟩
  · rfl
  · cases a.genPrivateKey <;> cases a.genPublicKey <;> cases a.getPublicKey <;>
      cases a.addPeer <;> cases a.getPrivateKey <;> rfl

/-- All peers of a team, without their keys. -/
theorem VPNConn.createPeers_event (teamID : String) (answers : Nat → PeerAnswers) (is : List Nat)
    (s : VPNConn) :
    ((createPeers teamID answers is s).1.ev,
      (createPeers teamID answers is s).2.map (List.map ClientConfig.address)) =
      Event.createPeers teamID (fun i => (answers i).calls) is s.ev := by
  induction is generalizing s with
  | nil => rfl
  | cons i is ih =>
    have hbody := s.createPeer_event teamID i (answers i)
    unfold createPeers Event.createPeers
    rw [← hbody]
    rcases s.createPeer teamID i (answers i) with ⟨s', err | clientConfig⟩
    · rfl
    · have hrest := ih s'
      simp only [Except.map]
      rw [← hrest]
      rcases createPeers teamID answers is s' with ⟨s'', err | confs⟩ <;> rfl

/-- Without the keys, `CreateVPNConn` is the one of the event. -/
theorem createVPNConn_event (ev : Event) (t : VPNTeam) (teamID subnet : String)
    (a : VPNAnswers) :
    ((createVPNConn ev t teamID subnet a).1.ev, failure (createVPNConn ev t teamID subnet a).2) =
      ev.createVPNConn teamID subnet a.calls := by
  have hloop := VPNConn.createPeers_event teamID a.peer Event.thirdOctets
    { ev := ev, team := t, addPeers := [] }
  unfold createVPNConn Event.createVPNConn
  have hpeer : a.calls.peer = fun i => (a.peer i).calls := rfl
  have hserver : a.calls.serverKey = failure a.serverKey := rfl
  rw [hpeer, hserver]
  cases a.serverKey with
  | error err => rfl
  | ok serverKey =>
    simp only [failure]
    rw [← hloop]
    rcases VPNConn.createPeers teamID a.peer Event.thirdOctets _ with ⟨s, err | confs⟩ <;> rfl

/-! ### What `CreateVPNConn` registers -/

/-- The key with which the service answers for a peer is registered and stored. -/
theorem VPNConn.createPeer_ok {s s' : VPNConn} {teamID : String} {i : Nat} {a : PeerAnswers}
    {conf : ClientConfig} (h : s.createPeer teamID i a = (s', .ok conf)) :
    ∃ publicKey, a.getPublicKey = .ok publicKey ∧
      s'.addPeers = s.addPeers ++ [⟨conf.address, publicKey⟩] ∧
      s'.team = s.team.setVPNKeys i publicKey := by
  unfold createPeer at h
  split at h
  · cases h
  · split at h
    · cases h
    · split at h
      · cases h
      · next publicKey hkey =>
        simp only at h
        split at h
        · cases h
        · split at h
          · cases h
          · cases h
            exact ⟨publicKey, hkey, rfl, rfl⟩

/-- A body of the loop that fails has not stored a key. -/
theorem VPNConn.createPeer_team (s : VPNConn) (teamID : String) (i : Nat) (a : PeerAnswers) :
    (s.createPeer teamID i a).1.team = s.team ∨
      ∃ publicKey, (s.createPeer teamID i a).1.team = s.team.setVPNKeys i publicKey := by
  unfold createPeer
  split
  · exact .inl rfl
  · split
    · exact .inl rfl
    · split
      · exact .inl rfl
      · simp only
        split
        · exact .inl rfl
        · split
          · exact .inl rfl
          · exact .inr ⟨_, rfl⟩

/-- The keys that are registered with the configurations. -/
theorem VPNConn.createPeers_ok {teamID : String} {answers : Nat → PeerAnswers} {is : List Nat}
    {s s' : VPNConn} {confs : List ClientConfig}
    (h : createPeers teamID answers is s = (s', .ok confs)) :
    ∃ reqs : List AddPReq, s'.addPeers = s.addPeers ++ reqs ∧
      confs.map ClientConfig.address = reqs.map AddPReq.allowedIPs ∧
      is.map (fun i => (answers i).getPublicKey) = reqs.map fun req => .ok req.publicKey := by
  induction is generalizing s s' confs with
  | nil =>
    cases h
    exact ⟨[], by simp⟩
  | cons i is ih =>
    unfold createPeers at h
    split at h
    · cases h
    · next s₁ conf hbody =>
      split at h
      · cases h
      · next s₂ rest hrest =>
        cases h
        obtain ⟨publicKey, hkey, hadd, -⟩ := createPeer_ok hbody
        obtain ⟨reqs, hadds, hconfs, hkeys⟩ := ih hrest
        refine ⟨⟨conf.address, publicKey⟩ :: reqs, ?_, ?_, ?_⟩
        · rw [hadds, hadd, List.append_assoc, List.singleton_append]
        · rw [List.map_cons, List.map_cons, hconfs]
        · rw [List.map_cons, List.map_cons, hkeys, hkey]

/-- A successful call adds a peer for each third octet, with the key of the service. -/
theorem createVPNConn_ok {ev : Event} {t : VPNTeam} {teamID subnet : String} {a : VPNAnswers}
    {s : VPNConn} {confs : List ClientConfig}
    (h : createVPNConn ev t teamID subnet a = (s, .ok confs)) :
    confs.map ClientConfig.address = s.addPeers.map AddPReq.allowedIPs ∧
      Event.thirdOctets.map (fun i => (a.peer i).getPublicKey) =
        s.addPeers.map fun req => .ok req.publicKey := by
  unfold createVPNConn at h
  split at h
  · cases h
  · simp only at h
    split at h
    · cases h
    · next s₁ teamConfigFiles hloop =>
      cases h
      obtain ⟨reqs, hadds, hconfs, hkeys⟩ := VPNConn.createPeers_ok hloop
      rw [List.nil_append] at hadds
      rw [hadds]
      exact ⟨hconfs, hkeys⟩

/-! ### The keys of a team -/

/-- The keys of the team are stored by third octets. -/
def VPNTeam.KeysByOctet (t : VPNTeam) : Prop := ∀ i ∈ t.vpnKeys, i ∈ Event.thirdOctets

/-- A new team has no keys. -/
theorem VPNTeam.KeysByOctet.new : VPNTeam.new.KeysByOctet := by
  intro i h
  exact absurd h (GoMap.get?_eq_none.mp (GoMap.get?_empty i))

/-- A key is stored under a third octet. -/
theorem VPNTeam.KeysByOctet.setVPNKeys {t : VPNTeam} (h : t.KeysByOctet) {i : Nat}
    (hi : i ∈ Event.thirdOctets) (key : String) : (t.setVPNKeys i key).KeysByOctet := by
  intro j hj
  rcases GoMap.mem_set.mp hj with rfl | hj
  · exact hi
  · exact h j hj

/-- By induction on the octets of the loop. -/
theorem VPNTeam.KeysByOctet.createPeers {teamID : String} {answers : Nat → PeerAnswers}
    {is : List Nat} (his : ∀ i ∈ is, i ∈ Event.thirdOctets) {s : VPNConn}
    (h : s.team.KeysByOctet) : (VPNConn.createPeers teamID answers is s).1.team.KeysByOctet := by
  induction is generalizing s with
  | nil => exact h
  | cons i is ih =>
    have hbody : (s.createPeer teamID i (answers i)).1.team.KeysByOctet := by
      rcases s.createPeer_team teamID i (answers i) with heq | ⟨publicKey, heq⟩
      · rwa [heq]
      · rw [heq]
        exact h.setVPNKeys (his i List.mem_cons_self) publicKey
    have hrest := @ih fun j hj => his j (List.mem_cons_of_mem _ hj)
    unfold VPNConn.createPeers
    split
    · next heq => rwa [heq] at hbody
    · next heq =>
      rw [heq] at hbody
      have hteam := hrest hbody
      split
      · next heq => rwa [heq] at hteam
      · next heq => rwa [heq] at hteam

/-- The loop goes over the four octets. -/
theorem VPNTeam.KeysByOctet.createVPNConn {t : VPNTeam} (h : t.KeysByOctet) (ev : Event)
    (teamID subnet : String) (a : VPNAnswers) :
    (createVPNConn ev t teamID subnet a).1.team.KeysByOctet := by
  unfold Guacamole.createVPNConn
  split
  · exact h
  · have hloop := @VPNTeam.KeysByOctet.createPeers teamID a.peer _ (fun _ => id)
      { ev := ev, team := t, addPeers := [] } h
    simp only
    split
    · next heq => rwa [heq] at hloop
    · next heq => rwa [heq] at hloop

/-- A configuration is found by its position, which is no third octet. -/
theorem VPNTeam.KeysByOctet.getVPNKey {t : VPNTeam} (h : t.KeysByOctet) {i : Nat}
    (hi : i < 240) : t.getVPNKey i = "" := by
  have hnone : i ∉ t.vpnKeys := by
    intro hmem
    have hoctet := h i hmem
    simp only [Event.thirdOctets, List.mem_cons, List.not_mem_nil, or_false] at hoctet
    omega
  rw [VPNTeam.getVPNKey, GoMap.get?_eq_none.mpr hnone, Option.getD_none]

/-- What a call of `AssignLab` for the team meets. -/
structure Assignment where
  ev : Event
  teamID : String
  subnet : String
  guac : GuacCalls
  vpn : VPNAnswers

/-- `AssignLab` in an event with a VPN. -/
def Assignment.assignLab (t : VPNTeam) (call : Assignment) : VPNTeam :=
  match if call.ev.onlyVPN = vpnBrowser then createGuacConn call.guac else none with
  | some _ => t
  | none =>
    match createVPNConn call.ev t call.teamID call.subnet call.vpn with
    | (s, .error _) => s.team
    | (s, .ok clientConf) => (s.team.setVPNConn clientConf).correctedAssignedLab

/-- An assignment stores keys in this way only. -/
theorem VPNTeam.KeysByOctet.assignLab {t : VPNTeam} (h : t.KeysByOctet) (call : Assignment) :
    (call.assignLab t).KeysByOctet := by
  have hconn := h.createVPNConn call.ev call.teamID call.subnet call.vpn
  unfold Assignment.assignLab
  split
  · exact h
  · split
    · next heq => rwa [heq] at hconn
    · next heq =>
      rw [heq] at hconn
      exact hconn

/-- The team after these calls of `AssignLab`. -/
def assigned (calls : List Assignment) : VPNTeam := calls.foldl Assignment.assignLab .new

/-- So do all assignments of a team. -/
theorem keysByOctet_assigned (calls : List Assignment) : (assigned calls).KeysByOctet := by
  unfold assigned
  exact List.foldlRecOn calls _ .new fun _ h call _ => h.assignLab call

/-! ### `handleVPNStatus` -/

/-- `vpnStatus`. -/
structure VPNStatus where
  vpnConfID : String
  status : String
  deriving DecidableEq, Repr

/-- What `handleVPNStatus` writes. -/
inductive StatusReply where
  | requestErr (err : String)
  | serviceUnavailable
  | statuses (listOfStatus : List VPNStatus)
  deriving DecidableEq, Repr

/-- The entry of the configuration `i` for an answer of `GetPeerStatus`. -/
def vpnStatus (i : Nat) (used : Bool) : VPNStatus where
  vpnConfID := "conn_" ++ i.repr
  status := if used then "USED" else "N/U"

/-- The loop of `handleVPNStatus`: the keys that it asks for, and its list or error. -/
def statusLoop (t : VPNTeam) (getPeerStatus : String → Except String Bool) :
    List Nat → List VPNStatus → List String × Except String (List VPNStatus)
  | [], listOfStatus => ([], .ok listOfStatus)
  | i :: is, listOfStatus =>
    match getPeerStatus (t.getVPNKey i) with
    | .error err => ([t.getVPNKey i], .error err)
    | .ok used =>
      let (asked, result) := statusLoop t getPeerStatus is (listOfStatus ++ [vpnStatus i used])
      (t.getVPNKey i :: asked, result)

/-- `handleVPNStatus` for the team of the request: the keys that it asks for, and what it
writes. -/
def handleVPNStatus (teamFromRequest : Except String VPNTeam)
    (hook : VPNTeam → VPNTeam × Option String) (getPeerStatus : String → Except String Bool) :
    List String × List StatusReply :=
  match teamFromRequest with
  | .error err => ([], [.requestErr err])
  | .ok team =>
    match if team.isLabAssigned then (team, none) else hook team with
    | (_, some _) => ([], [.serviceUnavailable])
    | (team, none) =>
      -- There is no `return` after this error.
      let noConn := if team.vpnConf.length = 0 then
        [.requestErr "Error, no vpn information found on on team err <nil>"] else []
      match statusLoop team getPeerStatus (List.range team.vpnConf.length) [] with
      | (asked, .error err) => (asked, noConn ++ [.requestErr err])
      | (asked, .ok listOfStatus) => (asked, noConn ++ [.statuses listOfStatus])

/-- The status of the team is that of the peers that were registered for its configurations. -/
structure StatusRight (confs : List ClientConfig) (addPeers : List AddPReq) (t : VPNTeam) :
    Prop where
  registered : confs.map ClientConfig.address = addPeers.map AddPReq.allowedIPs
  asks : ∀ hook getPeerStatus, ∀ (i : Nat) req key, addPeers[i]? = some req →
    (handleVPNStatus (.ok t) hook getPeerStatus).1[i]? = some key → key = req.publicKey
  shows : ∀ hook getPeerStatus listOfStatus,
    .statuses listOfStatus ∈ (handleVPNStatus (.ok t) hook getPeerStatus).2 →
    listOfStatus = addPeers.mapIdx fun i req =>
      vpnStatus i (getPeerStatus req.publicKey == .ok true)

/-- The loop asks for its keys in their order, until the service fails. -/
theorem asked_statusLoop (t : VPNTeam) (getPeerStatus : String → Except String Bool)
    (is : List Nat) (listOfStatus : List VPNStatus) :
    (statusLoop t getPeerStatus is listOfStatus).1 <+: is.map t.getVPNKey := by
  induction is generalizing listOfStatus with
  | nil => exact List.prefix_refl []
  | cons i is ih =>
    unfold statusLoop
    split
    · exact List.prefix_append [t.getVPNKey i] (is.map t.getVPNKey)
    · next used _ =>
      exact (List.prefix_cons_inj _).mpr (ih _)

/-- A loop that gets through has asked for every key. -/
theorem statusLoop_ok {t : VPNTeam} {getPeerStatus : String → Except String Bool}
    {is : List Nat} {listOfStatus result : List VPNStatus}
    (h : (statusLoop t getPeerStatus is listOfStatus).2 = .ok result) :
    result = listOfStatus ++ is.map fun i =>
      vpnStatus i (getPeerStatus (t.getVPNKey i) == .ok true) := by
  induction is generalizing listOfStatus with
  | nil =>
    cases h
    rw [List.map_nil, List.append_nil]
  | cons i is ih =>
    unfold statusLoop at h
    split at h
    · cases h
    · next used hused =>
      have hanswer : (getPeerStatus (t.getVPNKey i) == .ok true) = used := by
        rw [hused]
        cases used <;> rfl
      rw [ih h, List.map_cons, hanswer, List.append_assoc, List.singleton_append]

/-- A service that answers is asked for each key. -/
theorem statusLoop_connected (t : VPNTeam) (is : List Nat) (listOfStatus : List VPNStatus) :
    (statusLoop t (fun _ => .ok true) is listOfStatus).1 = is.map t.getVPNKey := by
  induction is generalizing listOfStatus with
  | nil => rfl
  | cons i is ih =>
    rw [statusLoop, List.map_cons, ← ih]

section

variable {t : VPNTeam} (hook : VPNTeam → VPNTeam × Option String)
  (getPeerStatus : String → Except String Bool)

/-- The handler asks what its loop asks. -/
theorem asked_handleVPNStatus (hlab : t.isLabAssigned) :
    (handleVPNStatus (.ok t) hook getPeerStatus).1 =
      (statusLoop t getPeerStatus (List.range t.vpnConf.length) []).1 := by
  simp only [handleVPNStatus, if_pos hlab]
  rcases statusLoop t getPeerStatus (List.range t.vpnConf.length) [] with ⟨asked, err | result⟩
  · rfl
  · rfl

/-- The handler reports what its loop has collected. -/
theorem statuses_handleVPNStatus (hlab : t.isLabAssigned) {listOfStatus : List VPNStatus}
    (h : .statuses listOfStatus ∈ (handleVPNStatus (.ok t) hook getPeerStatus).2) :
    (statusLoop t getPeerStatus (List.range t.vpnConf.length) []).2 = .ok listOfStatus := by
  simp only [handleVPNStatus, if_pos hlab] at h
  rcases hloop : statusLoop t getPeerStatus (List.range t.vpnConf.length) [] with
    ⟨asked, err | result⟩
  · simp only [hloop, List.mem_append, List.mem_singleton] at h
    rcases h with h | h
    · split at h <;> simp at h
    · cases h
  · simp only [hloop, List.mem_append, List.mem_singleton] at h
    rcases h with h | h
    · split at h <;> simp at h
    · cases h
      rfl

end

section

variable {ev : Event} {calls : List Assignment} {teamID subnet : String} {vpn : VPNAnswers}
  {s : VPNConn} {confs : List ClientConfig}

/-- The four peers and the four configurations of a team. -/
theorem createVPNConn_lengths
    (h : createVPNConn ev (assigned calls) teamID subnet vpn = (s, .ok confs)) :
    s.addPeers.length = 4 ∧
      (s.team.setVPNConn confs).correctedAssignedLab.vpnConf.length = 4 := by
  obtain ⟨hregistered, hkeys⟩ := createVPNConn_ok h
  have hlength : s.addPeers.length = 4 := by
    rw [← List.length_map, ← hkeys]
    rfl
  refine ⟨hlength, ?_⟩
  rw [← hlength, ← List.length_map ClientConfig.address, ← List.length_map AddPReq.allowedIPs,
    ← hregistered]
  rfl

/-- The team keeps its keys under other numbers than `handleVPNStatus` asks for. -/
theorem createVPNConn_getVPNKey
    (h : createVPNConn ev (assigned calls) teamID subnet vpn = (s, .ok confs)) {i : Nat}
    (hi : i < 4) : (s.team.setVPNConn confs).correctedAssignedLab.getVPNKey i = "" := by
  have hoctets := (keysByOctet_assigned calls).createVPNConn ev teamID subnet vpn
  rw [h] at hoctets
  exact hoctets.getVPNKey (by omega)

/-- The public keys are empty when the service returns empty ones. -/
theorem createVPNConn_publicKeys
    (h : createVPNConn ev (assigned calls) teamID subnet vpn = (s, .ok confs)) :
    (∀ req ∈ s.addPeers, req.publicKey = "") ↔
      ∀ i ∈ Event.thirdOctets, (vpn.peer i).getPublicKey = .ok "" := by
  have hanswers : (∀ x ∈ s.addPeers.map fun req => (.ok req.publicKey : Except String String),
      x = .ok "") ↔ ∀ i ∈ Event.thirdOctets, (vpn.peer i).getPublicKey = .ok "" := by
    rw [← (createVPNConn_ok h).2, List.forall_mem_map]
  rw [← hanswers, List.forall_mem_map]
  simp only [Except.ok.injEq]

end

/-- After `CreateVPNConn`, the status of a team is right only if the service has answered with
the empty key for each of its peers. -/
theorem statusRight_iff (calls : List Assignment) (call : Assignment) {s : VPNConn}
    {confs : List ClientConfig}
    (h : createVPNConn call.ev (assigned calls) call.teamID call.subnet call.vpn =
      (s, .ok confs)) :
    StatusRight confs s.addPeers (s.team.setVPNConn confs).correctedAssignedLab ↔
      ∀ i ∈ Event.thirdOctets, (call.vpn.peer i).getPublicKey = .ok "" := by
  have hregistered := (createVPNConn_ok h).1
  obtain ⟨hlength, hconfs⟩ := createVPNConn_lengths h
  have hempty := fun i (hi : i < 4) => createVPNConn_getVPNKey h hi
  set t := (s.team.setVPNConn confs).correctedAssignedLab with ht
  rw [← createVPNConn_publicKeys h]
  constructor
  -- A right status asks for the key of the peer, and `HandleVPNStatus` asks for the empty one.
  · intro hright req hreq
    obtain ⟨i, hi, hget⟩ := List.mem_iff_getElem.mp hreq
    have hasked := hright.asks (fun t => (t, none)) (fun _ => .ok true) i req (t.getVPNKey i)
      (List.getElem?_eq_some_iff.mpr ⟨hi, hget⟩) (by
        rw [asked_handleVPNStatus _ _ rfl, statusLoop_connected, hconfs, List.getElem?_map,
          List.getElem?_range (hlength ▸ hi), Option.map_some])
    rw [← hasked, hempty i (hlength ▸ hi)]
  · intro hpeers
    -- With empty keys everywhere, whatever is asked for is the empty key.
    refine ⟨hregistered, ?_, ?_⟩
    · intro hook getPeerStatus i req key hreq hkey
      rw [hpeers req (List.mem_of_getElem? hreq)]
      rw [asked_handleVPNStatus _ _ rfl] at hkey
      have hmem := (asked_statusLoop t getPeerStatus _ []).subset (List.mem_of_getElem? hkey)
      rw [hconfs] at hmem
      obtain ⟨j, hj, rfl⟩ := List.mem_map.mp hmem
      exact hempty j (List.mem_range.mp hj)
    · intro hook getPeerStatus listOfStatus hmem
      rw [statusLoop_ok (statuses_handleVPNStatus hook getPeerStatus rfl hmem), List.nil_append]
      refine List.ext_getElem ?_ fun i hi hi' => ?_
      · rw [List.length_map, List.length_range, hconfs, List.length_mapIdx, hlength]
      · rw [List.getElem_map, List.getElem_range, List.getElem_mapIdx]
        rw [List.length_mapIdx] at hi'
        rw [hempty i (hlength ▸ hi'), hpeers _ (List.getElem_mem hi')]

/-- A service that gives each peer its own key. -/
def ownKeys : VPNAnswers where
  serverKey := .ok "server"
  peer := fun i => ⟨none, none, .ok ("public-" ++ i.repr), none, .ok ("private-" ++ i.repr)⟩
  rejectRule := true
  stateRule := true
  acceptRule := true

/-- The team of `ownKeys` asks for empty keys. -/
theorem statusRight_ownKeys :
    let ev := newEvent "admin" onlyVPN 4 "10.5.240.1/22" .new
    let (s, result) := createVPNConn ev (assigned []) "team" "77.12.4" ownKeys
    ∃ confs, result = .ok confs ∧
      (StatusRight confs s.addPeers (s.team.setVPNConn confs).correctedAssignedLab ↔
        ∀ i ∈ Event.thirdOctets, (ownKeys.peer i).getPublicKey = .ok "") := by
  refine ⟨_, rfl, ?_⟩
  exact statusRight_iff []
    { ev := newEvent "admin" onlyVPN 4 "10.5.240.1/22" .new, teamID := "team"
      subnet := "77.12.4", guac := ⟨none, none, []⟩, vpn := ownKeys } rfl

/-- A team with a lab and four keys: the service is asked for the empty key four times. -/
theorem not_statusRight_ownKeys :
    let ev := newEvent "admin" onlyVPN 4 "10.5.240.1/22" .new
    let (s, result) := createVPNConn ev .new "team" "77.12.4" ownKeys
    ∃ confs, result = .ok confs ∧
      ¬ StatusRight confs s.addPeers (s.team.setVPNConn confs).correctedAssignedLab := by
  refine ⟨_, rfl, fun hright => ?_⟩
  have hasked := hright.asks (fun t => (t, none)) (fun _ => .ok true) 0 _ _ rfl rfl
  revert hasked
  decide

end Haaukins.Guacamole
