import Haaukins.Daemon.LabOwnership

/-!
# `Haaukins.Daemon.TeamIsolation`: the firewall rules and the teams of a VPN event

`CreateVPNConn` makes an ACCEPT rule from the subnet of the lab to the peer addresses of the
team. `LabState.Isolated` is the claim that each such rule serves a team of the store: the
team has a lab on the subnet of the rule, and the address belongs to it.

No rule leaves the chain while the event is open. Two handlers take the lab of a rule away
from its team. `DeleteTeam` removes the team, and the lab goes to another team. `AssignLab`
overwrites the entry of the team in the lab map, and two requests of one team can both come
to it. A third way to a rule that serves nobody is an `AssignLab` for a team that has left
the store in the meantime. `LeavesNoAccess` is the exact condition: a run has the property
in each state if and only if none of its steps leaves an allowed address without a team
(`eventLabs_isolated_iff`).
-/

set_option autoImplicit false

namespace Haaukins.Daemon

open Store Guacamole Lab

variable {Tag : Type}

namespace LabState

/-- The team `t` of the store has a lab on the subnet `sub`, and `addr` is the address of one
of its peers. -/
structure Entitled (e : Surroundings Tag) (s : LabState Tag) (sub addr t : String) : Prop where
  stored : t ∈ s.ev.store.teams
  lab : ∃ l, s.ev.labs.get? t = some l ∧ e.labSubnet l ++ "/24" = sub
  peer : ∃ p ∈ s.ev.peers, p.team = t ∧ p.allowedIPs = addr

/-- An ACCEPT rule allows, besides the subnet of the lab itself, only addresses of a team of
the store that has a lab on this subnet. -/
def Isolated (e : Surroundings Tag) (s : LabState Tag) : Prop :=
  ∀ sub dests, Rule.accept sub dests ∈ s.ev.chain → ∀ addr ∈ dests, addr ≠ sub →
    ∃ t, s.Entitled e sub addr t

/-- The ACCEPT rules from the subnets in `gone` can do without the team `t`: an allowed address
that belongs to it belongs to another team with a lab on the subnet as well. -/
def Dispensable (e : Surroundings Tag) (s : LabState Tag) (t : String) (gone : String → Prop) :
    Prop :=
  ∀ sub dests, Rule.accept sub dests ∈ s.ev.chain → gone sub → ∀ addr ∈ dests, addr ≠ sub →
    s.Entitled e sub addr t → ∃ t', t' ≠ t ∧ s.Entitled e sub addr t'

/-- The ACCEPT rule that `AssignLab` is about to make for the team `t` serves a team of the
store: `t` itself, or else other teams with a lab on the subnet, for each address that the
call takes from `ipAddrs`. -/
def Admissible (e : Surroundings Tag) (s : LabState Tag) (t sub : String) : Prop :=
  t ∈ s.ev.store.teams ∨
    ∀ addr ∈ s.ev.nextPeerIPs Event.thirdOctets, addr ≠ sub →
      ∃ t', t' ≠ t ∧ s.Entitled e sub addr t'

/-- A step leaves no allowed address without a team. This concerns a `DeleteTeam` that comes to
the deletion of its team, and an `AssignLab` whose calls succeed. -/
def LeavesNoAccess [DecidableEq Tag] (e : Surroundings Tag) (s : LabState Tag) :
    LabAction → Prop
  | .deleteTeam usr req restart _ => ∀ l, Releases s.ev usr req restart l →
      s.Dispensable e req.teamId fun _ => True
  | .assignLab k via calls => ∀ l hub, s.hub.take e.conf via = some (l, hub) →
      calls.Succeeds s.ev →
        (s.ev.onlyVPN ≠ Guacamole.noVPN → calls.vpn.acceptRule = true →
          s.Admissible e (e.newID k) (e.labSubnet l ++ "/24")) ∧
        -- The old lab of the team, if it has one on another subnet.
        s.Dispensable e (e.newID k) fun sub => sub ≠ e.labSubnet l ++ "/24"
  | _ => True

variable {e : Surroundings Tag} {s s' : LabState Tag} {a : LabAction}

/-- What a team has, it keeps while it stays in the store with its lab. -/
theorem Entitled.mono {sub addr t : String} (h : s.Entitled e sub addr t)
    (hstore : t ∈ s.ev.store.teams → t ∈ s'.ev.store.teams)
    (hlabs : ∀ l, s.ev.labs.get? t = some l → s'.ev.labs.get? t = some l)
    (hpeers : s.ev.peers ⊆ s'.ev.peers) : s'.Entitled e sub addr t := by
  obtain ⟨l, hl, hsub⟩ := h.lab
  obtain ⟨p, hp, hteam⟩ := h.peer
  exact ⟨hstore h.stored, ⟨l, hlabs l hl, hsub⟩, ⟨p, hpeers hp, hteam⟩⟩

/-- A new event has no rule. -/
theorem isolated_init [DecidableEq Tag] (hs : (eventLabs e).init s) : s.Isolated e := by
  obtain ⟨-, ⟨createdBy, onlyVPN, capacity, vpnAddress, store, hev⟩, -⟩ := hs
  simp [Isolated, hev, newEvent]

/-- A signup takes nothing away. -/
theorem Isolated.signup (h : s.Isolated e) {team : Team} {db : Option String}
    (hev : s'.ev = (s.ev.signup team db).1) : s'.Isolated e := by
  obtain ⟨es, heq, hteams⟩ := Event.signup_eq s.ev team db
  rw [heq] at hev
  intro sub dests hrule addr haddr hne
  obtain ⟨t, ht⟩ := h sub dests (by simpa [hev] using hrule) addr haddr hne
  refine ⟨t, ht.mono (fun hmem => ?_) (by simp [hev]) (by simp [hev])⟩
  obtain ⟨old, hold⟩ := GoMap.mem_iff_get?.mp hmem
  rw [hev]
  rcases hteams t with hsame | ⟨-, hnew⟩
  · exact GoMap.mem_iff_get?.mpr ⟨old, hsame ▸ hold⟩
  · exact hnew

/-! ### `AssignLab` -/

section AssignLab

variable {t : String} {l : Nat} {accepts : Bool}

/-- `AssignLab` for `t` changes nothing for the other teams. -/
theorem entitled_assigned_iff (h : Event.Assigned s.ev s'.ev t l (e.labSubnet l ++ "/24") accepts)
    {sub addr t' : String} (hother : t' ≠ t) :
    s'.Entitled e sub addr t' ↔ s.Entitled e sub addr t' := by
  obtain ⟨ps, hpeers, hteam, -⟩ := h.peers
  have hlab : s'.ev.labs.get? t' = s.ev.labs.get? t' := by
    rw [h.labs, GoMap.get?_set, if_neg hother]
  have hstored : t' ∈ s'.ev.store.teams ↔ t' ∈ s.ev.store.teams := by
    rw [h.store]
    exact TeamStore.mem_correctedAssignedLab
  constructor
  · intro ht
    obtain ⟨p, hp, howner, haddr⟩ := ht.peer
    refine ⟨hstored.mp ht.stored, hlab ▸ ht.lab, p, ?_, howner, haddr⟩
    rw [hpeers] at hp
    exact (List.mem_append.mp hp).resolve_right fun hnew => hother (howner ▸ hteam p hnew)
  · intro ht
    refine ht.mono hstored.mpr (fun l' hl' => hlab.trans hl') ?_
    rw [hpeers]
    exact List.subset_append_left _ _

/-- After `AssignLab`, the team `t` has a lab on the subnet of `l`, and on no other. -/
theorem Entitled.sub_eq (h : Event.Assigned s.ev s'.ev t l (e.labSubnet l ++ "/24") accepts)
    {sub addr : String} (ht : s'.Entitled e sub addr t) : sub = e.labSubnet l ++ "/24" := by
  obtain ⟨l', hl', hsub⟩ := ht.lab
  rw [h.labs, GoMap.get?_set, if_pos rfl] at hl'
  cases hl'
  exact hsub.symm

/-- A team of the store gets a lab: it is entitled to each address of its peers. -/
theorem entitled_assigned (h : Event.Assigned s.ev s'.ev t l (e.labSubnet l ++ "/24") accepts)
    (hstored : t ∈ s.ev.store.teams) {addr : String}
    (hpeer : ∃ p ∈ s'.ev.peers, p.team = t ∧ p.allowedIPs = addr) :
    s'.Entitled e (e.labSubnet l ++ "/24") addr t where
  stored := by
    rw [h.store]
    exact TeamStore.mem_correctedAssignedLab.mpr hstored
  lab := ⟨l, by rw [h.labs, GoMap.get?_set, if_pos rfl], rfl⟩
  peer := hpeer

/-- The rules that were there still serve a team, since the old lab of `t` can do without it,
and the new rule serves `t` or the teams that it shares its addresses with. -/
theorem Isolated.assigned (hiso : s.Isolated e)
    (h : Event.Assigned s.ev s'.ev t l (e.labSubnet l ++ "/24") accepts)
    (hnew : s.ev.onlyVPN ≠ Guacamole.noVPN → accepts = true →
      s.Admissible e t (e.labSubnet l ++ "/24"))
    (hold : s.Dispensable e t fun sub => sub ≠ e.labSubnet l ++ "/24") : s'.Isolated e := by
  obtain ⟨ps, hpeers, hteam, hips⟩ := h.peers
  intro sub dests hrule addr haddr hne
  have hother : (∃ t', t' ≠ t ∧ s.Entitled e sub addr t') → ∃ t', s'.Entitled e sub addr t' :=
    fun hsome => hsome.imp fun t' ht' => (entitled_assigned_iff h ht'.1).mpr ht'.2
  rcases (h.accept sub dests).mp hrule with hmem | ⟨hvpn, haccept, rfl, rfl⟩
  · obtain ⟨t', ht'⟩ := hiso sub dests hmem addr haddr hne
    by_cases heq : t' = t
    · subst heq
      by_cases hsub : sub = e.labSubnet l ++ "/24"
      · -- A second lab on the same subnet.
        subst hsub
        obtain ⟨p, hp, hp'⟩ := ht'.peer
        refine ⟨t', entitled_assigned h ht'.stored ⟨p, ?_, hp'⟩⟩
        rw [hpeers]
        exact List.mem_append_left _ hp
      · exact hother (hold sub dests hmem hsub addr haddr hne ht')
    · exact hother ⟨t', heq, ht'⟩
  · have hnext : addr ∈ s.ev.nextPeerIPs Event.thirdOctets := by
      rw [List.mem_append, List.mem_singleton] at haddr
      exact haddr.resolve_right hne
    rcases hnew hvpn haccept with hstored | hshared
    · rw [← hips hvpn] at hnext
      obtain ⟨p, hp, hpaddr⟩ := List.mem_map.mp hnext
      refine ⟨t, entitled_assigned h hstored ⟨p, ?_, hteam p hp, hpaddr⟩⟩
      rw [hpeers]
      exact List.mem_append_right _ hp
    · exact hother (hshared addr hnext hne)

/-- Otherwise there is a rule that serves nobody. -/
theorem not_isolated_assigned
    (h : Event.Assigned s.ev s'.ev t l (e.labSubnet l ++ "/24") accepts)
    (hnot : ¬ ((s.ev.onlyVPN ≠ Guacamole.noVPN → accepts = true →
        s.Admissible e t (e.labSubnet l ++ "/24")) ∧
      s.Dispensable e t fun sub => sub ≠ e.labSubnet l ++ "/24")) : ¬ s'.Isolated e := by
  intro hiso
  apply hnot
  constructor
  · intro hvpn haccept
    by_cases hstored : t ∈ s.ev.store.teams
    · exact .inl hstored
    · refine .inr fun addr haddr hne => ?_
      have hrule := (h.accept _ _).mpr (.inr ⟨hvpn, haccept, rfl, rfl⟩)
      obtain ⟨t', ht'⟩ := hiso _ _ hrule addr (List.mem_append_left _ haddr) hne
      have hmem := ht'.stored
      rw [h.store] at hmem
      have hother : t' ≠ t := fun heq =>
        hstored (heq ▸ TeamStore.mem_correctedAssignedLab.mp hmem)
      exact ⟨t', hother, (entitled_assigned_iff h hother).mp ht'⟩
  · intro sub dests hmem hsub addr haddr hne _
    obtain ⟨t', ht'⟩ := hiso sub dests ((h.accept _ _).mpr (.inl hmem)) addr haddr hne
    have hother : t' ≠ t := fun heq => hsub (Entitled.sub_eq h (heq ▸ ht'))
    exact ⟨t', hother, (entitled_assigned_iff h hother).mp ht'⟩

end AssignLab

/-! ### The steps -/

/-- Without the deleted team, each allowed address still belongs to another team. -/
theorem Isolated.deleteTeam (h : s.Isolated e) {id : String} {db : Option String}
    (hok : s.Dispensable e id fun _ => True)
    (hev : s'.ev = { s.ev with store := (s.ev.store.deleteTeam id db).1 }) : s'.Isolated e := by
  intro sub dests hrule addr haddr hne
  have hrule : .accept sub dests ∈ s.ev.chain := by simpa [hev] using hrule
  obtain ⟨t, hother, ht⟩ : ∃ t, t ≠ id ∧ s.Entitled e sub addr t := by
    obtain ⟨t, ht⟩ := h sub dests hrule addr haddr hne
    rcases eq_or_ne t id with rfl | hother
    · exact hok sub dests hrule trivial addr haddr hne ht
    · exact ⟨t, hother, ht⟩
  refine ⟨t, ht.mono (fun hmem => ?_) (by simp [hev]) (by simp [hev])⟩
  rw [hev]
  exact TeamStore.mem_deleteTeam.mpr ⟨hother, hmem⟩

variable [DecidableEq Tag]

/-- A step that leaves no address without a team keeps the property. -/
theorem isolated_step (h : s.Isolated e) (hok : s.LeavesNoAccess e a)
    (hs : (eventLabs e).step s a = some s') : s'.Isolated e := by
  cases step_change hs with
  | hub =>
    intro sub dests hrule addr haddr hne
    exact (h sub dests hrule addr haddr hne).imp fun t ht => ht.mono id (by simp) (by simp)
  | signup name db => exact h.signup rfl
  | assignLab k via calls l hub hk htake =>
    by_cases hcalls : calls.Succeeds s.ev
    · obtain ⟨hnew, hold⟩ := hok l hub htake hcalls
      exact h.assigned (Event.assignLab_of_succeeds hcalls _ _ _) hnew hold
    · obtain ⟨addrs, ps, heq⟩ :=
        Event.assignLab_of_fails hcalls (e.newID k) l (e.labSubnet l)
      intro sub dests hrule addr haddr hne
      rw [heq] at hrule
      refine (h sub dests hrule addr haddr hne).imp fun t ht => ht.mono ?_ ?_ ?_
      · simp [heq, Event.withPeers]
      · simp [heq, Event.withPeers]
      · simp [heq, Event.withPeers]
  | refused => exact h
  | deleteTeam usr req restart db l hub hl => exact h.deleteTeam (hok l hl) rfl

/-- After any other step, a rule serves nobody. -/
theorem not_isolated_step (hnot : ¬ s.LeavesNoAccess e a)
    (hs : (eventLabs e).step s a = some s') : ¬ s'.Isolated e := by
  cases step_change hs with
  | refused usr req restart db hno =>
    exact absurd (fun l hl => absurd hl (hno l)) hnot
  | assignLab k via calls l hub hk htake =>
    simp only [LeavesNoAccess, not_forall] at hnot
    obtain ⟨l', hub', htake', hcalls, hnot⟩ := hnot
    cases htake.symm.trans htake'
    exact not_isolated_assigned (Event.assignLab_of_succeeds hcalls _ _ _) hnot
  | deleteTeam usr req restart db l hub =>
    simp only [LeavesNoAccess, Dispensable, not_forall, not_exists, not_and] at hnot
    obtain ⟨l, hl, sub, dests, hrule, -, addr, haddr, hne, -, hnobody⟩ := hnot
    intro hisolated
    obtain ⟨t, ht⟩ := hisolated sub dests hrule addr haddr hne
    obtain ⟨hother, hmem⟩ := TeamStore.mem_deleteTeam.mp ht.stored
    exact hnobody t hother ⟨hmem, ht.lab, ht.peer⟩
  | _ => exact absurd trivial hnot

end LabState

/-- The ACCEPT rules serve teams of the store in every state of a run if and only if no step
leaves an allowed address without a team: no `DeleteTeam` removes the one team that the
address belongs to, and no successful `AssignLab` takes this team to another subnet or makes a
rule for a team outside the store. -/
theorem eventLabs_isolated_iff {Tag : Type} [DecidableEq Tag] (e : Surroundings Tag)
    (s : LabState Tag) (hs : (eventLabs e).init s) (as : List LabAction) :
    (eventLabs e).AllStates (LabState.Isolated e) s as ↔
      (eventLabs e).AllSteps (LabState.LeavesNoAccess e) s as :=
  Machine.allStates_iff_allSteps (A := fun _ _ => True) (fun _ h => h)
    (fun _ _ _ h _ hok hs => LabState.isolated_step h hok hs)
    (fun _ _ _ _ _ hnot hs => LabState.not_isolated_step hnot hs) (LabState.isolated_init hs)
    Machine.allSteps_true

/-- The address of a VPN event. -/
def vpnAddress2543 : String := "25.43.240.1/22"

/-- A team of the store gets its first lab, and a user without the privilege does not delete
the team. -/
theorem eventLabs_isolated_unprivileged :
    (eventLabs twoTeams).AllStates (LabState.Isolated twoTeams)
      (newLabState onlyVPN vpnAddress2543)
      (firstOwner ++ [.deleteTeam ⟨"ahmet", false⟩ ⟨"ctf", ""⟩ none none]) := by
  refine (eventLabs_isolated_iff twoTeams _ (newLabState_init _ _ _) _).mpr
    (Machine.allSteps_append.mpr ⟨Machine.allSteps_append.mpr
      ⟨?_, fun s hs t _ => ⟨fun l hub _ _ => ⟨fun _ _ => .inl ?_, ?_⟩, trivial⟩⟩,
      fun s hs t _ => ⟨fun l hl => ?_, trivial⟩⟩)
  · simp [firstTeam, Machine.AllSteps, LabState.LeavesNoAccess]
  · -- The team has signed up.
    have hteam : ((eventLabs twoTeams).run (newLabState onlyVPN vpnAddress2543) firstTeam).all
        (fun s => "" ∈ s.ev.store.teams) = true := by decide
    rw [hs] at hteam
    show "" ∈ s.ev.store.teams
    simpa using hteam
  · -- There is no rule yet.
    have hchain : ((eventLabs twoTeams).run (newLabState onlyVPN vpnAddress2543) firstTeam).all
        (fun s => s.ev.chain.isEmpty) = true := by decide
    rw [hs] at hchain
    intro sub dests hrule
    have hempty : s.ev.chain = [] := by simpa using hchain
    rw [hempty] at hrule
    cases hrule
  · have hcreated : ((eventLabs twoTeams).run (newLabState onlyVPN vpnAddress2543)
        firstOwner).all (fun s => s.ev.createdBy = "tkp") = true := by decide +kernel
    rw [hs] at hcreated
    have hmay := hl.1
    simp [DeletingUser.mayDelete, of_decide_eq_true hcreated] at hmay

/-- The second owner of a lab has the rule of the first owner in front of it. -/
theorem eventLabs_not_isolated :
    ¬ ∀ (e : Surroundings Nat) (s : LabState Nat), (eventLabs e).init s →
      ∀ as : List LabAction, (eventLabs e).AllStates (LabState.Isolated e) s as := by
  intro h
  have hall := h twoTeams (newLabState onlyVPN vpnAddress2543) (newLabState_init _ _ _)
    (firstOwner ++ deleteFirst :: secondOwner)
  obtain ⟨s, hs, hisolated⟩ := hall.of_run
    (fun s => decide
      (.accept "77.179.0/24" ["25.43.240.254/32", "25.43.241.253/32", "25.43.242.252/32",
          "25.43.243.251/32", "77.179.0/24"] ∈ s.ev.chain ∧ "" ∉ s.ev.store.teams ∧
        ∀ p ∈ s.ev.peers, p.allowedIPs = "25.43.240.254/32" → p.team = ""))
    true (by decide +kernel)
  obtain ⟨hrule, hout, hpeers⟩ := of_decide_eq_true hs
  obtain ⟨t, ht⟩ := hisolated _ _ hrule "25.43.240.254/32" (by simp) (by decide)
  obtain ⟨p, hp, hteam, haddr⟩ := ht.peer
  exact hout (hpeers p hp haddr ▸ hteam ▸ ht.stored)

end Haaukins.Daemon
