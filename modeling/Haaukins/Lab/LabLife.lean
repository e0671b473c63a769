import Haaukins.Exercise.ResetRetry
import Haaukins.Lab.LabClose

/-!
# `Haaukins.Lab.LabLife`: a lab from `NewLab` to `Close` (`lab/hub.go`, `exercise/environment.go`)

A worker of the hub makes a lab and starts it, which makes the DNS server and the DHCP server of
its environment. The lab gets exercises, has exercises reset, and is closed at last, by goroutines
that may interleave in any way.

`lifeOfLab_accounted_iff` says along which runs each resource that exists is held by the lab, and
nothing exists without one. `Start` loses a container that exists and could not leave the network
of Docker: its server has no id to close. `Close` has one call for each resource, and forgets those
that fail.

A lab is started once, by the worker. The machines that it starts do not begin to exist then.
-/

set_option autoImplicit false

namespace Haaukins.Lab

open Exercise (ServerCalls)

/-- What Docker and the file system answer in `environment.Start`, up to the machines, and the
names of the files. -/
structure StartCalls where
  zonefile : String
  dns : ServerCalls
  dhcpdConf : String
  dhcp : ServerCalls

/-- `Run` of a new server, and `network.Connect`. -/
def runServer (w : World ResourceKind) (confFile : String) (c : ServerCalls) :
    World ResourceKind × ServerResource × Option String :=
  match c.createContainer with
  | some err => (w, { confFile := confFile, cont := none }, some err)
  | none =>
    let (m, w) := w.make .container
    match c.disconnectNetwork with
    -- The container exists, and the server does not know its id.
    | some err => (w, { confFile := confFile, cont := none }, some err)
    | none => (w, { confFile := confFile, cont := some m }, c.start <|> c.connect)

/-- The servers in `environment.Start`, for a lab that has none. -/
def startServers (w : World ResourceKind) (l : StartedLab) (c : StartCalls) :
    World ResourceKind × StartedLab × Option String :=
  match c.dns.new with
  | some err => (w, l, some err)
  | none =>
    match runServer w c.zonefile c.dns with
    | (w, serv, some err) => (w, { l with dnsServer := some serv }, some err)
    | (w, serv, none) =>
      let l := { l with dnsServer := some serv }
      match c.dhcp.new with
      | some err => (w, l, some err)
      | none =>
        let (w, serv, err) := runServer w c.dhcpdConf c.dhcp
        (w, { l with dhcpServer := some serv }, err)

/-- The resources that exist, and the lab when there is one. -/
structure LifeState where
  world : World ResourceKind
  lab : Option StartedLab

/-- The operations on a lab. -/
inductive LifeAction where
  /-- `NewLab`, `AddChallenge` or `ResetByTag`. -/
  | change (a : LabAction)
  | start (c : StartCalls)
  /-- `Close`, in some interleaving. -/
  | close (answer : CloseCall → Option String) (st : Started) (places : List Place)

namespace LifeState

variable (s : LifeState)

/-- What the lab holds, and nothing without a lab. -/
def holders : List (Resource ResourceKind) := s.lab.elim [] StartedLab.held

/-- Each resource that exists is held by the lab. -/
def Accounted : Prop := s.world.Accounted s.holders

/-- The state without the servers. -/
def bare : LabState := { world := s.world, lab := s.lab.map StartedLab.lab }

/-- The lab after a change, with the servers that it had. -/
def withLab (lab : LabResources) : StartedLab where
  lab := lab
  dhcpServer := s.lab.bind StartedLab.dhcpServer
  dnsServer := s.lab.bind StartedLab.dnsServer

end LifeState

/-- The life of a lab. -/
def lifeOfLab (newFlag : String → Nat → Nat → String) : Machine LifeState LifeAction where
  init s := s.world.live = [] ∧ s.lab = none
  step s
    | .change a => ((labResources newFlag).step s.bare a).map fun t =>
        { world := t.world, lab := t.lab.map s.withLab }
    | .start c => s.lab.bind fun l =>
        if l.dnsServer.isNone ∧ l.dhcpServer.isNone then
          let (w, l, _) := startServers s.world l c
          some { world := w, lab := some l }
        else none
    | .close answer st places => s.lab.bind fun l =>
        ((labClose answer l st).run ⟨s.world, [], l.close st⟩ places).bind fun t =>
          if t.job.finished then some { world := t.shared, lab := none } else none

/-! ### When nothing is lost -/

/-- The server knows its container, when there is one. -/
def KeepsContainer (c : ServerCalls) : Prop := c.createContainer = none → c.disconnectNetwork = none

/-- All calls for the server succeed. -/
def ServerRuns (c : ServerCalls) : Prop :=
  c.createContainer = none ∧ c.disconnectNetwork = none ∧ c.start = none ∧ c.connect = none

/-- Each server that `Start` gets to knows its container. -/
def StartCalls.Lossless (c : StartCalls) : Prop :=
  c.dns.new = none → KeepsContainer c.dns ∧
    (ServerRuns c.dns → c.dhcp.new = none → KeepsContainer c.dhcp)

/-- The step loses no resource. -/
def LifeLossless (newFlag : String → Nat → Nat → String) (s : LifeState) : LifeAction → Prop
  | .change a => Lossless newFlag s.bare a
  | .start c => c.Lossless
  | .close answer _ _ => ∀ l, s.lab = some l → ∀ r ∈ l.held, l.Removes answer r

variable {newFlag : String → Nat → Nat → String} {w : World ResourceKind}

/-! ### What each step makes -/

/-- A container that a server makes is known to it, or lost. -/
theorem runServer_spec (w : World ResourceKind) (confFile : String) (c : ServerCalls) :
    ∃ lost, World.Grew w (runServer w confFile c).1
        ((runServer w confFile c).2.1.cont.toList ++ lost) ∧
      (lost = [] ↔ KeepsContainer c) ∧
      ((runServer w confFile c).2.2 = none ↔ ServerRuns c) := by
  obtain ⟨removeConf, removeContainer, new, create, disconnect, start, connect⟩ := c
  have hmade := World.grew_make w ResourceKind.container
  cases create with
  | some err =>
    exact ⟨[], .refl w, iff_of_true rfl nofun, iff_of_false nofun fun h => (nomatch h.1)⟩
  | none =>
    cases disconnect with
    | some err =>
      exact ⟨[_], hmade, iff_of_false nofun fun h => (nomatch h rfl),
        iff_of_false nofun fun h => (nomatch h.2.1)⟩
    | none =>
      refine ⟨[], hmade, iff_of_true rfl fun _ => rfl, ?_⟩
      cases start <;> simp [runServer, ServerRuns]

/-- `Start` makes the containers of the servers. A part of what it makes is in the servers, and the
other part is empty exactly under its condition. -/
theorem startServers_ownedIff {l : StartedLab} (hl : l.dnsServer = none ∧ l.dhcpServer = none)
    (c : StartCalls) (hw : w.Owned l.held) :
    (startServers w l c).1.OwnedIff (startServers w l c).2.1.held c.Lossless := by
  obtain ⟨lab, dhcpServer, dnsServer⟩ := l
  obtain ⟨rfl, rfl⟩ := hl
  have hheld : w.Owned lab.held := by
    rwa [StartedLab.held, show StartedLab.serverContainers ⟨lab, none, none⟩ = [] from rfl,
      List.append_nil] at hw
  unfold startServers StartCalls.Lossless
  -- Without the first server nothing is made, and `Start` ends.
  cases hnew : c.dns.new with
  | some err => exact ⟨fun _ => hw, fun h => absurd nofun h⟩
  | none =>
    obtain ⟨lost, hgrew, hlost, hok⟩ := runServer_spec w c.zonefile c.dns
    generalize runServer w c.zonefile c.dns = r at hgrew hok ⊢
    obtain ⟨w', dns, err⟩ := r
    simp only [forall_const]
    cases err with
    -- The DNS server failed: its container is kept in the server or lost.
    | some err =>
      have hnot : ¬ ServerRuns c.dns := fun h => (nomatch hok.mpr h)
      exact hheld.ownedIff hgrew (hlost.trans (and_iff_left fun h => absurd h hnot).symm)
    | none =>
      have hruns : ServerRuns c.dns := hok.mp rfl
      have hkeeps : KeepsContainer c.dns := fun _ => hruns.2.1
      obtain rfl : lost = [] := hlost.mpr hkeeps
      rw [List.append_nil] at hgrew
      have hdns : w'.Owned (lab.held ++ dns.cont.toList) := hheld.append hgrew
      -- The DNS server runs, and all depends on the other one.
      cases hdhcp : c.dhcp.new with
      | some err => exact ⟨fun _ => hdns, fun h => absurd ⟨hkeeps, fun _ => nofun⟩ h⟩
      | none =>
        obtain ⟨lost, hgrew, hlost, -⟩ := runServer_spec w' c.dhcpdConf c.dhcp
        have hcond : lost = [] ↔ KeepsContainer c.dns ∧
            (ServerRuns c.dns → (none : Option String) = none → KeepsContainer c.dhcp) :=
          hlost.trans ⟨fun h => ⟨hkeeps, fun _ _ => h⟩, fun h => h.2 hruns rfl⟩
        refine (hdns.ownedIff hgrew hcond).perm ?_
        rw [List.append_assoc]
        exact List.perm_append_comm.append_left lab.held

/-- A lab stays when it is changed. -/
theorem isSome_of_change {s t : LabState} {a : LabAction} (hs : s.lab.isSome = true)
    (hstep : (labResources newFlag).step s a = some t) : t.lab.isSome = true := by
  obtain ⟨w, lab⟩ := s
  obtain ⟨l, rfl⟩ := Option.isSome_iff_exists.mp hs
  cases a with
  | newLab exercises c => cases hstep
  | addChallenge confs c =>
    cases hstep
    rfl
  | resetByTag tag closeErr c =>
    simp only [labResources, Option.map_some, Option.some.injEq] at hstep
    subst hstep
    split <;> rfl

/-- What is left of the lab after `Close`. -/
theorem close_ownedIff {l : StartedLab} {answer : CloseCall → Option String} {st : Started}
    {places : List Place} {t : Job.State (World ResourceKind) CloseCall String}
    (hw : w.Owned l.held) (hrun : (labClose answer l st).run ⟨w, [], l.close st⟩ places = some t)
    (ht : t.job.finished = true) :
    t.shared.OwnedIff [] (∀ r ∈ l.held, l.Removes answer r) := by
  have hlive := mem_live_of_closed ⟨rfl, rfl⟩ hrun ht
  constructor
  · intro hall
    refine World.owned_nil (List.eq_nil_iff_forall_not_mem.mpr fun r hr => ?_)
    obtain ⟨hbefore, hnot⟩ := (hlive r).mp hr
    exact hnot (hall r ((hw.live r).mp hbefore))
  · intro hnot haccounted
    obtain ⟨r, hr, hkept⟩ := not_forall₂.mp hnot
    exact nomatch haccounted r ((hlive r).mpr ⟨(hw.live r).mpr hr, hkept⟩)

namespace LifeState

variable {s t : LifeState} {a : LifeAction}

/-- A step loses nothing exactly under its condition. -/
theorem step_ownedIff (h : s.world.Owned s.holders)
    (hstep : (lifeOfLab newFlag).step s a = some t) :
    t.world.OwnedIff t.holders (LifeLossless newFlag s a) := by
  obtain ⟨w, lab⟩ := s
  cases a with
  | change a =>
    obtain ⟨⟨w', lab'⟩, hu, rfl⟩ := Option.map_eq_some_iff.mp hstep
    cases lab with
    | none =>
      -- There is no server before the lab is there.
      have hchange := LabState.step_ownedIff_append (s := bare ⟨w, none⟩) [] h (fun _ => rfl) hu
      cases lab' with
      | none => exact hchange
      | some lab' => exact hchange
    | some l =>
      have hchange :=
        LabState.step_ownedIff_append (s := bare ⟨w, some l⟩) l.serverContainers h nofun hu
      cases lab' with
      | none => cases isSome_of_change (s := bare ⟨w, some l⟩) rfl hu
      | some lab' => exact hchange
  | start c =>
    obtain ⟨l, rfl, hstep⟩ := Option.bind_eq_some_iff.mp hstep
    split at hstep
    · next hl =>
      cases hstep
      exact startServers_ownedIff
        ⟨Option.isNone_iff_eq_none.mp hl.1, Option.isNone_iff_eq_none.mp hl.2⟩ c h
    · cases hstep
  | close answer st places =>
    obtain ⟨l, rfl, hstep⟩ := Option.bind_eq_some_iff.mp hstep
    obtain ⟨u, hrun, hstep⟩ := Option.bind_eq_some_iff.mp hstep
    split at hstep
    · next hfinished =>
      cases hstep
      exact (close_ownedIff h hrun hfinished).congr (by simp [LifeLossless])
    · cases hstep

end LifeState

/-- Along a run each resource that exists is held by the lab, and none exists without a lab, if and
only if no step loses a resource. -/
theorem lifeOfLab_accounted_iff {s : LifeState} (hs : (lifeOfLab newFlag).init s)
    (as : List LifeAction) :
    (lifeOfLab newFlag).AllStates LifeState.Accounted s as ↔
      (lifeOfLab newFlag).AllSteps (LifeLossless newFlag) s as := by
  have hinit : s.world.Owned s.holders := by
    obtain ⟨hlive, hlab⟩ := hs
    rw [LifeState.holders, hlab]
    exact World.owned_nil hlive
  exact Machine.allStates_iff_allSteps (I := fun s => s.world.Owned s.holders)
    (A := fun _ _ => True) (fun _ h => h.accounted)
    (fun _ _ _ h _ hok hstep => (LifeState.step_ownedIff h hstep).owned hok)
    (fun _ _ _ h _ hnot hstep => (LifeState.step_ownedIff h hstep).lost hnot) hinit
    Machine.allSteps_true

/-- Docker and the file system make a server. -/
def workingServer : ServerCalls := ⟨none, none, none, none, none, none, none⟩

/-- A lab with a frontend is made, started and closed, and each goroutine of `Close` makes its calls
before the next one. -/
theorem lifeOfLab_accounted_closed :
    (lifeOfLab fun _ _ _ => "HKN{0}").AllStates LifeState.Accounted
      ⟨⟨0, []⟩, none⟩
      [.change (.newLab [] ⟨⟨none, true⟩, fun _ => workingCalls, [⟨5000, none, ⟨none, none⟩⟩]⟩),
        .start ⟨"/tmp/zonefile1", workingServer, "/tmp/dhcpd-conf1", workingServer⟩,
        .close (fun _ => none) servedStart
          [.inLeft (.inLeft .here), .inLeft (.inLeft .here),
            .inRight (.inFirst (.inLeft .here)), .inRight (.inFirst (.inLeft .here)),
            .inRight (.inFirst (.inRight (.inLeft .here))),
            .inRight (.inFirst (.inRight (.inLeft .here))),
            .inRight (.inSecond (.inFirst .here)), .inRight (.inSecond (.inSecond .here))]] := by
  refine (lifeOfLab_accounted_iff ⟨rfl, rfl⟩ _).mpr ?_
  intro t ht
  cases ht
  refine ⟨fun _ => ⟨rfl, trivial, ?_, by decide⟩, ?_⟩
  · intro f hf
    obtain rfl := List.mem_singleton.mp hf
    exact ⟨rfl, rfl, rfl⟩
  intro t ht
  cases ht
  refine ⟨fun _ => ⟨fun _ => rfl, fun _ _ _ => rfl⟩, ?_⟩
  intro t ht
  refine ⟨?_, trivial⟩
  intro l hl r hr
  cases hl
  have hheld : r ∈ [(⟨.network, 0⟩ : Resource ResourceKind), ⟨.vm, 1⟩, ⟨.container, 3⟩,
      ⟨.container, 2⟩] := hr
  simp only [List.mem_cons, List.not_mem_nil, or_false] at hheld
  obtain rfl | rfl | rfl | rfl := hheld
  · exact .inr (.inr (.inr (.inr ⟨rfl, rfl⟩)))
  · exact .inl ⟨List.mem_singleton.mpr rfl, rfl⟩
  · exact .inr (.inl ⟨_, rfl, rfl, rfl, rfl⟩)
  · exact .inr (.inr (.inl ⟨_, rfl, rfl, rfl⟩))

end Haaukins.Lab
