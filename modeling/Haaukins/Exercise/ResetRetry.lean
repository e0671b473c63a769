import Haaukins.Exercise.StaticExercises

/-!
# `Haaukins.Exercise.ResetRetry`: repeated resets (`exercise/environment.go`,
`network/dhcp/dhcp.go`, `network/dns/dns.go`)

`Reset` closes the DHCP server, the DNS server and the machines of each exercise, and makes new
ones. The model has the containers and files that exist, and each call of a `Reset` to Docker,
VirtualBox and the file system may fail. A call on a file or a container that does not exist
fails as well. A call that fails changes nothing.

* `Close` of the DHCP server returns its errors. When its file or its container is not there, each
  later `Reset` ends at this `Close` (`ServerSlot.not_closable_refreshDHCP`).
* `Close` of the DNS server and of an exercise only writes errors to the log. What they could not
  remove stays behind, and no later `Reset` closes it.
* `environment_retriable_iff` says that these, and the static exercises that `Reset` cannot
  create, are all the ways in which `Reset` cannot be called again.

`started_start` connects the first state of a run with `Start`, and `perform_reset` the model
with `Haaukins.Exercise.StaticExercises`.

* The containers of the servers are not on the bridge of `DefaultLinkBridge`, so that its
  `disconnect` does nothing.
* A container that was made for a server counts as one of its containers, started or not.
* Machines that a failing `Create` has made are never started, and are left out.
-/

set_option autoImplicit false

namespace Haaukins.Exercise

/-! ### The servers -/

/-- What Docker and the file system answer to the calls for a server. -/
structure ServerCalls where
  removeConf : Option String
  removeContainer : Option String
  new : Option String
  createContainer : Option String
  disconnectNetwork : Option String
  start : Option String
  connect : Option String
  deriving DecidableEq

/-- `dhcp.Server` and `dns.Server`. -/
structure Server where
  /-- The file of the name `confFile` exists. -/
  confFile : Bool
  /-- The container exists, and runs or does not. -/
  cont : Option Bool
  deriving DecidableEq

/-- A pointer to a server, and the containers of earlier servers that still exist. -/
structure ServerSlot where
  server : Option Server
  left : List Bool
  deriving DecidableEq

/-- The error of a file that does not exist. -/
def noSuchFileErr : String := "no such file or directory"

/-- The error of a container that does not exist. -/
def noSuchContainerErr : String := "No such container"

namespace Server

variable (serv : Server) (c : ServerCalls)

/-- `os.Remove` of the file. -/
def removeConf : Server × Option String :=
  if serv.confFile then
    match c.removeConf with
    | some err => (serv, some err)
    | none => ({ serv with confFile := false }, none)
  else (serv, some (c.removeConf.getD noSuchFileErr))

/-- `container.Close`. -/
def closeContainer : Server × Option String :=
  match serv.cont with
  | none => (serv, some (c.removeContainer.getD noSuchContainerErr))
  | some _ =>
    match c.removeContainer with
    | some err => (serv, some err)
    | none => ({ serv with cont := none }, none)

/-- `Close` of `dhcp.Server`. -/
def closeDHCP : Server × Option String :=
  match serv.removeConf c with
  | (serv, some err) => (serv, some err)
  | (serv, none) => serv.closeContainer c

/-- `Close` of `dns.Server`. It logs both errors. -/
def closeDNS : Server := ((serv.removeConf c).1.closeContainer c).1

end Server

namespace ServerSlot

variable (slot : ServerSlot) (c : ServerCalls)

/-- The containers that exist. -/
def containers : List Bool := (slot.server.bind Server.cont).toList ++ slot.left

/-- The server that `New` made takes its place, and then `Run` and `Connect`. -/
def runNew : ServerSlot × Option String :=
  match c.createContainer with
  | some err => ({ server := some ⟨true, none⟩, left := slot.containers }, some err)
  | none =>
    match c.disconnectNetwork with
    -- The container exists, and the server does not know its id.
    | some err => ({ server := some ⟨true, none⟩, left := false :: slot.containers }, some err)
    | none =>
      match c.start with
      | some err => ({ server := some ⟨true, some false⟩, left := slot.containers }, some err)
      | none => ({ server := some ⟨true, some true⟩, left := slot.containers }, c.connect)

/-- `dns.New` or `dhcp.New`, and what follows it. -/
def renew : ServerSlot × Option String :=
  match c.new with
  | some err => (slot, some err)
  | none => slot.runNew c

/-- `refreshDNS`. -/
def refreshDNS : ServerSlot × Option String :=
  ({ slot with server := slot.server.map fun serv => serv.closeDNS c } : ServerSlot).renew c

/-- `refreshDHCP`. -/
def refreshDHCP : ServerSlot × Option String :=
  match slot.server with
  | none => slot.renew c
  | some serv =>
    match serv.closeDHCP c with
    | (serv, some err) => ({ slot with server := some serv }, some err)
    | (serv, none) => ({ slot with server := some serv } : ServerSlot).renew c

/-- The DHCP server in `Start`. -/
def startDHCP : ServerSlot × Option String :=
  match c.new with
  | some err => ({ server := none, left := slot.containers }, some err)
  | none => slot.runNew c

end ServerSlot

/-! ### The exercises -/

/-- What Docker or VirtualBox answer to the `Close` of a machine. -/
structure CloseCalls where
  removeContainer : Option String
  poweroff : Option String
  unregistervm : Option String
  deriving DecidableEq

/-- The answers to the calls of one `Reset`: those of the machines by tag of the exercise and
number of the machine. -/
structure ResetCall where
  dhcp : ServerCalls
  dns : ServerCalls
  close : String → Nat → CloseCalls
  machine : VirtMethod → String → Nat → Option String

/-- The errors of a server whose file and container exist. -/
def ServerCalls.answers (c : ServerCalls) : ServerAnswers where
  close := c.removeConf <|> c.removeContainer
  new := c.new
  run := c.createContainer <|> c.disconnectNetwork <|> c.start
  connect := c.connect
  stop := none

@[inherit_doc ServerCalls.answers]
def ResetCall.answers (call : ResetCall) : Answers where
  machine := call.machine
  dns := call.dns.answers
  dhcp := call.dhcp.answers

/-- An exercise, and the machines that its `Close` could not remove. -/
structure DeployedExercise where
  exercise : LabExercise
  left : List InstanceState
  deriving DecidableEq

/-- What `Close` leaves of a machine. The first machines are the containers. -/
def LabExercise.closeMachine (e : LabExercise) (c : CloseCalls) (m : InstanceState × Nat) :
    Option InstanceState :=
  if m.2 < e.containerOpts.length then c.removeContainer.map fun _ => m.1
  else
    -- A machine that could not be stopped is closed all the same.
    let state := if m.1 = .running ∧ c.poweroff = none then .stopped else m.1
    c.unregistervm.map fun _ => state

namespace DeployedExercise

variable (call : ResetCall) (d : DeployedExercise)

/-- The machines that are there after `Close`. -/
def survivors : List InstanceState :=
  d.exercise.machines.zipIdx.filterMap fun m =>
    d.exercise.closeMachine (call.close d.exercise.tag m.2) m

/-- `exercise.Reset`. -/
def reset : Logged DeployedExercise VirtCall Failure where
  toOperation := (d.exercise.resetWith call.answers).toOperation
  state :=
    { exercise := (d.exercise.resetWith call.answers).state
      left := d.left ++ d.survivors call }

/-- `exercise.Start`. -/
def start : Logged DeployedExercise VirtCall Failure where
  toOperation := (d.exercise.startWith call.answers).toOperation
  state := { d with exercise := (d.exercise.startWith call.answers).state }

end DeployedExercise

/-! ### The environment -/

/-- `environment`, with what it has left behind. -/
structure DeployedEnvironment where
  dhcpServer : ServerSlot
  dnsServer : ServerSlot
  exercises : List DeployedExercise
  disabledExercises : List String
  distinct : (exercises.map fun d => d.exercise.tag).Nodup

namespace DeployedEnvironment

variable (s : DeployedEnvironment) (call : ResetCall)

/-- A loop over the exercises that keeps their tags. -/
def withExercises (dhcp dns : ServerSlot) (r : Logged (List DeployedExercise) VirtCall Failure)
    (h : (r.state.map fun d => d.exercise.tag) = s.exercises.map fun d => d.exercise.tag) :
    DeployedEnvironment × Option Failure :=
  ({ dhcpServer := dhcp
     dnsServer := dns
     exercises := r.state
     disabledExercises := s.disabledExercises
     distinct := h ▸ s.distinct }, r.failure)

/-- `Reset`. -/
def reset : DeployedEnvironment × Option Failure :=
  match s.dhcpServer.refreshDHCP call.dhcp with
  | (dhcp, some err) => ({ s with dhcpServer := dhcp }, some (.error err))
  | (dhcp, none) =>
    match s.dnsServer.refreshDNS call.dns with
    | (dns, some err) => ({ s with dhcpServer := dhcp, dnsServer := dns }, some (.error err))
    | (dns, none) =>
      s.withExercises dhcp dns (.each (fun d => d.reset call) s.exercises)
        (Logged.map_each_state (fun d => d.exercise.resetWith_tag call.answers) _)

/-- `Start`. -/
def start : DeployedEnvironment × Option Failure :=
  match s.dnsServer.refreshDNS call.dns with
  | (dns, some err) => ({ s with dnsServer := dns }, some (.error err))
  | (dns, none) =>
    match s.dhcpServer.startDHCP call.dhcp with
    | (dhcp, some err) => ({ s with dhcpServer := dhcp, dnsServer := dns }, some (.error err))
    | (dhcp, none) =>
      s.withExercises dhcp dns
        (.eachGo (fun d => if d.exercise.tag ∈ s.disabledExercises then .ok d else d.start call)
          s.exercises)
        (by
          show (List.map _ s.exercises).map _ = _
          rw [List.map_map]
          refine List.map_congr_left fun d _ => ?_
          simp only [Function.comp]
          split <;> rfl)

end DeployedEnvironment

/-! ### What is claimed, and when it holds -/

/-- None of the calls has an error. -/
structure ServerCalls.Clean (c : ServerCalls) : Prop where
  removeConf : c.removeConf = none
  removeContainer : c.removeContainer = none
  new : c.new = none
  createContainer : c.createContainer = none
  disconnectNetwork : c.disconnectNetwork = none
  start : c.start = none
  connect : c.connect = none

/-- A server whose file can be removed can be closed, and its replacement gets a container. -/
def ServerCalls.Replaces (c : ServerCalls) : Prop :=
  c.removeConf = none →
    c.removeContainer = none ∧ c.new = none ∧ c.createContainer = none ∧
      c.disconnectNetwork = none

/-- When the server gets a replacement its container is removed, and a container that is made for
the replacement becomes its own. -/
def ServerSlot.Replaces (slot : ServerSlot) (c : ServerCalls) : Prop :=
  c.new = none →
    (slot.server.bind Server.cont ≠ none → c.removeContainer = none) ∧
      (c.createContainer = none → c.disconnectNetwork = none)

/-- `Close` removes each machine of the exercise that runs, or stops it at least. -/
def DeployedExercise.Stops (d : DeployedExercise) (call : ResetCall) : Prop :=
  ∀ i, d.exercise.machines[i]? = some .running →
    if i < d.exercise.containerOpts.length then
      (call.close d.exercise.tag i).removeContainer = none
    else (call.close d.exercise.tag i).unregistervm = none ∨
      (call.close d.exercise.tag i).poweroff = none

/-- The machines of the exercise all run, and no other machine that was made for it runs. -/
structure DeployedExercise.RunningSet (d : DeployedExercise) : Prop where
  machines : d.exercise.machines = List.replicate d.exercise.size .running
  left : .running ∉ d.left

/-- No call has an error. -/
structure ResetCall.Clean (call : ResetCall) : Prop where
  dhcp : call.dhcp.Clean
  dns : call.dns.Clean
  close : ∀ t i, call.close t i = ⟨none, none, none⟩
  machine : ∀ method t i, call.machine method t i = none

/-- A `Reset` without errors. -/
def ResetCall.succeeding : ResetCall where
  dhcp := ⟨none, none, none, none, none, none, none⟩
  dns := ⟨none, none, none, none, none, none, none⟩
  close := fun _ _ => ⟨none, none, none⟩
  machine := fun _ _ _ => none

/-- A call that succeeds everywhere is clean. -/
theorem ResetCall.clean_succeeding : ResetCall.succeeding.Clean where
  dhcp := ⟨rfl, rfl, rfl, rfl, rfl, rfl, rfl⟩
  dns := ⟨rfl, rfl, rfl, rfl, rfl, rfl, rfl⟩
  close := fun _ _ => rfl
  machine := fun _ _ _ => rfl

namespace DeployedEnvironment

/-- `Start` returned nil. -/
structure Started (s : DeployedEnvironment) : Prop where
  dhcp : s.dhcpServer = { server := some ⟨true, some true⟩, left := [] }
  dns : s.dnsServer = { server := some ⟨true, some true⟩, left := [] }
  exercises : ∀ d ∈ s.exercises, d.exercise.Bare ∧ d.left = []

/-- The exercises, without the states of their machines. -/
def outlines (s : DeployedEnvironment) : List LabExercise :=
  s.exercises.map fun d => { d.exercise with machines := [] }

/-- The exercises of `s₀`, with one server of each kind and one running set of machines for each
exercise that is not static. -/
structure Served (s₀ s : DeployedEnvironment) : Prop where
  dhcp : s.dhcpServer.containers = [true]
  dns : s.dnsServer.containers = [true]
  outlines : s.outlines = s₀.outlines
  machines : ∀ d ∈ s.exercises, d.exercise.net = true → d.RunningSet

/-- A `Reset` without errors serves the exercises of `s₀`. -/
def Retriable (s₀ s : DeployedEnvironment) : Prop :=
  ∀ call : ResetCall, call.Clean → (s.reset call).2 = none ∧ Served s₀ (s.reset call).1

/-- The exercises that are reached leave no machine running. -/
def StopsReached (call : ResetCall) : List DeployedExercise → Prop
  | [] => True
  | d :: ds => d.Stops call ∧ (d.exercise.ResetSucceeds call.answers → StopsReached call ds)

/-- The call can be repeated. The DNS server and the exercises are reached after the steps before
them have succeeded. -/
structure Recoverable (s : DeployedEnvironment) (call : ResetCall) : Prop where
  dhcp : call.dhcp.Replaces
  dns : call.dhcp.Clean → s.dnsServer.Replaces call.dns
  exercises : call.dhcp.Clean → LabEnvironment.DNSStarts call.answers →
    StopsReached call s.exercises

/-- Some static exercise has a container. -/
def StaticContainer (s : DeployedEnvironment) : Prop :=
  ∃ d ∈ s.exercises, d.exercise.StaticContainer

end DeployedEnvironment

/-- Calls of `Reset` one after another. A panic ends the process. -/
def environmentResets : Machine DeployedEnvironment ResetCall where
  init := DeployedEnvironment.Started
  step s call := if (s.reset call).2 = some .panic then none else some (s.reset call).1

/-! ### One server -/

namespace ServerSlot

variable {slot : ServerSlot} {c : ServerCalls}

/-- How far the calls for the new server come, and what they leave. -/
theorem renew_cases (slot : ServerSlot) (c : ServerCalls) :
    (c.new ≠ none ∧ slot.renew c = (slot, c.new)) ∨
    (c.new = none ∧ c.createContainer ≠ none ∧
      slot.renew c = ({ server := some ⟨true, none⟩, left := slot.containers },
        c.createContainer)) ∨
    (c.new = none ∧ c.createContainer = none ∧ c.disconnectNetwork ≠ none ∧
      slot.renew c = ({ server := some ⟨true, none⟩, left := false :: slot.containers },
        c.disconnectNetwork)) ∨
    (c.new = none ∧ c.createContainer = none ∧ c.disconnectNetwork = none ∧ c.start ≠ none ∧
      slot.renew c = ({ server := some ⟨true, some false⟩, left := slot.containers }, c.start)) ∨
    (c.new = none ∧ c.createContainer = none ∧ c.disconnectNetwork = none ∧ c.start = none ∧
      slot.renew c = ({ server := some ⟨true, some true⟩, left := slot.containers },
        c.connect)) := by
  unfold renew runNew
  cases c.new with
  | some err => exact .inl ⟨nofun, rfl⟩
  | none =>
    cases c.createContainer with
    | some err => exact .inr (.inl ⟨rfl, nofun, rfl⟩)
    | none =>
      cases c.disconnectNetwork with
      | some err => exact .inr (.inr (.inl ⟨rfl, rfl, nofun, rfl⟩))
      | none =>
        cases c.start with
        | some err => exact .inr (.inr (.inr (.inl ⟨rfl, rfl, rfl, nofun, rfl⟩)))
        | none => exact .inr (.inr (.inr (.inr ⟨rfl, rfl, rfl, rfl, rfl⟩)))

/-- The new server is made, connected and started without an error. -/
theorem renew_none_iff :
    (slot.renew c).2 = none ↔ c.new = none ∧ c.createContainer = none ∧
      c.disconnectNetwork = none ∧ c.start = none ∧ c.connect = none := by
  rcases slot.renew_cases c with h | h | h | h | h <;> simp [h]

/-- The new server runs when all its calls succeed. -/
theorem renew_of_none (h : (slot.renew c).2 = none) :
    (slot.renew c).1 = { server := some ⟨true, some true⟩, left := slot.containers } := by
  obtain ⟨hnew, hcreate, hdisconnect, hstart, -⟩ := renew_none_iff.mp h
  simp only [renew, runNew, hnew, hcreate, hdisconnect, hstart]

/-- What is left after `New`: the old container, and one that the new server does not know. -/
theorem left_renew (hnew : c.new = none) :
    (slot.renew c).1.left = [] ↔
      slot.containers = [] ∧ (c.createContainer = none → c.disconnectNetwork = none) := by
  rcases slot.renew_cases c with h | h | h | h | h
  · exact absurd hnew h.1
  all_goals simp [h]

/-- What was left behind stays. -/
theorem left_subset_renew (slot : ServerSlot) (c : ServerCalls) :
    slot.left ⊆ (slot.renew c).1.left := by
  have hcontainers : slot.left ⊆ slot.containers := List.subset_append_right _ _
  rcases slot.renew_cases c with h | h | h | h | h <;> simp [h, hcontainers]

/-- There is a server, with its file and its container. -/
def Closable (slot : ServerSlot) : Prop := ∃ b, slot.server = some ⟨true, some b⟩

/-- The replacement has a container unless `New` or `Create` fails. -/
theorem closable_renew (hnot : ¬ slot.Closable) :
    (slot.renew c).1.Closable ↔
      c.new = none ∧ c.createContainer = none ∧ c.disconnectNetwork = none := by
  rcases slot.renew_cases c with h | h | h | h | h
  · rw [h.2]
    exact iff_of_false hnot fun hok => h.1 hok.1
  all_goals simp [h, Closable]

/-- A failed start leaves the old server in its slot. -/
theorem renew_server (hsome : slot.server ≠ none) : (slot.renew c).1.server ≠ none := by
  rcases slot.renew_cases c with h | h | h | h | h <;> simp [h, hsome]

/-! ### The DHCP server -/

/-- The three ways in which `Close` of a server ends that has its file and its container. -/
theorem refreshDHCP_cases {b : Bool} (h : slot.server = some ⟨true, some b⟩) (c : ServerCalls) :
    (c.removeConf ≠ none ∧ slot.refreshDHCP c = (slot, c.removeConf)) ∨
    (c.removeConf = none ∧ c.removeContainer ≠ none ∧ slot.refreshDHCP c =
      ({ slot with server := some ⟨false, some b⟩ }, c.removeContainer)) ∨
    (c.removeConf = none ∧ c.removeContainer = none ∧ slot.refreshDHCP c =
      ({ slot with server := some ⟨false, none⟩ } : ServerSlot).renew c) := by
  obtain ⟨server, left⟩ := slot
  obtain rfl : server = some ⟨true, some b⟩ := h
  unfold refreshDHCP Server.closeDHCP Server.removeConf Server.closeContainer
  cases c.removeConf with
  | some err => exact .inl ⟨nofun, rfl⟩
  | none =>
    cases c.removeContainer with
    | some err => exact .inr (.inl ⟨rfl, nofun, rfl⟩)
    | none => exact .inr (.inr ⟨rfl, rfl, rfl⟩)

/-- A server that is closed, and one whose container is not there, has no container to close. -/
theorem not_closable_of_cont {conf : Bool} (h : slot.server = some ⟨conf, none⟩) :
    ¬ slot.Closable := by
  rintro ⟨b, hb⟩
  rw [h] at hb
  cases hb

/-- A call keeps the server closable, and leaves no container behind, just when it replaces a
server that it can close. -/
theorem sound_refreshDHCP_iff (h : slot.Closable) (hleft : slot.left = []) :
    ((slot.refreshDHCP c).1.Closable ∧ (slot.refreshDHCP c).1.left = []) ↔ c.Replaces := by
  obtain ⟨b, hserver⟩ := h
  unfold ServerCalls.Replaces
  rcases refreshDHCP_cases hserver c with ⟨hconf, heq⟩ | ⟨hconf, hcont, heq⟩ | ⟨hconf, hcont, heq⟩
  · -- The file is still there.
    rw [heq]
    exact iff_of_true ⟨⟨b, hserver⟩, hleft⟩ fun hnone => absurd hnone hconf
  · rw [heq]
    refine iff_of_false ?_ fun hreplaces => hcont (hreplaces hconf).1
    rintro ⟨⟨b, hb⟩, -⟩
    cases hb
  · rw [heq, closable_renew (not_closable_of_cont rfl), forall_prop_of_true hconf,
      and_iff_right hcont]
    refine and_iff_left_of_imp fun ⟨hnew, _, hdisconnect⟩ => ?_
    exact (left_renew hnew).mpr ⟨hleft, fun _ => hdisconnect⟩

/-- `refreshDHCP` of a server that can be closed fails only where Docker does. -/
theorem refreshDHCP_none_iff (h : slot.Closable) :
    (slot.refreshDHCP c).2 = none ↔ c.Clean := by
  obtain ⟨b, hserver⟩ := h
  rcases refreshDHCP_cases hserver c with ⟨hconf, heq⟩ | ⟨hconf, hcont, heq⟩ | ⟨hconf, hcont, heq⟩
  · rw [heq]
    exact iff_of_false hconf fun hclean => hconf hclean.removeConf
  · rw [heq]
    exact iff_of_false hcont fun hclean => hcont hclean.removeContainer
  · rw [heq, renew_none_iff]
    constructor
    · rintro ⟨hnew, hcreate, hdisconnect, hstart, hconnect⟩
      exact ⟨hconf, hcont, hnew, hcreate, hdisconnect, hstart, hconnect⟩
    · intro hclean
      exact ⟨hclean.new, hclean.createContainer, hclean.disconnectNetwork, hclean.start,
        hclean.connect⟩

/-- After a call that returns nil there is the new server, and what was left before. -/
theorem refreshDHCP_of_none (h : slot.Closable) (hnone : (slot.refreshDHCP c).2 = none) :
    (slot.refreshDHCP c).1 = { server := some ⟨true, some true⟩, left := slot.left } := by
  obtain ⟨b, hserver⟩ := h
  rcases refreshDHCP_cases hserver c with ⟨hconf, heq⟩ | ⟨-, hcont, heq⟩ | ⟨-, -, heq⟩
  · rw [heq] at hnone
    exact absurd hnone hconf
  · rw [heq] at hnone
    exact absurd hnone hcont
  · rw [heq] at hnone ⊢
    exact renew_of_none hnone

/-- Each call closes the server again, and fails. -/
theorem not_closable_refreshDHCP (hsome : slot.server ≠ none) (h : ¬ slot.Closable) :
    ¬ (slot.refreshDHCP c).1.Closable ∧ (slot.refreshDHCP c).2 ≠ none := by
  obtain ⟨server, left⟩ := slot
  cases server with
  | none => exact absurd rfl hsome
  | some serv =>
    obtain ⟨conf, cont⟩ := serv
    cases conf with
    | false => simp [refreshDHCP, Server.closeDHCP, Server.removeConf, Closable]
    | true =>
      cases cont with
      | some b => exact absurd ⟨b, rfl⟩ h
      | none =>
        cases hconf : c.removeConf <;>
          simp [refreshDHCP, Server.closeDHCP, Server.removeConf, Server.closeContainer, Closable,
            hconf]

/-- `refreshDHCP` takes away nothing that was left behind. -/
theorem left_subset_refreshDHCP : slot.left ⊆ (slot.refreshDHCP c).1.left := by
  unfold refreshDHCP
  split
  · exact left_subset_renew slot c
  · split
    · exact List.Subset.refl _
    · exact left_subset_renew { server := some _, left := slot.left } c

/-- The slot of the DHCP server stays filled. -/
theorem refreshDHCP_server (hsome : slot.server ≠ none) :
    (slot.refreshDHCP c).1.server ≠ none := by
  unfold refreshDHCP
  split
  · exact renew_server hsome
  · split
    · exact Option.some_ne_none _
    · exact renew_server (Option.some_ne_none _)

/-! ### The DNS server -/

/-- The container of a server whose `Close` does not return errors. -/
theorem closeDNS_cont (serv : Server) (c : ServerCalls) :
    (serv.closeDNS c).cont = if c.removeContainer = none then none else serv.cont := by
  have hcont : (serv.removeConf c).1.cont = serv.cont := by
    unfold Server.removeConf
    split
    · split <;> rfl
    · rfl
  unfold Server.closeDNS Server.closeContainer
  split
  · next hnone =>
    rw [hnone, ← hcont, hnone, ite_self]
  · cases hremove : c.removeContainer with
    | some err => exact hcont
    | none => rfl

/-- The error of closing the old DNS server is dropped. -/
theorem refreshDNS_none_iff :
    (slot.refreshDNS c).2 = none ↔ c.new = none ∧ c.createContainer = none ∧
      c.disconnectNetwork = none ∧ c.start = none ∧ c.connect = none := renew_none_iff

/-- A call leaves no container behind just when it can remove the one that it replaces. -/
theorem left_refreshDNS_iff (hleft : slot.left = []) :
    (slot.refreshDNS c).1.left = [] ↔ slot.Replaces c := by
  unfold refreshDNS Replaces
  by_cases hnew : c.new = none
  · rw [left_renew hnew, forall_prop_of_true hnew]
    refine and_congr_left fun _ => ?_
    obtain ⟨server, left⟩ := slot
    obtain rfl : left = [] := hleft
    cases server with
    | none => simp [containers]
    | some serv =>
      show ((serv.closeDNS c).cont).toList ++ [] = [] ↔ (serv.cont ≠ none → _)
      rw [closeDNS_cont]
      cases c.removeContainer with
      | none => simp
      | some err => cases serv.cont <;> simp
  · obtain ⟨err, hnew⟩ := Option.ne_none_iff_exists'.mp hnew
    refine iff_of_true ?_ fun hnone => absurd (hnew.symm.trans hnone) (by simp)
    unfold renew
    rw [hnew]
    exact hleft

/-- A `refreshDNS` that succeeds leaves one new server. -/
theorem refreshDNS_of_none (hremove : c.removeContainer = none)
    (hnone : (slot.refreshDNS c).2 = none) :
    (slot.refreshDNS c).1 = { server := some ⟨true, some true⟩, left := slot.left } := by
  unfold refreshDNS at hnone ⊢
  rw [renew_of_none hnone]
  obtain ⟨server, left⟩ := slot
  cases server with
  | none => rfl
  | some serv =>
    have hcont : (serv.closeDNS c).cont = none := by rw [closeDNS_cont, if_pos hremove]
    simp [containers, hcont]

/-- `refreshDNS` takes away nothing that was left behind. -/
theorem left_subset_refreshDNS : slot.left ⊆ (slot.refreshDNS c).1.left :=
  left_subset_renew { slot with server := slot.server.map fun serv => serv.closeDNS c } c

end ServerSlot

/-! ### One exercise -/

namespace LabExercise

variable {e : LabExercise} {ans : Answers}

/-- `Reset` changes only the states of the machines. -/
theorem resetWith_outline (e : LabExercise) (ans : Answers) :
    ({ (e.resetWith ans).state with machines := [] } : LabExercise) =
      { e with machines := [] } := by
  unfold resetWith
  by_cases h : (({ e with machines := [] } : LabExercise).createWith ans).failure = none
  · rw [Logged.andThen_of_none h]
    rfl
  · rw [Logged.andThen_of_failure h]
    rfl

/-- `Reset` of a static exercise with a container does not return nil. -/
theorem resetWith_static (h : e.StaticContainer) : (e.resetWith ans).failure ≠ none := by
  obtain ⟨hnet, hcontainers⟩ := h
  intro hnone
  have hcreate := (Logged.andThen_failure.mp hnone).1
  have hloop := (Logged.andThen_failure.mp hcreate).1
  have hfirst := (Logged.loop_failure fun _ _ => rfl).mp hloop 0
    (List.mem_range.mpr (List.length_pos_iff.mpr hcontainers))
  have hconnect := (Logged.andThen_failure.mp (Logged.andThen_failure.mp hfirst).1).2
  simp [callNet, hnet, Logged.call] at hconnect

/-- `Start` of machines that are stopped, when it returns nil. -/
theorem startWith_machines {n : Nat} (h : e.machines = List.replicate n .stopped)
    (hnone : (e.startWith ans).failure = none) :
    (e.startWith ans).state.machines = List.replicate n .running := by
  have hstart := (startWith_failure h).mp hnone
  show (e.machines.zipIdx.map fun m => (e.startStopped ans m).state).map Prod.fst = _
  rw [List.eq_replicate_iff]
  refine ⟨by simp [h], fun state hstate => ?_⟩
  rw [List.map_map] at hstate
  obtain ⟨⟨before, i⟩, hm, rfl⟩ := List.mem_map.mp hstate
  rw [h, List.mem_zipIdx_iff_getElem?, List.getElem?_replicate] at hm
  split at hm
  · next hi =>
    cases hm
    simp [startStopped, callState, hstart i hi]
  · cases hm

/-- After a `Reset` that returns nil all machines of the exercise run. -/
theorem resetWith_machines (hnone : (e.resetWith ans).failure = none) :
    (e.resetWith ans).state.machines = List.replicate e.size .running := by
  have hcreate := (Logged.andThen_failure.mp hnone).1
  have hstart := (Logged.andThen_failure.mp hnone).2
  unfold resetWith
  rw [Logged.andThen_of_none hcreate]
  exact startWith_machines (if_pos hcreate) hstart

end LabExercise

namespace LabExercise

/-- When `Close` leaves a machine that runs. -/
theorem closeMachine_eq_running (e : LabExercise) (c : CloseCalls) (m : InstanceState × Nat) :
    e.closeMachine c m = some .running ↔
      m.1 = .running ∧
        ¬ if m.2 < e.containerOpts.length then c.removeContainer = none
          else c.unregistervm = none ∨ c.poweroff = none := by
  unfold closeMachine
  split
  · cases c.removeContainer <;> simp
  · cases c.unregistervm with
    | none => simp
    | some err =>
      cases c.poweroff with
      | none => by_cases hrun : m.1 = .running <;> simp [hrun]
      | some err => simp

end LabExercise

namespace DeployedExercise

variable {d : DeployedExercise} {call : ResetCall}

/-- A running machine survives exactly when it is not stopped. -/
theorem running_notMem_survivors : .running ∉ d.survivors call ↔ d.Stops call := by
  unfold survivors Stops
  rw [List.mem_filterMap, not_exists]
  simp only [not_and, LabExercise.closeMachine_eq_running, not_not]
  constructor
  · intro h i hi
    exact h (.running, i) (List.mem_zipIdx_iff_getElem?.mpr hi) rfl
  · intro h m hm hrun
    rw [List.mem_zipIdx_iff_getElem?, hrun] at hm
    exact h m.2 hm

/-- The machines that run and are not held any more. -/
theorem running_notMem_left :
    .running ∉ (d.reset call).state.left ↔ .running ∉ d.left ∧ d.Stops call := by
  show .running ∉ d.left ++ d.survivors call ↔ _
  rw [List.mem_append, not_or, running_notMem_survivors]

/-- `Close` without errors leaves no machine. -/
theorem survivors_clean (h : call.Clean) : d.survivors call = [] := by
  unfold survivors
  rw [List.filterMap_eq_nil_iff]
  intro m _
  rw [h.close]
  unfold LabExercise.closeMachine
  split <;> rfl

/-- After a `Reset` without errors the machines of the exercise run. -/
theorem runningSet_reset (h : call.Clean) (hnone : (d.reset call).failure = none) :
    (d.reset call).state.RunningSet ↔ .running ∉ d.left := by
  have hleft : (d.reset call).state.left = d.left := by
    show d.left ++ d.survivors call = d.left
    rw [survivors_clean h, List.append_nil]
  have hsize : (d.reset call).state.exercise.size = d.exercise.size := by
    have houtline := congrArg LabExercise.size (d.exercise.resetWith_outline call.answers)
    exact houtline
  constructor
  · intro hset
    exact hleft ▸ hset.left
  · intro hrunning
    refine ⟨?_, hleft.symm ▸ hrunning⟩
    rw [hsize]
    exact LabExercise.resetWith_machines hnone

/-- An exercise that `Reset` can create. A static one has no machines, and never had any. -/
structure Creatable (d : DeployedExercise) : Prop where
  bare : d.exercise.Bare
  notStatic : ¬ d.exercise.StaticContainer
  left : d.exercise.net = false → d.left = []

/-- After a reset the machines can be created again. -/
theorem creatable_reset (h : d.Creatable) : (d.reset call).state.Creatable where
  bare := (LabExercise.resetWith_bare call.answers h.bare h.notStatic).state
  notStatic := by
    have houtline :=
      congrArg LabExercise.StaticContainer (d.exercise.resetWith_outline call.answers)
    exact fun hstatic => h.notStatic (houtline.mp hstatic)
  left := by
    intro hafter
    have houtline := congrArg LabExercise.net (d.exercise.resetWith_outline call.answers)
    have hnet : d.exercise.net = false := houtline.symm.trans hafter
    show d.left ++ d.survivors call = []
    rw [h.left hnet, survivors, (h.bare hnet).1]
    rfl

/-- `Reset` of an exercise whose machines can be created. -/
theorem reset_failure_iff (h : d.Creatable) :
    (d.reset call).failure = none ↔ d.exercise.ResetSucceeds call.answers :=
  LabExercise.resetWith_failure_iff h.bare h.notStatic

/-- A clean call lets `Reset` succeed. -/
theorem resetSucceeds_clean (h : call.Clean) : d.exercise.ResetSucceeds call.answers :=
  ⟨⟨fun i _ => ⟨h.machine _ _ i, h.machine _ _ i⟩, fun i _ => h.machine _ _ i⟩,
    fun i _ => h.machine _ _ i⟩

end DeployedExercise

/-! ### The loop over the exercises -/

section

variable {ds : List DeployedExercise} {call : ResetCall}

/-- The loop over the exercises keeps them creatable. -/
theorem creatable_resetEach (h : ∀ d ∈ ds, d.Creatable) :
    ∀ d ∈ (Logged.each (fun d => d.reset call) ds).state, d.Creatable := by
  induction ds with
  | nil => exact h
  | cons d ds ih =>
    obtain ⟨hd, hrest⟩ := List.forall_mem_cons.mp h
    by_cases hfailure : (d.reset call).failure = none
    · rw [Logged.each_of_none hfailure]
      exact List.forall_mem_cons.mpr ⟨DeployedExercise.creatable_reset hd, ih hrest⟩
    · rw [Logged.each_of_failure hfailure]
      exact List.forall_mem_cons.mpr ⟨DeployedExercise.creatable_reset hd, hrest⟩

/-- The loop ends with no machine left that runs just when each exercise that it reaches leaves
none. -/
theorem left_resetEach_iff (h : ∀ d ∈ ds, d.Creatable) (hleft : ∀ d ∈ ds, .running ∉ d.left) :
    (∀ d ∈ (Logged.each (fun d => d.reset call) ds).state, .running ∉ d.left) ↔
      DeployedEnvironment.StopsReached call ds := by
  induction ds with
  | nil => exact iff_of_true hleft trivial
  | cons d ds ih =>
    obtain ⟨hd, hrest⟩ := List.forall_mem_cons.mp h
    obtain ⟨hleftd, hleftrest⟩ := List.forall_mem_cons.mp hleft
    rw [DeployedEnvironment.StopsReached, ← DeployedExercise.reset_failure_iff hd]
    by_cases hfailure : (d.reset call).failure = none
    · rw [Logged.each_of_none hfailure, List.forall_mem_cons,
        DeployedExercise.running_notMem_left, and_iff_right hleftd, ih hrest hleftrest,
        forall_prop_of_true hfailure]
    · rw [Logged.each_of_failure hfailure, List.forall_mem_cons,
        DeployedExercise.running_notMem_left, and_iff_right hleftd]
      exact and_congr_right fun _ => iff_of_true hleftrest fun hnone => absurd hnone hfailure

/-- What is left stays. -/
theorem running_left_resetEach (call : ResetCall) (h : ∃ d ∈ ds, .running ∈ d.left) :
    ∃ d ∈ (Logged.each (fun d => d.reset call) ds).state, .running ∈ d.left := by
  induction ds with
  | nil => exact h
  | cons d ds ih =>
    have hgrows : .running ∈ d.left → .running ∈ (d.reset call).state.left :=
      List.mem_append_left _
    by_cases hfailure : (d.reset call).failure = none
    · rw [Logged.each_of_none hfailure]
      rw [List.exists_mem_cons_iff] at h ⊢
      exact h.imp hgrows ih
    · rw [Logged.each_of_failure hfailure]
      rw [List.exists_mem_cons_iff] at h ⊢
      exact h.imp_left hgrows

/-- A static exercise with a container stops the loop. -/
theorem resetEach_static (h : ∃ d ∈ ds, d.exercise.StaticContainer) :
    (Logged.each (fun d => d.reset call) ds).failure ≠ none := by
  induction ds with
  | nil => simp at h
  | cons d ds ih =>
    by_cases hfailure : (d.reset call).failure = none
    · rw [Logged.each_of_none hfailure]
      rw [List.exists_mem_cons_iff] at h
      obtain hd | hrest := h
      · exact absurd hfailure (LabExercise.resetWith_static hd)
      · exact ih hrest
    · rw [Logged.each_of_failure hfailure]
      exact hfailure

/-- The loop without errors. -/
theorem resetEach_clean (h : ∀ d ∈ ds, d.Creatable) (hcall : call.Clean) :
    (Logged.each (fun d => d.reset call) ds).failure = none ∧
      (Logged.each (fun d => d.reset call) ds).state = ds.map fun d => (d.reset call).state := by
  induction ds with
  | nil => exact ⟨rfl, rfl⟩
  | cons d ds ih =>
    obtain ⟨hd, hrest⟩ := List.forall_mem_cons.mp h
    have hnone : (d.reset call).failure = none :=
      (DeployedExercise.reset_failure_iff hd).mpr (DeployedExercise.resetSucceeds_clean hcall)
    rw [Logged.each_of_none hnone]
    exact ⟨(ih hrest).1, congrArg _ (ih hrest).2⟩

end

/-! ### One `Reset` -/

namespace DeployedEnvironment

variable {s s₀ : DeployedEnvironment} {call : ResetCall}

/-- `Reset` begins with the DHCP server. -/
theorem reset_dhcpServer :
    (s.reset call).1.dhcpServer = (s.dhcpServer.refreshDHCP call.dhcp).1 := by
  unfold reset
  rcases s.dhcpServer.refreshDHCP call.dhcp with ⟨dhcp, - | err⟩
  · rcases s.dnsServer.refreshDNS call.dns with ⟨dns, - | err⟩ <;> rfl
  · rfl

/-- The DNS server comes next, when the first has no error. -/
theorem reset_dnsServer :
    (s.reset call).1.dnsServer =
      if (s.dhcpServer.refreshDHCP call.dhcp).2 = none then (s.dnsServer.refreshDNS call.dns).1
      else s.dnsServer := by
  unfold reset
  rcases s.dhcpServer.refreshDHCP call.dhcp with ⟨dhcp, - | err⟩
  · rcases s.dnsServer.refreshDNS call.dns with ⟨dns, - | err⟩ <;> rfl
  · rfl

/-- The exercises come last, when both servers run. -/
theorem reset_exercises :
    (s.reset call).1.exercises =
      if (s.dhcpServer.refreshDHCP call.dhcp).2 = none ∧
          (s.dnsServer.refreshDNS call.dns).2 = none then
        (Logged.each (fun d => d.reset call) s.exercises).state
      else s.exercises := by
  unfold reset
  rcases s.dhcpServer.refreshDHCP call.dhcp with ⟨dhcp, - | err⟩
  · rcases s.dnsServer.refreshDNS call.dns with ⟨dns, - | err⟩
    · exact (if_pos ⟨rfl, rfl⟩).symm
    · rw [if_neg (by simp)]
  · rw [if_neg (by simp)]

/-- `Reset` has no error exactly when its three parts have none. -/
theorem reset_none_iff :
    (s.reset call).2 = none ↔
      (s.dhcpServer.refreshDHCP call.dhcp).2 = none ∧
        (s.dnsServer.refreshDNS call.dns).2 = none ∧
        (Logged.each (fun d => d.reset call) s.exercises).failure = none := by
  unfold reset
  rcases s.dhcpServer.refreshDHCP call.dhcp with ⟨dhcp, - | err⟩
  · rcases s.dnsServer.refreshDNS call.dns with ⟨dns, - | err⟩
    · simp [withExercises]
    · simp
  · simp

/-- `Reset` has the same exercises. -/
theorem outlines_reset : (s.reset call).1.outlines = s.outlines := by
  unfold outlines
  rw [reset_exercises]
  split
  · exact Logged.map_each_state (fun d => d.exercise.resetWith_outline call.answers) _
  · rfl

/-- What each `Reset` keeps, when there is no static exercise that it cannot create. -/
structure Resettable (s : DeployedEnvironment) : Prop where
  dhcp : s.dhcpServer.server ≠ none
  exercises : ∀ d ∈ s.exercises, d.Creatable

/-- A lab that can be reset can be reset again. -/
theorem resettable_reset (h : s.Resettable) : (s.reset call).1.Resettable where
  dhcp := by
    rw [reset_dhcpServer]
    exact ServerSlot.refreshDHCP_server h.dhcp
  exercises := by
    rw [reset_exercises]
    split
    · exact creatable_resetEach h.exercises
    · exact h.exercises

/-- The DHCP server can be closed, and no container of a server and no machine that runs was left
behind. -/
structure Sound (s : DeployedEnvironment) : Prop where
  dhcp : s.dhcpServer.Closable ∧ s.dhcpServer.left = []
  dns : s.dnsServer.left = []
  exercises : ∀ d ∈ s.exercises, .running ∉ d.left

/-- The success of `refreshDNS`, as the environment sees it. -/
theorem refreshDNS_none_iff_starts :
    (s.dnsServer.refreshDNS call.dns).2 = none ↔ LabEnvironment.DNSStarts call.answers := by
  rw [ServerSlot.refreshDNS_none_iff]
  show _ ↔ call.dns.new = none ∧
    (call.dns.createContainer <|> call.dns.disconnectNetwork <|> call.dns.start) = none ∧
      call.dns.connect = none
  simp only [Option.orElse_eq_none, and_assoc]

/-- What a `Reset` of a sound environment has to do. -/
theorem sound_reset_of_sound (h : s.Resettable) (hs : s.Sound) :
    (s.reset call).1.Sound ↔ s.Recoverable call := by
  have hdhcp := ServerSlot.sound_refreshDHCP_iff (c := call.dhcp) hs.dhcp.1 hs.dhcp.2
  have hclean := ServerSlot.refreshDHCP_none_iff (c := call.dhcp) hs.dhcp.1
  have hdns : (s.reset call).1.dnsServer.left = [] ↔
      (call.dhcp.Clean → s.dnsServer.Replaces call.dns) := by
    rw [reset_dnsServer, ← hclean]
    split
    · next hyes => rw [ServerSlot.left_refreshDNS_iff hs.dns, forall_prop_of_true hyes]
    · next hno => exact iff_of_true hs.dns fun hyes => absurd hyes hno
  have hexercises : (∀ d ∈ (s.reset call).1.exercises, .running ∉ d.left) ↔
      (call.dhcp.Clean → LabEnvironment.DNSStarts call.answers →
        StopsReached call s.exercises) := by
    rw [reset_exercises, ← hclean, ← refreshDNS_none_iff_starts]
    split
    · next hyes =>
      rw [left_resetEach_iff h.exercises hs.exercises, forall_prop_of_true hyes.1,
        forall_prop_of_true hyes.2]
    · next hno => exact iff_of_true hs.exercises fun hyes hstarts => absurd ⟨hyes, hstarts⟩ hno
  constructor
  · intro hsound
    exact ⟨hdhcp.mp (reset_dhcpServer ▸ hsound.dhcp), hdns.mp hsound.dns,
      hexercises.mp hsound.exercises⟩
  · intro hrecoverable
    refine ⟨?_, hdns.mpr hrecoverable.dns, hexercises.mpr hrecoverable.exercises⟩
    rw [reset_dhcpServer]
    exact hdhcp.mpr hrecoverable.dhcp

/-- No `Reset` makes an environment sound again. -/
theorem sound_of_reset (h : s.Resettable) (hsound : (s.reset call).1.Sound) : s.Sound where
  dhcp := by
    have hafter := hsound.dhcp
    rw [reset_dhcpServer] at hafter
    refine ⟨?_, ?_⟩
    · by_contra hnot
      exact (ServerSlot.not_closable_refreshDHCP h.dhcp hnot).1 hafter.1
    · exact List.subset_nil.mp (hafter.2 ▸ ServerSlot.left_subset_refreshDHCP)
  dns := by
    have hafter := hsound.dns
    rw [reset_dnsServer] at hafter
    split at hafter
    · exact List.subset_nil.mp (hafter ▸ ServerSlot.left_subset_refreshDNS)
    · exact hafter
  exercises := by
    have hafter := hsound.exercises
    rw [reset_exercises] at hafter
    split at hafter
    · intro d hd hrunning
      obtain ⟨d', hd', hrunning'⟩ := running_left_resetEach call ⟨d, hd, hrunning⟩
      exact hafter d' hd' hrunning'
    · exact hafter

/-- The environment is sound after a `Reset` if it was sound before and the call can be
repeated. -/
theorem sound_reset_iff (h : s.Resettable) :
    (s.reset call).1.Sound ↔ s.Sound ∧ s.Recoverable call := by
  constructor
  · intro hsound
    have hs := sound_of_reset h hsound
    exact ⟨hs, (sound_reset_of_sound h hs).mp hsound⟩
  · intro ⟨hs, hrecoverable⟩
    exact (sound_reset_of_sound h hs).mpr hrecoverable

/-- In a sound environment a `Reset` without errors serves the exercises, and in no other. -/
theorem retriable_iff_sound (h : s.Resettable) (houtlines : s.outlines = s₀.outlines) :
    Retriable s₀ s ↔ s.Sound := by
  constructor
  -- The call without a failing answer tells what a reset needs.
  · intro hretriable
    have hcall := ResetCall.clean_succeeding
    obtain ⟨hnone, hserved⟩ := hretriable _ hcall
    obtain ⟨hdhcp, hdns, -⟩ := reset_none_iff.mp hnone
    have hclosable : s.dhcpServer.Closable := by
      by_contra hnot
      exact (ServerSlot.not_closable_refreshDHCP h.dhcp hnot).2 hdhcp
    refine ⟨⟨hclosable, ?_⟩, ?_, fun d hd => ?_⟩
    · have hcontainers := hserved.dhcp
      rw [reset_dhcpServer, ServerSlot.refreshDHCP_of_none hclosable hdhcp] at hcontainers
      exact (List.cons.inj hcontainers).2
    · have hcontainers := hserved.dns
      rw [reset_dnsServer, if_pos hdhcp, ServerSlot.refreshDNS_of_none rfl hdns] at hcontainers
      exact (List.cons.inj hcontainers).2
    -- An exercise without a network leaves nothing, and one with a network runs its machines after
    -- the reset, and no others.
    · have hcreatable := h.exercises d hd
      cases hnet : d.exercise.net with
      | false =>
        rw [hcreatable.left hnet]
        exact List.not_mem_nil
      | true =>
        have hreset : (d.reset .succeeding).failure = none :=
          (DeployedExercise.reset_failure_iff hcreatable).mpr
            (DeployedExercise.resetSucceeds_clean hcall)
        have hmem : (d.reset .succeeding).state ∈ (s.reset .succeeding).1.exercises := by
          rw [reset_exercises, if_pos ⟨hdhcp, hdns⟩, (resetEach_clean h.exercises hcall).2]
          exact List.mem_map_of_mem hd
        have houtline := congrArg LabExercise.net
          (d.exercise.resetWith_outline ResetCall.succeeding.answers)
        have hset := hserved.machines _ hmem (houtline.trans hnet)
        exact (DeployedExercise.runningSet_reset hcall hreset).mp hset
  -- In a sound environment each server closes and starts, and each exercise is reset alone.
  · intro hsound call hcall
    have hdhcp : (s.dhcpServer.refreshDHCP call.dhcp).2 = none :=
      (ServerSlot.refreshDHCP_none_iff hsound.dhcp.1).mpr hcall.dhcp
    have hdns : (s.dnsServer.refreshDNS call.dns).2 = none :=
      ServerSlot.refreshDNS_none_iff.mpr ⟨hcall.dns.new, hcall.dns.createContainer,
        hcall.dns.disconnectNetwork, hcall.dns.start, hcall.dns.connect⟩
    obtain ⟨heach, hstate⟩ := resetEach_clean h.exercises hcall
    refine ⟨reset_none_iff.mpr ⟨hdhcp, hdns, heach⟩, ?_, ?_, outlines_reset.trans houtlines, ?_⟩
    · rw [reset_dhcpServer, ServerSlot.refreshDHCP_of_none hsound.dhcp.1 hdhcp, hsound.dhcp.2]
      rfl
    · rw [reset_dnsServer, if_pos hdhcp,
        ServerSlot.refreshDNS_of_none hcall.dns.removeContainer hdns, hsound.dns]
      rfl
    · rw [reset_exercises, if_pos ⟨hdhcp, hdns⟩, hstate]
      intro d' hd' _
      obtain ⟨d, hd, rfl⟩ := List.mem_map.mp hd'
      have hreset : (d.reset call).failure = none :=
        (DeployedExercise.reset_failure_iff (h.exercises d hd)).mpr
          (DeployedExercise.resetSucceeds_clean hcall)
      exact (DeployedExercise.runningSet_reset hcall hreset).mpr (hsound.exercises d hd)

/-- A `Reset` never returns nil when some static exercise has a container. -/
theorem not_retriable_static (h : s.StaticContainer) : ¬ Retriable s₀ s := by
  intro hretriable
  obtain ⟨hnone, -⟩ := hretriable _ ResetCall.clean_succeeding
  exact resetEach_static h (reset_none_iff.mp hnone).2.2

/-- The exceptions among the exercises can be read off the outlines. -/
theorem staticContainer_iff :
    s.StaticContainer ↔ ∃ e ∈ s.outlines, e.StaticContainer := by
  unfold StaticContainer outlines
  simp only [List.mem_map, exists_exists_and_eq_and]
  rfl

end DeployedEnvironment

section

open DeployedEnvironment

variable {s s' : DeployedEnvironment} {call : ResetCall}

/-! ### `Start`, and the other model of `Reset` -/

/-- Before `Start` there are no servers. -/
structure DeployedEnvironment.Created (s : DeployedEnvironment) : Prop where
  dhcp : s.dhcpServer = { server := none, left := [] }
  dns : s.dnsServer = { server := none, left := [] }
  exercises : ∀ d ∈ s.exercises, d.exercise.Bare ∧ d.left = []

/-- A successful `startDHCP` is a `renew`. -/
theorem ServerSlot.startDHCP_of_none {slot : ServerSlot} {c : ServerCalls}
    (hnone : (slot.startDHCP c).2 = none) : slot.startDHCP c = slot.renew c := by
  unfold startDHCP renew at *
  cases hnew : c.new with
  | none => rfl
  | some err =>
    rw [hnew] at hnone
    cases hnone

/-- Both servers and the exercises after a `Start` that returns nil. -/
theorem DeployedEnvironment.start_of_none (hnone : (s.start call).2 = none) :
    (s.dnsServer.refreshDNS call.dns).2 = none ∧ (s.dhcpServer.startDHCP call.dhcp).2 = none ∧
      (s.start call).1.dnsServer = (s.dnsServer.refreshDNS call.dns).1 ∧
      (s.start call).1.dhcpServer = (s.dhcpServer.startDHCP call.dhcp).1 ∧
      (s.start call).1.exercises = s.exercises.map fun d =>
        if d.exercise.tag ∈ s.disabledExercises then d else (d.start call).state := by
  unfold start at hnone ⊢
  rcases hdns : s.dnsServer.refreshDNS call.dns with ⟨dns, - | err⟩
  · rw [hdns] at hnone
    rcases hdhcp : s.dhcpServer.startDHCP call.dhcp with ⟨dhcp, - | err⟩
    · refine ⟨rfl, rfl, rfl, rfl, List.map_congr_left fun d _ => ?_⟩
      exact apply_ite Logged.state _ _ _
    · rw [hdhcp] at hnone
      cases hnone
  · rw [hdns] at hnone
    cases hnone

/-- A `Start` that returns nil makes a started environment. -/
theorem DeployedEnvironment.started_start (h : s.Created) (hnone : (s.start call).2 = none) :
    (s.start call).1.Started := by
  obtain ⟨hdns, hdhcp, hdnsServer, hdhcpServer, hexercises⟩ := start_of_none hnone
  refine ⟨?_, ?_, ?_⟩
  · have hrenew := ServerSlot.startDHCP_of_none hdhcp
    rw [hrenew] at hdhcp hdhcpServer
    rw [hdhcpServer, ServerSlot.renew_of_none hdhcp, h.dhcp]
    rfl
  · rw [hdnsServer, h.dns]
    rw [h.dns] at hdns
    exact ServerSlot.renew_of_none hdns
  · intro d' hd'
    rw [hexercises] at hd'
    obtain ⟨d, hd, rfl⟩ := List.mem_map.mp hd'
    obtain ⟨hbare, hleft⟩ := h.exercises d hd
    split
    · exact ⟨hbare, hleft⟩
    · exact ⟨(LabExercise.startWith_bare hbare).state, hleft⟩

/-- The environment without its servers, as in the model of all its operations. -/
def DeployedEnvironment.environment (s : DeployedEnvironment) : LabEnvironment where
  ee :=
    { exercises := s.exercises.map DeployedExercise.exercise
      disabledExercises := s.disabledExercises
      distinct := by
        rw [List.map_map]
        exact s.distinct }
  dnsServer := s.dnsServer.server.isSome
  dhcpServer := s.dhcpServer.server.isSome
  operations := []

/-- The error of `renew` is the first one of the three calls. -/
theorem ServerSlot.renew_failure (slot : ServerSlot) (c : ServerCalls) :
    (slot.renew c).2 = (c.answers.new <|> c.answers.run <|> c.answers.connect) := by
  unfold renew runNew ServerCalls.answers
  cases c.new with
  | some err => rfl
  | none =>
    cases c.createContainer with
    | some err => rfl
    | none =>
      cases c.disconnectNetwork with
      | some err => rfl
      | none => cases c.start <;> rfl

/-- Both models of `refreshDNS` return the same error. -/
theorem DeployedEnvironment.environment_refreshDNS (s : DeployedEnvironment) (call : ResetCall)
    (t : LabEnvironment) :
    (t.refreshDNS call.answers).2 = (s.dnsServer.refreshDNS call.dns).2 := by
  have hfailure : (s.dnsServer.refreshDNS call.dns).2 = _ := ServerSlot.renew_failure _ _
  rw [hfailure]
  show (match call.dns.answers.new with | some err => _ | none => _ :
    LabEnvironment × Option String).2 = _
  cases call.dns.answers.new <;> rfl

/-- So they do for `refreshDHCP` of a server that can be closed. -/
theorem DeployedEnvironment.environment_refreshDHCP (call : ResetCall)
    (h : s.dhcpServer.Closable) :
    (s.environment.refreshDHCP call.answers).2 = (s.dhcpServer.refreshDHCP call.dhcp).2 := by
  obtain ⟨b, hserver⟩ := h
  have hsome : s.environment.dhcpServer = true := by
    show s.dhcpServer.server.isSome = true
    rw [hserver]
    rfl
  unfold LabEnvironment.refreshDHCP
  rw [if_pos hsome]
  have hclose : call.answers.dhcp.close =
    (call.dhcp.removeConf <|> call.dhcp.removeContainer) := rfl
  rcases ServerSlot.refreshDHCP_cases hserver call.dhcp with
    ⟨hconf, heq⟩ | ⟨hconf, hcont, heq⟩ | ⟨hconf, hcont, heq⟩
  · obtain ⟨err, hconf⟩ := Option.ne_none_iff_exists'.mp hconf
    rw [heq, hclose, hconf]
    rfl
  · obtain ⟨err, hcont⟩ := Option.ne_none_iff_exists'.mp hcont
    rw [heq, hclose, hconf, hcont]
    rfl
  · rw [heq, hclose, hconf, hcont, ServerSlot.renew_failure]
    show (match call.dhcp.answers.new with | some err => _ | none => _ :
      LabEnvironment × Option String).2 = _
    cases call.dhcp.answers.new <;> rfl

/-- The two models of the loop agree about errors and exercises. -/
theorem each_reset_exercise (call : ResetCall) (ds : List DeployedExercise) :
    (Logged.each (fun e => e.resetWith call.answers) (ds.map DeployedExercise.exercise)).failure =
        (Logged.each (fun d => d.reset call) ds).failure ∧
      (Logged.each (fun e => e.resetWith call.answers) (ds.map DeployedExercise.exercise)).state =
        (Logged.each (fun d => d.reset call) ds).state.map DeployedExercise.exercise := by
  induction ds with
  | nil => exact ⟨rfl, rfl⟩
  | cons d ds ih =>
    rw [List.map_cons]
    by_cases hfailure : (d.reset call).failure = none
    · have hexercise : (d.exercise.resetWith call.answers).failure = none := hfailure
      rw [Logged.each_of_none hfailure, Logged.each_of_none hexercise]
      exact ⟨ih.1, congrArg _ ih.2⟩
    · have hexercise : (d.exercise.resetWith call.answers).failure ≠ none := hfailure
      rw [Logged.each_of_failure hfailure, Logged.each_of_failure hexercise]
      exact ⟨rfl, rfl⟩

/-- The `Reset` of the other model ends in the same way, with the same exercises. -/
theorem DeployedEnvironment.perform_reset (h : s.dhcpServer.Closable) :
    (s.environment.perform call.answers .reset).failure = (s.reset call).2 ∧
      (s.environment.perform call.answers .reset).state.ee.exercises =
        (s.reset call).1.environment.ee.exercises := by
  have hdhcp := environment_refreshDHCP call h
  have hee : (s.environment.refreshDHCP call.answers).1.ee = _ := s.environment.refreshDHCP_ee
  unfold LabEnvironment.perform reset
  rcases hslot : s.dhcpServer.refreshDHCP call.dhcp with ⟨dhcp, - | err⟩
  · rw [hslot] at hdhcp
    rw [LabEnvironment.afterServers_of_none hdhcp]
    generalize (s.environment.refreshDHCP call.answers).1 = t at hee
    have hdns := s.environment_refreshDNS call t
    have htee : (t.refreshDNS call.answers).1.ee = s.environment.ee := t.refreshDNS_ee.trans hee
    rcases hslot' : s.dnsServer.refreshDNS call.dns with ⟨dns, - | err⟩
    · rw [hslot'] at hdns
      rw [LabEnvironment.afterServers_of_none hdns, htee]
      exact each_reset_exercise call s.exercises
    · rw [hslot'] at hdns
      unfold LabEnvironment.afterServers
      rw [hdns]
      exact ⟨rfl, congrArg Environment.exercises htee⟩
  · rw [hslot] at hdhcp
    unfold LabEnvironment.afterServers
    rw [hdhcp]
    exact ⟨rfl, congrArg Environment.exercises hee⟩

/-! ### Runs -/

/-- A step is one `Reset`. -/
theorem environmentResets_step (h : environmentResets.step s call = some s') :
    s' = (s.reset call).1 := by
  have hstep : (if (s.reset call).2 = some .panic then none else some (s.reset call).1) =
      some s' := h
  split at hstep
  · cases hstep
  · exact (Option.some.inj hstep).symm

/-- Resets leave the outlines of the exercises alone. -/
theorem outlines_run {calls : List ResetCall} (hrun : environmentResets.run s calls = some s') :
    s'.outlines = s.outlines :=
  Machine.run_invariant (I := fun t => t.outlines = s.outlines) (A := fun _ => True)
    (fun _ _ _ hs _ hstep => by rw [environmentResets_step hstep, outlines_reset, hs]) rfl
    (fun _ _ => trivial) hrun

/-- A started lab can be reset. -/
theorem DeployedEnvironment.Started.resettable (h : s.Started) (hstatic : ¬ s.StaticContainer) :
    s.Resettable where
  dhcp := by
    rw [h.dhcp]
    exact Option.some_ne_none _
  exercises := by
    intro d hd
    obtain ⟨hbare, hleft⟩ := h.exercises d hd
    exact ⟨hbare, fun hd' => hstatic ⟨d, hd, hd'⟩, fun _ => hleft⟩

/-- A started lab has its machines and its servers. -/
theorem DeployedEnvironment.Started.sound (h : s.Started) : s.Sound where
  dhcp := by
    rw [h.dhcp]
    exact ⟨⟨true, rfl⟩, rfl⟩
  dns := by rw [h.dns]
  exercises := by
    intro d hd
    rw [(h.exercises d hd).2]
    exact List.not_mem_nil

/-- What can be reset stays so over a run. -/
theorem resettable_run {calls : List ResetCall} (h : s.Resettable)
    (hrun : environmentResets.run s calls = some s') : s'.Resettable :=
  Machine.run_invariant (I := Resettable) (A := fun _ => True)
    (fun _ _ _ h _ hstep => environmentResets_step hstep ▸ resettable_reset h) h
    (fun _ _ => trivial) hrun

/-- A run keeps the environment sound if and only if each of its calls can be repeated. -/
theorem sound_run_iff {calls : List ResetCall} (h : s.Resettable) (hs : s.Sound)
    (hrun : environmentResets.run s calls = some s') :
    s'.Sound ↔ environmentResets.AllSteps Recoverable s calls := by
  have hstep : ∀ s call t, Resettable s → environmentResets.step s call = some t →
      (t.Sound ↔ s.Sound ∧ s.Recoverable call) := fun s call t h hstep =>
    environmentResets_step hstep ▸ sound_reset_iff h
  rw [← not_not (a := s'.Sound)]
  exact Machine.not_lost_iff_allSteps (I := Resettable) (L := fun s => ¬ s.Sound)
    (fun _ _ _ h hs => environmentResets_step hs ▸ resettable_reset h)
    (fun _ _ _ h hsound hok hs =>
      not_not_intro ((hstep _ _ _ h hs).mpr ⟨not_not.mp hsound, hok⟩))
    (fun _ _ _ h hnot hs hsound => hnot ((hstep _ _ _ h hs).mp hsound).2)
    (fun _ _ _ h hlost hs hsound => hlost ((hstep _ _ _ h hs).mp hsound).1)
    h (not_not_intro hs) hrun

/-- After a run of `Reset` in a started environment, the call can be repeated if and only if no
static exercise has a container and each call of the run could be repeated. -/
theorem environment_retriable_iff {s s' : DeployedEnvironment} {calls : List ResetCall}
    (hinit : environmentResets.init s) (hrun : environmentResets.run s calls = some s') :
    Retriable s s' ↔
      ¬ s.StaticContainer ∧ environmentResets.AllSteps Recoverable s calls := by
  have houtlines := outlines_run hrun
  by_cases hstatic : s.StaticContainer
  · have hstatic' : s'.StaticContainer :=
      staticContainer_iff.mpr (houtlines ▸ staticContainer_iff.mp hstatic)
    exact iff_of_false (not_retriable_static hstatic') fun h => h.1 hstatic
  · have hresettable : s.Resettable := hinit.resettable hstatic
    rw [retriable_iff_sound (resettable_run hresettable hrun) houtlines,
      sound_run_iff hresettable hinit.sound hrun, and_iff_right hstatic]

/-- An environment with one exercise of one container. -/
def oneContainer : DeployedEnvironment where
  dhcpServer := { server := some ⟨true, some true⟩, left := [] }
  dnsServer := { server := some ⟨true, some true⟩, left := [] }
  exercises :=
    [{ exercise :=
        { tag := "sql", containerOpts := [⟨[]⟩], vboxOpts := [], net := true
          machines := [.running] }
       left := [] }]
  disabledExercises := []
  distinct := List.nodup_singleton _

/-- Docker cannot remove the DHCP container. -/
def failedRemoval : ResetCall :=
  { ResetCall.succeeding with
    dhcp := { ResetCall.succeeding.dhcp with removeContainer := some "500 Server Error" } }

/-- The new DNS container cannot be started. -/
def failedStart : ResetCall :=
  { ResetCall.succeeding with
    dns := { ResetCall.succeeding.dns with start := some "500 Server Error" } }

/-- The lab below is a started one. -/
theorem started_oneContainer : oneContainer.Started where
  dhcp := rfl
  dns := rfl
  exercises := by
    intro d hd
    obtain rfl := List.mem_singleton.mp hd
    exact ⟨LabExercise.bare_of_net rfl, rfl⟩

/-- The condition in a run of two calls: the first cannot start the DNS server. -/
theorem environment_retriable_oneContainer :
    ∃ s', environmentResets.run oneContainer [failedStart, .succeeding] = some s' ∧
      (Retriable oneContainer s' ↔ ¬ oneContainer.StaticContainer ∧
        environmentResets.AllSteps Recoverable oneContainer [failedStart, .succeeding]) :=
  ⟨_, rfl, environment_retriable_iff started_oneContainer rfl⟩

/-- The file of the DHCP server is gone, and the next call cannot remove it. -/
theorem not_environment_retriable_failedRemoval :
    ∃ s', environmentResets.init oneContainer ∧
      environmentResets.run oneContainer [failedRemoval] = some s' ∧
      ¬ Retriable oneContainer s' := by
  refine ⟨_, started_oneContainer, rfl, fun h => ?_⟩
  have hnone := (h _ ResetCall.clean_succeeding).1
  revert hnone
  decide

end

end Haaukins.Exercise
