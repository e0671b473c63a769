import Haaukins.Lib.Logged
import Haaukins.Lib.Machine
import Haaukins.Exercise.Environment

/-!
# `Haaukins.Exercise.StaticExercises`: static exercises (`exercise/environment.go`)

The operations of an environment with each call that an exercise makes on its machines and on its
network. `Answers` has the errors of these calls and of the two servers of the lab, and the state
has the operations that ran. `Add` makes no machine for a static exercise, and gives it no
network. `Reset` does not ask: it creates the first container of such an exercise, and then calls
`Connect` on nil.

`staticExercises_untouched_iff` says along which runs no static exercise touches the
virtualisation layer, and along which ones an operation also returns nil whenever its calls on
the machines succeed.

* The servers are calls of the environment and not of an exercise. Their errors are errors of
  `Start`, `Stop` and `Reset`. A server that does not exist is nil.
* A panic ends the process, and there is no step after it.
-/

set_option autoImplicit false

namespace Haaukins.Exercise

open Store (ExerciseInstanceConfig newTag validateTag)

/-- The methods of `DockerHost`, `docker.Network`, `vbox.Library` and `virtual.Instance`. -/
inductive VirtMethod where
  | createContainer
  | connect
  | formatIP
  | interface
  | getCopy
  | start
  | suspend
  | stop
  deriving DecidableEq, Repr

/-- The method creates a container or a virtual machine, or belongs to the network. -/
def VirtMethod.creates : VirtMethod → Bool
  | createContainer | connect | formatIP | interface | getCopy => true
  | start | suspend | stop => false

/-- A call that an exercise made. -/
structure VirtCall where
  static : Bool
  method : VirtMethod
  err : Option String
  deriving DecidableEq, Repr

/-- How an operation ends that does not return nil. -/
inductive Failure where
  | error (err : String)
  | panic
  deriving DecidableEq, Repr

/-- The errors of a server. -/
structure ServerAnswers where
  close : Option String
  new : Option String
  run : Option String
  connect : Option String
  stop : Option String
  deriving DecidableEq, Repr

/-- The errors of the calls: by method, tag of the exercise and number of the machine, and those
of the servers. -/
structure Answers where
  machine : VirtMethod → String → Nat → Option String
  dns : ServerAnswers
  dhcp : ServerAnswers

namespace LabExercise

variable (ans : Answers) (e : LabExercise)

/-- A call for the machine `i`. -/
def callMachine (method : VirtMethod) (i : Nat) : Logged Unit VirtCall Failure :=
  let err := ans.machine method e.tag i
  .call () { static := !e.net, method := method, err := err } (err.map .error)

/-- A call on the network, which may be nil. -/
def callNet (method : VirtMethod) (err : Option String) : Logged Unit VirtCall Failure :=
  if e.net then .call () { static := false, method := method, err := err } (err.map .error)
  else .call () { static := true, method := method, err := none } (some .panic)

/-- The body of the loop of `Create` over the containers. -/
def createContainer (i : Nat) : Logged Unit VirtCall Failure :=
  ((e.callMachine ans .createContainer i).andThen fun _ =>
    e.callNet .connect (ans.machine .connect e.tag i)).andThen fun _ => e.callNet .formatIP none

/-- The body of the loop of `Create` over the other machines. -/
def getCopy (i : Nat) : Logged Unit VirtCall Failure :=
  (e.callNet .interface none).andThen fun _ => e.callMachine ans .getCopy i

/-- The calls of `Create`. -/
def createCalls : Logged Unit VirtCall Failure :=
  (Logged.loop (fun i _ => e.createContainer ans i) (List.range e.containerOpts.length) ()).andThen
    fun _ => Logged.loop (fun i _ => e.getCopy ans i) (List.range e.vboxOpts.length) ()

/-- `Create`. A failure leaves the machines. -/
def createWith : Logged LabExercise VirtCall Failure where
  toOperation := (e.createCalls ans).toOperation
  state :=
    { e with machines :=
        if (e.createCalls ans).failure = none then List.replicate e.size .stopped
        else e.machines }

/-- A call on a machine that gets a new state when the call succeeds. -/
def callState (method : VirtMethod) (next : InstanceState) (m : InstanceState × Nat) :
    Logged (InstanceState × Nat) VirtCall Failure where
  toOperation := (e.callMachine ans method m.2).toOperation
  state := if ans.machine method e.tag m.2 = none then (next, m.2) else m

/-- The body of the loop of `Start`. -/
def startStopped (m : InstanceState × Nat) : Logged (InstanceState × Nat) VirtCall Failure :=
  if m.1 ≠ .running then e.callState ans .start .running m else .ok m

/-- The body of the loop of `Suspend`. -/
def suspendRunning (m : InstanceState × Nat) : Logged (InstanceState × Nat) VirtCall Failure :=
  if m.1 = .running then e.callState ans .suspend .suspended m else .ok m

/-- The result of a loop over the machines. -/
def withMachines (r : Logged (List (InstanceState × Nat)) VirtCall Failure) :
    Logged LabExercise VirtCall Failure where
  toOperation := r.toOperation
  state := { e with machines := r.state.map Prod.fst }

/-- `Start`. -/
def startWith : Logged LabExercise VirtCall Failure :=
  e.withMachines (.eachGo (e.startStopped ans) e.machines.zipIdx)

/-- `Suspend`. -/
def suspendWith : Logged LabExercise VirtCall Failure :=
  e.withMachines (.each (e.suspendRunning ans) e.machines.zipIdx)

/-- `Stop`. -/
def stopWith : Logged LabExercise VirtCall Failure :=
  e.withMachines (.each (e.callState ans .stop .stopped) e.machines.zipIdx)

/-- The body of the loop of `environment.Resume`. `InstanceInfo` was called before the loop over
the states. -/
def resumeWith : Logged LabExercise VirtCall Failure :=
  .loop (fun state e => if state = .suspended then e.startWith ans else .ok e) e.machines e

/-- `Reset`. `Close` has no error. -/
def resetWith : Logged LabExercise VirtCall Failure :=
  (({ e with machines := [] } : LabExercise).createWith ans).andThen fun e => e.startWith ans

/-- The exercise is static and has a container. -/
def StaticContainer : Prop := e.net = false ∧ e.containerOpts ≠ []

instance : Decidable e.StaticContainer := inferInstanceAs (Decidable (_ ∧ _))

/-- The calls of `Create` for the machines of the exercise have no error. -/
def CreateSucceeds : Prop :=
  (∀ i < e.containerOpts.length,
    ans.machine .createContainer e.tag i = none ∧ ans.machine .connect e.tag i = none) ∧
    ∀ i < e.vboxOpts.length, ans.machine .getCopy e.tag i = none

/-- Neither those nor the calls of `Start` have an error. -/
def ResetSucceeds : Prop :=
  e.CreateSucceeds ans ∧ ∀ i < e.size, ans.machine .start e.tag i = none

instance : Decidable (e.CreateSucceeds ans) := inferInstanceAs (Decidable (_ ∧ _))

instance : Decidable (e.ResetSucceeds ans) := inferInstanceAs (Decidable (_ ∧ _))

/-- No call changes the tag of an exercise. -/
theorem startWith_tag : (e.startWith ans).state.tag = e.tag := rfl

/-- The tag survives `Stop`. -/
theorem stopWith_tag : (e.stopWith ans).state.tag = e.tag := rfl

/-- The tag survives `Suspend`. -/
theorem suspendWith_tag : (e.suspendWith ans).state.tag = e.tag := rfl

/-- The tag survives `Resume`. -/
theorem resumeWith_tag : (e.resumeWith ans).state.tag = e.tag := by
  unfold resumeWith
  generalize e.machines = states
  induction states generalizing e with
  | nil => rfl
  | cons state states ih =>
    rw [Logged.loop]
    split
    · by_cases h : (e.startWith ans).failure = none
      · rw [Logged.andThen_of_none h]
        exact ih (e.startWith ans).state
      · rw [Logged.andThen_of_failure h]
        rfl
    · rw [Logged.andThen_of_none rfl]
      exact ih e

/-- The tag survives `Reset`. -/
theorem resetWith_tag : (e.resetWith ans).state.tag = e.tag := by
  unfold resetWith
  by_cases h : (({ e with machines := [] } : LabExercise).createWith ans).failure = none
  · rw [Logged.andThen_of_none h]
    rfl
  · rw [Logged.andThen_of_failure h]
    rfl

end LabExercise

namespace Environment

variable (ee : Environment)

/-- The environment whose exercises are those of a loop that keeps the tags. -/
def withExercises (r : Logged (List LabExercise) VirtCall Failure)
    (h : r.state.map LabExercise.tag = ee.tags) : Logged Environment VirtCall Failure where
  toOperation := r.toOperation
  state :=
    { exercises := r.state
      disabledExercises := ee.disabledExercises
      distinct := h ▸ ee.distinct }

/-- The exercises one after another, up to the first error. -/
def eachExercise (f : LabExercise → Logged LabExercise VirtCall Failure)
    (hf : ∀ e, (f e).state.tag = e.tag) : Logged Environment VirtCall Failure :=
  ee.withExercises (.each f ee.exercises) (Logged.map_each_state hf _)

/-- The exercise of a tag. -/
def onTag (t : String) (f : LabExercise → Logged LabExercise VirtCall Failure)
    (hf : ∀ e, (f e).state.tag = e.tag) : Logged Environment VirtCall Failure :=
  match newTag t with
  | .error err => .fail ee (.error err)
  | .ok t =>
    match ee.byTag t with
    | none => .fail ee (.error unknownTagErr)
    | some e =>
      { toOperation := (f e).toOperation
        state := ee.mapTag t (fun e => (f e).state) hf }

/-- The exercises that are not disabled are started at the same time. -/
def startEnabled (ans : Answers) : Logged Environment VirtCall Failure :=
  ee.withExercises
    (.eachGo (fun e => if e.tag ∈ ee.disabledExercises then .ok e else e.startWith ans)
      ee.exercises)
    (by
      show (ee.exercises.map _).map LabExercise.tag = ee.exercises.map LabExercise.tag
      rw [List.map_map]
      refine List.map_congr_left fun e _ => ?_
      simp only [Function.comp]
      split <;> rfl)

/-- The exercise of a configuration in `Add`: `Create` runs unless it is static. -/
def createAdded (ans : Answers) (newFlag : String → Nat → Nat → String) (conf : Store.Exercise) :
    Logged LabExercise VirtCall Failure :=
  let e := newExercise (newFlag conf.tag) conf
  if conf.static then .ok e else e.createWith ans

/-- A new exercise has the tag of its configuration. -/
theorem createAdded_tag (ans : Answers) (newFlag : String → Nat → Nat → String)
    (conf : Store.Exercise) : (createAdded ans newFlag conf).state.tag = conf.tag := by
  simp only [createAdded]
  split <;> rfl

/-- `Add`. -/
def addWith (ans : Answers) (newFlag : String → Nat → Nat → String) :
    Environment → List Store.Exercise → Logged Environment VirtCall Failure
  | ee, [] => .ok ee
  | ee, conf :: confs =>
    if conf.tag = "" then .fail ee (.error missingTagsErr)
    else if h : conf.tag ∈ ee.tags then .fail ee (.error duplicateTagErr)
    else
      let r := createAdded ans newFlag conf
      match r.failure with
      | some _ => { toOperation := r.toOperation, state := ee }
      | none =>
        let next := addWith ans newFlag (ee.push r.state (by rwa [createAdded_tag])) confs
        { next with calls := r.calls ++ next.calls }

end Environment

/-- `environment` with its servers, and the operations that ran. -/
structure LabEnvironment where
  ee : Environment
  /-- The pointers to the servers are not nil. -/
  dnsServer : Bool
  dhcpServer : Bool
  operations : List (Operation VirtCall Failure)

/-- The operations of `Environment`. -/
inductive EnvRequest where
  | add (newFlag : String → Nat → Nat → String) (confs : List Store.Exercise)
  | start
  | stop
  | startByTag (s : String)
  | stopByTag (s : String)
  | resetByTag (s : String)
  | reset
  | suspend
  | resume

namespace LabEnvironment

variable (s : LabEnvironment) (ans : Answers)

/-- An environment whose network is made, before the first `Add`. -/
def new (disabledExercises : List String) : LabEnvironment where
  ee := { exercises := [], disabledExercises := disabledExercises, distinct := List.nodup_nil }
  dnsServer := false
  dhcpServer := false
  operations := []

/-- `refreshDNS`. The `Close` of the DNS server returns nil. -/
def refreshDNS : LabEnvironment × Option String :=
  match ans.dns.new with
  | some err => (s, some err)
  | none => ({ s with dnsServer := true }, ans.dns.run <|> ans.dns.connect)

/-- `refreshDHCP`. -/
def refreshDHCP : LabEnvironment × Option String :=
  match (if s.dhcpServer then ans.dhcp.close else none) <|> ans.dhcp.new with
  | some err => (s, some err)
  | none => ({ s with dhcpServer := true }, ans.dhcp.run <|> ans.dhcp.connect)

/-- The DHCP server of `Start`. -/
def startDHCP : LabEnvironment × Option String :=
  match ans.dhcp.new with
  | some err => ({ s with dhcpServer := false }, some err)
  | none => ({ s with dhcpServer := true }, ans.dhcp.run <|> ans.dhcp.connect)

/-- A result for the exercises. -/
def withEnv (r : Logged Environment VirtCall Failure) :
    Logged LabEnvironment VirtCall Failure where
  toOperation := r.toOperation
  state := { s with ee := r.state }

/-- What follows a step for the servers. -/
def afterServers (r : LabEnvironment × Option String)
    (f : LabEnvironment → Logged LabEnvironment VirtCall Failure) :
    Logged LabEnvironment VirtCall Failure :=
  match r.2 with
  | some err => .fail r.1 (.error err)
  | none => f r.1

/-- `Stop` of a server. -/
def stopServer (server : Bool) (err : Option String) : Logged LabEnvironment VirtCall Failure :=
  if server then { calls := [], failure := err.map .error, state := s } else .fail s .panic

/-- An operation. -/
def perform : EnvRequest → Logged LabEnvironment VirtCall Failure
  | .add newFlag confs => s.withEnv (s.ee.addWith ans newFlag confs)
  | .start =>
    afterServers (s.refreshDNS ans) fun s => afterServers (s.startDHCP ans) fun s =>
      s.withEnv (s.ee.startEnabled ans)
  | .stop =>
    (s.stopServer s.dnsServer ans.dns.stop).andThen fun s =>
      (s.stopServer s.dhcpServer ans.dhcp.stop).andThen fun s =>
        s.withEnv (s.ee.eachExercise (fun e => e.stopWith ans) (LabExercise.stopWith_tag ans))
  | .startByTag t =>
    s.withEnv (s.ee.onTag t (fun e => e.startWith ans) (LabExercise.startWith_tag ans))
  | .stopByTag t =>
    s.withEnv (s.ee.onTag t (fun e => e.stopWith ans) (LabExercise.stopWith_tag ans))
  | .resetByTag t =>
    s.withEnv (s.ee.onTag t (fun e => e.resetWith ans) (LabExercise.resetWith_tag ans))
  | .reset =>
    afterServers (s.refreshDHCP ans) fun s => afterServers (s.refreshDNS ans) fun s =>
      s.withEnv (s.ee.eachExercise (fun e => e.resetWith ans) (LabExercise.resetWith_tag ans))
  | .suspend =>
    s.withEnv (s.ee.eachExercise (fun e => e.suspendWith ans) (LabExercise.suspendWith_tag ans))
  | .resume =>
    s.withEnv (s.ee.eachExercise (fun e => e.resumeWith ans) (LabExercise.resumeWith_tag ans))

/-- The process ended in a panic. -/
def Ended : Prop := ∃ op ∈ s.operations, op.failure = some .panic

instance : Decidable s.Ended := inferInstanceAs (Decidable (∃ op ∈ _, _))

end LabEnvironment

/-- The operations of an environment one after another, with the answers to each of them. -/
def staticExercises : Machine LabEnvironment (EnvRequest × Answers) where
  init s := ∃ disabledExercises, s = .new disabledExercises
  step s a :=
    if s.Ended then none
    else
      let r := s.perform a.2 a.1
      some { r.state with operations := s.operations ++ [r.toOperation] }

/-! ### What is claimed, and when it holds -/

/-- The call is not one of a static exercise that creates something or asks its network. -/
def VirtCall.Untouched (c : VirtCall) : Prop := c.static = true → c.method.creates = false

/-- The call failed, and its exercise is not static. -/
def VirtCall.Failed (c : VirtCall) : Prop := c.static = false ∧ c.err ≠ none

instance (c : VirtCall) : Decidable c.Untouched := inferInstanceAs (Decidable (_ → _))

instance (c : VirtCall) : Decidable c.Failed := inferInstanceAs (Decidable (_ ∧ _))

namespace LabEnvironment

variable (s : LabEnvironment) (ans : Answers)

/-- No static exercise created a container or a virtual machine or called its network. -/
def Untouched : Prop := ∀ op ∈ s.operations, ∀ c ∈ op.calls, c.Untouched

/-- Each operation whose calls on machines of exercises that are not static succeeded returned
nil. -/
def ReturnsNil : Prop :=
  ∀ op ∈ s.operations, (∀ c ∈ op.calls, ¬ c.Failed) → op.failure = none

/-- The configurations that `Add` reaches have new tags. -/
def AddAccepted (newFlag : String → Nat → Nat → String) :
    List String → List Store.Exercise → Prop
  | _, [] => True
  | tags, conf :: confs =>
    conf.tag ≠ "" ∧ conf.tag ∉ tags ∧
      ((conf.static = false → (newExercise (newFlag conf.tag) conf).CreateSucceeds ans) →
        AddAccepted newFlag (tags ++ [conf.tag]) confs)

/-- `Reset` meets no static exercise with a container before the first error. -/
def ResetAccepted : List LabExercise → Prop
  | [] => True
  | e :: es => ¬ e.StaticContainer ∧ (e.ResetSucceeds ans → ResetAccepted es)

/-- The DNS server starts. -/
def DNSStarts : Prop := ans.dns.new = none ∧ ans.dns.run = none ∧ ans.dns.connect = none

/-- The DHCP server starts. -/
def DHCPStarts : Prop := ans.dhcp.new = none ∧ ans.dhcp.run = none ∧ ans.dhcp.connect = none

/-- The servers can be replaced. -/
def ServersRestart : Prop :=
  (s.dhcpServer = true → ans.dhcp.close = none) ∧ DHCPStarts ans ∧ DNSStarts ans

/-- The request resets no static exercise with a container. -/
def NoStaticReset : EnvRequest → Prop
  | .resetByTag t =>
    validateTag t = none → ∀ e ∈ s.ee.exercises, e.tag = t → ¬ e.StaticContainer
  | .reset => s.ServersRestart ans → ResetAccepted ans s.ee.exercises
  | _ => True

/-- The tags of the request are those that it has to have, and the servers succeed. -/
def Accepted : EnvRequest → Prop
  | .add newFlag confs => AddAccepted ans newFlag s.ee.tags confs
  | .start => DNSStarts ans ∧ DHCPStarts ans
  | .stop =>
    (s.dnsServer = true ∧ ans.dns.stop = none) ∧ s.dhcpServer = true ∧ ans.dhcp.stop = none
  | .startByTag t | .stopByTag t | .resetByTag t => validateTag t = none ∧ t ∈ s.ee.tags
  | .reset => s.ServersRestart ans
  | .suspend | .resume => True

end LabEnvironment

/-! ### The calls of an exercise -/

namespace LabExercise

variable {ans : Answers} {e : LabExercise}

/-- A static exercise has no machines. -/
def Bare (e : LabExercise) : Prop := e.net = false → e.machines = [] ∧ e.vboxOpts = []

/-- An exercise with a network is not static, so nothing is asked of it. -/
theorem bare_of_net (h : e.net = true) : e.Bare := fun hnet => by
  rw [h] at hnet
  cases hnet

/-- In an exercise with a network a call on a machine is no call on a static one. -/
theorem callMachine_keeps (h : e.net = true) (method : VirtMethod) (i : Nat) :
    (e.callMachine ans method i).Keeps (fun _ => True) VirtCall.Untouched VirtCall.Failed := by
  refine Logged.keeps_call trivial (fun hstatic => ?_) ?_
  · simp [h] at hstatic
  · simp [VirtCall.Failed, h]

/-- The same for a call on the network of an exercise. -/
theorem callNet_keeps (h : e.net = true) (method : VirtMethod) (err : Option String) :
    (e.callNet method err).Keeps (fun _ => True) VirtCall.Untouched VirtCall.Failed := by
  rw [callNet, if_pos h]
  refine Logged.keeps_call trivial (fun hstatic => by cases hstatic) ?_
  simp [VirtCall.Failed]

/-- The same for the calls that make a container. -/
theorem createContainer_keeps (h : e.net = true) (i : Nat) :
    (e.createContainer ans i).Keeps (fun _ => True) VirtCall.Untouched VirtCall.Failed :=
  ((callMachine_keeps h _ i).andThen (fun _ _ => callNet_keeps h _ _) fun _ => id).andThen
    (fun _ _ => callNet_keeps h _ _) fun _ => id

/-- The same for the calls that copy a VM. -/
theorem getCopy_keeps (h : e.net = true) (i : Nat) :
    (e.getCopy ans i).Keeps (fun _ => True) VirtCall.Untouched VirtCall.Failed :=
  (callNet_keeps h _ _).andThen (fun _ _ => callMachine_keeps h _ i) fun _ => id

/-- All calls of `Create` together. -/
theorem createCalls_keeps (h : e.net = true) :
    (e.createCalls ans).Keeps (fun _ => True) VirtCall.Untouched VirtCall.Failed :=
  (Logged.keeps_loop (fun i _ _ _ => createContainer_keeps h i) trivial).andThen
    (fun _ _ => Logged.keeps_loop (fun i _ _ _ => getCopy_keeps h i) trivial) fun _ => id

/-- `Create` keeps the network, and makes no call on a static exercise. -/
theorem createWith_keeps (h : e.net = true) :
    (e.createWith ans).Keeps (fun e => e.net = true) VirtCall.Untouched VirtCall.Failed where
  clean := (createCalls_keeps h).clean
  failure := (createCalls_keeps h).failure
  state := h

/-- A call that changes the state of one machine. -/
theorem callState_keeps (h : e.net = true) (method : VirtMethod) (next : InstanceState)
    (m : InstanceState × Nat) : (e.callState ans method next m).Keeps (fun _ => True)
      VirtCall.Untouched VirtCall.Failed where
  clean := (callMachine_keeps h method m.2).clean
  failure := (callMachine_keeps h method m.2).failure
  state := trivial

/-- A loop over the machines of an exercise that is not static. -/
theorem withMachines_keeps (h : e.net = true)
    {r : Logged (List (InstanceState × Nat)) VirtCall Failure}
    (hr : r.Keeps (fun ms => ∀ m ∈ ms, True) VirtCall.Untouched VirtCall.Failed) :
    (e.withMachines r).Keeps (fun e => e.net = true) VirtCall.Untouched VirtCall.Failed :=
  ⟨hr.clean, hr.failure, h⟩

/-- `Start` of an exercise with a network. -/
theorem startWith_keeps (h : e.net = true) :
    (e.startWith ans).Keeps (fun e => e.net = true) VirtCall.Untouched VirtCall.Failed := by
  refine withMachines_keeps h (Logged.keeps_eachGo fun m _ => ?_)
  unfold startStopped
  split
  · exact callState_keeps h _ _ m
  · exact Logged.keeps_ok trivial

/-- `Suspend` of an exercise with a network. -/
theorem suspendWith_keeps (h : e.net = true) :
    (e.suspendWith ans).Keeps (fun e => e.net = true) VirtCall.Untouched VirtCall.Failed := by
  refine withMachines_keeps h (Logged.keeps_each (fun _ _ => trivial) fun m _ => ?_)
  unfold suspendRunning
  split
  · exact callState_keeps h _ _ m
  · exact Logged.keeps_ok trivial

/-- `Stop` of an exercise with a network. -/
theorem stopWith_keeps (h : e.net = true) :
    (e.stopWith ans).Keeps (fun e => e.net = true) VirtCall.Untouched VirtCall.Failed :=
  withMachines_keeps h
    (Logged.keeps_each (fun _ _ => trivial) fun m _ => callState_keeps h _ _ m)

/-- `Resume` of an exercise with a network. -/
theorem resumeWith_keeps (h : e.net = true) :
    (e.resumeWith ans).Keeps (fun e => e.net = true) VirtCall.Untouched VirtCall.Failed := by
  refine Logged.keeps_loop (fun state _ e he => ?_) h
  split
  · exact startWith_keeps he
  · exact Logged.keeps_ok he

/-- `Reset` of an exercise with a network. -/
theorem resetWith_keeps (h : e.net = true) :
    (e.resetWith ans).Keeps (fun e => e.net = true) VirtCall.Untouched VirtCall.Failed :=
  (createWith_keeps (e := { e with machines := [] }) h).andThen
    (fun _ he => startWith_keeps he) fun _ => id

/-! ### A static exercise -/

/-- The loops over no machines. -/
theorem withMachines_ok (h : e.machines = []) : e.withMachines (.ok []) = .ok e := by
  have hsame : ({ e with machines := [] } : LabExercise) = e := by rw [← h]
  rw [withMachines]
  show ({ toOperation := _, state := { e with machines := [] } } : Logged _ _ _) = _
  rw [hsame]
  rfl

/-- `Start` has nothing to do without machines. -/
theorem startWith_ok (h : e.machines = []) : e.startWith ans = .ok e := by
  rw [startWith, h]
  exact withMachines_ok h

/-- `Suspend` has nothing to do without machines. -/
theorem suspendWith_ok (h : e.machines = []) : e.suspendWith ans = .ok e := by
  rw [suspendWith, h]
  exact withMachines_ok h

/-- `Stop` has nothing to do without machines. -/
theorem stopWith_ok (h : e.machines = []) : e.stopWith ans = .ok e := by
  rw [stopWith, h]
  exact withMachines_ok h

/-- `Resume` has nothing to do without machines. -/
theorem resumeWith_ok (h : e.machines = []) : e.resumeWith ans = .ok e := by
  rw [resumeWith, h]
  rfl

/-- Without containers `Reset` finds nothing to create. -/
theorem resetWith_ok (h : e.machines = []) (hcontainers : e.containerOpts = [])
    (hvbox : e.vboxOpts = []) : e.resetWith ans = .ok e := by
  have hempty : ({ e with machines := [] } : LabExercise) = e := by rw [← h]
  have hcalls : e.createCalls ans = .ok () := by
    rw [createCalls, hcontainers, hvbox]
    rfl
  have hcreate : e.createWith ans = .ok e := by
    have hsize : e.size = 0 := by rw [size, hcontainers, hvbox]; rfl
    have hstate : (e.createWith ans).state = e := by
      show ({ e with machines := if _ then List.replicate e.size _ else e.machines } :
        LabExercise) = e
      rw [hsize, h]
      simpa only [List.replicate_zero, ite_self] using hempty
    show ({ toOperation := (e.createCalls ans).toOperation, state := (e.createWith ans).state } :
      Logged LabExercise VirtCall Failure) = .ok e
    rw [hcalls, hstate]
    rfl
  rw [resetWith, hempty, hcreate, Logged.andThen_ok, startWith_ok h]

/-- `Reset` of a static exercise creates its first container. -/
theorem resetWith_touched (ans : Answers) (h : e.StaticContainer) :
    ∃ c ∈ (e.resetWith ans).calls, ¬ c.Untouched := by
  obtain ⟨hnet, hcontainers⟩ := h
  obtain ⟨n, hn⟩ := Nat.exists_eq_succ_of_ne_zero (List.length_pos_iff.mpr hcontainers).ne'
  let e' : LabExercise := { e with machines := [] }
  let c : VirtCall :=
    { static := !e.net, method := .createContainer
      err := ans.machine .createContainer e.tag 0 }
  have hcreated : c ∈ (e'.createContainer ans 0).calls :=
    Logged.calls_subset_andThen (Logged.calls_subset_andThen (List.mem_singleton_self c))
  have hloop : c ∈ (Logged.loop (fun i _ => e'.createContainer ans i)
      (List.range e.containerOpts.length) ()).calls := by
    rw [hn, List.range_succ_eq_map, Logged.loop]
    exact Logged.calls_subset_andThen hcreated
  refine ⟨c, Logged.calls_subset_andThen (Logged.calls_subset_andThen hloop), fun hclean => ?_⟩
  have hstatic : c.static = true := by
    show (!e.net) = true
    rw [hnet]
    rfl
  cases hclean hstatic

/-! ### Exercises whose operations succeed -/

/-- The call on the network fails with its own error. -/
theorem callNet_failure (h : e.net = true) (method : VirtMethod) (err : Option String) :
    (e.callNet method err).failure = none ↔ err = none := by
  rw [callNet, if_pos h]
  exact Option.map_eq_none_iff

/-- The call on a machine fails with the answer for this machine. -/
theorem callMachine_failure (method : VirtMethod) (i : Nat) :
    (e.callMachine ans method i).failure = none ↔ ans.machine method e.tag i = none :=
  Option.map_eq_none_iff

/-- `Create` returns no error exactly when none of its calls has one. -/
theorem createWith_failure (h : e.net = true) :
    (e.createWith ans).failure = none ↔ e.CreateSucceeds ans := by
  show (e.createCalls ans).failure = none ↔ _
  rw [createCalls, Logged.andThen_failure, Logged.loop_failure (fun _ _ => rfl),
    Logged.loop_failure (fun _ _ => rfl)]
  refine and_congr ?_ ?_
  · simp only [List.mem_range, createContainer, Logged.andThen_failure, callMachine_failure,
      callNet_failure h, and_true]
  · simp only [List.mem_range, getCopy, Logged.andThen_failure, callMachine_failure,
      callNet_failure h, true_and]

/-- `Start` of machines that are stopped. -/
theorem startWith_failure {n : Nat} (h : e.machines = List.replicate n .stopped) :
    (e.startWith ans).failure = none ↔ ∀ i < n, ans.machine .start e.tag i = none := by
  show e.machines.zipIdx.findSome? _ = none ↔ _
  rw [List.findSome?_eq_none_iff, h]
  constructor
  · intro hall i hi
    have hmem : (InstanceState.stopped, i) ∈ (List.replicate n InstanceState.stopped).zipIdx := by
      rw [List.mem_zipIdx_iff_getElem?]
      simp [hi]
    exact (callMachine_failure .start i).mp (hall _ hmem)
  · intro hall m hm
    obtain ⟨state, i⟩ := m
    rw [List.mem_zipIdx_iff_getElem?, List.getElem?_replicate] at hm
    split at hm
    · next hi =>
      cases hm
      exact (callMachine_failure .start i).mpr (hall i hi)
    · cases hm

/-- `Reset` returns no error exactly when none of its calls has one. -/
theorem resetWith_failure (h : e.net = true) :
    (e.resetWith ans).failure = none ↔ e.ResetSucceeds ans := by
  have hcreate : (({ e with machines := [] } : LabExercise).createWith ans).failure = none ↔
      ({ e with machines := [] } : LabExercise).CreateSucceeds ans := createWith_failure h
  rw [resetWith, Logged.andThen_failure, hcreate]
  refine and_congr_right fun hsucceeds => startWith_failure (n := e.size) ?_
  exact if_pos (hcreate.mpr hsucceeds)

/-- A method that keeps the exercises with a network, and does nothing to a static one. -/
theorem Bare.keeps (h : e.Bare) {r : Logged LabExercise VirtCall Failure}
    (hkeeps : e.net = true →
      r.Keeps (fun e => e.net = true) VirtCall.Untouched VirtCall.Failed)
    (hok : e.net = false → r = .ok e) : r.Keeps Bare VirtCall.Untouched VirtCall.Failed := by
  cases hnet : e.net with
  | true => exact (hkeeps hnet).mono fun _ => bare_of_net
  | false =>
    rw [hok hnet]
    exact Logged.keeps_ok h

/-- `Start` leaves a static exercise without machines and makes no call for it. -/
theorem startWith_bare (h : e.Bare) :
    (e.startWith ans).Keeps Bare VirtCall.Untouched VirtCall.Failed :=
  h.keeps startWith_keeps fun hnet => startWith_ok (h hnet).1

/-- `Suspend` leaves a static exercise without machines and makes no call for it. -/
theorem suspendWith_bare (h : e.Bare) :
    (e.suspendWith ans).Keeps Bare VirtCall.Untouched VirtCall.Failed :=
  h.keeps suspendWith_keeps fun hnet => suspendWith_ok (h hnet).1

/-- `Stop` leaves a static exercise without machines and makes no call for it. -/
theorem stopWith_bare (h : e.Bare) :
    (e.stopWith ans).Keeps Bare VirtCall.Untouched VirtCall.Failed :=
  h.keeps stopWith_keeps fun hnet => stopWith_ok (h hnet).1

/-- `Resume` leaves a static exercise without machines and makes no call for it. -/
theorem resumeWith_bare (h : e.Bare) :
    (e.resumeWith ans).Keeps Bare VirtCall.Untouched VirtCall.Failed :=
  h.keeps resumeWith_keeps fun hnet => resumeWith_ok (h hnet).1

/-- A static exercise has no containers to make, unless it is one of the exceptions. -/
theorem containerOpts_eq_nil (hnet : e.net = false) (hnot : ¬ e.StaticContainer) :
    e.containerOpts = [] := by
  by_contra hne
  exact hnot ⟨hnet, hne⟩

/-- `Reset` is like the others when the exercise has no containers to make. -/
theorem resetWith_bare (ans : Answers) (h : e.Bare) (hnot : ¬ e.StaticContainer) :
    (e.resetWith ans).Keeps Bare VirtCall.Untouched VirtCall.Failed := by
  refine h.keeps resetWith_keeps fun hnet => ?_
  exact resetWith_ok (h hnet).1 (containerOpts_eq_nil hnet hnot) (h hnet).2

/-- `Reset` returns nil just when the calls for the machines of the exercise succeed. -/
theorem resetWith_failure_iff (h : e.Bare) (hnot : ¬ e.StaticContainer) :
    (e.resetWith ans).failure = none ↔ e.ResetSucceeds ans := by
  cases hnet : e.net with
  | true => exact resetWith_failure hnet
  | false =>
    have hcontainers := containerOpts_eq_nil hnet hnot
    have hvbox : e.vboxOpts = [] := (h hnet).2
    rw [resetWith_ok (h hnet).1 hcontainers hvbox]
    refine iff_of_true rfl ⟨⟨?_, ?_⟩, ?_⟩
    · simp [hcontainers]
    · simp [hvbox]
    · simp [size, hcontainers, hvbox]

end LabExercise

/-! ### The operations of an environment -/

namespace Environment

variable {ee : Environment} {ans : Answers}

/-- The static exercises of the environment have no machines. -/
def Bare (ee : Environment) : Prop := ∀ e ∈ ee.exercises, e.Bare

/-- What a loop over the exercises keeps, the environment keeps. -/
theorem eachExercise_of_each {f : LabExercise → Logged LabExercise VirtCall Failure}
    {hf : ∀ e, (f e).state.tag = e.tag}
    (h : (Logged.each f ee.exercises).Keeps (fun es => ∀ e ∈ es, e.Bare) VirtCall.Untouched
      VirtCall.Failed) :
    (ee.eachExercise f hf).Keeps Bare VirtCall.Untouched VirtCall.Failed :=
  ⟨h.clean, h.failure, h.state⟩

/-- A loop whose rounds keep an exercise keeps the environment. -/
theorem eachExercise_keeps {f : LabExercise → Logged LabExercise VirtCall Failure}
    {hf : ∀ e, (f e).state.tag = e.tag} (h : ee.Bare)
    (hkeeps : ∀ e ∈ ee.exercises,
      (f e).Keeps LabExercise.Bare VirtCall.Untouched VirtCall.Failed) :
    (ee.eachExercise f hf).Keeps Bare VirtCall.Untouched VirtCall.Failed :=
  eachExercise_of_each (Logged.keeps_each h hkeeps)

/-- `Start` of the environment goes through the enabled exercises only. -/
theorem startEnabled_keeps (h : ee.Bare) :
    (ee.startEnabled ans).Keeps Bare VirtCall.Untouched VirtCall.Failed := by
  have hall : (Logged.eachGo (fun e => if e.tag ∈ ee.disabledExercises then Logged.ok e
      else e.startWith ans) ee.exercises).Keeps (fun es => ∀ e ∈ es, e.Bare)
        VirtCall.Untouched VirtCall.Failed := Logged.keeps_eachGo fun e he => by
    split
    · exact Logged.keeps_ok (h e he)
    · exact LabExercise.startWith_bare (h e he)
  exact ⟨hall.clean, hall.failure, hall.state⟩

/-- An operation on the exercise of a tag, where the tag is valid and known. -/
theorem onTag_of_mem {t : String} {f : LabExercise → Logged LabExercise VirtCall Failure}
    (hf : ∀ e, (f e).state.tag = e.tag) (hvalid : validateTag t = none) (hmem : t ∈ ee.tags) :
    ∃ e ∈ ee.exercises, e.tag = t ∧ ee.onTag t f hf =
      { toOperation := (f e).toOperation, state := ee.mapTag t (fun e => (f e).state) hf } := by
  have hfound : (ee.byTag t).isSome := by
    obtain ⟨e, he, htag⟩ := List.mem_map.mp hmem
    rw [byTag, List.find?_isSome]
    exact ⟨e, he, decide_eq_true htag⟩
  obtain ⟨e, he⟩ := Option.isSome_iff_exists.mp hfound
  have hnew : newTag t = .ok t := Store.newTag_ok_iff.mpr ⟨hvalid, rfl⟩
  refine ⟨e, List.mem_of_find?_eq_some he, by simpa using List.find?_some he, ?_⟩
  simp only [onTag, hnew, he]

/-- Where it is not, the operation returns an error. -/
theorem onTag_of_not {t : String} {f : LabExercise → Logged LabExercise VirtCall Failure}
    (hf : ∀ e, (f e).state.tag = e.tag) (hnot : ¬ (validateTag t = none ∧ t ∈ ee.tags)) :
    ∃ err, ee.onTag t f hf = .fail ee err := by
  cases hnew : newTag t with
  | error err => exact ⟨.error err, by simp only [onTag, hnew]⟩
  | ok t' =>
    obtain ⟨hvalid, rfl⟩ := Store.newTag_ok_iff.mp hnew
    have hnone : ee.byTag t' = none := by
      rw [byTag, List.find?_eq_none]
      intro e he htag
      exact hnot ⟨hvalid, List.mem_map.mpr ⟨e, he, by simpa using htag⟩⟩
    exact ⟨.error unknownTagErr, by simp only [onTag, hnew, hnone]⟩

/-- A call by tag keeps the environment, and returns nil exactly for a valid tag that is there. -/
theorem onTag_nilIff {t : String} {f : LabExercise → Logged LabExercise VirtCall Failure}
    {hf : ∀ e, (f e).state.tag = e.tag} (h : ee.Bare)
    (hkeeps : ∀ e ∈ ee.exercises, e.tag = t → validateTag t = none →
      (f e).Keeps LabExercise.Bare VirtCall.Untouched VirtCall.Failed) :
    (ee.onTag t f hf).NilIff Bare VirtCall.Untouched VirtCall.Failed
      (validateTag t = none ∧ t ∈ ee.tags) := by
  by_cases hok : validateTag t = none ∧ t ∈ ee.tags
  · obtain ⟨e, he, htag, heq⟩ := onTag_of_mem hf hok.1 hok.2
    have hrun := hkeeps e he htag hok.1
    rw [heq]
    refine Logged.Keeps.nilIff ⟨hrun.clean, hrun.failure, ?_⟩ hok
    show ∀ e' ∈ ee.exercises.map _, LabExercise.Bare e'
    intro e' he'
    obtain ⟨e₀, he₀, rfl⟩ := List.mem_map.mp he'
    split
    · next htag₀ => exact (hkeeps e₀ he₀ htag₀ hok.1).state
    · exact h e₀ he₀
  · obtain ⟨err, heq⟩ := onTag_of_not hf hok
    rw [heq]
    exact Logged.nilIff_fail h hok

/-- A new exercise that is static is made without machines and without calls. -/
theorem createAdded_bare (ans : Answers) (newFlag : String → Nat → Nat → String)
    (conf : Store.Exercise) :
    (createAdded ans newFlag conf).Keeps LabExercise.Bare VirtCall.Untouched
      VirtCall.Failed := by
  unfold createAdded
  cases hstatic : conf.static with
  | true =>
    refine Logged.keeps_ok fun _ => ⟨rfl, ?_⟩
    simp [newExercise, hstatic]
  | false =>
    have hnet : (newExercise (newFlag conf.tag) conf).net = true := by simp [newExercise, hstatic]
    exact (LabExercise.createWith_keeps hnet).mono fun _ => LabExercise.bare_of_net

/-- A static exercise is added without `Create`, so it cannot fail there. -/
theorem createAdded_failure (newFlag : String → Nat → Nat → String) (conf : Store.Exercise) :
    (createAdded ans newFlag conf).failure = none ↔
      (conf.static = false → (newExercise (newFlag conf.tag) conf).CreateSucceeds ans) := by
  unfold createAdded
  cases hstatic : conf.static with
  | true => exact iff_of_true rfl fun h => by cases h
  | false =>
    have hnet : (newExercise (newFlag conf.tag) conf).net = true := by simp [newExercise, hstatic]
    rw [imp_iff_right rfl]
    exact LabExercise.createWith_failure hnet

/-- `Add` of an exercise whose machines cannot be made. -/
theorem addWith_of_failure {newFlag : String → Nat → Nat → String} {conf : Store.Exercise}
    (confs : List Store.Exercise) (hempty : ¬ conf.tag = "") (hmem : conf.tag ∉ ee.tags)
    (h : (createAdded ans newFlag conf).failure ≠ none) :
    ee.addWith ans newFlag (conf :: confs) =
      { toOperation := (createAdded ans newFlag conf).toOperation, state := ee } := by
  obtain ⟨err, herr⟩ := Option.ne_none_iff_exists'.mp h
  rw [addWith, if_neg hempty, dif_neg hmem]
  simp only [herr]

/-- `Add` of an exercise whose machines are made. -/
theorem addWith_of_none {newFlag : String → Nat → Nat → String} {conf : Store.Exercise}
    (confs : List Store.Exercise) (hempty : ¬ conf.tag = "") (hmem : conf.tag ∉ ee.tags)
    (h : (createAdded ans newFlag conf).failure = none) :
    ee.addWith ans newFlag (conf :: confs) =
      let next := (ee.push (createAdded ans newFlag conf).state
        (by rwa [createAdded_tag])).addWith ans newFlag confs
      { next with calls := (createAdded ans newFlag conf).calls ++ next.calls } := by
  rw [addWith, if_neg hempty, dif_neg hmem]
  simp only [h]

/-- `Add` keeps the environment, and returns nil exactly when it takes all configurations. -/
theorem addWith_nilIff (newFlag : String → Nat → Nat → String) (confs : List Store.Exercise)
    (h : ee.Bare) : (ee.addWith ans newFlag confs).NilIff Bare VirtCall.Untouched VirtCall.Failed
      (LabEnvironment.AddAccepted ans newFlag ee.tags confs) := by
  induction confs generalizing ee with
  | nil => exact (Logged.keeps_ok h).nilIff trivial
  | cons conf confs ih =>
    rw [LabEnvironment.AddAccepted]
    by_cases hempty : conf.tag = ""
    · rw [addWith, if_pos hempty]
      exact Logged.nilIff_fail h fun hok => hok.1 hempty
    by_cases hmem : conf.tag ∈ ee.tags
    · rw [addWith, if_neg hempty, dif_pos hmem]
      exact Logged.nilIff_fail h fun hok => hok.2.1 hmem
    have hcreate := createAdded_bare ans newFlag conf
    rw [and_iff_right hempty, and_iff_right hmem, ← createAdded_failure]
    by_cases hfailure : (createAdded ans newFlag conf).failure = none
    · have hpush : (ee.push (createAdded ans newFlag conf).state
          (by rwa [createAdded_tag])).Bare := by
        intro e he
        rcases List.mem_append.mp he with hold | hlast
        · exact h e hold
        · rw [List.mem_singleton.mp hlast]
          exact hcreate.state
      have htags : (ee.push (createAdded ans newFlag conf).state
          (by rwa [createAdded_tag])).tags = ee.tags ++ [conf.tag] := by
        rw [tags_push, createAdded_tag]
      rw [addWith_of_none confs hempty hmem hfailure, imp_iff_right hfailure, ← htags]
      exact hcreate.nilIff_append hfailure (ih hpush)
    · -- A call for a machine failed, which is not the fault of the request.
      rw [addWith_of_failure confs hempty hmem hfailure]
      exact Logged.Keeps.nilIff ⟨hcreate.clean, hcreate.failure, h⟩ fun hnone =>
        absurd hnone hfailure

/-! ### `Reset` -/

/-- `Reset` of exercises among which no static one with a container is reached. -/
theorem resetEach_keeps {es : List LabExercise} (h : ∀ e ∈ es, e.Bare)
    (hok : LabEnvironment.ResetAccepted ans es) :
    (Logged.each (fun e => e.resetWith ans) es).Keeps (fun es => ∀ e ∈ es, e.Bare)
      VirtCall.Untouched VirtCall.Failed := by
  induction es with
  | nil => exact Logged.keeps_ok h
  | cons e es ih =>
    obtain ⟨hbare, hrest⟩ := List.forall_mem_cons.mp h
    have hkeeps := LabExercise.resetWith_bare ans hbare hok.1
    by_cases hfailure : (e.resetWith ans).failure = none
    · exact hkeeps.each_of_none hfailure
        (ih hrest (hok.2 ((LabExercise.resetWith_failure_iff hbare hok.1).mp hfailure)))
    · exact hkeeps.each_of_failure hfailure hrest

/-- `Reset` of exercises among which one is. -/
theorem resetEach_touched {es : List LabExercise} (h : ∀ e ∈ es, e.Bare)
    (hnot : ¬ LabEnvironment.ResetAccepted ans es) :
    ∃ c ∈ (Logged.each (fun e => e.resetWith ans) es).calls, ¬ c.Untouched := by
  induction es with
  | nil => exact absurd trivial hnot
  | cons e es ih =>
    obtain ⟨hbare, hrest⟩ := List.forall_mem_cons.mp h
    by_cases hcontainer : e.StaticContainer
    · obtain ⟨c, hc, htouched⟩ := LabExercise.resetWith_touched ans hcontainer
      exact ⟨c, Logged.calls_subset_each hc, htouched⟩
    · rw [LabEnvironment.ResetAccepted, and_iff_right hcontainer, Classical.not_imp] at hnot
      have hfailure := (LabExercise.resetWith_failure_iff hbare hcontainer).mpr hnot.1
      obtain ⟨c, hc, htouched⟩ := ih hrest hnot.2
      rw [Logged.each_of_none hfailure]
      exact ⟨c, List.mem_append_right _ hc, htouched⟩

end Environment

namespace LabEnvironment

variable {s : LabEnvironment} {ans : Answers}

/-- The static exercises have no machines. -/
def Bare (s : LabEnvironment) : Prop := s.ee.Bare

/-- A call on the environment, seen from the lab. -/
theorem withEnv_nilIff {r : Logged Environment VirtCall Failure} {ok : Prop}
    (h : r.NilIff Environment.Bare VirtCall.Untouched VirtCall.Failed ok) :
    (s.withEnv r).NilIff Bare VirtCall.Untouched VirtCall.Failed ok :=
  ⟨h.clean, h.nil, h.state⟩

/-- The same without its error. -/
theorem withEnv_keeps {r : Logged Environment VirtCall Failure}
    (h : r.Keeps Environment.Bare VirtCall.Untouched VirtCall.Failed) :
    (s.withEnv r).Keeps Bare VirtCall.Untouched VirtCall.Failed :=
  ⟨h.clean, h.failure, h.state⟩

/-- The servers are no part of the environment. -/
theorem refreshDNS_ee : (s.refreshDNS ans).1.ee = s.ee := by
  unfold refreshDNS
  split <;> rfl

/-- `refreshDHCP` leaves the exercises as they are. -/
theorem refreshDHCP_ee : (s.refreshDHCP ans).1.ee = s.ee := by
  unfold refreshDHCP
  split <;> rfl

/-- `startDHCP` leaves the exercises as they are. -/
theorem startDHCP_ee : (s.startDHCP ans).1.ee = s.ee := by
  unfold startDHCP
  split <;> rfl

/-- `refreshDNS` succeeds when the new server starts. -/
theorem refreshDNS_eq_none : (s.refreshDNS ans).2 = none ↔ DNSStarts ans := by
  unfold refreshDNS DNSStarts
  cases ans.dns.new with
  | none => simp
  | some err => simp

/-- `startDHCP` succeeds when the new server starts. -/
theorem startDHCP_eq_none : (s.startDHCP ans).2 = none ↔ DHCPStarts ans := by
  unfold startDHCP DHCPStarts
  cases ans.dhcp.new with
  | none => simp
  | some err => simp

/-- `refreshDHCP` closes the old server first. -/
theorem refreshDHCP_eq_none : (s.refreshDHCP ans).2 = none ↔
    (s.dhcpServer = true → ans.dhcp.close = none) ∧ DHCPStarts ans := by
  unfold refreshDHCP DHCPStarts
  cases s.dhcpServer <;> cases ans.dhcp.close <;> cases ans.dhcp.new <;> simp

/-- The step for a server is over, and the rest of the operation follows if it succeeded. -/
theorem afterServers_nilIff {r : LabEnvironment × Option String}
    {f : LabEnvironment → Logged LabEnvironment VirtCall Failure} {ok : Prop} (h : r.1.Bare)
    (hnil : r.2 = none → (f r.1).NilIff Bare VirtCall.Untouched VirtCall.Failed ok) :
    (afterServers r f).NilIff Bare VirtCall.Untouched VirtCall.Failed (r.2 = none ∧ ok) := by
  unfold afterServers
  cases hr : r.2 with
  | some err => exact Logged.nilIff_fail h fun hok => by cases hok.1
  | none =>
    rw [and_iff_right rfl]
    exact hnil hr

/-- What comes after the servers runs when these have no error. -/
theorem afterServers_of_none {r : LabEnvironment × Option String}
    {f : LabEnvironment → Logged LabEnvironment VirtCall Failure} (h : r.2 = none) :
    afterServers r f = f r.1 := by
  simp only [afterServers, h]

/-- A server is stopped, and the rest of `Stop` follows if it exists and stopped. -/
theorem stopServer_nilIff {server : Bool} {err : Option String} {ok : Prop}
    {f : LabEnvironment → Logged LabEnvironment VirtCall Failure} (h : s.Bare)
    (hnil : (f s).NilIff Bare VirtCall.Untouched VirtCall.Failed ok) :
    ((s.stopServer server err).andThen f).NilIff Bare VirtCall.Untouched VirtCall.Failed
      ((server = true ∧ err = none) ∧ ok) := by
  cases server with
  | false => exact Logged.nilIff_fail h fun hok => by cases hok.1.1
  | true =>
    cases err with
    | some err => exact Logged.nilIff_fail h fun hok => by cases hok.1.2
    | none =>
      rw [and_iff_right ⟨rfl, rfl⟩]
      exact hnil

/-- What an operation does that resets no static exercise with a container. -/
theorem perform_nilIff (h : s.Bare) (req : EnvRequest) (hno : s.NoStaticReset ans req) :
    (s.perform ans req).NilIff Bare VirtCall.Untouched VirtCall.Failed
      (s.Accepted ans req) := by
  cases req with
  | add newFlag confs => exact withEnv_nilIff (Environment.addWith_nilIff newFlag confs h)
  | start =>
    have hdns : (s.refreshDNS ans).1.Bare := by
      rw [Bare, refreshDNS_ee]
      exact h
    have hdhcp : ((s.refreshDNS ans).1.startDHCP ans).1.Bare := by
      rw [Bare, startDHCP_ee]
      exact hdns
    have hok : s.Accepted ans .start ↔ (s.refreshDNS ans).2 = none ∧
        ((s.refreshDNS ans).1.startDHCP ans).2 = none ∧ True := by
      rw [refreshDNS_eq_none, startDHCP_eq_none, and_true]
      rfl
    rw [hok, perform]
    -- The two servers come first, in the order of `Start`; the exercises are only reached after
    -- both.
    refine afterServers_nilIff hdns fun _ => ?_
    refine afterServers_nilIff hdhcp fun _ => ?_
    exact (withEnv_keeps (Environment.startEnabled_keeps hdhcp)).nilIff trivial
  | stop =>
    have hok : s.Accepted ans .stop ↔ (s.dnsServer = true ∧ ans.dns.stop = none) ∧
        (s.dhcpServer = true ∧ ans.dhcp.stop = none) ∧ True := by
      rw [and_true]
      rfl
    rw [hok, perform]
    refine stopServer_nilIff h ?_
    -- `Stop` meets the servers in turn, and a server that is not there fails.
    refine stopServer_nilIff h ?_
    exact (withEnv_keeps (Environment.eachExercise_keeps h fun e he =>
      LabExercise.stopWith_bare (h e he))).nilIff trivial
  | startByTag t =>
    exact withEnv_nilIff (Environment.onTag_nilIff h fun e he _ _ =>
      LabExercise.startWith_bare (h e he))
  | stopByTag t =>
    exact withEnv_nilIff (Environment.onTag_nilIff h fun e he _ _ =>
      LabExercise.stopWith_bare (h e he))
  | resetByTag t =>
    -- The condition keeps static exercises with a container out of the reset.
    exact withEnv_nilIff (Environment.onTag_nilIff h fun e he htag hvalid =>
      LabExercise.resetWith_bare ans (h e he) (hno hvalid e he htag))
  | reset =>
    have hdhcp : (s.refreshDHCP ans).1.Bare := by
      rw [Bare, refreshDHCP_ee]
      exact h
    have hdns : ((s.refreshDHCP ans).1.refreshDNS ans).1.Bare := by
      rw [Bare, refreshDNS_ee]
      exact hdhcp
    have hrestart : s.ServersRestart ans ↔ (s.refreshDHCP ans).2 = none ∧
        ((s.refreshDHCP ans).1.refreshDNS ans).2 = none := by
      rw [refreshDHCP_eq_none, refreshDNS_eq_none, and_assoc]
      rfl
    have hok : s.Accepted ans .reset ↔ (s.refreshDHCP ans).2 = none ∧
        ((s.refreshDHCP ans).1.refreshDNS ans).2 = none ∧ True := by
      rw [and_true]
      exact hrestart
    rw [hok, perform]
    refine afterServers_nilIff hdhcp fun h₁ => ?_
    refine afterServers_nilIff hdns fun h₂ => ?_
    -- The condition speaks of resets whose servers came up again.
    have hreset := hno (hrestart.mpr ⟨h₁, h₂⟩)
    have hee : ((s.refreshDHCP ans).1.refreshDNS ans).1.ee = s.ee := by
      rw [refreshDNS_ee, refreshDHCP_ee]
    exact (withEnv_keeps (Environment.eachExercise_of_each
      (Environment.resetEach_keeps hdns (hee ▸ hreset)))).nilIff trivial
  | suspend =>
    exact (withEnv_keeps (Environment.eachExercise_keeps h fun e he =>
      LabExercise.suspendWith_bare (h e he))).nilIff trivial
  | resume =>
    exact (withEnv_keeps (Environment.eachExercise_keeps h fun e he =>
      LabExercise.resumeWith_bare (h e he))).nilIff trivial

/-- An operation that resets such an exercise. -/
theorem perform_touched (h : s.Bare) (req : EnvRequest) (hnot : ¬ s.NoStaticReset ans req) :
    ∃ c ∈ (s.perform ans req).calls, ¬ c.Untouched := by
  cases req with
  | resetByTag t =>
    rw [NoStaticReset, Classical.not_imp, not_forall] at hnot
    obtain ⟨hvalid, e, hnot⟩ := hnot
    simp only [Classical.not_imp, not_not] at hnot
    obtain ⟨he, htag, hcontainer⟩ := hnot
    have hmem : t ∈ s.ee.tags := List.mem_map.mpr ⟨e, he, htag⟩
    obtain ⟨e', he', htag', heq⟩ :=
      Environment.onTag_of_mem (LabExercise.resetWith_tag ans) hvalid hmem
    have hsame : e' = e :=
      List.inj_on_of_nodup_map s.ee.distinct he' he (htag'.trans htag.symm)
    obtain ⟨c, hc, htouched⟩ := LabExercise.resetWith_touched ans hcontainer
    refine ⟨c, ?_, htouched⟩
    show c ∈ (s.ee.onTag t (fun e => e.resetWith ans) (LabExercise.resetWith_tag ans)).calls
    rw [heq, hsame]
    exact hc
  | reset =>
    rw [NoStaticReset, Classical.not_imp] at hnot
    obtain ⟨⟨hclose, hdhcp, hdns⟩, hreset⟩ := hnot
    have hdhcpNone : (s.refreshDHCP ans).2 = none := refreshDHCP_eq_none.mpr ⟨hclose, hdhcp⟩
    have hdnsNone : ((s.refreshDHCP ans).1.refreshDNS ans).2 = none :=
      refreshDNS_eq_none.mpr hdns
    have hee : ((s.refreshDHCP ans).1.refreshDNS ans).1.ee = s.ee := by
      rw [refreshDNS_ee, refreshDHCP_ee]
    obtain ⟨c, hc, htouched⟩ := Environment.resetEach_touched h hreset
    refine ⟨c, ?_, htouched⟩
    rw [perform, afterServers_of_none hdhcpNone, afterServers_of_none hdnsNone]
    show c ∈ (Logged.each (fun e => e.resetWith ans)
      ((s.refreshDHCP ans).1.refreshDNS ans).1.ee.exercises).calls
    rw [hee]
    exact hc
  | _ => exact absurd trivial hnot

variable {a : EnvRequest × Answers} {s' : LabEnvironment}

/-- A step performs its operation and records it. -/
theorem step_eq_some (h : staticExercises.step s a = some s') :
    s' = { (s.perform a.2 a.1).state with
      operations := s.operations ++ [(s.perform a.2 a.1).toOperation] } := by
  simp only [staticExercises] at h
  split at h
  · cases h
  · exact (Option.some.inj h).symm

/-- A step that resets no static exercise with a container. -/
theorem step_bare (h : s.Bare) (hno : s.NoStaticReset a.2 a.1)
    (hs : staticExercises.step s a = some s') : s'.Bare := by
  obtain rfl := step_eq_some hs
  exact (perform_nilIff h a.1 hno).state

/-- A step that does not reset a static container keeps what is to be shown. -/
theorem step_untouched (h : s.Bare) (hold : s.Untouched) (hno : s.NoStaticReset a.2 a.1)
    (hs : staticExercises.step s a = some s') : s'.Untouched := by
  obtain rfl := step_eq_some hs
  intro op hop
  rcases List.mem_append.mp hop with hmem | hlast
  · exact hold op hmem
  · rw [List.mem_singleton.mp hlast]
    exact (perform_nilIff h a.1 hno).clean

/-- A step that resets a static container breaks it. -/
theorem step_not_untouched (h : s.Bare) (hnot : ¬ s.NoStaticReset a.2 a.1)
    (hs : staticExercises.step s a = some s') : ¬ s'.Untouched := by
  obtain rfl := step_eq_some hs
  obtain ⟨c, hc, htouched⟩ := perform_touched h a.1 hnot
  exact fun hall => htouched (hall _ (List.mem_append_right _ (List.mem_singleton_self _)) c hc)

/-- Such a step returns nil, as far as the machines are concerned, if and only if the request is
accepted. -/
theorem step_returnsNil_iff (h : s.Bare) (hold : s.ReturnsNil) (hno : s.NoStaticReset a.2 a.1)
    (hs : staticExercises.step s a = some s') : s'.ReturnsNil ↔ s.Accepted a.2 a.1 := by
  obtain rfl := step_eq_some hs
  rw [← (perform_nilIff h a.1 hno).nil]
  constructor
  · intro hall
    exact hall _ (List.mem_append_right _ (List.mem_singleton_self _))
  · intro hlast op hop
    rcases List.mem_append.mp hop with hmem | heq
    · exact hold op hmem
    · rw [List.mem_singleton.mp heq]
      exact hlast

/-- In each run: no static exercise touches the virtualisation layer if and only if none with a
container is reset, and each operation also returns nil whenever its calls on machines succeed if
and only if, besides, its request is accepted. -/
theorem staticExercises_untouched_iff (disabledExercises : List String)
    (as : List (EnvRequest × Answers)) :
    (staticExercises.AllStates Untouched (.new disabledExercises) as ↔
      staticExercises.AllSteps (fun s a => s.NoStaticReset a.2 a.1) (.new disabledExercises)
        as) ∧
    (staticExercises.AllStates (fun s => s.Untouched ∧ s.ReturnsNil) (.new disabledExercises)
        as ↔
      staticExercises.AllSteps (fun s a => s.NoStaticReset a.2 a.1 ∧ s.Accepted a.2 a.1)
        (.new disabledExercises) as) := by
  have hbare : (LabEnvironment.new disabledExercises).Bare :=
    fun _ he => absurd he List.not_mem_nil
  have huntouched : (LabEnvironment.new disabledExercises).Untouched :=
    fun _ hop => absurd hop List.not_mem_nil
  have hnil : (LabEnvironment.new disabledExercises).ReturnsNil :=
    fun _ hop => absurd hop List.not_mem_nil
  constructor
  · exact Machine.allStates_iff_allSteps (I := fun s => s.Bare ∧ s.Untouched)
      (A := fun _ _ => True) (fun _ hI => hI.2)
      (fun _ _ _ hI _ hno hs => ⟨step_bare hI.1 hno hs, step_untouched hI.1 hI.2 hno hs⟩)
      (fun _ _ _ hI _ hnot hs => step_not_untouched hI.1 hnot hs)
      ⟨hbare, huntouched⟩ Machine.allSteps_true
  · refine Machine.allStates_iff_allSteps
      (I := fun s : LabEnvironment => s.Bare ∧ s.Untouched ∧ s.ReturnsNil)
      (A := fun _ _ => True) (fun _ hI => hI.2) ?_ ?_ ⟨hbare, huntouched, hnil⟩
      Machine.allSteps_true
    · intro s a t hI _ hok hs
      exact ⟨step_bare hI.1 hok.1 hs, step_untouched hI.1 hI.2.1 hok.1 hs,
        (step_returnsNil_iff hI.1 hI.2.2 hok.1 hs).mpr hok.2⟩
    · intro s a t hI _ hnot hs hall
      by_cases hno : s.NoStaticReset a.2 a.1
      · exact hnot ⟨hno, (step_returnsNil_iff hI.1 hI.2.2 hno hs).mp hall.2⟩
      · exact step_not_untouched hI.1 hno hs hall.1

/-- No call fails. -/
def succeeding : Answers where
  machine := fun _ _ _ => none
  dns := { close := none, new := none, run := none, connect := none, stop := none }
  dhcp := { close := none, new := none, run := none, connect := none, stop := none }

/-- A static exercise with one instance is added and reset. -/
theorem staticExercises_touched :
    ¬ ∀ (disabledExercises : List String) (as : List (EnvRequest × Answers)),
      staticExercises.AllStates (fun s => s.Untouched ∧ s.ReturnsNil) (.new disabledExercises)
        as := by
  intro h
  let conf : Store.Exercise :=
    { tag := "st", static := true, instances := [{ image := "", flags := [] }] }
  have hall := h [] [(.add (fun _ _ _ => "") [conf], succeeding), (.resetByTag "st", succeeding)]
  obtain ⟨s, hops, huntouched, -⟩ := hall.of_run operations
    [{ calls := [], failure := none },
      { calls := [⟨true, .createContainer, none⟩, ⟨true, .connect, none⟩],
        failure := some .panic }] (by decide)
  have hclean := huntouched _ (hops ▸ List.mem_cons_of_mem _ List.mem_cons_self)
    ⟨true, .createContainer, none⟩ List.mem_cons_self
  exact absurd hclean (by decide)

end LabEnvironment

end Haaukins.Exercise
