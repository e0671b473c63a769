import Haaukins.Exercise.FailingCalls
import Haaukins.Lab.Frontends

/-!
# `Haaukins.Lab.FrontendLab`: a lab whose machines have an identity (`lab/lab.go`)

A `FrontendLab` is a lab with its exercises, its two servers and its frontends, and with what tells
its machines from others in the same states. `made` counts the containers and virtual machines that
were made for the exercises and the servers, and `copies` those that were made for a port. So two
equal labs have the same machines, and a lab whose machines were replaced is another one.

Each operation of a lab takes what Docker, VirtualBox and the file system answer to its calls. For
each, one lemma says when it leaves the lab as it is.

* `suspend_same_iff` and `resume_same_iff`: the first exercise on which the operation acts refuses
  it, or the first frontend does.
* `restart_same_iff`: the first call for the DHCP server fails.
* `resetByTag_cases`, `resetFrontends_cases` and `addChallenge_cases` are for loops over labs. Each
  of them says when the lab is kept, and that a number never goes down which a change lifts.

`Info` reads the state that a machine has. A machine that VirtualBox does not know is in the state
`error`.
-/

set_option autoImplicit false

namespace Haaukins.Lab

open Exercise (Answers Environment Failure InstanceState LabExercise ServerCalls ServerSlot
  VirtCall VirtMethod made)
open Store (InstanceConfig newTag validateTag)

/-! ### One frontend -/

/-- What Docker and VirtualBox answer in the operations on a frontend. -/
structure VMAnswers extends FrontendAnswers where
  savestate : Option String
  importvm : Option String
  /-- The answer to the second `startvm` in the restart of a suspended machine. -/
  restartvm : Option String

/-- `frontendConf`, with the state in which VirtualBox has its machine. -/
structure Frontend extends FrontendConf where
  state : InstanceState
  /-- The number of machines that were made for the port. -/
  copies : Nat

namespace Frontend

variable (f : Frontend)

/-- `Info().State`. -/
def info : InstanceState := if f.vm.registered then f.state else .error

/-- `Suspend`. The field `running` stays as it is. -/
def suspend (err : Option String) : Frontend × Option String :=
  match f.vm.vboxCmd err with
  | some err => (f, some err)
  | none => ({ f with state := .suspended }, none)

/-- `Stop`. -/
def stop (err : Option String) : Frontend × Option String :=
  match f.vm.stop err with
  | (vm, some err) => ({ f with vm := vm }, some err)
  | (vm, none) => ({ f with vm := vm, state := .stopped }, none)

/-- `Start`. -/
def start (err : Option String) : Frontend × Option String :=
  match f.vm.start err with
  | (vm, some err) => ({ f with vm := vm }, some err)
  | (vm, none) => ({ f with vm := vm, state := .running }, none)

/-- `Create`. -/
def create (err : Option String) : Frontend × Option String :=
  match err with
  | some err => (f, some err)
  | none =>
    ({ f with vm := { f.vm with registered := true }, state := .stopped
              copies := f.copies + 1 }, none)

/-- `if err := …; err != nil { return err }`, with what follows it. -/
def andThen (r : Frontend × Option String) (next : Frontend → Frontend × Option String) :
    Frontend × Option String :=
  match r with
  | (f, some err) => (f, some err)
  | (f, none) => next f

/-- The body of the loop of `lab.Suspend`. -/
def suspendRunning (c : VMAnswers) : Frontend × Option String :=
  if f.info = .running then f.suspend c.savestate else (f, none)

/-- The body of the loop of `lab.Resume`. -/
def resumeSuspended (c : VMAnswers) : Frontend × Option String :=
  if f.info = .suspended then f.start c.startvm else (f, none)

/-- The body of the loop of `lab.Restart`. -/
def restart (c : VMAnswers) : Frontend × Option String :=
  match f.info with
  | .running => andThen (f.stop c.poweroff) fun f => f.start c.startvm
  | .stopped => f.start c.startvm
  | .suspended =>
    andThen (f.start c.startvm) fun f => andThen (f.stop c.poweroff) fun f => f.start c.restartvm
  | .error => andThen (f.create c.importvm) fun f => f.start c.startvm

/-- `Close`. It goes on when the machine cannot be stopped. -/
def close (c : VMAnswers) : Frontend × Option String :=
  let f := if f.vm.running then (f.stop c.poweroff).1 else f
  match f.vm.vboxCmd c.unregistervm with
  | some err => (f, some err)
  | none => ({ f with vm := { f.vm with registered := false } }, none)

/-- The body of the loop of `ResetFrontends`. -/
def reset (c : VMAnswers) : Frontend × Option String :=
  match f.close c with
  | (f, some err) => (f, some err)
  | (f, none) =>
    match addFrontend f.conf c.toFrontendAnswers with
    | .error err => (f, some err)
    | .ok conf =>
      ({ toFrontendConf := conf, state := .stopped, copies := f.copies + 1 } : Frontend).start
        c.startvm

/-- The machine of the port can neither be stopped nor removed. -/
def Refuses (c : VMAnswers) : Prop :=
  f.vm.registered = true →
    c.unregistervm ≠ none ∧ (f.vm.running = true → c.poweroff ≠ none)

/-- A number that each change by `reset` lifts. -/
def age : Nat :=
  4 * f.copies + (if f.vm.registered then 0 else 2) + (if f.vm.running then 0 else 1)

end Frontend

/-! ### The lab -/

/-- What a lab has besides its environment. -/
structure LabParts where
  dhcpServer : ServerSlot
  dnsServer : ServerSlot
  /-- `frontends`, by RDP ports. -/
  frontends : GoMap Nat Frontend
  /-- The number of machines that were made for the exercises and the servers. -/
  made : Nat

/-- `lab`. -/
structure FrontendLab extends LabParts where
  env : Environment

/-- What Docker, VirtualBox and the file system answer in an operation of a lab, and the order in
which `range` visits the frontends. -/
structure LabAnswers where
  machine : VirtMethod → String → Nat → Option String
  dhcp : ServerCalls
  dns : ServerCalls
  order : List Nat
  frontend : Nat → VMAnswers

/-- The answers for an environment. -/
def LabAnswers.answers (ans : LabAnswers) : Answers where
  machine := ans.machine
  dns := ans.dns.answers
  dhcp := ans.dhcp.answers

namespace FrontendLab

variable (l : FrontendLab) (ans : LabAnswers)

/-- The ports in the order of the visits. -/
def ports : List Nat :=
  if ans.order.Perm l.frontends.keyList then ans.order else l.frontends.keyList

/-- A result for the exercises that makes no machine. -/
def withEnv (r : Logged Environment VirtCall Failure) : FrontendLab × Option Failure :=
  ({ l with env := r.state }, r.failure)

/-- A result for the exercises, with the machines that it made. -/
def withMade (r : Logged Environment VirtCall Failure) : FrontendLab × Option Failure :=
  ({ l with env := r.state, made := l.made + Exercise.made r }, r.failure)

/-- A result for the frontends. -/
def withFrontends (r : GoMap Nat Frontend × Option String) : FrontendLab × Option Failure :=
  ({ l with frontends := r.1 }, r.2.map .error)

/-- What follows an operation that has no error. -/
def andThen (r : FrontendLab × Option Failure)
    (next : FrontendLab → FrontendLab × Option Failure) : FrontendLab × Option Failure :=
  match r with
  | (l, some err) => (l, some err)
  | (l, none) => next l

/-- The exercises up to the first error, and then the frontends. -/
def visit (f : LabExercise → Logged LabExercise VirtCall Failure)
    (hf : ∀ e, (f e).state.tag = e.tag) (g : Nat → Frontend → Frontend × Option String) :
    FrontendLab × Option Failure :=
  andThen (l.withEnv (l.env.eachExercise f hf)) fun l =>
    l.withFrontends (l.frontends.rangeUntil g (l.ports ans))

/-- `lab.Suspend`. -/
def suspend : FrontendLab × Option Failure :=
  l.visit ans (fun e => e.suspendWith ans.answers) (LabExercise.suspendWith_tag ans.answers)
    fun p f => f.suspendRunning (ans.frontend p)

/-- `lab.Resume`. -/
def resume : FrontendLab × Option Failure :=
  l.visit ans (fun e => e.resumeWith ans.answers) (LabExercise.resumeWith_tag ans.answers)
    fun p f => f.resumeSuspended (ans.frontend p)

/-- `refreshDHCP`. -/
def refreshDHCP : FrontendLab × Option Failure :=
  ({ l with
      dhcpServer := (l.dhcpServer.refreshDHCP ans.dhcp).1
      made := l.made + l.dhcpServer.madeDHCP ans.dhcp },
    (l.dhcpServer.refreshDHCP ans.dhcp).2.map .error)

/-- `refreshDNS`. -/
def refreshDNS : FrontendLab × Option Failure :=
  ({ l with
      dnsServer := (l.dnsServer.refreshDNS ans.dns).1
      made := l.made + ans.dns.made },
    (l.dnsServer.refreshDNS ans.dns).2.map .error)

/-- `lab.Restart`. -/
def restart : FrontendLab × Option Failure :=
  andThen (l.refreshDHCP ans) fun l =>
    andThen (l.refreshDNS ans) fun l =>
      andThen (l.withMade (l.env.eachExercise (fun e => e.resetWith ans.answers)
        (LabExercise.resetWith_tag ans.answers))) fun l =>
          l.withFrontends (l.frontends.rangeUntil (fun p f => f.restart (ans.frontend p))
            (l.ports ans))

/-- `ResetByTag` of the environment. -/
def resetByTag (t : String) : FrontendLab × Option Failure :=
  l.withMade (l.env.onTag t (fun e => e.resetWith ans.answers)
    (LabExercise.resetWith_tag ans.answers))

/-- `lab.ResetFrontends`. It goes on after an error, and returns the first one. -/
def resetFrontends : FrontendLab × Option Failure :=
  let r := l.frontends.rangeLoop (fun p f => f.reset (ans.frontend p)) (l.ports ans)
  l.withFrontends (r.1, r.2.head?)

/-- The loop of `lab.AddChallenge`. It keeps the error of the last exercise that did not start. -/
def startChallenges (ans : LabAnswers) :
    FrontendLab → Option Failure → List Store.Exercise → FrontendLab × Option Failure
  | l, startByTagError, [] => (l, startByTagError)
  | l, startByTagError, ch :: confs =>
    if ch.static then startChallenges ans l startByTagError confs
    else
      match l.withEnv (l.env.onTag ch.tag (fun e => e.startWith ans.answers)
        (LabExercise.startWith_tag ans.answers)) with
      | (l, err) => startChallenges ans l (err <|> startByTagError) confs

/-- `lab.AddChallenge`. -/
def addChallenge (newFlag : String → Nat → Nat → String) (confs : List Store.Exercise) :
    FrontendLab × Option Failure :=
  andThen (l.withMade (l.env.addWith ans.answers newFlag confs)) fun l =>
    startChallenges ans l none confs

/-! ### What it means to be kept -/

/-- The two labs have the same exercises, servers and frontends, with the same machines. -/
structure Same (l l' : FrontendLab) : Prop where
  env : l'.env = l.env
  dhcpServer : l'.dhcpServer = l.dhcpServer
  dnsServer : l'.dnsServer = l.dnsServer
  frontends : ∀ p, l'.frontends.get? p = l.frontends.get? p
  made : l'.made = l.made

/-- The first exercise with a machine that runs refuses to be suspended. Without one, the first
frontend that runs does. -/
def SuspendRefused : Prop :=
  match l.env.exercises.find? fun e => .running ∈ e.machines with
  | some e => e.SuspendRefused ans.answers
  | none => ∀ p, ((l.ports ans).find? fun p => (l.frontends.get? p).any fun f =>
      f.info = .running) = some p → (ans.frontend p).savestate ≠ none

/-- In the first exercise with a suspended machine none can be started. Without one, the first
suspended frontend cannot. -/
def ResumeRefused : Prop :=
  match l.env.exercises.find? fun e => .suspended ∈ e.machines with
  | some e => e.StartRefused ans.answers
  | none => ∀ p, ((l.ports ans).find? fun p => (l.frontends.get? p).any fun f =>
      f.info = .suspended) = some p → (ans.frontend p).startvm ≠ none

/-- The first call of `refreshDHCP` fails. -/
def RestartRefused : Prop := l.dhcpServer.Refuses ans.dhcp

/-- The environment does not know the tag, or its exercise has no machines and cannot make one. -/
def ResetRefused (t : String) : Prop :=
  validateTag t = none → ∀ e ∈ l.env.exercises, e.tag = t →
    e.machines = [] ∧ e.FirstRefused ans.answers

/-- `ResetByTag` that makes no machine has an error. -/
def ResetStops (t : String) : Prop :=
  validateTag t = none → ∀ e ∈ l.env.exercises, e.tag = t → e.size ≠ 0

/-- None of the frontends can be stopped or removed. -/
def FrontendsRefuse : Prop :=
  ∀ p f, l.frontends.get? p = some f → f.Refuses (ans.frontend p)

/-! ### `Suspend` and `Resume` -/

variable {l : FrontendLab} {ans : LabAnswers}

/-- A lab is like itself. -/
theorem Same.refl (l : FrontendLab) : l.Same l := ⟨rfl, rfl, rfl, fun _ => rfl, rfl⟩

/-- Each frontend is visited once. -/
theorem nodup_ports (l : FrontendLab) (ans : LabAnswers) : (l.ports ans).Nodup := by
  unfold ports
  split
  · next hperm => exact hperm.nodup_iff.mpr l.frontends.nodup_keyList
  · exact l.frontends.nodup_keyList

/-- All frontends are visited. -/
theorem mem_ports {p : Nat} : p ∈ l.ports ans ↔ p ∈ l.frontends := by
  unfold ports
  split
  · next hperm => rw [hperm.mem_iff, GoMap.mem_keyList]
  · exact GoMap.mem_keyList

/-- A visit keeps the lab when it keeps the first exercise on which it acts. Without one, it is the
first frontend that counts. -/
theorem visit_same_iff {f : LabExercise → Logged LabExercise VirtCall Failure}
    {hf : ∀ e, (f e).state.tag = e.tag} {g : Nat → Frontend → Frontend × Option String}
    (acts : LabExercise → Bool) (actsOn : Nat → Frontend → Bool)
    (hskip : ∀ e, acts e = false → (f e).state = e ∧ (f e).failure = none)
    (hact : ∀ e, acts e = true → (f e).state = e → (f e).failure ≠ none)
    (hpass : ∀ p v, actsOn p v = false → g p v = (v, none))
    (hacts : ∀ p v, actsOn p v = true → (g p v).1 = v → (g p v).2 ≠ none) :
    l.Same (l.visit ans f hf g).1 ↔
      match l.env.exercises.find? acts with
      | some e => (f e).state = e
      | none => ∀ p v, ((l.ports ans).find? fun p => (l.frontends.get? p).any (actsOn p)) =
          some p → l.frontends.get? p = some v → (g p v).1 = v := by
  -- The exercises come before the frontends, and the first error ends the visit.
  obtain ⟨hstate, hfailure⟩ := Environment.eachExercise_same l.env hf hskip hact
  have henv : (l.visit ans f hf g).1.env = (l.env.eachExercise f hf).state := by
    unfold visit andThen withEnv
    split
    · next hr => rw [(Prod.mk.inj hr).1.symm]
    · next hr => rw [(Prod.mk.inj hr).1.symm]; rfl
  cases hfind : l.env.exercises.find? acts with
  -- The exercise on which the call acts fails as it stays, so that the frontends are not reached.
  | some e =>
    rw [hfind] at hstate hfailure
    simp only [Option.some.injEq, forall_eq'] at hstate
    show _ ↔ (f e).state = e
    rw [← hstate]
    constructor
    · exact fun hsame => henv.symm.trans hsame.env
    · intro hsame
      have hfailed : (l.env.eachExercise f hf).failure ≠ none :=
        mt (hfailure hsame).mp (Option.some_ne_none e)
      obtain ⟨err, herr⟩ := Option.ne_none_iff_exists'.mp hfailed
      have hvisit : (l.visit ans f hf g).1 = l := by
        rw [visit, withEnv, hsame, herr]
        rfl
      rw [hvisit]
      exact .refl l
  -- No exercise is acted on, and the visit is that of the frontends.
  | none =>
    rw [hfind] at hstate hfailure
    have hsame : (l.env.eachExercise f hf).state = l.env :=
      hstate.mpr fun e he => absurd he.symm (Option.some_ne_none e)
    have hnone : (l.env.eachExercise f hf).failure = none := (hfailure hsame).mpr rfl
    have hvisit : (l.visit ans f hf g).1 =
        { l with frontends := (l.frontends.rangeUntil g (l.ports ans)).1 } := by
      rw [visit, withEnv, hsame, hnone]
      rfl
    rw [hvisit, ← GoMap.rangeUntil_same_iff (l.nodup_ports ans) hpass hacts]
    exact ⟨Same.frontends, fun hfrontends => ⟨rfl, rfl, rfl, hfrontends, rfl⟩⟩

end FrontendLab

namespace Frontend

variable {f : Frontend} {c : VMAnswers}

/-- VirtualBox knows a machine that runs or is suspended. -/
theorem vboxCmd_of_info {state : InstanceState} (h : f.info = state) (hne : state ≠ .error)
    (err : Option String) : f.vm.vboxCmd err = err := by
  unfold info at h
  split at h
  · next hregistered => rw [VM.vboxCmd, if_pos hregistered]
  · exact absurd h.symm hne

/-- A running VM is left alone when `savestate` fails. -/
theorem suspendRunning_same_iff (h : f.info = .running) :
    (f.suspendRunning c).1 = f ↔ c.savestate ≠ none := by
  have hstate : f.state = .running := by
    unfold info at h
    split at h
    · exact h
    · cases h
  rw [suspendRunning, if_pos h, suspend, vboxCmd_of_info h (by decide)]
  cases c.savestate with
  | some err => exact iff_of_true rfl (Option.some_ne_none err)
  | none =>
    refine iff_of_false (fun heq => ?_) (not_not.mpr rfl)
    have hsame : InstanceState.suspended = f.state := congrArg Frontend.state heq
    rw [hstate] at hsame
    cases hsame

/-- The failure is reported. -/
theorem suspendRunning_failure (h : f.info = .running) (hsame : (f.suspendRunning c).1 = f) :
    (f.suspendRunning c).2 ≠ none := by
  obtain ⟨err, herr⟩ := Option.ne_none_iff_exists'.mp ((suspendRunning_same_iff h).mp hsame)
  rw [suspendRunning, if_pos h, suspend, vboxCmd_of_info h (by decide), herr]
  exact Option.some_ne_none err

/-- A suspended VM is left alone when `startvm` fails. -/
theorem resumeSuspended_same_iff (h : f.info = .suspended) :
    (f.resumeSuspended c).1 = f ↔ c.startvm ≠ none := by
  have hstate : f.state = .suspended := by
    unfold info at h
    split at h
    · exact h
    · cases h
  rw [resumeSuspended, if_pos h, start, VM.start, vboxCmd_of_info h (by decide)]
  cases c.startvm with
  | some err => exact iff_of_true rfl (Option.some_ne_none err)
  | none =>
    refine iff_of_false (fun heq => ?_) (not_not.mpr rfl)
    have hsame : InstanceState.running = f.state := congrArg Frontend.state heq
    rw [hstate] at hsame
    cases hsame

/-- The failure is reported. -/
theorem resumeSuspended_failure (h : f.info = .suspended)
    (hsame : (f.resumeSuspended c).1 = f) : (f.resumeSuspended c).2 ≠ none := by
  obtain ⟨err, herr⟩ := Option.ne_none_iff_exists'.mp ((resumeSuspended_same_iff h).mp hsame)
  rw [resumeSuspended, if_pos h, start, VM.start, vboxCmd_of_info h (by decide), herr]
  exact Option.some_ne_none err

end Frontend

namespace FrontendLab

variable {l l' : FrontendLab} {ans : LabAnswers} {err : Option Failure}

/-- The frontends of a visit: those in one state, and what the operation on them needs. -/
theorem forall_find_info {state : InstanceState} {P : Nat → Prop}
    {Q : Nat → Frontend → Prop} (hQ : ∀ p v, v.info = state → (Q p v ↔ P p)) :
    (∀ p v, ((l.ports ans).find? fun p => (l.frontends.get? p).any fun f => f.info = state) =
        some p → l.frontends.get? p = some v → Q p v) ↔
      ∀ p, ((l.ports ans).find? fun p => (l.frontends.get? p).any fun f => f.info = state) =
        some p → P p := by
  refine forall_congr' fun p => ?_
  constructor
  · intro h hfind
    have hany := List.find?_some hfind
    obtain ⟨v, hv, hinfo⟩ := (Option.any_eq_true ..).mp hany
    exact (hQ p v (of_decide_eq_true hinfo)).mp (h v hfind hv)
  · intro h v hfind hv
    have hany := List.find?_some hfind
    rw [hv] at hany
    exact (hQ p v (of_decide_eq_true hany)).mpr (h hfind)

/-- `Suspend` changes nothing exactly when each call that it makes is refused. -/
theorem suspend_same_iff : l.Same (l.suspend ans).1 ↔ l.SuspendRefused ans := by
  rw [suspend, visit_same_iff (fun e => .running ∈ e.machines) fun _ f => f.info = .running]
  · unfold SuspendRefused
    split
    · exact LabExercise.suspendWith_state_iff
    · exact forall_find_info fun p v hinfo => Frontend.suspendRunning_same_iff hinfo
  · intro e hnot
    have hrefused : e.SuspendRefused ans.answers := by
      intro m hm
      have hrunning : m.1 = .running := by simpa using List.find?_some hm
      have hmem := List.fst_mem_of_mem_zipIdx (List.mem_of_find?_eq_some hm)
      rw [hrunning] at hmem
      exact absurd hmem (of_decide_eq_false hnot)
    have hsame := LabExercise.suspendWith_state_iff.mpr hrefused
    exact ⟨hsame, (LabExercise.suspendWith_failure_iff hsame).mpr (of_decide_eq_false hnot)⟩
  · intro e hmem hsame hnone
    exact (LabExercise.suspendWith_failure_iff hsame).mp hnone (of_decide_eq_true hmem)
  · exact fun p v hnot => if_neg (of_decide_eq_false hnot)
  · exact fun p v hinfo => Frontend.suspendRunning_failure (of_decide_eq_true hinfo)

/-- `Resume` changes nothing exactly when each call that it makes is refused. -/
theorem resume_same_iff : l.Same (l.resume ans).1 ↔ l.ResumeRefused ans := by
  rw [resume, visit_same_iff (fun e => .suspended ∈ e.machines) fun _ f => f.info = .suspended]
  · unfold ResumeRefused
    split
    · next e he => exact LabExercise.resumeWith_state_iff (by simpa using List.find?_some he)
    · exact forall_find_info fun p v hinfo => Frontend.resumeSuspended_same_iff hinfo
  · exact fun e hnot => LabExercise.resumeWith_skip (of_decide_eq_false hnot)
  · exact fun e hmem => LabExercise.resumeWith_failure (of_decide_eq_true hmem)
  · exact fun p v hnot => if_neg (of_decide_eq_false hnot)
  · exact fun p v hinfo => Frontend.resumeSuspended_failure (of_decide_eq_true hinfo)

/-! ### `Restart` -/

/-- What holds of the lab after an operation and after each that may follow it, holds at the
end. -/
theorem andThen_state {P : FrontendLab → Prop} {r : FrontendLab × Option Failure}
    {next : FrontendLab → FrontendLab × Option Failure} (hr : P r.1)
    (hnext : ∀ l, P l → P (next l).1) : P (andThen r next).1 := by
  obtain ⟨l, err⟩ := r
  cases err with
  | some err => exact hr
  | none => exact hnext l hr

/-- The first call for the DHCP server fails, or its server or a new container shows. -/
theorem refreshDHCP_cases (l : FrontendLab) (ans : LabAnswers) :
    (l.RestartRefused ans ∧ ∃ err, l.refreshDHCP ans = (l, some err)) ∨
    (¬ l.RestartRefused ans ∧ ((l.refreshDHCP ans).1.dhcpServer ≠ l.dhcpServer ∨
      l.made < (l.refreshDHCP ans).1.made)) := by
  rcases l.dhcpServer.refreshDHCP_shows ans.dhcp with ⟨hrefused, hmade, err, hrefresh⟩ |
    ⟨hnot, hshows⟩
  · refine .inl ⟨hrefused, .error err, ?_⟩
    rw [refreshDHCP, hrefresh, hmade]
    rfl
  · exact .inr ⟨hnot, hshows.imp_right fun hmade => Nat.lt_add_of_pos_right hmade⟩

/-- `Restart` changes nothing exactly when each call that it makes is refused. -/
theorem restart_same_iff : l.Same (l.restart ans).1 ↔ l.RestartRefused ans := by
  rcases l.refreshDHCP_cases ans with ⟨hrefused, err, hrefresh⟩ | ⟨hnot, hshows⟩
  · have hrestart : l.restart ans = (l, some err) := by
      rw [restart, hrefresh]
      rfl
    rw [hrestart]
    exact iff_of_true (.refl l) hrefused
  · refine iff_of_false (fun hsame => ?_) hnot
    -- What follows keeps the new server, and removes nothing from the count.
    have hframe : (l.restart ans).1.dhcpServer = (l.refreshDHCP ans).1.dhcpServer ∧
        (l.refreshDHCP ans).1.made ≤ (l.restart ans).1.made := by
      unfold restart
      refine andThen_state (P := fun l' => l'.dhcpServer = (l.refreshDHCP ans).1.dhcpServer ∧
        (l.refreshDHCP ans).1.made ≤ l'.made) ⟨rfl, le_rfl⟩ fun l₁ h₁ => ?_
      refine andThen_state (P := fun l' => l'.dhcpServer = (l.refreshDHCP ans).1.dhcpServer ∧
        (l.refreshDHCP ans).1.made ≤ l'.made) ⟨h₁.1, h₁.2.trans (Nat.le_add_right _ _)⟩
        fun l₂ h₂ => ?_
      exact andThen_state (P := fun l' => l'.dhcpServer = (l.refreshDHCP ans).1.dhcpServer ∧
        (l.refreshDHCP ans).1.made ≤ l'.made) ⟨h₂.1, h₂.2.trans (Nat.le_add_right _ _)⟩
        fun l₃ h₃ => h₃
    rcases hshows with hserver | hmade
    · exact hserver (hframe.1.symm.trans hsame.dhcpServer)
    · have hle := hframe.2
      rw [hsame.made] at hle
      omega

/-! ### `ResetByTag` -/

/-- A number that each change by `resetByTag` lifts. -/
def resetAge (t : String) (l : FrontendLab) : Nat :=
  2 * l.made +
    if ∃ e ∈ l.env.exercises, e.tag = t ∧ e.machines ≠ [] then 0 else 1

/-- The age counts the machines, and a half more for the tag. -/
theorem resetAge_bounds (t : String) (l : FrontendLab) :
    2 * l.made ≤ l.resetAge t ∧ l.resetAge t ≤ 2 * l.made + 1 := by
  unfold resetAge
  split <;> omega

/-- `ResetByTag` keeps the lab, or a change shows for good. -/
theorem resetByTag_cases {t : String} (h : l.resetByTag ans t = (l', err))
    (hpanic : err ≠ some .panic) :
    (l.ResetRefused ans t ∧ l' = l ∧ (l.ResetStops t ↔ err ≠ none)) ∨
      (¬ l.ResetRefused ans t ∧ l.resetAge t < l'.resetAge t) := by
  by_cases hok : validateTag t = none ∧ t ∈ l.env.tags
  · obtain ⟨e, he, htag, hreset⟩ := Environment.onTag_of_mem
      (f := fun e => e.resetWith ans.answers) (LabExercise.resetWith_tag ans.answers) hok.1 hok.2
    rw [resetByTag, withMade, hreset] at h
    obtain ⟨rfl, rfl⟩ := Prod.mk.inj h
    -- A reset that makes nothing has taken the machines away, and failed if there are any to make.
    obtain ⟨hmade, hzero⟩ := LabExercise.resetWith_makes_nothing hpanic
    have honly : ∀ e' ∈ l.env.exercises, e'.tag = t → e' = e := fun e' he' htag' =>
      Environment.eq_of_tag he' he (htag'.trans htag.symm)
    have hrefused : l.ResetRefused ans t ↔ e.machines = [] ∧ e.FirstRefused ans.answers := by
      constructor
      · exact fun hall => hall hok.1 e he htag
      · rintro hboth - e' he' htag'
        exact honly e' he' htag' ▸ hboth
    rw [hrefused, ← hmade]
    by_cases hnone : made (e.resetWith ans.answers) = 0
    · obtain ⟨hstate, hfailure⟩ := hzero hnone
      -- No machine before and none after: the lab is the same.
      by_cases hempty : e.machines = []
      · have hsame : (e.resetWith ans.answers).state = e := by
          rw [hstate, ← hempty]
        have henv : l.env.mapTag t (fun e => (e.resetWith ans.answers).state)
            (LabExercise.resetWith_tag ans.answers) = l.env :=
          Environment.mapTag_eq_self fun e' he' htag' => honly e' he' htag' ▸ hsame
        refine .inl ⟨⟨hempty, hnone⟩, ?_, ?_⟩
        · show ({ l with
            env := l.env.mapTag t (fun e => (e.resetWith ans.answers).state)
              (LabExercise.resetWith_tag ans.answers)
            made := l.made + made (e.resetWith ans.answers) } : FrontendLab) = l
          rw [henv, hnone]
          rfl
        · have hstops : l.ResetStops t ↔ e.size ≠ 0 := by
            constructor
            · exact fun hall => hall hok.1 e he htag
            · rintro hsize - e' he' htag'
              exact honly e' he' htag' ▸ hsize
          rw [hstops]
          exact not_congr hfailure.symm
      -- The machines are gone, which the parity of the age records.
      · refine .inr ⟨fun hboth => hempty hboth.1, ?_⟩
        have hbefore : l.resetAge t = 2 * l.made := by
          rw [resetAge, if_pos ⟨e, he, htag, hempty⟩, Nat.add_zero]
        rw [hbefore, resetAge, if_neg]
        · show 2 * l.made < 2 * (l.made + made (e.resetWith ans.answers)) + 1
          omega
        · rintro ⟨_, he', htag', hmachines⟩
          obtain ⟨e₀, he₀, rfl⟩ := List.mem_map.mp he'
          split at htag'
          · next htag₀ =>
            rw [if_pos htag₀, honly e₀ he₀ htag₀] at hmachines
            exact hmachines (congrArg LabExercise.machines hstate)
          · next hother => exact hother htag'
    -- A machine was made, which the age counts twice.
    · refine .inr ⟨fun hboth => hnone hboth.2, ?_⟩
      have hpos := Nat.pos_of_ne_zero hnone
      refine lt_of_lt_of_le ?_ (resetAge_bounds t _).1
      have hbefore := (resetAge_bounds t l).2
      show l.resetAge t < 2 * (l.made + made (e.resetWith ans.answers))
      omega
  · -- The environment does not know the tag.
    obtain ⟨text, hreset⟩ := Environment.onTag_of_not
      (f := fun e => e.resetWith ans.answers) (LabExercise.resetWith_tag ans.answers) hok
    rw [resetByTag, withMade, hreset] at h
    obtain ⟨rfl, rfl⟩ := Prod.mk.inj h
    have hunknown : validateTag t = none → ∀ e ∈ l.env.exercises, e.tag ≠ t :=
      fun hvalid e he htag => hok ⟨hvalid, htag ▸ List.mem_map_of_mem he⟩
    refine .inl ⟨fun hvalid e he htag => absurd htag (hunknown hvalid e he), rfl, ?_⟩
    exact iff_of_true (fun hvalid e he htag => absurd htag (hunknown hvalid e he))
      (Option.some_ne_none text)

/-- A reset never makes the lab younger. -/
theorem resetAge_le {t : String} (h : l.resetByTag ans t = (l', err))
    (hpanic : err ≠ some .panic) : l.resetAge t ≤ l'.resetAge t := by
  rcases resetByTag_cases h hpanic with ⟨-, rfl, -⟩ | ⟨-, hlt⟩
  · exact le_rfl
  · exact hlt.le

end FrontendLab

/-! ### `ResetFrontends` -/

namespace Frontend

variable {f : Frontend} {c : VMAnswers}

/-- A machine that cannot be stopped is as it was. -/
theorem close_of_refuses (h : f.Refuses c) : ∃ err, f.close c = (f, some err) := by
  have hstop : (if f.vm.running then (f.stop c.poweroff).1 else f) = f := by
    split
    · next hrunning =>
      have herr : ∃ err, f.vm.vboxCmd c.poweroff = some err := by
        unfold VM.vboxCmd
        split
        · next hregistered =>
          exact Option.ne_none_iff_exists'.mp ((h hregistered).2 hrunning)
        · exact ⟨_, rfl⟩
      obtain ⟨err, herr⟩ := herr
      rw [stop, VM.stop, herr]
    · rfl
  have herr : ∃ err, f.vm.vboxCmd c.unregistervm = some err := by
    unfold VM.vboxCmd
    split
    · next hregistered => exact Option.ne_none_iff_exists'.mp (h hregistered).1
    · exact ⟨_, rfl⟩
  obtain ⟨err, herr⟩ := herr
  refine ⟨err, ?_⟩
  rw [close, hstop]
  dsimp only
  rw [herr]

/-- A machine that was stopped or removed shows it, and so does a new one. -/
theorem reset_cases (f : Frontend) (c : VMAnswers) :
    (f.Refuses c ∧ ∃ err, f.reset c = (f, some err)) ∨
      (¬ f.Refuses c ∧ f.age < (f.reset c).1.age) := by
  by_cases hrefuses : f.Refuses c
  · obtain ⟨err, hclose⟩ := close_of_refuses hrefuses
    exact .inl ⟨hrefuses, err, by rw [reset, hclose]⟩
  refine .inr ⟨hrefuses, ?_⟩
  obtain ⟨hregistered, hcalls⟩ : f.vm.registered = true ∧
      (c.unregistervm = none ∨ (f.vm.running = true ∧ c.poweroff = none)) := by
    unfold Refuses at hrefuses
    push Not at hrefuses
    obtain ⟨hregistered, hnot⟩ := hrefuses
    refine ⟨hregistered, ?_⟩
    by_cases hunregister : c.unregistervm = none
    · exact .inl hunregister
    · exact .inr (hnot hunregister)
  obtain ⟨⟨⟨running, registered⟩, conf⟩, state, copies⟩ := f
  obtain rfl : registered = true := hregistered
  cases hunregister : c.unregistervm with
  | some err =>
    -- The machine was stopped, and is still there.
    obtain ⟨hrunning, hpoweroff⟩ := hcalls.resolve_left (by rw [hunregister]; exact nofun)
    obtain rfl : running = true := hrunning
    simp [reset, close, stop, VM.stop, VM.vboxCmd, hpoweroff, hunregister, age]
  | none =>
    have hgone : ∀ f' : Frontend, f'.copies = copies → f'.vm.registered = false →
        age ⟨⟨⟨running, true⟩, conf⟩, state, copies⟩ < f'.age := by
      intro f' hcopies hregistered
      simp only [age, hcopies, hregistered, if_true, Bool.false_eq_true, if_false]
      split_ifs <;> omega
    have hnew : ∀ f' : Frontend, f'.copies = copies + 1 →
        age ⟨⟨⟨running, true⟩, conf⟩, state, copies⟩ < f'.age := by
      intro f' hcopies
      simp only [age, hcopies, if_true]
      split_ifs <;> omega
    obtain ⟨f₁, hclose, hcopies, hregistered₁⟩ : ∃ f₁ : Frontend,
        Frontend.close ⟨⟨⟨running, true⟩, conf⟩, state, copies⟩ c = (f₁, none) ∧
          f₁.copies = copies ∧ f₁.vm.registered = false := by
      cases running with
      | false => exact ⟨_, by simp [close, VM.vboxCmd, hunregister]; rfl, rfl, rfl⟩
      | true =>
        cases hpoweroff : c.poweroff with
        | some err =>
          exact ⟨_, by simp [close, stop, VM.stop, VM.vboxCmd, hpoweroff, hunregister]; rfl, rfl,
            rfl⟩
        | none =>
          exact ⟨_, by simp [close, stop, VM.stop, VM.vboxCmd, hpoweroff, hunregister]; rfl, rfl,
            rfl⟩
    rw [reset, hclose]
    dsimp only
    split
    · exact hgone f₁ hcopies hregistered₁
    · refine hnew _ ?_
      rw [← hcopies]
      unfold start
      split <;> rfl

end Frontend

namespace FrontendLab

variable {l l' : FrontendLab} {ans : LabAnswers} {err : Option Failure}

/-- For each port, a number that each change by `resetFrontends` lifts. -/
def frontendAge (l : FrontendLab) (p : Nat) : Nat := ((l.frontends.get? p).map Frontend.age).getD 0

/-- Each frontend is reset on its own. -/
theorem get?_resetFrontends (l : FrontendLab) (ans : LabAnswers) (p : Nat) :
    (l.resetFrontends ans).1.frontends.get? p =
      (l.frontends.get? p).map fun f => (f.reset (ans.frontend p)).1 := by
  show (GoMap.rangeLoop _ _ _).1.get? p = _
  rw [GoMap.get?_rangeLoop (l.nodup_ports ans)]
  split
  · rfl
  · next hp =>
    rw [GoMap.get?_eq_none.mpr (mt mem_ports.mpr hp)]
    rfl

/-- `ResetFrontends` has no error exactly when no frontend has one. -/
theorem resetFrontends_failure : (l.resetFrontends ans).2 = none ↔
    ∀ p f, l.frontends.get? p = some f → (f.reset (ans.frontend p)).2 = none := by
  show ((GoMap.rangeLoop _ _ _).2.head?).map Failure.error = none ↔ _
  rw [Option.map_eq_none_iff, List.head?_eq_none_iff, List.eq_nil_iff_forall_not_mem]
  simp only [GoMap.mem_errs_rangeLoop (l.nodup_ports ans)]
  constructor
  · intro hnone p f hp
    by_contra herr
    obtain ⟨err, herr⟩ := Option.ne_none_iff_exists'.mp herr
    have hmem : p ∈ l.ports ans := mem_ports.mpr (GoMap.mem_iff_get?.mpr ⟨f, hp⟩)
    exact hnone err ⟨p, hmem, f, hp, herr⟩
  · rintro hnone err ⟨p, -, f, hp, herr⟩
    exact Option.some_ne_none err (herr.symm.trans (hnone p f hp))

/-- A reset never makes a frontend younger. -/
theorem frontendAge_le (p : Nat) : l.frontendAge p ≤ (l.resetFrontends ans).1.frontendAge p := by
  rw [frontendAge, frontendAge, get?_resetFrontends]
  cases l.frontends.get? p with
  | none => exact le_rfl
  | some f =>
    rcases f.reset_cases (ans.frontend p) with ⟨-, err, hreset⟩ | ⟨-, hlt⟩
    · show f.age ≤ (f.reset (ans.frontend p)).1.age
      rw [hreset]
    · exact hlt.le

/-- `ResetFrontends` keeps the lab and has an error when there are frontends, or a change shows for
good. -/
theorem resetFrontends_cases (l : FrontendLab) (ans : LabAnswers) :
    (l.FrontendsRefuse ans ∧ l.Same (l.resetFrontends ans).1 ∧
      ((∃ p, p ∈ l.frontends) ↔ (l.resetFrontends ans).2 ≠ none) ∧
      ((l.resetFrontends ans).2 = none → (l.resetFrontends ans).1 = l)) ∨
    (¬ l.FrontendsRefuse ans ∧ ∃ p, l.frontendAge p < (l.resetFrontends ans).1.frontendAge p) := by
  by_cases hrefuse : l.FrontendsRefuse ans
  · have hkept : ∀ p f, l.frontends.get? p = some f →
        ∃ err, f.reset (ans.frontend p) = (f, some err) := by
      intro p f hp
      rcases f.reset_cases (ans.frontend p) with ⟨-, hreset⟩ | ⟨hnot, -⟩
      · exact hreset
      · exact absurd (hrefuse p f hp) hnot
    -- With a frontend the call has an error, since each reset has one.
    have hstops : (l.resetFrontends ans).2 = none ↔ ¬ ∃ p, p ∈ l.frontends := by
      rw [resetFrontends_failure]
      constructor
      · rintro hnone ⟨p, hp⟩
        obtain ⟨f, hp⟩ := GoMap.mem_iff_get?.mp hp
        obtain ⟨err, hreset⟩ := hkept p f hp
        have herr := hnone p f hp
        rw [hreset] at herr
        cases herr
      · exact fun hempty p f hp => absurd ⟨p, GoMap.mem_iff_get?.mpr ⟨f, hp⟩⟩ hempty
    refine .inl ⟨hrefuse, ⟨rfl, rfl, rfl, fun p => ?_, rfl⟩, ?_, fun hnone => ?_⟩
    · rw [get?_resetFrontends]
      cases hp : l.frontends.get? p with
      | none => rfl
      | some f =>
        obtain ⟨err, hreset⟩ := hkept p f hp
        rw [Option.map_some, hreset]
    · rw [ne_eq, hstops, not_not]
    · -- There is no port to visit.
      have hports : l.ports ans = [] := List.eq_nil_iff_forall_not_mem.mpr fun p hp =>
        hstops.mp hnone ⟨p, mem_ports.mp hp⟩
      rw [resetFrontends, hports]
      rfl
  -- A frontend that does not refuse is replaced or gone, and its own age shows it.
  · refine .inr ⟨hrefuse, ?_⟩
    unfold FrontendsRefuse at hrefuse
    push Not at hrefuse
    obtain ⟨p, f, hp, hnot⟩ := hrefuse
    refine ⟨p, ?_⟩
    rw [frontendAge, frontendAge, get?_resetFrontends, hp]
    exact ((f.reset_cases (ans.frontend p)).resolve_left fun h => hnot h.1).2

/-! ### `AddChallenge` -/

/-- A number that each change by `addChallenge` lifts. -/
def addAge (l : FrontendLab) : Nat := l.env.exercises.length + l.made

/-- A call by tag keeps the number of exercises. -/
theorem length_onTag (ee : Environment) (t : String)
    (f : LabExercise → Logged LabExercise VirtCall Failure) (hf : ∀ e, (f e).state.tag = e.tag) :
    (ee.onTag t f hf).state.exercises.length = ee.exercises.length := by
  unfold Environment.onTag
  split
  · rfl
  · split
    · rfl
    · exact List.length_map _

/-- Starting the added challenges adds no exercise. -/
theorem addAge_startChallenges (l : FrontendLab) (ans : LabAnswers) (err : Option Failure)
    (confs : List Store.Exercise) : (startChallenges ans l err confs).1.addAge = l.addAge := by
  induction confs generalizing l err with
  | nil => rfl
  | cons ch confs ih =>
    rw [startChallenges]
    split
    · exact ih l err
    · rw [ih]
      show (Environment.onTag _ _ _ _).state.exercises.length + l.made = _
      rw [length_onTag]
      rfl

/-- `AddChallenge` keeps the lab, or a change shows for good. -/
theorem addChallenge_cases (l : FrontendLab) (ans : LabAnswers)
    (newFlag : String → Nat → Nat → String) (confs : List Store.Exercise) :
    (l.env.AddRefused ans.answers newFlag confs ∧ (l.addChallenge ans newFlag confs).1 = l) ∨
    (¬ l.env.AddRefused ans.answers newFlag confs ∧
      l.addAge < (l.addChallenge ans newFlag confs).1.addAge) := by
  rcases Environment.addWith_cases ans.answers newFlag l.env confs with
    ⟨hrefused, hstate, hmade, hend⟩ | ⟨hnot, hgrown⟩
  · have hadd : l.withMade (l.env.addWith ans.answers newFlag confs) =
        (l, (l.env.addWith ans.answers newFlag confs).failure) := by
      rw [withMade, hstate, hmade]
      rfl
    refine .inl ⟨hrefused, ?_⟩
    rw [addChallenge, hadd]
    rcases hend with rfl | hfailure
    · rfl
    · obtain ⟨err, herr⟩ := Option.ne_none_iff_exists'.mp hfailure
      rw [herr]
      rfl
  · have hmore : l.addAge < (l.withMade (l.env.addWith ans.answers newFlag confs)).1.addAge := by
      have hlength := Environment.length_le_addWith ans.answers newFlag l.env confs
      show l.env.exercises.length + l.made <
        (l.env.addWith ans.answers newFlag confs).state.exercises.length +
          (l.made + made (l.env.addWith ans.answers newFlag confs))
      omega
    refine .inr ⟨hnot, ?_⟩
    refine andThen_state (P := fun l' => l.addAge < l'.addAge) hmore fun l₁ h₁ => ?_
    rw [addAge_startChallenges]
    exact h₁

end FrontendLab

end Haaukins.Lab
