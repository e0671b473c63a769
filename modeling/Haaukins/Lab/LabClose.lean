import Haaukins.Lib.ForkJoin
import Haaukins.Lab.LabResources

/-!
# `Haaukins.Lab.LabClose`: the goroutines of `lab.Close` (`lab/lab.go`, `exercise/environment.go`)

`lab.Close` starts a goroutine for each frontend and one for the environment. That one starts a
goroutine for each server and each exercise, an exercise starts one for each of its machines, and
each level waits for its own. When all are done the environment closes its network.

`close_survives_iff` says what exists after an interleaving of these goroutines: what Docker or
VirtualBox did not remove, and the container of the DHCP server when its file could not be removed.
No call for the environment comes after the removal of its network.

* `Close` logs the errors of its goroutines, and returns none.
* No machine of a lab is connected to the default bridge, so `container.Close` has one call.
* The Corefile of the DNS server is not closed at all.
-/

set_option autoImplicit false

namespace Haaukins.Lab

/-- The calls to Docker, VirtualBox and the file system. -/
inductive CloseCall where
  | removeConf (file : String)
  | poweroff (vm : Resource ResourceKind)
  | unregistervm (vm : Resource ResourceKind)
  | removeContainer (c : Resource ResourceKind)
  | disconnectNetwork (n c : Resource ResourceKind)
  | removeNetwork (n : Resource ResourceKind)
  deriving DecidableEq

/-- A `dhcp.Server` or a `dns.Server`, with its container when it knows the id. -/
structure ServerResource where
  confFile : String
  cont : Option (Resource ResourceKind)

/-- A lab with its servers. -/
structure StartedLab where
  lab : LabResources
  dhcpServer : Option ServerResource
  dnsServer : Option ServerResource

/-- The fields that say what has been started. -/
structure Started where
  /-- The field `running` of the virtual machines. -/
  running : Resource ResourceKind → Bool
  /-- The containers that were connected to the network. -/
  connected : List (Resource ResourceKind)

/-- The calls of `lab.Close`. -/
abbrev CloseJob := Job CloseCall String

/-- `container.Close`. -/
def closeContainer (c : Resource ResourceKind) : CloseJob :=
  .call (.removeContainer c) fun _ => .done

/-- `vm.Close`. It goes on when the machine could not be stopped. -/
def closeVM (running : Resource ResourceKind → Bool) (vm : Resource ResourceKind) : CloseJob :=
  let unregister : CloseJob := .call (.unregistervm vm) fun _ => .done
  if running vm then .call (.poweroff vm) fun _ => unregister else unregister

/-- `Close` of a `virtual.Instance`. -/
def closeMachine (running : Resource ResourceKind → Bool) (m : Resource ResourceKind) : CloseJob :=
  if m.kind = .vm then closeVM running m else closeContainer m

/-- `dhcp.Server.Close`. It returns when the file cannot be removed. -/
def closeDHCP (serv : ServerResource) : CloseJob :=
  .call (.removeConf serv.confFile) fun
    | some _ => .done
    | none => serv.cont.elim .done closeContainer

/-- `dns.Server.Close`. -/
def closeDNS (serv : ServerResource) : CloseJob :=
  .call (.removeConf serv.confFile) fun _ => serv.cont.elim .done closeContainer

/-- `exercise.Close`. -/
def closeExercise (running : Resource ResourceKind → Bool) (e : HeldExercise) : CloseJob :=
  .parAll (e.machines.map (closeMachine running))

/-- `network.Close`. It goes on when a container cannot be disconnected. -/
def closeNetwork (n : Resource ResourceKind) (connected : List (Resource ResourceKind)) :
    CloseJob :=
  .seq (.callAll (connected.map (CloseCall.disconnectNetwork n)))
    (.call (.removeNetwork n) fun _ => .done)

namespace StartedLab

variable (l : StartedLab) (st : Started)

/-- The closers of the environment. -/
def closers : CloseJob :=
  .parAll (l.dhcpServer.toList.map closeDHCP ++ l.dnsServer.toList.map closeDNS ++
    l.lab.exercises.map (closeExercise st.running))

/-- `environment.Close`. -/
def closeEnvironment : CloseJob := .seq (l.closers st) (closeNetwork l.lab.network st.connected)

/-- The goroutines for the frontends. -/
def closeFrontends : CloseJob := .parAll (l.lab.frontends.values.map (closeVM st.running))

/-- `lab.Close`. -/
def close : CloseJob := .par (l.closeFrontends st) (l.closeEnvironment st)

/-- The containers of the servers. -/
def serverContainers : List (Resource ResourceKind) :=
  (l.dhcpServer.bind ServerResource.cont).toList ++ (l.dnsServer.bind ServerResource.cont).toList

/-- All that the lab holds. -/
def held : List (Resource ResourceKind) := l.lab.held ++ l.serverContainers

end StartedLab

/-- What a call removes, when it succeeds. -/
def CloseCall.removes : CloseCall → Option (Resource ResourceKind)
  | .unregistervm r | .removeContainer r | .removeNetwork r => some r
  | .removeConf _ | .poweroff _ | .disconnectNetwork _ _ => none

/-- What a call does to the resources that exist. -/
def execClose (answer : CloseCall → Option String) (w : World ResourceKind) (c : CloseCall) :
    World ResourceKind :=
  c.removes.elim w fun r => w.close r (answer c)

/-- The interleavings of `lab.Close`. -/
def labClose (answer : CloseCall → Option String) (l : StartedLab) (st : Started) :
    Machine (Job.State (World ResourceKind) CloseCall String) Place :=
  Job.machine answer (execClose answer) (l.close st)

/-- The call that removes a `virtual.Instance`. -/
def machineCall (m : Resource ResourceKind) : CloseCall :=
  if m.kind = .vm then .unregistervm m else .removeContainer m

/-- What the answers let `lab.Close` remove. -/
def StartedLab.Removes (l : StartedLab) (answer : CloseCall → Option String)
    (r : Resource ResourceKind) : Prop :=
  (r ∈ l.lab.frontends.values ∧ answer (.unregistervm r) = none) ∨
    (∃ serv ∈ l.dhcpServer, serv.cont = some r ∧ answer (.removeConf serv.confFile) = none ∧
      answer (.removeContainer r) = none) ∨
    (∃ serv ∈ l.dnsServer, serv.cont = some r ∧ answer (.removeContainer r) = none) ∨
    (r ∈ machinesOf l.lab.exercises ∧ answer (machineCall r) = none) ∨
    r = l.lab.network ∧ answer (.removeNetwork r) = none

variable {answer : CloseCall → Option String} {l : StartedLab} {st : Started}
  {r : Resource ResourceKind}

/-! ### What a job removes -/

/-- Some call of the job removes the resource. -/
def Ends (answer : CloseCall → Option String) (r : Resource ResourceKind) (p : CloseJob) : Prop :=
  ∃ c ∈ p.calls answer, c.removes = some r ∧ answer c = none

/-- One of the two parts ends the resource. -/
theorem ends_seq {p q : CloseJob} :
    Ends answer r (.seq p q) ↔ Ends answer r p ∨ Ends answer r q := by
  simp only [Ends, Job.calls, List.mem_append, or_and_right, exists_or]

/-- One of the two branches ends it. -/
theorem ends_par {p q : CloseJob} : Ends answer r (.par p q) ↔ Ends answer r p ∨ Ends answer r q :=
  ends_seq

/-- One of the branches ends it. -/
theorem ends_parAll {ps : List CloseJob} :
    Ends answer r (.parAll ps) ↔ ∃ p ∈ ps, Ends answer r p := by
  induction ps with
  | nil => simp [Ends, Job.parAll, Job.calls]
  | cons p ps ih => simp only [Job.parAll, ends_par, ih, List.mem_cons, exists_eq_or_imp]

/-- A loop over resources, each of which is removed by its own call. -/
theorem ends_parAll_map {rs : List (Resource ResourceKind)} {f : Resource ResourceKind → CloseJob}
    {c : Resource ResourceKind → CloseCall}
    (hf : ∀ x, Ends answer r (f x) ↔ r = x ∧ answer (c x) = none) :
    Ends answer r (.parAll (rs.map f)) ↔ r ∈ rs ∧ answer (c r) = none := by
  simp only [ends_parAll, List.mem_map, exists_exists_and_eq_and, hf]
  constructor
  · rintro ⟨x, hx, rfl, hans⟩
    exact ⟨hx, hans⟩
  · intro h
    exact ⟨r, h.1, rfl, h.2⟩

/-- A call that removes nothing is as good as what follows it. -/
theorem ends_call {c : CloseCall} {next : Option String → CloseJob} (h : c.removes = none) :
    Ends answer r (.call c next) ↔ Ends answer r (next (answer c)) := by
  simp [Ends, Job.calls, h]

/-- A single call ends what it removes, when it has no error. -/
theorem ends_last {c : CloseCall} {r' : Resource ResourceKind} (h : c.removes = some r') :
    Ends answer r (.call c fun _ => .done) ↔ r = r' ∧ answer c = none := by
  simp [Ends, Job.calls, h, eq_comm]

/-- Nothing is ended without a call. -/
theorem not_ends_done : ¬ Ends answer r .done := by
  rintro ⟨c, hc, -⟩
  cases hc

/-- `Close` of a container ends it when Docker removes it. -/
theorem ends_closeContainer {c : Resource ResourceKind} :
    Ends answer r (closeContainer c) ↔ r = c ∧ answer (.removeContainer c) = none :=
  ends_last rfl

/-- `Close` of a VM ends it when VirtualBox unregisters it, also after a failed power-off. -/
theorem ends_closeVM {running : Resource ResourceKind → Bool} {vm : Resource ResourceKind} :
    Ends answer r (closeVM running vm) ↔ r = vm ∧ answer (.unregistervm vm) = none := by
  unfold closeVM
  split
  · exact (ends_call rfl).trans (ends_last rfl)
  · exact ends_last rfl

/-- A machine is one of the two. -/
theorem ends_closeMachine {running : Resource ResourceKind → Bool} {m : Resource ResourceKind} :
    Ends answer r (closeMachine running m) ↔ r = m ∧ answer (machineCall m) = none := by
  unfold closeMachine machineCall
  split
  · exact ends_closeVM
  · exact ends_closeContainer

/-- The container of a server, when the server knows it. -/
theorem ends_cont {cont : Option (Resource ResourceKind)} :
    Ends answer r (cont.elim .done closeContainer) ↔
      cont = some r ∧ answer (.removeContainer r) = none := by
  cases cont with
  | none => simp [not_ends_done]
  | some c =>
    rw [Option.elim_some, ends_closeContainer, Option.some.injEq, eq_comm]
    exact and_congr_right fun h => by rw [h]

/-- `Close` of the DHCP server comes to its container only after its file is removed. -/
theorem ends_closeDHCP {serv : ServerResource} : Ends answer r (closeDHCP serv) ↔
    serv.cont = some r ∧ answer (.removeConf serv.confFile) = none ∧
      answer (.removeContainer r) = none := by
  refine (ends_call rfl).trans ?_
  cases answer (.removeConf serv.confFile) with
  | some err => simp [not_ends_done]
  | none => simpa using ends_cont

/-- `Close` of the DNS server removes its container first. -/
theorem ends_closeDNS {serv : ServerResource} : Ends answer r (closeDNS serv) ↔
    serv.cont = some r ∧ answer (.removeContainer r) = none :=
  (ends_call rfl).trans ends_cont

/-- `Close` of an exercise ends each machine that can be removed. -/
theorem ends_closeExercise {running : Resource ResourceKind → Bool} {e : HeldExercise} :
    Ends answer r (closeExercise running e) ↔
      r ∈ e.machines ∧ answer (machineCall r) = none :=
  ends_parAll_map fun _ => ends_closeMachine

/-- `Close` of the network comes to the network itself after any disconnections. -/
theorem ends_closeNetwork {n : Resource ResourceKind} {connected : List (Resource ResourceKind)} :
    Ends answer r (closeNetwork n connected) ↔ r = n ∧ answer (.removeNetwork n) = none := by
  rw [closeNetwork, ends_seq, ends_last rfl, or_iff_right]
  rintro ⟨c, hc, hremoves, -⟩
  rw [Job.calls_callAll] at hc
  obtain ⟨x, -, rfl⟩ := List.mem_map.mp hc
  cases hremoves

/-- The closers of an environment: two servers, and the machines of its exercises. -/
theorem ends_closers : Ends answer r (l.closers st) ↔
    (∃ serv ∈ l.dhcpServer, serv.cont = some r ∧ answer (.removeConf serv.confFile) = none ∧
      answer (.removeContainer r) = none) ∨
    (∃ serv ∈ l.dnsServer, serv.cont = some r ∧ answer (.removeContainer r) = none) ∨
    r ∈ machinesOf l.lab.exercises ∧ answer (machineCall r) = none := by
  simp only [StartedLab.closers, ends_parAll, List.mem_append, List.mem_map, or_and_right,
    exists_or, exists_exists_and_eq_and, ends_closeDHCP, ends_closeDNS, ends_closeExercise,
    Option.mem_toList, Option.mem_def, or_assoc, machinesOf, List.mem_flatMap, ← and_assoc,
    exists_and_right]

/-- All of `Close` of a lab. -/
theorem ends_close : Ends answer r (l.close st) ↔ l.Removes answer r := by
  have hfrontends : Ends answer r (l.closeFrontends st) ↔
      r ∈ l.lab.frontends.values ∧ answer (.unregistervm r) = none :=
    ends_parAll_map fun _ => ends_closeVM
  have hnetwork : r = l.lab.network ∧ answer (.removeNetwork l.lab.network) = none ↔
      r = l.lab.network ∧ answer (.removeNetwork r) = none :=
    and_congr_right fun h => by rw [h]
  rw [StartedLab.close, ends_par, hfrontends, StartedLab.closeEnvironment, ends_seq, ends_closers,
    ends_closeNetwork, hnetwork, StartedLab.Removes, or_assoc, or_assoc]

/-! ### What a run leaves -/

/-- The calls commute: each takes its own resource away. -/
theorem execClose_comm (w : World ResourceKind) (a b : CloseCall) :
    execClose answer (execClose answer w a) b = execClose answer (execClose answer w b) a := by
  have hclose : ∀ x y ex ey, (w.close x ex).close y ey = (w.close y ey).close x ex := by
    intro x y ex ey
    cases ex <;> cases ey <;> simp only [World.close, List.filter_filter, Bool.and_comm]
  cases ha : a.removes <;> cases hb : b.removes <;> simp [execClose, ha, hb, hclose]

/-- What is left after some calls is what none of them has removed. -/
theorem mem_live_execClose (cs : List CloseCall) (w : World ResourceKind) :
    r ∈ (cs.foldl (execClose answer) w).live ↔
      r ∈ w.live ∧ ¬ ∃ c ∈ cs, c.removes = some r ∧ answer c = none := by
  induction cs generalizing w with
  | nil => simp
  | cons c cs ih =>
    rw [List.foldl_cons, ih]
    cases hc : c.removes with
    | none => simp [execClose, hc]
    | some r' =>
      simp only [execClose, hc, Option.elim_some, World.mem_live_close]
      grind

/-- The calls of `Close` of a network have one order. -/
theorem eq_of_traces_closeNetwork {n : Resource ResourceKind}
    {connected : List (Resource ResourceKind)} {cs : List CloseCall}
    (h : Job.Traces answer (closeNetwork n connected) cs) :
    cs = connected.map (CloseCall.disconnectNetwork n) ++ [.removeNetwork n] := by
  obtain ⟨as, bs, rfl, has, hbs⟩ := h.seq_inv
  rw [has.eq_of_callAll, hbs.perm.eq_singleton]

/-- What exists after an interleaving. -/
theorem mem_live_of_closed {s t : Job.State (World ResourceKind) CloseCall String}
    (hs : (labClose answer l st).init s) {places : List Place}
    (hrun : (labClose answer l st).run s places = some t) (ht : t.job.finished = true)
    (r : Resource ResourceKind) :
    r ∈ t.shared.live ↔ r ∈ s.shared.live ∧ ¬ l.Removes answer r := by
  have hshared := Job.shared_of_finished hs.1 execClose_comm hrun ht
  have hends : Ends answer r (l.close st) ↔ l.Removes answer r := ends_close
  rw [hshared, hs.2, mem_live_execClose, ← hends]
  rfl

/-- No interleaving of `lab.Close` gets stuck, and none is longer than its calls. At its end the
goroutines have made their calls once each, and the environment came to its network when all of its
closers were done. What exists then is what the answers did not let it remove. -/
theorem close_interleavings {s t : Job.State (World ResourceKind) CloseCall String}
    (hs : (labClose answer l st).init s) {places : List Place}
    (hrun : (labClose answer l st).run s places = some t) :
    places.length ≤ ((l.close st).calls answer).length ∧
    (t.job.finished = false → ∃ at_ u, (labClose answer l st).step t at_ = some u) ∧
    (t.job.finished = true →
      (∃ frontends closers,
        Weave frontends (closers ++ (st.connected.map (CloseCall.disconnectNetwork l.lab.network) ++
          [.removeNetwork l.lab.network])) t.trace ∧
        frontends.Perm ((l.closeFrontends st).calls answer) ∧
        closers.Perm ((l.closers st).calls answer)) ∧
      ∀ r, r ∈ t.shared.live ↔ r ∈ s.shared.live ∧ ¬ l.Removes answer r) := by
  refine ⟨hs.2 ▸ Job.length_run_le hrun, Job.exists_next, fun ht => ?_⟩
  refine ⟨?_, mem_live_of_closed hs hrun ht⟩
  obtain ⟨htraces, -⟩ := Job.traces_of_finished hs.1 hrun ht
  rw [hs.2] at htraces
  obtain ⟨frontends, env, hweave, hfrontends, henv⟩ := htraces.par_inv
  obtain ⟨closers, network, rfl, hclosers, hnetwork⟩ := henv.seq_inv
  rw [eq_of_traces_closeNetwork hnetwork] at hweave
  exact ⟨frontends, closers, hweave, hfrontends.perm, hclosers.perm⟩

/-- A lab with a frontend and both servers. -/
def servedLab : StartedLab where
  lab := { network := ⟨.network, 0⟩, exercises := [], frontends := GoMap.set ∅ 5000 ⟨.vm, 1⟩ }
  dhcpServer := some { confFile := "/tmp/dhcpd-conf1", cont := some ⟨.container, 3⟩ }
  dnsServer := some { confFile := "/tmp/zonefile1", cont := some ⟨.container, 2⟩ }

/-- The file of the DHCP server cannot be removed. -/
def stuckConf : CloseCall → Option String
  | .removeConf "/tmp/dhcpd-conf1" => some "no such file or directory"
  | _ => none

/-- The machines run, and the DNS server is connected. -/
def servedStart : Started := { running := fun _ => true, connected := [⟨.container, 2⟩] }

/-- What exists when `Close` is called. -/
def servedWorld : World ResourceKind where
  made := 4
  live := [⟨.container, 3⟩, ⟨.container, 2⟩, ⟨.vm, 1⟩, ⟨.network, 0⟩]

/-- The frontend is closed when the network is gone, and the container of the DHCP server stays. -/
theorem close_interleavings_stuck :
    ∃ t, t.shared.live = [⟨.container, 3⟩] ∧
      7 ≤ ((servedLab.close servedStart).calls stuckConf).length ∧
      (t.job.finished = false →
        ∃ at_ u, (labClose stuckConf servedLab servedStart).step t at_ = some u) ∧
      (t.job.finished = true →
        (∃ frontends closers,
          Weave frontends (closers ++ (servedStart.connected.map
            (CloseCall.disconnectNetwork servedLab.lab.network) ++
              [.removeNetwork servedLab.lab.network])) t.trace ∧
          frontends.Perm ((servedLab.closeFrontends servedStart).calls stuckConf) ∧
          closers.Perm ((servedLab.closers servedStart).calls stuckConf)) ∧
        ∀ r, r ∈ t.shared.live ↔ r ∈ servedWorld.live ∧ ¬ servedLab.Removes stuckConf r) := by
  let first : Job.State (World ResourceKind) CloseCall String :=
    ⟨servedWorld, [], servedLab.close servedStart⟩
  let places : List Place :=
    [.inRight (.inFirst (.inRight (.inLeft .here))), .inRight (.inFirst (.inLeft .here)),
      .inLeft (.inLeft .here), .inRight (.inFirst (.inRight (.inLeft .here))),
      .inRight (.inSecond (.inFirst .here)), .inRight (.inSecond (.inSecond .here)),
      .inLeft (.inLeft .here)]
  obtain ⟨t, hrun, hlive⟩ : ∃ t, (labClose stuckConf servedLab servedStart).run first places =
      some t ∧ t.shared.live = [⟨.container, 3⟩] := ⟨_, rfl, by decide⟩
  exact ⟨t, hlive, close_interleavings ⟨rfl, rfl⟩ hrun⟩

end Haaukins.Lab
