import Haaukins.Exercise.ResetRetry

/-!
# `Haaukins.Exercise.FailingCalls`: what is changed when calls fail (`exercise/exercise.go`)

The operations of `Haaukins.Exercise.StaticExercises` log their calls. For each operation, one
lemma says when it leaves the exercise as it is, from the machines and the answers alone.

* `Suspend` goes on from a machine to the next, so that it changes nothing when the first machine
  that runs cannot be suspended. `Start` and `Resume` ask all machines at the same time.
* `Reset` makes new machines in the states of the old ones. `VirtCall.makes` counts the machines
  that are made, and with it `resetWith_makes_nothing` tells a reset exercise from an old one: when
  no machine was made, the exercise has none.
-/

set_option autoImplicit false

namespace Haaukins.Exercise

open Store (newTag validateTag)

/-- The call made a container or a virtual machine. -/
def VirtCall.makes (c : VirtCall) : Bool :=
  (c.method = .createContainer || c.method = .getCopy) && c.err.isNone

/-- The number of machines that an operation made. -/
def made {σ : Type} (r : Logged σ VirtCall Failure) : Nat := r.calls.countP VirtCall.makes

/-- Nothing is made when no call makes a machine. -/
theorem made_eq_zero {σ : Type} {r : Logged σ VirtCall Failure} :
    made r = 0 ↔ ∀ c ∈ r.calls, c.makes = false := by
  rw [made, List.countP_eq_zero]
  simp

/-! ### The servers -/

/-- The number of containers that `renew` makes. -/
def ServerCalls.made (c : ServerCalls) : Nat :=
  if c.new.isNone && c.createContainer.isNone then 1 else 0

namespace ServerSlot

/-- The number of containers that `refreshDHCP` makes. It makes none when the old server cannot be
closed. -/
def madeDHCP (slot : ServerSlot) (c : ServerCalls) : Nat :=
  if slot.server.all fun serv => (serv.closeDHCP c).2.isNone then c.made else 0

/-- The file of the DHCP server cannot be removed. Without a server, none can be made. -/
def Refuses (slot : ServerSlot) (c : ServerCalls) : Prop :=
  match slot.server with
  | some serv => serv.confFile = true → c.removeConf ≠ none
  | none => c.new ≠ none

/-- `refreshDHCP` ends at its first call, or the slot or a new container shows that it did not. -/
theorem refreshDHCP_shows (slot : ServerSlot) (c : ServerCalls) :
    (slot.Refuses c ∧ slot.madeDHCP c = 0 ∧ ∃ err, slot.refreshDHCP c = (slot, some err)) ∨
    (¬ slot.Refuses c ∧ ((slot.refreshDHCP c).1 ≠ slot ∨ 0 < slot.madeDHCP c)) := by
  obtain ⟨server, left⟩ := slot
  obtain ⟨removeConf, removeContainer, new, createContainer, disconnectNetwork, start, connect⟩ := c
  cases server with
  | none =>
    cases new with
    | some err => exact .inl ⟨Option.some_ne_none err, rfl, err, rfl⟩
    | none =>
      refine .inr ⟨not_not.mpr rfl, ?_⟩
      cases createContainer with
      | some err => exact .inl (by simp [refreshDHCP, renew, runNew])
      | none => exact .inr Nat.one_pos
  | some serv =>
    obtain ⟨confFile, cont⟩ := serv
    cases confFile with
    | false => exact .inl ⟨fun h => absurd h Bool.false_ne_true, rfl, _, rfl⟩
    | true =>
      cases removeConf with
      | some err => exact .inl ⟨fun _ => Option.some_ne_none err, rfl, err, rfl⟩
      | none =>
        -- The file is gone, and only a new server has one again.
        refine .inr ⟨fun h => h rfl rfl, ?_⟩
        have hclose : Server.closeDHCP ⟨true, cont⟩ ⟨none, removeContainer, new, createContainer,
            disconnectNetwork, start, connect⟩ = Server.closeContainer ⟨false, cont⟩ ⟨none,
              removeContainer, new, createContainer, disconnectNetwork, start, connect⟩ := rfl
        simp only [refreshDHCP, hclose, Server.closeContainer, renew, runNew]
        cases cont with
        | none => exact .inl (by simp)
        | some running =>
          cases removeContainer with
          | some err => exact .inl (by simp)
          | none =>
            cases new with
            | some err => exact .inl (by simp)
            | none =>
              cases createContainer with
              | some err => exact .inl (by simp)
              | none => exact .inr Nat.one_pos

end ServerSlot

namespace LabExercise

variable {ans : Answers} {e : LabExercise}

/-! ### Machines one after another -/

/-- The machines in their states keep their numbers. -/
theorem eq_iff_map_fst {ms ms' : List (InstanceState × Nat)}
    (h : ms'.map Prod.snd = ms.map Prod.snd) : ms' = ms ↔ ms'.map Prod.fst = ms.map Prod.fst := by
  constructor
  · exact congrArg _
  · intro hfst
    rw [← List.zip_unzip ms', ← List.zip_unzip ms, List.unzip_eq_map, List.unzip_eq_map, hfst, h]

/-- An exercise stays as it is exactly when its machines do. -/
theorem withMachines_state_iff {r : Logged (List (InstanceState × Nat)) VirtCall Failure}
    (h : r.state.map Prod.snd = e.machines.zipIdx.map Prod.snd) :
    (e.withMachines r).state = e ↔ r.state = e.machines.zipIdx := by
  rw [eq_iff_map_fst h, List.zipIdx_map_fst]
  constructor
  · exact fun heq => congrArg LabExercise.machines heq
  · intro heq
    rw [withMachines, heq]

/-- A call that gives the machine another state changes nothing when it fails. -/
theorem callState_state_iff {method : VirtMethod} {next : InstanceState}
    {m : InstanceState × Nat} (hne : m.1 ≠ next) :
    (e.callState ans method next m).state = m ↔ ans.machine method e.tag m.2 ≠ none := by
  show (if ans.machine method e.tag m.2 = none then (next, m.2) else m) = m ↔ _
  split
  · next hnone =>
    exact iff_of_false (fun heq => hne (congrArg Prod.fst heq).symm) (not_not.mpr hnone)
  · next herr => exact iff_of_true rfl herr

/-- A call fails with the answer for its machine. -/
theorem callState_failure {method : VirtMethod} {next : InstanceState} {m : InstanceState × Nat} :
    (e.callState ans method next m).failure = none ↔ ans.machine method e.tag m.2 = none :=
  callMachine_failure method m.2

/-- A call keeps the number of its machine. -/
theorem callState_snd {method : VirtMethod} {next : InstanceState} {m : InstanceState × Nat} :
    (e.callState ans method next m).state.2 = m.2 := by
  show (if _ then (next, m.2) else m).2 = m.2
  split <;> rfl

/-- So does a suspension. -/
theorem suspendRunning_snd (m : InstanceState × Nat) : (e.suspendRunning ans m).state.2 = m.2 := by
  unfold suspendRunning
  split
  · exact callState_snd
  · rfl

/-- So does a start. -/
theorem startStopped_snd (m : InstanceState × Nat) : (e.startStopped ans m).state.2 = m.2 := by
  unfold startStopped
  split
  · exact callState_snd
  · rfl

/-! ### `Suspend` -/

variable (ans e) in
/-- The first machine that runs cannot be suspended. -/
def SuspendRefused : Prop :=
  ∀ m, (e.machines.zipIdx.find? fun m => m.1 = .running) = some m →
    ans.machine .suspend e.tag m.2 ≠ none

/-- A machine that does not run is not asked. -/
theorem suspendRunning_of_not {m : InstanceState × Nat} (h : m.1 ≠ .running) :
    e.suspendRunning ans m = .ok m := if_neg h

/-- A running machine is asked. -/
theorem suspendRunning_of_running {m : InstanceState × Nat} (h : m.1 = .running) :
    e.suspendRunning ans m = e.callState ans .suspend .suspended m := if_pos h

/-- It goes on running exactly when it refuses. -/
theorem suspendRunning_state_iff {m : InstanceState × Nat} (h : m.1 = .running) :
    (e.suspendRunning ans m).state = m ↔ ans.machine .suspend e.tag m.2 ≠ none := by
  rw [suspendRunning_of_running h]
  exact callState_state_iff (by rw [h]; decide)

/-- The loop of `Suspend` passes by the machines that do not run. -/
theorem suspendRunning_skip {m : InstanceState × Nat} (h : decide (m.1 = .running) = false) :
    (e.suspendRunning ans m).state = m ∧ (e.suspendRunning ans m).failure = none := by
  rw [suspendRunning_of_not (of_decide_eq_false h)]
  exact ⟨rfl, rfl⟩

/-- A running machine that it keeps was refused. -/
theorem suspendRunning_act {m : InstanceState × Nat} (h : decide (m.1 = .running) = true)
    (hsame : (e.suspendRunning ans m).state = m) : (e.suspendRunning ans m).failure ≠ none := by
  have hrunning : m.1 = .running := of_decide_eq_true h
  have herr := (suspendRunning_state_iff hrunning).mp hsame
  rw [suspendRunning_of_running hrunning]
  exact mt callState_failure.mp herr

/-- `Suspend` changes nothing exactly when its calls are refused. -/
theorem suspendWith_state_iff : (e.suspendWith ans).state = e ↔ e.SuspendRefused ans := by
  rw [suspendWith, withMachines_state_iff (Logged.map_each_state suspendRunning_snd _),
    Logged.each_state_eq_iff (fun m => m.1 = .running) (fun m _ => suspendRunning_skip)
      fun m _ => suspendRunning_act]
  refine forall₂_congr fun m hm => ?_
  exact suspendRunning_state_iff (by simpa using List.find?_some hm)

/-- An exercise that is kept has an error if and only if one of its machines runs. -/
theorem suspendWith_failure_iff (h : (e.suspendWith ans).state = e) :
    (e.suspendWith ans).failure = none ↔ .running ∉ e.machines := by
  rw [suspendWith, withMachines_state_iff (Logged.map_each_state suspendRunning_snd _)] at h
  have hfailure := Logged.each_failure_iff_of_same (fun m => decide (m.1 = .running))
    (fun m _ => suspendRunning_skip) (fun m _ => suspendRunning_act) h
  show (Logged.each _ _).failure = none ↔ _
  rw [hfailure]
  constructor
  · intro hall hmem
    obtain ⟨i, hi, hget⟩ := List.getElem_of_mem hmem
    have hpair : (InstanceState.running, i) ∈ e.machines.zipIdx := by
      rw [List.mem_zipIdx_iff_getElem?, List.getElem?_eq_getElem hi, hget]
    cases hall _ hpair
  · intro hnot m hm
    refine decide_eq_false fun hrunning => hnot ?_
    rw [← hrunning]
    exact List.fst_mem_of_mem_zipIdx hm

/-! ### `Start` and `Resume` -/

variable (ans e) in
/-- None of the machines that do not run can be started. -/
def StartRefused : Prop :=
  ∀ m ∈ e.machines.zipIdx, m.1 ≠ .running → ans.machine .start e.tag m.2 ≠ none

/-- `Start` changes nothing exactly when its calls are refused. -/
theorem startWith_state_iff : (e.startWith ans).state = e ↔ e.StartRefused ans := by
  have hsnd : (Logged.eachGo (e.startStopped ans) e.machines.zipIdx).state.map Prod.snd =
      e.machines.zipIdx.map Prod.snd := by
    show (e.machines.zipIdx.map _).map Prod.snd = _
    rw [List.map_map]
    exact List.map_congr_left fun m _ => startStopped_snd m
  rw [startWith, withMachines_state_iff hsnd]
  show e.machines.zipIdx.map _ = _ ↔ _
  nth_rewrite 2 [← List.map_id e.machines.zipIdx]
  rw [List.map_inj_left]
  refine forall₂_congr fun m _ => ?_
  unfold startStopped
  split
  · next hnot => exact (callState_state_iff hnot).trans (imp_iff_right hnot).symm
  · next hrunning => exact iff_of_true rfl fun hnot => absurd hnot hrunning

/-- `Start` has no error exactly when each machine that does not run starts. -/
theorem startWith_failure_iff : (e.startWith ans).failure = none ↔
    ∀ m ∈ e.machines.zipIdx, m.1 ≠ .running → ans.machine .start e.tag m.2 = none := by
  show e.machines.zipIdx.findSome? _ = none ↔ _
  rw [List.findSome?_eq_none_iff]
  refine forall₂_congr fun m _ => ?_
  unfold startStopped
  split
  · next hnot => exact callState_failure.trans (imp_iff_right hnot).symm
  · next hrunning => exact iff_of_true rfl fun hnot => absurd hnot hrunning

/-- A machine of an exercise, with its number. -/
theorem exists_mem_zipIdx {state : InstanceState} (h : state ∈ e.machines) :
    ∃ i, (state, i) ∈ e.machines.zipIdx := by
  obtain ⟨i, hi, hget⟩ := List.getElem_of_mem h
  refine ⟨i, ?_⟩
  rw [List.mem_zipIdx_iff_getElem?, List.getElem?_eq_getElem hi, hget]

/-- All machines run when `Start` returns nil. -/
theorem startWith_running (h : (e.startWith ans).failure = none) :
    ∀ state ∈ (e.startWith ans).state.machines, state = .running := by
  have hnone := startWith_failure_iff.mp h
  show ∀ state ∈ (e.machines.zipIdx.map _).map Prod.fst, state = _
  simp only [List.map_map, List.forall_mem_map, Function.comp]
  intro m hm
  unfold startStopped
  split
  · next hnot =>
    show (if ans.machine .start e.tag m.2 = none then (InstanceState.running, m.2) else m).1 = _
    rw [if_pos (hnone m hm hnot)]
  · next hrunning => exact not_not.mp hrunning

/-- The loop of `Resume` makes no call for machines that all run. -/
theorem resume_of_running (h : ∀ state ∈ e.machines, state = .running)
    (states : List InstanceState) :
    (Logged.loop (fun state (e : LabExercise) => if state = .suspended then e.startWith ans
      else .ok e) states e).state = e ∧
    (Logged.loop (fun state (e : LabExercise) => if state = .suspended then e.startWith ans
      else .ok e) states e).failure = none := by
  have hstart : (e.startWith ans).state = e ∧ (e.startWith ans).failure = none := by
    have hall : ∀ m ∈ e.machines.zipIdx, m.1 = .running := fun m hm =>
      h m.1 (List.fst_mem_of_mem_zipIdx hm)
    exact ⟨startWith_state_iff.mpr fun m hm hnot => absurd (hall m hm) hnot,
      startWith_failure_iff.mpr fun m hm hnot => absurd (hall m hm) hnot⟩
  induction states with
  | nil => exact ⟨rfl, rfl⟩
  | cons state states ih =>
    rw [Logged.loop]
    split
    · rw [Logged.andThen_of_none hstart.2, hstart.1]
      exact ih
    · rw [Logged.andThen_ok]
      exact ih

/-- `Resume` of an exercise is its `Start` when one of the machines is suspended. -/
theorem resume_eq_start {states : List InstanceState} (h : .suspended ∈ states) :
    (Logged.loop (fun state (e : LabExercise) => if state = .suspended then e.startWith ans
      else .ok e) states e).state = (e.startWith ans).state ∧
    (Logged.loop (fun state (e : LabExercise) => if state = .suspended then e.startWith ans
      else .ok e) states e).failure = (e.startWith ans).failure := by
  induction states with
  | nil => cases h
  | cons state states ih =>
    rw [Logged.loop]
    split
    · by_cases hfailure : (e.startWith ans).failure = none
      · rw [Logged.andThen_of_none hfailure, hfailure]
        exact resume_of_running (startWith_running hfailure) states
      · rw [Logged.andThen_of_failure hfailure]
        exact ⟨rfl, rfl⟩
    · next hnot =>
      rw [Logged.andThen_ok]
      exact ih ((List.mem_cons.mp h).resolve_left (Ne.symm hnot))

/-- Without a suspended machine it does nothing. -/
theorem resumeWith_skip (h : .suspended ∉ e.machines) :
    (e.resumeWith ans).state = e ∧ (e.resumeWith ans).failure = none := by
  unfold resumeWith
  generalize e.machines = states at h
  induction states with
  | nil => exact ⟨rfl, rfl⟩
  | cons state states ih =>
    obtain ⟨hne, hnot⟩ := List.ne_and_not_mem_of_not_mem_cons h
    rw [Logged.loop, if_neg (Ne.symm hne), Logged.andThen_ok]
    exact ih hnot

/-- `Resume` starts the whole exercise, so it is refused like `Start`. -/
theorem resumeWith_state_iff (h : .suspended ∈ e.machines) :
    (e.resumeWith ans).state = e ↔ e.StartRefused ans := by
  rw [← startWith_state_iff, resumeWith, (resume_eq_start h).1]

/-- An exercise that could not be resumed has an error. -/
theorem resumeWith_failure (h : .suspended ∈ e.machines) (hsame : (e.resumeWith ans).state = e) :
    (e.resumeWith ans).failure ≠ none := by
  obtain ⟨i, hi⟩ := exists_mem_zipIdx h
  have hrefused := (resumeWith_state_iff h).mp hsame _ hi nofun
  rw [resumeWith, (resume_eq_start h).2]
  exact fun hnone => hrefused (startWith_failure_iff.mp hnone _ hi nofun)

/-! ### `Create` and `Reset` -/

variable (ans e) in
/-- There is no first machine, or it cannot be made. -/
def FirstRefused : Prop :=
  if e.containerOpts = [] then e.vboxOpts ≠ [] → ans.machine .getCopy e.tag 0 ≠ none
  else ans.machine .createContainer e.tag 0 ≠ none

/-- The first round of a loop of `Create` is among its calls. -/
theorem calls_subset_range {f : Nat → Logged Unit VirtCall Failure} {n : Nat} (h : n ≠ 0) :
    (f 0).calls ⊆ (Logged.loop (fun i _ => f i) (List.range n) ()).calls := by
  obtain ⟨n, rfl⟩ := Nat.exists_eq_succ_of_ne_zero h
  rw [List.range_succ_eq_map, Logged.loop]
  exact Logged.calls_subset_andThen

/-- A loop whose first round fails is that round. -/
theorem range_of_failure {f : Nat → Logged Unit VirtCall Failure} {n : Nat} (h : n ≠ 0)
    (hfailure : (f 0).failure ≠ none) :
    Logged.loop (fun i _ => f i) (List.range n) () = f 0 := by
  obtain ⟨n, rfl⟩ := Nat.exists_eq_succ_of_ne_zero h
  rw [List.range_succ_eq_map, Logged.loop]
  exact Logged.andThen_of_failure hfailure

/-- The call that makes the first container. -/
theorem made_of_container (hcontainers : e.containerOpts ≠ [])
    (hnone : ans.machine .createContainer e.tag 0 = none) : made (e.createCalls ans) ≠ 0 := by
  intro hmade
  have hlength : e.containerOpts.length ≠ 0 := mt List.length_eq_zero_iff.mp hcontainers
  let c : VirtCall := { static := !e.net, method := .createContainer, err := none }
  have hfirst : c ∈ (e.createContainer ans 0).calls := by
    refine Logged.calls_subset_andThen (Logged.calls_subset_andThen ?_)
    show c ∈ [_]
    rw [hnone]
    exact List.mem_singleton_self c
  have hmem : c ∈ (e.createCalls ans).calls :=
    Logged.calls_subset_andThen (calls_subset_range hlength hfirst)
  cases made_eq_zero.mp hmade c hmem

/-- The call that makes the first virtual machine, when there is no container. -/
theorem made_of_copy (hnet : e.net = true) (hcontainers : e.containerOpts = [])
    (hvbox : e.vboxOpts ≠ []) (hnone : ans.machine .getCopy e.tag 0 = none) :
    made (e.createCalls ans) ≠ 0 := by
  intro hmade
  have hlength : e.vboxOpts.length ≠ 0 := mt List.length_eq_zero_iff.mp hvbox
  let c : VirtCall := { static := !e.net, method := .getCopy, err := none }
  have hfirst : c ∈ (e.getCopy ans 0).calls := by
    rw [getCopy, callNet, if_pos hnet]
    show c ∈ _ :: [_]
    rw [hnone]
    exact List.mem_cons_of_mem _ (List.mem_singleton_self c)
  have hmem : c ∈ (e.createCalls ans).calls := by
    rw [createCalls, hcontainers]
    exact calls_subset_range hlength hfirst
  cases made_eq_zero.mp hmade c hmem

/-- `Create` ends at the first machine when that cannot be made. -/
theorem createCalls_of_refused (hnet : e.net = false → e.containerOpts = [] → e.vboxOpts = [])
    (h : e.FirstRefused ans) : made (e.createCalls ans) = 0 ∧
      ((e.createCalls ans).failure = none ↔ e.size = 0) := by
  unfold FirstRefused at h
  by_cases hcontainers : e.containerOpts = []
  -- Without containers the first machine is the first VM.
  · rw [if_pos hcontainers] at h
    have hcalls : e.createCalls ans =
        Logged.loop (fun i _ => e.getCopy ans i) (List.range e.vboxOpts.length) () := by
      rw [createCalls, hcontainers]
      rfl
    have hsize : e.size = 0 ↔ e.vboxOpts = [] := by simp [size, hcontainers]
    rw [hcalls, hsize]
    by_cases hvbox : e.vboxOpts = []
    · rw [hvbox]
      exact ⟨rfl, iff_of_true rfl rfl⟩
    -- A VM is copied, since the exercise has a network.
    · have htrue : e.net = true := by
        by_contra hfalse
        exact hvbox (hnet (by simpa using hfalse) hcontainers)
      obtain ⟨err, herr⟩ := Option.ne_none_iff_exists'.mp (h hvbox)
      have hfirst : e.getCopy ans 0 =
          { calls := [{ static := false, method := .interface, err := none },
              { static := !e.net, method := .getCopy, err := some err }]
            failure := some (.error err)
            state := () } := by
        rw [getCopy, callNet, if_pos htrue]
        simp only [callMachine, herr]
        rfl
      have hlength : e.vboxOpts.length ≠ 0 := mt List.length_eq_zero_iff.mp hvbox
      rw [range_of_failure hlength (by rw [hfirst]; exact Option.some_ne_none _), hfirst]
      exact ⟨rfl, iff_of_false (Option.some_ne_none _) hvbox⟩
  -- Otherwise it is the first container, and the loop over the VMs is not reached.
  · rw [if_neg hcontainers] at h
    obtain ⟨err, herr⟩ := Option.ne_none_iff_exists'.mp h
    have hfirst : e.createContainer ans 0 =
        { calls := [{ static := !e.net, method := .createContainer, err := some err }]
          failure := some (.error err)
          state := () } := by
      simp only [createContainer, callMachine, herr]
      rfl
    have hlength : e.containerOpts.length ≠ 0 := mt List.length_eq_zero_iff.mp hcontainers
    have hfailure : (e.createContainer ans 0).failure ≠ none := by
      rw [hfirst]
      exact Option.some_ne_none _
    have hcalls : e.createCalls ans = e.createContainer ans 0 := by
      rw [createCalls, range_of_failure hlength hfailure, Logged.andThen_of_failure hfailure]
    rw [hcalls, hfirst]
    have hsize : e.size ≠ 0 := by
      rw [size]
      omega
    exact ⟨rfl, iff_of_false (Option.some_ne_none _) hsize⟩

/-- `Create` makes no machine if and only if it does not make the first. -/
theorem made_createCalls_iff (hnet : e.net = false → e.containerOpts = [] → e.vboxOpts = []) :
    made (e.createCalls ans) = 0 ↔ e.FirstRefused ans := by
  refine ⟨fun hmade => ?_, fun h => (createCalls_of_refused hnet h).1⟩
  unfold FirstRefused
  split
  · next hcontainers =>
    intro hvbox hnone
    have htrue : e.net = true := by
      by_contra hfalse
      exact hvbox (hnet (by simpa using hfalse) hcontainers)
    exact made_of_copy htrue hcontainers hvbox hnone hmade
  · next hcontainers => exact fun hnone => made_of_container hcontainers hnone hmade

/-- `Create` ends in a panic when the exercise has no network for its virtual machines. -/
theorem net_of_not_panic (h : (e.createCalls ans).failure ≠ some .panic) :
    e.net = false → e.containerOpts = [] → e.vboxOpts = [] := by
  intro hnet hcontainers
  by_contra hvbox
  have hlength : e.vboxOpts.length ≠ 0 := mt List.length_eq_zero_iff.mp hvbox
  have hfirst : (e.getCopy ans 0).failure = some .panic := by
    rw [getCopy, callNet, hnet]
    rfl
  have hcalls : e.createCalls ans =
      Logged.loop (fun i _ => e.getCopy ans i) (List.range e.vboxOpts.length) () := by
    rw [createCalls, hcontainers]
    rfl
  rw [hcalls, range_of_failure hlength (by rw [hfirst]; exact Option.some_ne_none _)] at h
  exact h hfirst

/-- `Start` makes no machine. -/
theorem made_startWith : made (e.startWith ans) = 0 := by
  refine made_eq_zero.mpr fun c hc => ?_
  obtain ⟨m, -, hc⟩ := List.mem_flatMap.mp hc
  unfold startStopped at hc
  split at hc
  · rw [List.mem_singleton.mp hc]
    rfl
  · cases hc

/-- The machines of two computations in a row. -/
theorem made_append {σ τ : Type} {r : Logged σ VirtCall Failure} {r' : Logged τ VirtCall Failure} :
    made ({ r' with calls := r.calls ++ r'.calls } : Logged τ VirtCall Failure) =
      made r + made r' :=
  List.countP_append

variable (ans e) in
/-- The machines of `Reset` are those of `Create`. -/
theorem resetWith_cases : ((e.createCalls ans).failure ≠ none ∧
      e.resetWith ans = { toOperation := (e.createCalls ans).toOperation
                          state := { e with machines := [] } }) ∨
    ((e.createCalls ans).failure = none ∧ made (e.resetWith ans) = made (e.createCalls ans) ∧
      (e.size = 0 → (e.resetWith ans).failure = none ∧
        (e.resetWith ans).state = { e with machines := [] })) := by
  let e₀ : LabExercise := { e with machines := [] }
  have hcreate : e₀.createWith ans =
      { toOperation := (e.createCalls ans).toOperation
        state := { e with machines :=
          if (e.createCalls ans).failure = none then List.replicate e.size .stopped else [] } } :=
    rfl
  have hsame : (e₀.createWith ans).failure = (e.createCalls ans).failure := rfl
  by_cases hfailure : (e.createCalls ans).failure = none
  · have hnone := hsame.trans hfailure
    refine .inr ⟨hfailure, ?_, fun hsize => ?_⟩
    · rw [resetWith, Logged.andThen_of_none hnone, made_append, made_startWith]
      rfl
    · have hstate : (e₀.createWith ans).state = e₀ := by
        rw [hcreate, if_pos hfailure, hsize]
        rfl
      rw [resetWith, Logged.andThen_of_none hnone, hstate, startWith_ok rfl]
      exact ⟨rfl, rfl⟩
  · refine .inl ⟨hfailure, ?_⟩
    rw [resetWith, Logged.andThen_of_failure (hsame.trans_ne hfailure)]
    show e₀.createWith ans = _
    rw [hcreate, if_neg hfailure]

/-- A `Reset` that makes no machine leaves the exercise without machines. -/
theorem resetWith_makes_nothing (hpanic : (e.resetWith ans).failure ≠ some .panic) :
    (made (e.resetWith ans) = 0 ↔ e.FirstRefused ans) ∧
    (made (e.resetWith ans) = 0 → (e.resetWith ans).state = { e with machines := [] } ∧
      ((e.resetWith ans).failure = none ↔ e.size = 0)) := by
  rcases resetWith_cases ans e with ⟨hfailure, hreset⟩ | ⟨hfailure, hmade, hempty⟩
  · rw [hreset] at hpanic ⊢
    have hnet := net_of_not_panic hpanic
    have hcalls : made (e.createCalls ans) = 0 ↔ e.FirstRefused ans := made_createCalls_iff hnet
    refine ⟨hcalls, fun hzero => ⟨rfl, (createCalls_of_refused hnet (hcalls.mp hzero)).2⟩⟩
  · have hcreate : (e.createCalls ans).failure ≠ some .panic := by
      rw [hfailure]
      exact nofun
    have hnet := net_of_not_panic hcreate
    have hcalls : made (e.createCalls ans) = 0 ↔ e.FirstRefused ans := made_createCalls_iff hnet
    rw [hmade]
    refine ⟨hcalls, fun hzero => ?_⟩
    have hsize : e.size = 0 := (createCalls_of_refused hnet (hcalls.mp hzero)).2.mp hfailure
    exact ⟨(hempty hsize).2, iff_of_true (hempty hsize).1 hsize⟩

end LabExercise

/-! ### The exercises of an environment -/

namespace Environment

variable {ans : Answers} {newFlag : String → Nat → Nat → String} {ee : Environment}

/-- An environment stays as it is exactly when its exercises do. -/
theorem withExercises_state_iff {r : Logged (List LabExercise) VirtCall Failure}
    {h : r.state.map LabExercise.tag = ee.tags} :
    (ee.withExercises r h).state = ee ↔ r.state = ee.exercises := by
  obtain ⟨exercises, disabledExercises, distinct⟩ := ee
  simp only [withExercises, Environment.mk.injEq, and_true]

/-- No two exercises have one tag. -/
theorem eq_of_tag {e e' : LabExercise} (he : e ∈ ee.exercises) (he' : e' ∈ ee.exercises)
    (htag : e.tag = e'.tag) : e = e' :=
  List.inj_on_of_nodup_map ee.distinct he he' htag

/-- A change by tag that changes no exercise with this tag. -/
theorem mapTag_eq_self {t : String} {f : LabExercise → LabExercise}
    {hf : ∀ e, (f e).tag = e.tag} (h : ∀ e ∈ ee.exercises, e.tag = t → f e = e) :
    ee.mapTag t f hf = ee := by
  obtain ⟨exercises, disabledExercises, distinct⟩ := ee
  simp only [mapTag, mapExercises, Environment.mk.injEq, and_true]
  nth_rewrite 2 [← List.map_id exercises]
  refine List.map_congr_left fun e he => ?_
  split
  · next htag => exact h e he htag
  · rfl

/-- A loop over the exercises up to the first error, which passes by some of them and fails for
each of the others that it keeps. -/
theorem eachExercise_same (ee : Environment)
    {f : LabExercise → Logged LabExercise VirtCall Failure} (hf : ∀ e, (f e).state.tag = e.tag)
    {acts : LabExercise → Bool}
    (hskip : ∀ e, acts e = false → (f e).state = e ∧ (f e).failure = none)
    (hact : ∀ e, acts e = true → (f e).state = e → (f e).failure ≠ none) :
    ((ee.eachExercise f hf).state = ee ↔
      ∀ e, ee.exercises.find? acts = some e → (f e).state = e) ∧
    ((ee.eachExercise f hf).state = ee → ((ee.eachExercise f hf).failure = none ↔
      ee.exercises.find? acts = none)) := by
  have hstate : (Logged.each f ee.exercises).state = ee.exercises ↔ _ :=
    Logged.each_state_eq_iff acts (fun e _ => hskip e) fun e _ => hact e
  have heach : (ee.eachExercise f hf).state = ee ↔
      (Logged.each f ee.exercises).state = ee.exercises := withExercises_state_iff
  rw [heach]
  refine ⟨hstate, fun hsame => ?_⟩
  rw [List.find?_eq_none]
  simp only [Bool.not_eq_true]
  exact Logged.each_failure_iff_of_same acts (fun e _ => hskip e) (fun e _ => hact e) hsame

/-! ### `Add` -/

/-- `Add` ends at its first exercise, which has no tag or a known tag or whose first machine cannot
be made. -/
def AddRefused (ans : Answers) (newFlag : String → Nat → Nat → String)
    (confs : List Store.Exercise) (ee : Environment) : Prop :=
  ∀ conf ∈ confs.head?, conf.tag = "" ∨ conf.tag ∈ ee.tags ∨
    (conf.static = false ∧ (newExercise (newFlag conf.tag) conf).size ≠ 0 ∧
      (newExercise (newFlag conf.tag) conf).FirstRefused ans)

/-- `Add` removes no exercise. -/
theorem length_le_addWith (ans : Answers) (newFlag : String → Nat → Nat → String)
    (ee : Environment) (confs : List Store.Exercise) :
    ee.exercises.length ≤ (ee.addWith ans newFlag confs).state.exercises.length := by
  induction confs generalizing ee with
  | nil => exact le_rfl
  | cons conf confs ih =>
    rw [addWith]
    split
    · exact le_rfl
    split
    · exact le_rfl
    · next hmem =>
      dsimp only
      split
      · exact le_rfl
      · have hnext := ih (ee.push (createAdded ans newFlag conf).state (by rwa [createAdded_tag]))
        simp only [push, List.length_append, List.length_singleton] at hnext
        exact (Nat.le_succ _).trans hnext

/-- The exercise of a configuration that is not static has a network. -/
theorem net_newExercise (newFlag : String → Nat → Nat → String) {conf : Store.Exercise}
    (hstatic : conf.static = false) : (newExercise (newFlag conf.tag) conf).net = true := by
  simp [newExercise, hstatic]

/-- An `Add` that is not refused makes a machine, or enters an exercise. -/
theorem addWith_cases (ans : Answers) (newFlag : String → Nat → Nat → String) (ee : Environment)
    (confs : List Store.Exercise) :
    (AddRefused ans newFlag confs ee ∧ (ee.addWith ans newFlag confs).state = ee ∧
      made (ee.addWith ans newFlag confs) = 0 ∧
      (confs = [] ∨ (ee.addWith ans newFlag confs).failure ≠ none)) ∨
    (¬ AddRefused ans newFlag confs ee ∧
      (0 < made (ee.addWith ans newFlag confs) ∨
        ee.exercises.length < (ee.addWith ans newFlag confs).state.exercises.length)) := by
  cases confs with
  | nil => exact .inl ⟨nofun, rfl, rfl, .inl rfl⟩
  | cons conf confs =>
  have hhead : AddRefused ans newFlag (conf :: confs) ee ↔ conf.tag = "" ∨ conf.tag ∈ ee.tags ∨
      (conf.static = false ∧ (newExercise (newFlag conf.tag) conf).size ≠ 0 ∧
        (newExercise (newFlag conf.tag) conf).FirstRefused ans) := by
    simp [AddRefused]
  rw [hhead]
  -- The checks of `Add` come before any machine is made.
  by_cases hempty : conf.tag = ""
  · rw [addWith, if_pos hempty]
    exact .inl ⟨.inl hempty, rfl, rfl, .inr (Option.some_ne_none _)⟩
  by_cases hmem : conf.tag ∈ ee.tags
  · rw [addWith, if_neg hempty, dif_pos hmem]
    exact .inl ⟨.inr (.inl hmem), rfl, rfl, .inr (Option.some_ne_none _)⟩
  simp only [hempty, hmem, false_or]
  by_cases hfailure : (createAdded ans newFlag conf).failure = none
  · -- The exercise is entered, so it was not its first machine that failed.
    have hlonger : ee.exercises.length <
        (ee.addWith ans newFlag (conf :: confs)).state.exercises.length := by
      rw [addWith_of_none confs hempty hmem hfailure]
      have hnext := length_le_addWith ans newFlag
        (ee.push (createAdded ans newFlag conf).state (by rwa [createAdded_tag])) confs
      simp only [push, List.length_append, List.length_singleton] at hnext
      exact hnext
    refine .inr ⟨?_, .inr hlonger⟩
    rintro ⟨hstatic, hsize, hrefused⟩
    have hnet := net_newExercise newFlag hstatic
    have hcreate := LabExercise.createCalls_of_refused (fun hfalse => by simp [hnet] at hfalse)
      hrefused
    simp only [createAdded, hstatic] at hfailure
    exact hsize (hcreate.2.mp hfailure)
  -- The creation failed, at its first machine or at a later one.
  · have hstatic : conf.static = false := by
      by_contra htrue
      simp only [createAdded, Bool.not_eq_false] at hfailure htrue
      rw [htrue] at hfailure
      exact hfailure rfl
    have hnet := net_newExercise newFlag hstatic
    have hcreate : createAdded ans newFlag conf =
        (newExercise (newFlag conf.tag) conf).createWith ans := by
      rw [createAdded, hstatic]
      rfl
    have hmade : made ((newExercise (newFlag conf.tag) conf).createCalls ans) = 0 ↔
        (newExercise (newFlag conf.tag) conf).FirstRefused ans :=
      LabExercise.made_createCalls_iff fun hfalse => by simp [hnet] at hfalse
    have hresult : made (ee.addWith ans newFlag (conf :: confs)) =
        made ((newExercise (newFlag conf.tag) conf).createCalls ans) := by
      rw [addWith_of_failure confs hempty hmem hfailure, hcreate]
      rfl
    rw [hresult]
    by_cases hzero : made ((newExercise (newFlag conf.tag) conf).createCalls ans) = 0
    · have hrefused := hmade.mp hzero
      have hsize : (newExercise (newFlag conf.tag) conf).size ≠ 0 := by
        intro hsize
        rw [hcreate] at hfailure
        exact hfailure ((LabExercise.createCalls_of_refused
          (fun hfalse => by simp [hnet] at hfalse) hrefused).2.mpr hsize)
      rw [addWith_of_failure confs hempty hmem hfailure]
      exact .inl ⟨⟨hstatic, hsize, hrefused⟩, rfl, hzero, .inr hfailure⟩
    · exact .inr ⟨fun h => hzero (hmade.mpr h.2.2), .inl (Nat.pos_of_ne_zero hzero)⟩

end Environment

end Haaukins.Exercise
