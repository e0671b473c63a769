import Haaukins.Lib.TryEach
import Haaukins.Exercise.Environment

/-!
# `Haaukins.Lab.LabSuspension`: suspending and resuming a lab (`lab/lab.go`)

`Suspend` goes through the machines of a lab and suspends those that run. `Resume` starts the
frontends that are suspended one by one, but it starts a whole exercise when one of its machines
is suspended.

`suspend_resume_iff` says when a resumed lab is the lab from before. No exercise may have both a
running and a stopped machine, as `Resume` starts the stopped one with the other.

An `Instance` has the outcome of its next `Suspend` and of its next `Start`. A failing operation
leaves the state of the machine. The loop of `lab.Suspend` over the map of the frontends has any
order, which is that of the list here.
-/

set_option autoImplicit false

namespace Haaukins.Lab

open Exercise (InstanceState LabExercise)

/-- `virtual.Instance`, with the errors of its operations. -/
structure Instance where
  state : InstanceState
  suspendErr : Option String
  startErr : Option String
  deriving DecidableEq

namespace Instance

variable (m : Instance)

/-- `Suspend`. -/
def suspend : Instance × Option String :=
  match m.suspendErr with
  | some err => (m, some err)
  | none => ({ m with state := .suspended }, none)

/-- `Start`. It continues a machine that is suspended, and starts any other. -/
def start : Instance × Option String :=
  match m.startErr with
  | some err => (m, some err)
  | none => ({ m with state := .running }, none)

/-- The body of the loops over machines in `exercise.Suspend` and `lab.Suspend`. -/
def suspendRunning : Instance × Option String :=
  if m.state = .running then m.suspend else (m, none)

/-- The body of the loop of `exercise.Start`. -/
def startStopped : Instance × Option String :=
  if m.state ≠ .running then m.start else (m, none)

/-- The body of the loop of `lab.Resume` over the frontends. -/
def resumeSuspended : Instance × Option String :=
  if m.state = .suspended then m.start else (m, none)

/-- No operation on the machine fails. -/
def NoErrors : Prop := m.suspendErr = none ∧ m.startErr = none

instance : Decidable m.NoErrors := inferInstanceAs (Decidable (_ ∧ _))

/-- `Running` or `Stopped`. -/
def RunsOrStopped : Prop := m.state = .running ∨ m.state = .stopped

instance : Decidable m.RunsOrStopped := inferInstanceAs (Decidable (_ ∨ _))

end Instance

/-- `exercise.Start`. It starts all machines at the same time and keeps one of the errors. -/
def startExercise (machines : List Instance) : List Instance × Option String :=
  (machines.map fun m => m.startStopped.1, machines.findSome? fun m => m.startStopped.2)

/-- `exercise.Suspend`. -/
def suspendExercise (machines : List Instance) : List Instance × Option String :=
  tryEach Instance.suspendRunning machines

/-- The loop of `environment.Resume` over the instances of one exercise. `InstanceInfo` was
called before it, so the states do not change with the machines. -/
def resumeInstances : List InstanceState → List Instance → List Instance × Option String
  | [], machines => (machines, none)
  | state :: states, machines =>
    if state = .suspended then
      match startExercise machines with
      | (machines, some err) => (machines, some err)
      | (machines, none) => resumeInstances states machines
    else resumeInstances states machines

/-- The body of the loop of `environment.Resume` over the exercises. -/
def resumeExercise (machines : List Instance) : List Instance × Option String :=
  resumeInstances (machines.map Instance.state) machines

/-- The machines of a lab: those of each exercise, and the frontends. -/
@[ext] structure LabInstances where
  exercises : List (List Instance)
  frontends : List Instance
  deriving DecidableEq

namespace LabInstances

variable (l : LabInstances)

/-- `lab.Suspend`. -/
def suspend : LabInstances × Option String :=
  match tryEach suspendExercise l.exercises with
  | (exercises, some err) => ({ l with exercises := exercises }, some err)
  | (exercises, none) =>
    let frontends := tryEach Instance.suspendRunning l.frontends
    ({ exercises := exercises, frontends := frontends.1 }, frontends.2)

/-- `lab.Resume`. -/
def resume : LabInstances × Option String :=
  match tryEach resumeExercise l.exercises with
  | (exercises, some err) => ({ l with exercises := exercises }, some err)
  | (exercises, none) =>
    let frontends := tryEach Instance.resumeSuspended l.frontends
    ({ exercises := exercises, frontends := frontends.1 }, frontends.2)

/-- All machines of the lab. -/
def instances : List Instance := l.exercises.flatten ++ l.frontends

/-- No exercise has both a machine that runs and one that is stopped. -/
def Unmixed : Prop :=
  ∀ e ∈ l.exercises, (∃ m ∈ e, m.state = .running) → ∀ m ∈ e, m.state = .running

instance : Decidable l.Unmixed := by
  unfold Unmixed
  infer_instance

end LabInstances

/-! ### One machine -/

namespace Instance

variable {m : Instance}

/-- A running machine is suspended, and the others are not asked. -/
theorem suspendRunning_of_noErrors (h : m.NoErrors) : m.suspendRunning =
    (if m.state = .running then { m with state := .suspended } else m, none) := by
  unfold suspendRunning suspend
  rw [h.1]
  split <;> rfl

/-- A machine runs afterwards. -/
theorem startStopped_of_noErrors (h : m.NoErrors) :
    m.startStopped = ({ m with state := .running }, none) := by
  unfold startStopped start
  split
  · rw [h.2]
  · next hrunning =>
    -- A machine that runs stays as it is.
    have hstate : m.state = .running := by simpa using hrunning
    rw [← hstate]

/-- A suspended machine runs again, and the others are not asked. -/
theorem resumeSuspended_of_noErrors (h : m.NoErrors) : m.resumeSuspended =
    (if m.state = .suspended then { m with state := .running } else m, none) := by
  unfold resumeSuspended start
  rw [h.2]
  split <;> rfl

/-- The calls of a machine go with it. -/
theorem noErrors_suspendRunning (h : m.NoErrors) : m.suspendRunning.1.NoErrors := by
  rw [suspendRunning_of_noErrors h]
  dsimp only
  split <;> exact h

/-- No machine runs after it was to be suspended. -/
theorem suspendRunning_not_running (h : m.NoErrors) : m.suspendRunning.1.state ≠ .running := by
  rw [suspendRunning_of_noErrors h]
  dsimp only
  split
  · exact fun heq => by cases heq
  · next hnot => exact hnot

/-- A machine is suspended after `Suspend` exactly when it ran before. -/
theorem suspendRunning_suspended_iff (h : m.NoErrors) (hm : m.RunsOrStopped) :
    m.suspendRunning.1.state = .suspended ↔ m.state = .running := by
  rw [suspendRunning_of_noErrors h]
  dsimp only
  rcases hm with hm | hm <;> simp [hm]

/-- `Resume` of a single machine undoes `Suspend`. -/
theorem resumeSuspended_suspendRunning (h : m.NoErrors) (hm : m.RunsOrStopped) :
    m.suspendRunning.1.resumeSuspended = (m, none) := by
  rw [resumeSuspended_of_noErrors (noErrors_suspendRunning h), suspendRunning_of_noErrors h]
  obtain ⟨state, suspendErr, startErr⟩ := m
  rcases hm with hm | hm
  · change state = .running at hm
    subst hm
    rfl
  · change state = .stopped at hm
    subst hm
    rfl

end Instance

/-! ### One exercise -/

variable {machines : List Instance}

/-- `Suspend` of an exercise. -/
theorem suspendExercise_of_noErrors (h : ∀ m ∈ machines, m.NoErrors) :
    suspendExercise machines = (machines.map fun m => m.suspendRunning.1, none) :=
  tryEach_eq_map fun m hm => by rw [Instance.suspendRunning_of_noErrors (h m hm)]

/-- `Start` of an exercise. -/
theorem startExercise_of_noErrors (h : ∀ m ∈ machines, m.NoErrors) :
    startExercise machines = (machines.map fun m => { m with state := .running }, none) := by
  unfold startExercise
  refine Prod.ext ?_ ?_
  · exact List.map_congr_left fun m hm => by rw [Instance.startStopped_of_noErrors (h m hm)]
  · show machines.findSome? _ = none
    rw [List.findSome?_eq_none_iff]
    intro m hm
    rw [Instance.startStopped_of_noErrors (h m hm)]

/-- The states of the machines after `exercise.Start` are those of the exercise in its
environment. -/
theorem startExercise_state (h : ∀ m ∈ machines, m.NoErrors) (e : LabExercise)
    (he : e.machines = machines.map Instance.state) :
    (startExercise machines).1.map Instance.state = e.start.machines := by
  rw [startExercise_of_noErrors h, LabExercise.start, he, List.map_map, List.map_map]
  refine List.map_congr_left fun m _ => ?_
  show InstanceState.running = if m.state ≠ .running then .running else m.state
  split
  · rfl
  · next hrunning => simpa using (not_not.mp hrunning).symm

/-- `environment.Resume` starts all machines of an exercise with a suspended one, and leaves
the other exercises. -/
theorem resumeInstances_of_noErrors {states : List InstanceState}
    (h : ∀ m ∈ machines, m.NoErrors) :
    resumeInstances states machines =
      (if .suspended ∈ states then machines.map fun m => { m with state := .running }
        else machines, none) := by
  induction states generalizing machines with
  | nil => rfl
  | cons state states ih =>
    rw [resumeInstances]
    split
    · next hstate =>
      have hstarted : ∀ m ∈ machines.map fun m => ({ m with state := .running } : Instance),
          m.NoErrors := by
        intro m hm
        obtain ⟨m', hm', rfl⟩ := List.mem_map.mp hm
        exact h m' hm'
      rw [startExercise_of_noErrors h]
      dsimp only
      -- A second `Start` finds all machines running.
      have hcons : .suspended ∈ state :: states := hstate ▸ List.mem_cons_self
      rw [ih hstarted, List.map_map]
      simp only [hcons, if_true, Function.comp_def, ite_self]
    · next hstate =>
      have hmem : .suspended ∈ state :: states ↔ .suspended ∈ states := by
        simp [Ne.symm hstate]
      rw [ih h, if_congr hmem rfl rfl]

/-- What one exercise is after `Suspend` and `Resume`: all its machines run when one ran before,
and otherwise it is the same as before. -/
theorem resumeExercise_suspendExercise (h : ∀ m ∈ machines, m.NoErrors)
    (hm : ∀ m ∈ machines, m.RunsOrStopped) :
    resumeExercise (suspendExercise machines).1 =
      (if ∃ m ∈ machines, m.state = .running then
          machines.map fun m => { m with state := .running }
        else machines, none) := by
  have hsuspended : ∀ m ∈ machines.map fun m => m.suspendRunning.1, m.NoErrors := by
    intro m hmem
    obtain ⟨m', hm', rfl⟩ := List.mem_map.mp hmem
    exact Instance.noErrors_suspendRunning (h m' hm')
  have hiff : InstanceState.suspended ∈
        (machines.map fun m => m.suspendRunning.1).map Instance.state ↔
      ∃ m ∈ machines, m.state = .running := by
    rw [List.map_map, List.mem_map]
    exact exists_congr fun m => and_congr_right fun hmem =>
      Instance.suspendRunning_suspended_iff (h m hmem) (hm m hmem)
  rw [suspendExercise_of_noErrors h, resumeExercise, resumeInstances_of_noErrors hsuspended,
    if_congr hiff rfl rfl]
  split
  · rw [List.map_map]
    refine congrArg (·, none) (List.map_congr_left fun m hmem => ?_)
    show ({ m.suspendRunning.1 with state := .running } : Instance) = _
    rw [Instance.suspendRunning_of_noErrors (h m hmem)]
    dsimp only
    split <;> rfl
  · next hnone =>
    -- Nothing ran, so nothing was suspended.
    refine congrArg (·, none) ?_
    nth_rewrite 2 [← List.map_id machines]
    refine List.map_congr_left fun m hmem => ?_
    have hnot : ¬ m.state = .running := fun hrunning => hnone ⟨m, hmem, hrunning⟩
    rw [Instance.suspendRunning_of_noErrors (h m hmem), if_neg hnot]
    rfl

/-- An exercise is the same after `Suspend` and `Resume` exactly when all its machines ran or
none did. -/
theorem resumeExercise_eq_iff (h : ∀ m ∈ machines, m.NoErrors)
    (hm : ∀ m ∈ machines, m.RunsOrStopped) :
    (resumeExercise (suspendExercise machines).1).1 = machines ↔
      ((∃ m ∈ machines, m.state = .running) → ∀ m ∈ machines, m.state = .running) := by
  rw [resumeExercise_suspendExercise h hm]
  dsimp only
  split
  · next hrunning =>
    rw [imp_iff_right hrunning]
    nth_rewrite 2 [← List.map_id machines]
    rw [List.map_inj_left]
    refine forall₂_congr fun m _ => ?_
    obtain ⟨state, suspendErr, startErr⟩ := m
    simp [eq_comm]
  · next hnone => simp [hnone]

/-! ### The lab -/

namespace LabInstances

variable {l : LabInstances}

/-- No operation on a machine of the lab fails. -/
def NoErrors (l : LabInstances) : Prop := ∀ m ∈ l.instances, m.NoErrors

/-- Each machine of the lab is `Running` or `Stopped`. -/
def RunsOrStopped (l : LabInstances) : Prop := ∀ m ∈ l.instances, m.RunsOrStopped

instance : Decidable l.NoErrors := by
  unfold NoErrors
  infer_instance

instance : Decidable l.RunsOrStopped := by
  unfold RunsOrStopped
  infer_instance

/-- The instances of a lab are those of its exercises and its frontends. -/
theorem forall_instances {P : Instance → Prop} :
    (∀ m ∈ l.instances, P m) ↔ (∀ e ∈ l.exercises, ∀ m ∈ e, P m) ∧ ∀ m ∈ l.frontends, P m := by
  simp only [instances, List.forall_mem_append, List.forall_mem_flatten]

/-- Without errors `Suspend` reaches each machine of the lab. -/
theorem suspend_of_noErrors (h : l.NoErrors) : l.suspend =
    ({ exercises := l.exercises.map fun e => (suspendExercise e).1
       frontends := l.frontends.map fun m => m.suspendRunning.1 }, none) := by
  obtain ⟨hexercises, hfrontends⟩ := forall_instances.mp h
  have hall : tryEach suspendExercise l.exercises =
      (l.exercises.map fun e => (suspendExercise e).1, none) :=
    tryEach_eq_map fun e he => by rw [suspendExercise_of_noErrors (hexercises e he)]
  have hfront : tryEach Instance.suspendRunning l.frontends =
      (l.frontends.map fun m => m.suspendRunning.1, none) :=
    tryEach_eq_map fun m hm => by rw [Instance.suspendRunning_of_noErrors (hfrontends m hm)]
  rw [suspend, hall]
  dsimp only
  rw [hfront]

/-- After `Suspend` no machine runs. -/
theorem suspend_not_running (h : l.NoErrors) :
    ∀ m ∈ l.suspend.1.instances, m.state ≠ .running := by
  obtain ⟨hexercises, hfrontends⟩ := forall_instances.mp h
  rw [suspend_of_noErrors h, forall_instances]
  simp only [List.forall_mem_map]
  refine ⟨fun e he => ?_, fun m hm => Instance.suspendRunning_not_running (hfrontends m hm)⟩
  rw [suspendExercise_of_noErrors (hexercises e he)]
  simp only [List.forall_mem_map]
  exact fun m hm => Instance.suspendRunning_not_running (hexercises e he m hm)

/-- The lab after `Suspend` and `Resume`. The frontends are the same as before. -/
theorem resume_suspend (h : l.NoErrors) (hl : l.RunsOrStopped) : l.suspend.1.resume =
    ({ l with exercises := l.exercises.map fun e => (resumeExercise (suspendExercise e).1).1 },
      none) := by
  obtain ⟨hexercises, hfrontends⟩ := forall_instances.mp h
  obtain ⟨hexStates, hfrontStates⟩ := forall_instances.mp hl
  have hall : tryEach resumeExercise (l.exercises.map fun e => (suspendExercise e).1) =
      (l.exercises.map fun e => (resumeExercise (suspendExercise e).1).1, none) := by
    rw [tryEach_eq_map, List.map_map]
    · rfl
    · simp only [List.forall_mem_map]
      exact fun e he => by rw [resumeExercise_suspendExercise (hexercises e he) (hexStates e he)]
  have hback : ∀ m ∈ l.frontends, m.suspendRunning.1.resumeSuspended = (m, none) :=
    fun m hm => Instance.resumeSuspended_suspendRunning (hfrontends m hm) (hfrontStates m hm)
  have hfront : tryEach Instance.resumeSuspended (l.frontends.map fun m => m.suspendRunning.1) =
      (l.frontends, none) := by
    rw [tryEach_eq_map, List.map_map]
    · refine congrArg (·, none) ?_
      nth_rewrite 2 [← List.map_id l.frontends]
      exact List.map_congr_left fun m hm => by simp only [Function.comp, hback m hm, id]
    · simp only [List.forall_mem_map]
      exact fun m hm => by rw [hback m hm]
  rw [suspend_of_noErrors h, resume]
  dsimp only
  rw [hall]
  dsimp only
  rw [hfront]

end LabInstances

/-- When no machine operation fails on a lab whose machines run or are stopped, `Resume` undoes
`Suspend` and no machine runs between the two, if and only if no exercise has both a running and
a stopped machine. -/
theorem suspend_resume_iff (l : LabInstances) (h : l.NoErrors) (hl : l.RunsOrStopped) :
    (l.suspend.1.resume.1 = l ∧ ∀ m ∈ l.suspend.1.instances, m.state ≠ .running) ↔
      l.Unmixed := by
  obtain ⟨hexercises, -⟩ := LabInstances.forall_instances.mp h
  obtain ⟨hexStates, -⟩ := LabInstances.forall_instances.mp hl
  rw [and_iff_left (LabInstances.suspend_not_running h), LabInstances.resume_suspend h hl]
  have hsame : ({ l with exercises := l.exercises.map fun e =>
        (resumeExercise (suspendExercise e).1).1 } : LabInstances) = l ↔
      ∀ e ∈ l.exercises, (resumeExercise (suspendExercise e).1).1 = e := by
    rw [LabInstances.ext_iff, and_iff_left rfl]
    show l.exercises.map _ = l.exercises ↔ _
    nth_rewrite 2 [← List.map_id l.exercises]
    rw [List.map_inj_left]
    rfl
  rw [hsame]
  exact forall₂_congr fun e he => resumeExercise_eq_iff (hexercises e he) (hexStates e he)

/-- A machine whose operations succeed. -/
def working (state : InstanceState) : Instance :=
  { state := state, suspendErr := none, startErr := none }

/-- An exercise runs, another one is stopped, and so is a frontend. -/
theorem suspend_resume_stopped :
    let l : LabInstances :=
      { exercises := [[working .running, working .running], [working .stopped]]
        frontends := [working .running, working .stopped] }
    l.suspend.1.resume.1 = l ∧ ∀ m ∈ l.suspend.1.instances, m.state ≠ .running :=
  (suspend_resume_iff _ (by decide) (by decide)).mpr (by decide)

/-- `Resume` starts the stopped machine next to the suspended one. -/
theorem resume_starts_stopped :
    ¬ ∀ l : LabInstances, l.NoErrors → l.RunsOrStopped →
      l.suspend.1.resume.1 = l ∧ ∀ m ∈ l.suspend.1.instances, m.state ≠ .running := by
  intro h
  have hback := (h { exercises := [[working .running, working .stopped]], frontends := [] }
    (by decide) (by decide)).1
  exact absurd hback (by decide)

end Haaukins.Lab
