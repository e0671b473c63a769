import Haaukins.Lab.LabSuspension

/-!
# `Haaukins.Guacamole.EventSuspension`: suspending the labs of an event (`lab/hub.go`)

`hub.Suspend` suspends all labs of the hub, one goroutine after the other. The goroutine of a lab
that fails writes `err = suspendError` where it should write the other way round, so the hub
returns nil whatever happens to its labs. `event.Suspend` then records the new status. The same
holds for `Resume`.

`event_suspend_reports_iff` says that the reports are right only when there is nothing to report.
-/

set_option autoImplicit false

namespace Haaukins.Guacamole

open Lab (LabInstances)

/-- The operation of the loop on one lab: `l.Suspend` or `l.Resume`. -/
abbrev LabOperation := LabInstances → LabInstances × Option String

/-- The loop of `hub.Suspend` and of `hub.Resume` over the labs of the hub, in the order in which
the map is visited. `shared` is `suspendError` or `resumeError`. -/
def visitLabs (op : LabOperation) : List LabInstances → Option String →
    List LabInstances × Option String
  | [], shared => ([], shared)
  | l :: labs, shared =>
    match op l with
    | (l, none) => (l :: (visitLabs op labs shared).1, (visitLabs op labs shared).2)
    | (l, some _) =>
      -- The error of the lab is overwritten, and `shared` keeps its value.
      (l :: (visitLabs op labs shared).1, (visitLabs op labs shared).2)

/-- `hub.Suspend`. -/
def hubSuspend (labs : List LabInstances) : List LabInstances × Option String :=
  visitLabs LabInstances.suspend labs none

/-- `hub.Resume`. -/
def hubResume (labs : List LabInstances) : List LabInstances × Option String :=
  visitLabs LabInstances.resume labs none

/-- `Running` and `Suspended`. -/
def running : Int := 0

@[inherit_doc running]
def suspended : Int := 1

/-- What is left of a call of `event.Suspend` or `event.Resume`: the labs, the status that
`SetStatus` recorded in the store, and the error of the call. -/
structure Suspension where
  labs : List LabInstances
  recorded : Option Int
  err : Option String

/-- The end of `event.Suspend` and of `event.Resume`, after the hub has returned. `setStatus` is
the error of the store. -/
def recordStatus (status : Int) (setStatus : Option String) :
    List LabInstances × Option String → Suspension
  | (labs, some err) => { labs := labs, recorded := none, err := some err }
  | (labs, none) =>
    match setStatus with
    | some err => { labs := labs, recorded := none, err := some err }
    | none => { labs := labs, recorded := some status, err := none }

/-- `event.Suspend`. -/
def eventSuspend (labs : List LabInstances) (setStatus : Option String) : Suspension :=
  recordStatus suspended setStatus (hubSuspend labs)

/-- `event.Resume`. -/
def eventResume (labs : List LabInstances) (setStatus : Option String) : Suspension :=
  recordStatus running setStatus (hubResume labs)

/-- The hub returns an error exactly when a lab failed, and the event records a status only when
all labs succeeded. -/
structure Reports (op : LabOperation) (labs : List LabInstances) (hubErr : Option String)
    (event : Option String → Suspension) : Prop where
  hub : hubErr ≠ none ↔ ∃ l ∈ labs, (op l).2 ≠ none
  event : ∀ setStatus, (event setStatus).recorded ≠ none → ∀ l ∈ labs, (op l).2 = none

/-- `hub.Suspend` and `event.Suspend` report the failures of the labs. -/
def SuspendReports (labs : List LabInstances) : Prop :=
  Reports LabInstances.suspend labs (hubSuspend labs).2 (eventSuspend labs)

/-- `hub.Resume` and `event.Resume` report the failures of the labs. -/
def ResumeReports (labs : List LabInstances) : Prop :=
  Reports LabInstances.resume labs (hubResume labs).2 (eventResume labs)

/-- The hub visits each lab, also behind one that fails, and returns the value that the shared
variable had at first. -/
theorem visitLabs_eq (op : LabOperation) (labs : List LabInstances) (shared : Option String) :
    visitLabs op labs shared = (labs.map fun l => (op l).1, shared) := by
  induction labs with
  | nil => rfl
  | cons l labs ih =>
    rw [visitLabs, ih]
    split <;> simp [*]

/-- A hub that returns nil reports the failures of its labs exactly when there are none. -/
theorem reports_iff {op : LabOperation} {labs : List LabInstances} {hubErr : Option String}
    {event : Option String → Suspension} (hhub : hubErr = none)
    (hrecorded : (event none).recorded ≠ none) :
    Reports op labs hubErr event ↔ ∀ l ∈ labs, (op l).2 = none := by
  constructor
  · intro h
    exact h.event none hrecorded
  · intro h
    refine ⟨iff_of_false (not_not.mpr hhub) ?_, fun _ _ => h⟩
    rintro ⟨l, hl, herr⟩
    exact herr (h l hl)

/-- For every hub the suspension reports its failures if and only if no lab fails to be suspended,
and the resumption if and only if no lab fails to be resumed. -/
theorem event_suspend_reports_iff (labs : List LabInstances) :
    (SuspendReports labs ↔ ∀ l ∈ labs, l.suspend.2 = none) ∧
      (ResumeReports labs ↔ ∀ l ∈ labs, l.resume.2 = none) := by
  have hsuspend : hubSuspend labs = (labs.map fun l => l.suspend.1, none) := visitLabs_eq _ _ _
  have hresume : hubResume labs = (labs.map fun l => l.resume.1, none) := visitLabs_eq _ _ _
  constructor
  · refine reports_iff (by rw [hsuspend]) ?_
    rw [eventSuspend, hsuspend]
    exact Option.some_ne_none _
  · refine reports_iff (by rw [hresume]) ?_
    rw [eventResume, hresume]
    exact Option.some_ne_none _

/-- A lab with one running frontend that cannot be suspended. -/
def stuckLab : LabInstances where
  exercises := []
  frontends := [{ state := .running, suspendErr := some "VBoxError", startErr := none }]

/-- The only lab of the event fails, and the event is recorded as suspended. -/
theorem event_suspend_silent :
    ¬ ∀ labs : List LabInstances, SuspendReports labs ∧ ResumeReports labs := by
  intro h
  have hall := (h [stuckLab]).1.event none (by decide) stuckLab List.mem_cons_self
  exact absurd hall (by decide)

end Haaukins.Guacamole
