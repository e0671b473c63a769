import Haaukins.Lib.Threads
import Haaukins.Virtual.ImageLibrary

/-!
# `Haaukins.Virtual.ImageImports`: concurrent copies of images (`virtual/vbox/vbox.go`)

`GetCopy` is called by the goroutines of many labs. A mutex guards the locks of the paths, and the
lock of a path is held while its image is imported, gets its snapshot `origin`, and is cloned. The
map `known` is written under the mutex, and read under the lock of the path only.

* `copies_sound` is about any interleaving and any answers of VirtualBox. An image whose snapshot
  has failed is found by `VmExists` from then on, and is never copied again.
* `known_unraced_iff` says when no goroutine reads `known` while another one writes it.

A command of VirtualBox may report an error and have done its work, as when its time ran out. What a
clone is configured with is in `Haaukins.Virtual.ImageLibrary`.
-/

set_option autoImplicit false

namespace Haaukins.Virtual

/-- What the goroutines share. -/
structure Imports where
  /-- The mutex of the library. -/
  m : Bool
  /-- The locks of the paths. A lock is made when it is first asked for. -/
  locks : String → Bool
  known : GoMap String VM
  /-- The machines of images in VirtualBox, and whether they have the snapshot `origin`. -/
  machines : GoMap String Bool
  /-- The machines whose import or snapshot reported an error, also before the library was made. -/
  failed : List String

/-- Where a call of `GetCopy` is. -/
inductive CopyCall where
  /-- There is no call. The last one has answered this. -/
  | idle (answer : Except String String)
  | enter (path : String)
  /-- It has the mutex. -/
  | look (path : String)
  | wait (path : String)
  /-- It has the lock of the path from here on. -/
  | read (path : String)
  | checksum (path : String)
  | exist (path : String) (vm : VM)
  | create (path : String) (vm : VM)
  | snapshot (path : String) (vm : VM)
  | record (path : String) (vm : VM)
  /-- It has the mutex too. -/
  | write (path : String) (vm : VM)
  | clone (path : String) (vm : VM)

/-- What a command of VirtualBox does and reports. -/
inductive VBoxReply where
  | done
  | failed (err : String)
  /-- The command has done its work, and reports an error. -/
  | late (err : String)

/-- A goroutine makes a call, or goes on with it. -/
inductive CopyAction where
  | call (image : String)
  | step (reply : VBoxReply)

/-- The errors of VirtualBox for what it refuses. -/
def machineExistsErr : String := "VBoxManage: error: Machine settings file already exists"
@[inherit_doc machineExistsErr]
def noSnapshotErr : String := "VBoxManage: error: Could not find a snapshot named origin"

namespace Imports

variable (s : Imports)

/-- `pathLock.Unlock`. -/
def unlock (path : String) : Imports := { s with locks := Function.update s.locks path false }

/-- A new machine, without a snapshot. -/
def imported (id : String) : Imports := { s with machines := s.machines.set id false }

/-- The machine gets its snapshot. -/
def snapshotted (id : String) : Imports := { s with machines := s.machines.set id true }

/-- The command for the machine reported an error. -/
def reported (id : String) : Imports := { s with failed := id :: s.failed }

end Imports

/-- `GetCopy`. -/
def copyStep (im : Images) (s : Imports) : CopyCall → CopyAction → Option (Imports × CopyCall)
  | .idle _, .call image => some (s, .enter (im.getPathFromFile image))
  | .enter path, .step _ => if s.m then none else some ({ s with m := true }, .look path)
  | .look path, .step _ => some ({ s with m := false }, .wait path)
  | .wait path, .step _ =>
    if s.locks path then none
    else some ({ s with locks := Function.update s.locks path true }, .read path)
  | .read path, .step _ =>
    match s.known.get? path with
    | some vm => some (s, .clone path vm)
    | none => some (s, .checksum path)
  | .checksum path, .step _ =>
    match im.checksumOfFile path with
    | .error err => some (s.unlock path, .idle (.error err))
    | .ok sum => some (s, .exist path (im.imageVM path sum))
  | .exist path vm, .step reply =>
    match reply with
    | .done => some (s, if vm.id ∈ s.machines then .record path vm else .create path vm)
    -- `VmExists` answers false when it cannot list the machines.
    | .failed _ | .late _ => some (s, .create path vm)
  | .create path vm, .step reply =>
    if vm.id ∈ s.machines then some (s.unlock path, .idle (.error machineExistsErr))
    else
      match reply with
      | .done => some (s.imported vm.id, .snapshot path vm)
      | .failed err => some (s.unlock path, .idle (.error err))
      | .late err => some (((s.imported vm.id).reported vm.id).unlock path, .idle (.error err))
  | .snapshot path vm, .step reply =>
    match reply with
    | .done => some (s.snapshotted vm.id, .record path vm)
    | .failed err => some ((s.reported vm.id).unlock path, .idle (.error err))
    | .late err => some ((s.snapshotted vm.id).unlock path, .idle (.error err))
  | .record path vm, .step _ => if s.m then none else some ({ s with m := true }, .write path vm)
  | .write path vm, .step _ =>
    some ({ s with known := s.known.set path vm, m := false }, .clone path vm)
  | .clone path vm, .step reply =>
    if s.machines.get? vm.id = some true then
      match reply with
      | .done => some (s.unlock path, .idle (.ok vm.id))
      | .failed err | .late err => some (s.unlock path, .idle (.error err))
    else some (s.unlock path, .idle (.error noSnapshotErr))
  | _, _ => none

/-- The goroutines that copy images. The library is new, and VirtualBox may have machines of images.
-/
def copyCalls (im : Images) : Program Imports CopyCall CopyAction where
  init s := s.m = false ∧ (s.locks = fun _ => false) ∧ s.known = ∅ ∧
    ∀ id, s.machines.get? id = some false → id ∈ s.failed
  start := .idle (.ok "")
  step := copyStep im

namespace CopyCall

/-- It has the mutex. -/
def holdsMutex : CopyCall → Bool
  | .look _ | .write _ _ => true
  | .idle _ | .enter _ | .wait _ | .read _ | .checksum _ | .exist _ _ | .create _ _ | .snapshot _ _
  | .record _ _ | .clone _ _ => false

/-- The path whose lock it has. -/
def locked : CopyCall → Option String
  | .read path | .checksum path | .exist path _ | .create path _ | .snapshot path _
  | .record path _ | .write path _ | .clone path _ => some path
  | .idle _ | .enter _ | .look _ | .wait _ => none

/-- It has the lock of the path. -/
def holds (path : String) (u : CopyCall) : Bool := u.locked = some path

/-- The machine that it has found or imported. -/
def machine : CopyCall → Option VM
  | .snapshot _ vm | .record _ vm | .write _ vm | .clone _ vm => some vm
  | .idle _ | .enter _ | .look _ | .wait _ | .read _ | .checksum _ | .exist _ _
  | .create _ _ => none

/-- It is at work. -/
def Busy (u : CopyCall) : Prop := ∀ answer, u ≠ .idle answer

end CopyCall

variable {im : Images}

/-- What a step does, for each place from which it can be taken. -/
inductive CopyStep (im : Images) (s : Imports) :
    CopyCall → CopyAction → Imports → CopyCall → Prop where
  | call {answer : Except String String} {image : String} :
      CopyStep im s (.idle answer) (.call image) s (.enter (im.getPathFromFile image))
  | enter {path : String} {reply : VBoxReply} (h : s.m = false) :
      CopyStep im s (.enter path) (.step reply) { s with m := true } (.look path)
  | look {path : String} {reply : VBoxReply} :
      CopyStep im s (.look path) (.step reply) { s with m := false } (.wait path)
  | wait {path : String} {reply : VBoxReply} (h : s.locks path = false) :
      CopyStep im s (.wait path) (.step reply)
        { s with locks := Function.update s.locks path true } (.read path)
  | known {path : String} {vm : VM} {reply : VBoxReply} (h : s.known.get? path = some vm) :
      CopyStep im s (.read path) (.step reply) s (.clone path vm)
  | unknown {path : String} {reply : VBoxReply} (h : s.known.get? path = none) :
      CopyStep im s (.read path) (.step reply) s (.checksum path)
  | noFile {path err : String} {reply : VBoxReply} :
      CopyStep im s (.checksum path) (.step reply) (s.unlock path) (.idle (.error err))
  | file {path sum : String} {reply : VBoxReply} (h : im.checksumOfFile path = .ok sum) :
      CopyStep im s (.checksum path) (.step reply) s (.exist path (im.imageVM path sum))
  | found {path : String} {vm : VM} {reply : VBoxReply} (h : vm.id ∈ s.machines) :
      CopyStep im s (.exist path vm) (.step reply) s (.record path vm)
  | absent {path : String} {vm : VM} {reply : VBoxReply} :
      CopyStep im s (.exist path vm) (.step reply) s (.create path vm)
  | createFailed {path err : String} {vm : VM} {reply : VBoxReply} :
      CopyStep im s (.create path vm) (.step reply) (s.unlock path) (.idle (.error err))
  | created {path : String} {vm : VM} {reply : VBoxReply} (h : vm.id ∉ s.machines) :
      CopyStep im s (.create path vm) (.step reply) (s.imported vm.id) (.snapshot path vm)
  | createdLate {path err : String} {vm : VM} {reply : VBoxReply} (h : vm.id ∉ s.machines) :
      CopyStep im s (.create path vm) (.step reply)
        (((s.imported vm.id).reported vm.id).unlock path) (.idle (.error err))
  | snapped {path : String} {vm : VM} {reply : VBoxReply} :
      CopyStep im s (.snapshot path vm) (.step reply) (s.snapshotted vm.id) (.record path vm)
  | snapFailed {path err : String} {vm : VM} {reply : VBoxReply} :
      CopyStep im s (.snapshot path vm) (.step reply) ((s.reported vm.id).unlock path)
        (.idle (.error err))
  | snapLate {path err : String} {vm : VM} {reply : VBoxReply} :
      CopyStep im s (.snapshot path vm) (.step reply) ((s.snapshotted vm.id).unlock path)
        (.idle (.error err))
  | record {path : String} {vm : VM} {reply : VBoxReply} (h : s.m = false) :
      CopyStep im s (.record path vm) (.step reply) { s with m := true } (.write path vm)
  | write {path : String} {vm : VM} {reply : VBoxReply} :
      CopyStep im s (.write path vm) (.step reply)
        { s with known := s.known.set path vm, m := false } (.clone path vm)
  | cloned {path : String} {vm : VM} {reply : VBoxReply}
      (h : s.machines.get? vm.id = some true) :
      CopyStep im s (.clone path vm) (.step reply) (s.unlock path) (.idle (.ok vm.id))
  | cloneFailed {path err : String} {vm : VM} {reply : VBoxReply} :
      CopyStep im s (.clone path vm) (.step reply) (s.unlock path) (.idle (.error err))

/-- What one step of a call does. -/
theorem copyStep_cases {s s' : Imports} {u u' : CopyCall} {a : CopyAction}
    (h : copyStep im s u a = some (s', u')) : CopyStep im s u a s' u' := by
  -- Most pairs of a point and an action are no steps; the others come one by one.
  cases u <;> cases a <;> simp only [copyStep, reduceCtorEq] at h
  case idle.call answer image =>
    cases h
    exact .call
  case enter.step path reply =>
    split at h <;> cases h
    next hfree => exact .enter (Bool.eq_false_iff.mpr hfree)
  case look.step path reply =>
    cases h
    exact .look
  case wait.step path reply =>
    split at h <;> cases h
    next hfree => exact .wait (Bool.eq_false_iff.mpr hfree)
  case read.step path reply =>
    split at h <;> cases h
    · next hknown => exact .known hknown
    · next hunknown => exact .unknown hunknown
  case checksum.step path reply =>
    split at h <;> cases h
    · exact .noFile
    · next hsum => exact .file hsum
  case exist.step path vm reply =>
    cases reply <;> cases h
    case done =>
      split
      · next hmem => exact .found hmem
      · exact .absent
    all_goals exact .absent
  case create.step path vm reply =>
    split at h
    · cases h
      exact .createFailed
    · next hnew =>
      cases reply <;> cases h
      · exact .created hnew
      · exact .createFailed
      · exact .createdLate hnew
  case snapshot.step path vm reply =>
    cases reply <;> cases h
    · exact .snapped
    · exact .snapFailed
    · exact .snapLate
  case record.step path vm reply =>
    split at h <;> cases h
    next hfree => exact .record (Bool.eq_false_iff.mpr hfree)
  case write.step path vm reply =>
    cases h
    exact .write
  case clone.step path vm reply =>
    split at h
    · next hsnap =>
      cases reply <;> cases h
      · exact .cloned hsnap
      · exact .cloneFailed
      · exact .cloneFailed
    · cases h
      exact .cloneFailed

/-! ### The locks -/

/-- The map of the locks is read under the mutex. -/
theorem mutex_locks : (copyCalls im).Locks Imports.m CopyCall.holdsMutex where
  init _ h := h.1
  start := rfl
  step s u a s' u' h := by
    cases copyStep_cases h with
    | enter hfree => exact .inr (.inl ⟨hfree, rfl, rfl, rfl⟩)
    | record hfree => exact .inr (.inl ⟨hfree, rfl, rfl, rfl⟩)
    | look | write => exact .inr (.inr ⟨rfl, rfl, rfl⟩)
    | call | wait | known | unknown | noFile | file | found | absent | createFailed | created
    | createdLate | snapped | snapFailed | snapLate | cloned | cloneFailed =>
      exact .inl ⟨rfl, rfl⟩

/-- A call that has locked a path holds it, and no other one. -/
theorem holds_of_locked {u : CopyCall} {p path : String} (h : u.locked = some p) :
    u.holds path = decide (p = path) := by
  simp [CopyCall.holds, h]

/-- A call that has locked no path holds none. -/
theorem holds_of_unlocked {u : CopyCall} (path : String) (h : u.locked = none) :
    u.holds path = false := by
  simp [CopyCall.holds, h]

/-- A step that gives the lock of a path back. -/
theorem locks_release {x x' : Imports} {u u' : CopyCall} {p : String} (path : String)
    (hu : u.locked = some p) (hu' : u'.locked = none)
    (hlocks : x'.locks = Function.update x.locks p false) :
    (x'.locks path = x.locks path ∧ u'.holds path = u.holds path) ∨
      (u.holds path = true ∧ x'.locks path = false ∧ u'.holds path = false) := by
  rw [holds_of_locked hu, holds_of_unlocked path hu', hlocks]
  by_cases hp : p = path
  · subst hp
    exact .inr ⟨by simp, Function.update_self p false x.locks, rfl⟩
  · exact .inl ⟨Function.update_of_ne (Ne.symm hp) false x.locks, by simp [hp]⟩

/-- Each path has a lock of its own. -/
theorem path_locks (path : String) :
    (copyCalls im).Locks (fun s => s.locks path) (CopyCall.holds path) where
  init _ h := congrFun h.2.1 path
  start := rfl
  step s u a s' u' h := by
    cases copyStep_cases h with
    | @wait p reply hfree =>
      rw [holds_of_locked (u := .read p) rfl]
      by_cases hp : p = path
      · subst hp
        exact .inr (.inl ⟨hfree, rfl, Function.update_self p true s.locks, by simp⟩)
      · refine .inl ⟨Function.update_of_ne (Ne.symm hp) true s.locks, ?_⟩
        simp [hp, CopyCall.holds, CopyCall.locked]
    | noFile | createFailed | createdLate | snapFailed | snapLate | cloned | cloneFailed =>
      exact (locks_release path rfl rfl rfl).imp_right .inr
    | call | enter | look | known | unknown | file | found | absent | created | snapped | record
    | write => exact .inl ⟨rfl, rfl⟩

/-! ### The machines -/

variable {s t : Threads Imports CopyCall} {k : Nat}

/-- What holds between the steps of the calls. -/
structure ImportsInv (s : Threads Imports CopyCall) : Prop where
  /-- The library knows only what VirtualBox has. -/
  known : ∀ path vm, s.shared.known.get? path = some vm → vm.id ∈ s.shared.machines
  held : ∀ i vm, (s.thread i).machine = some vm → vm.id ∈ s.shared.machines
  /-- A machine without its snapshot gets it, or a command for it reported an error. -/
  bare : ∀ id, s.shared.machines.get? id = some false →
    id ∈ s.shared.failed ∨ ∃ i path vm, s.thread i = .snapshot path vm ∧ vm.id = id

/-- A step that keeps the machines that are there. What it makes known is there, and a machine
without its snapshot is explained by the goroutine of the step, or it was explained by another
one. -/
theorem ImportsInv.move (h : ImportsInv s) (hothers : ∀ j, j ≠ k → t.thread j = s.thread j)
    (hmem : ∀ id, id ∈ s.shared.machines → id ∈ t.shared.machines)
    (hfailed : s.shared.failed ⊆ t.shared.failed)
    (hknown : ∀ path vm, t.shared.known.get? path = some vm →
      s.shared.known.get? path = some vm ∨ vm.id ∈ s.shared.machines)
    (hheld : ∀ vm, (t.thread k).machine = some vm → vm.id ∈ t.shared.machines)
    (hbare : ∀ id, t.shared.machines.get? id = some false → id ∈ t.shared.failed ∨
      (∃ path vm, t.thread k = .snapshot path vm ∧ vm.id = id) ∨
      (s.shared.machines.get? id = some false ∧
        ∀ path vm, s.thread k = .snapshot path vm → vm.id ≠ id)) : ImportsInv t := by
  constructor
  case known =>
    intro path vm hvm
    obtain hvm | hvm := hknown path vm hvm
    · exact hmem vm.id (h.known path vm hvm)
    · exact hmem vm.id hvm
  case held =>
    intro i vm hi
    by_cases hik : i = k
    · exact hheld vm (hik ▸ hi)
    · rw [hothers i hik] at hi
      exact hmem vm.id (h.held i vm hi)
  case bare =>
    intro id hid
    obtain hfail | ⟨path, vm, hk, hvm⟩ | ⟨hold, hne⟩ := hbare id hid
    · exact .inl hfail
    · exact .inr ⟨k, path, vm, hk, hvm⟩
    · obtain hfail | ⟨i, path, vm, hi, hvm⟩ := h.bare id hold
      · exact .inl (hfailed hfail)
      · have hik : i ≠ k := fun heq => hne path vm (heq ▸ hi) hvm
        exact .inr ⟨i, path, vm, (hothers i hik).trans hi, hvm⟩

/-- A step that leaves the machines and the map as they are, of a goroutine that does not take a
snapshot. -/
theorem ImportsInv.quiet (h : ImportsInv s) (hothers : ∀ j, j ≠ k → t.thread j = s.thread j)
    (hmachines : t.shared.machines = s.shared.machines)
    (hfailed : t.shared.failed = s.shared.failed) (hknown : t.shared.known = s.shared.known)
    (hheld : ∀ vm, (t.thread k).machine = some vm →
      (s.thread k).machine = some vm ∨ vm.id ∈ s.shared.machines)
    (hsnapshot : ∀ path vm, s.thread k ≠ .snapshot path vm) : ImportsInv t := by
  refine h.move hothers (fun id hid => ?_) ?_ (fun path vm hvm => ?_) (fun vm hvm => ?_)
    (fun id hid => ?_)
  · rw [hmachines]
    exact hid
  · rw [hfailed]
    exact List.Subset.refl _
  · rw [hknown] at hvm
    exact .inl hvm
  · rw [hmachines]
    obtain hold | hmem := hheld vm hvm
    · exact h.held k vm hold
    · exact hmem
  · rw [hmachines] at hid
    exact .inr (.inr ⟨hid, fun path vm heq => absurd heq (hsnapshot path vm)⟩)

/-- A machine was imported. Its snapshot is to come, or the import reported an error. -/
theorem ImportsInv.imported {id : String} (h : ImportsInv s)
    (hothers : ∀ j, j ≠ k → t.thread j = s.thread j)
    (hmachines : t.shared.machines = s.shared.machines.set id false)
    (hknown : t.shared.known = s.shared.known) (hfailed : s.shared.failed ⊆ t.shared.failed)
    (hheld : ∀ vm, (t.thread k).machine = some vm → vm.id = id)
    (hnew : id ∈ t.shared.failed ∨ ∃ path vm, t.thread k = .snapshot path vm ∧ vm.id = id)
    (hsnapshot : ∀ path vm, s.thread k ≠ .snapshot path vm) : ImportsInv t := by
  refine h.move hothers (fun id' hid => ?_) hfailed (fun path vm hvm => ?_) (fun vm hvm => ?_)
    (fun id' hid => ?_)
  · rw [hmachines]
    exact GoMap.mem_set.mpr (.inr hid)
  · rw [hknown] at hvm
    exact .inl hvm
  · rw [hmachines]
    exact GoMap.mem_set.mpr (.inl (hheld vm hvm))
  · rw [hmachines, GoMap.get?_set] at hid
    split at hid
    · next heq =>
      rw [heq]
      exact hnew.imp_right .inl
    · exact .inr (.inr ⟨hid, fun path vm heq => absurd heq (hsnapshot path vm)⟩)

/-- A machine got its snapshot. -/
theorem ImportsInv.snapshotted {path : String} {vm : VM} (h : ImportsInv s)
    (hothers : ∀ j, j ≠ k → t.thread j = s.thread j) (hu : s.thread k = .snapshot path vm)
    (hmachines : t.shared.machines = s.shared.machines.set vm.id true)
    (hknown : t.shared.known = s.shared.known) (hfailed : t.shared.failed = s.shared.failed)
    (hheld : ∀ vm', (t.thread k).machine = some vm' → vm'.id = vm.id) : ImportsInv t := by
  refine h.move hothers (fun id hid => ?_) ?_ (fun path vm hvm => ?_) (fun vm' hvm => ?_)
    (fun id hid => ?_)
  · rw [hmachines]
    exact GoMap.mem_set.mpr (.inr hid)
  · rw [hfailed]
    exact List.Subset.refl _
  · rw [hknown] at hvm
    exact .inl hvm
  · rw [hmachines]
    exact GoMap.mem_set.mpr (.inl (hheld vm' hvm))
  · rw [hmachines, GoMap.get?_set] at hid
    split at hid
    · cases hid
    · next hne =>
      refine .inr (.inr ⟨hid, fun path' vm' hsnap => ?_⟩)
      rw [hu] at hsnap
      cases hsnap
      exact Ne.symm hne

/-- A step of a call keeps the invariant of the library. -/
theorem ImportsInv.step {a : CopyAction} (h : ImportsInv s)
    (hs : CopyStep im s.shared (s.thread k) a t.shared (t.thread k))
    (hothers : ∀ j, j ≠ k → t.thread j = s.thread j) : ImportsInv t := by
  have hold := h.held k
  generalize hu : s.thread k = u at hs hold
  generalize hshared : t.shared = x at hs
  generalize hu' : t.thread k = u' at hs
  cases hs with
  -- These steps change neither the machines nor the snapshots nor the map.
  | call | enter | look | wait | unknown | noFile | file | absent | createFailed | cloned
  | cloneFailed =>
    refine h.quiet hothers (by simp only [hshared, Imports.unlock])
      (by simp only [hshared, Imports.unlock]) (by simp only [hshared, Imports.unlock])
      (fun vm hvm => ?_) (fun path vm heq => ?_)
    · rw [hu'] at hvm
      cases hvm
    · rw [hu] at heq
      cases heq
  | @known path vm reply hknown =>
    refine h.quiet hothers (by rw [hshared]) (by rw [hshared]) (by rw [hshared])
      (fun vm' hvm => ?_) (fun path vm heq => ?_)
    · rw [hu'] at hvm
      cases hvm
      exact .inr (h.known path vm hknown)
    · rw [hu] at heq
      cases heq
  | @found path vm reply hmem =>
    refine h.quiet hothers (by rw [hshared]) (by rw [hshared]) (by rw [hshared])
      (fun vm' hvm => ?_) (fun path vm heq => ?_)
    · rw [hu'] at hvm
      cases hvm
      exact .inr hmem
    · rw [hu] at heq
      cases heq
  | record =>
    refine h.quiet hothers (by rw [hshared]) (by rw [hshared]) (by rw [hshared])
      (fun vm hvm => ?_) (fun path vm heq => ?_)
    · rw [hu'] at hvm
      exact .inl (hu ▸ hvm)
    · rw [hu] at heq
      cases heq
  -- A new machine, whose call holds it from now on.
  | @created path vm reply hnew =>
    refine h.imported hothers (by rw [hshared]; rfl) (by rw [hshared]; rfl)
      (by rw [hshared]; exact List.Subset.refl _) (fun vm' hvm => ?_) (.inr ⟨path, vm, hu', rfl⟩)
      (fun path vm heq => ?_)
    · rw [hu'] at hvm
      cases hvm
      rfl
    · rw [hu] at heq
      cases heq
  -- The machine is made although its command failed, so that nobody holds it.
  | @createdLate path err vm reply hnew =>
    refine h.imported hothers (by rw [hshared]; rfl) (by rw [hshared]; rfl)
      ?_ (fun vm' hvm => ?_) (.inl ?_) (fun path vm heq => ?_)
    · rw [hshared]
      exact List.subset_cons_self _ _
    · rw [hu'] at hvm
      cases hvm
    · rw [hshared]
      exact List.mem_cons_self
    · rw [hu] at heq
      cases heq
  | @snapped path vm reply =>
    refine h.snapshotted hothers hu (by rw [hshared]; rfl) (by rw [hshared]; rfl)
      (by rw [hshared]; rfl) (fun vm' hvm => ?_)
    rw [hu'] at hvm
    cases hvm
    rfl
  | @snapLate path err vm reply =>
    refine h.snapshotted hothers hu (by rw [hshared]; rfl) (by rw [hshared]; rfl)
      (by rw [hshared]; rfl) (fun vm' hvm => ?_)
    rw [hu'] at hvm
    cases hvm
  | @snapFailed path err vm reply =>
    have hmachines : t.shared.machines = s.shared.machines := by
      rw [hshared]
      rfl
    refine h.move hothers (fun id hid => hmachines ▸ hid) ?_ (fun path' vm' hvm => ?_)
      (fun vm' hvm => ?_) (fun id hid => ?_)
    · rw [hshared]
      exact List.subset_cons_self _ _
    · rw [hshared] at hvm
      exact .inl hvm
    · rw [hu'] at hvm
      cases hvm
    · rw [hmachines] at hid
      by_cases heq : vm.id = id
      · -- The command for this machine reported the error.
        rw [hshared]
        exact .inl (heq ▸ List.mem_cons_self)
      · refine .inr (.inr ⟨hid, fun path' vm' hsnap => ?_⟩)
        rw [hu] at hsnap
        cases hsnap
        exact heq
  -- The map gets the machine that the call holds.
  | @write path vm reply =>
    have hmachines : t.shared.machines = s.shared.machines := by rw [hshared]
    have hvm := hold vm rfl
    refine h.move hothers (fun id hid => hmachines ▸ hid) ?_ (fun path' vm' hget => ?_)
      (fun vm' hvm' => ?_) (fun id hid => ?_)
    · rw [hshared]
      exact List.Subset.refl _
    · rw [hshared] at hget
      change (s.shared.known.set path vm).get? path' = some vm' at hget
      rw [GoMap.get?_set] at hget
      split at hget
      · cases hget
        exact .inr hvm
      · exact .inl hget
    · rw [hu'] at hvm'
      cases hvm'
      exact hmachines ▸ hvm
    · refine .inr (.inr ⟨hmachines ▸ hid, fun path' vm' hsnap => ?_⟩)
      rw [hu] at hsnap
      cases hsnap

/-- The invariant holds in every interleaving. -/
theorem imports_inv (hs : (copyCalls im).threads.Reachable (fun _ _ => True) s) :
    ImportsInv s := by
  refine hs.invariant ImportsInv ?_ ?_
  · rintro s ⟨⟨-, -, hknown, hbare⟩, hthread⟩
    have hidle : ∀ i, s.thread i = .idle (.ok "") := fun i => congrFun hthread i
    constructor
    case known => simp [hknown]
    case held => simp [hidle, CopyCall.machine]
    case bare => exact fun id hid => .inl (hbare id hid)
  · rintro s ⟨k, a⟩ t h - hstep
    obtain ⟨hself, hothers⟩ := Program.threads_step_self hstep
    exact h.step (copyStep_cases hself) hothers

/-! ### Machines that stay without a snapshot -/

/-- The machine has no snapshot, and no goroutine is about to take it. -/
structure Bare (id : String) (s : Threads Imports CopyCall) : Prop where
  without : s.shared.machines.get? id = some false
  quiet : ∀ i path vm, s.thread i = .snapshot path vm → vm.id ≠ id

/-- The machine stays without a snapshot, and no copy of it is made. -/
theorem Bare.step {id : String} {a : CopyAction} (h : Bare id s)
    (hs : CopyStep im s.shared (s.thread k) a t.shared (t.thread k))
    (hothers : ∀ j, j ≠ k → t.thread j = s.thread j) :
    Bare id t ∧ t.thread k ≠ .idle (.ok id) := by
  have hquiet : (∀ path vm, t.thread k = .snapshot path vm → vm.id ≠ id) →
      ∀ i path vm, t.thread i = .snapshot path vm → vm.id ≠ id := by
    intro hk i path vm hi
    by_cases hik : i = k
    · exact hk path vm (hik ▸ hi)
    · exact h.quiet i path vm ((hothers i hik).symm.trans hi)
  have hwithout := h.without
  have hmem : id ∈ s.shared.machines := GoMap.mem_iff_get?.mpr ⟨false, hwithout⟩
  have hold := h.quiet k
  generalize s.thread k = u at hs hold
  generalize hshared : t.shared = x at hs
  generalize t.thread k = u' at hs hquiet
  -- What another machine gets does not change this one.
  have hother : ∀ {id' : String} {b : Bool}, id' ≠ id →
      (s.shared.machines.set id' b).get? id = some false := fun hne =>
    (GoMap.get?_set _ _ _ _).trans ((if_neg (Ne.symm hne)).trans hwithout)
  cases hs with
  | call | enter | look | wait | known | unknown | noFile | file | found | absent | createFailed
  | snapFailed | record | write | cloneFailed =>
    exact ⟨⟨hshared ▸ hwithout, hquiet nofun⟩, nofun⟩
  | @created path vm reply hnew =>
    have hne : vm.id ≠ id := fun heq => hnew (heq ▸ hmem)
    refine ⟨⟨hshared ▸ hother hne, hquiet fun path' vm' heq => ?_⟩, nofun⟩
    cases heq
    exact hne
  | @createdLate path err vm reply hnew =>
    have hne : vm.id ≠ id := fun heq => hnew (heq ▸ hmem)
    exact ⟨⟨hshared ▸ hother hne, hquiet nofun⟩, nofun⟩
  | @snapped path vm reply =>
    exact ⟨⟨hshared ▸ hother (hold path vm rfl), hquiet nofun⟩, nofun⟩
  | @snapLate path err vm reply =>
    exact ⟨⟨hshared ▸ hother (hold path vm rfl), hquiet nofun⟩, nofun⟩
  | @cloned path vm reply hsnap =>
    refine ⟨⟨hshared ▸ hwithout, hquiet nofun⟩, fun heq => ?_⟩
    cases heq
    rw [hwithout] at hsnap
    cases hsnap

/-- No later call gives a copy of a machine that was left without its snapshot. -/
theorem bare_stays {id : String} (h : Bare id s) {as : List (Nat × CopyAction)}
    (hrun : (copyCalls im).threads.run s as = some t) :
    Bare id t ∧ ∀ i, t.thread i = .idle (.ok id) → s.thread i = .idle (.ok id) := by
  refine Machine.run_invariant
    (I := fun t => Bare id t ∧ ∀ i, t.thread i = .idle (.ok id) → s.thread i = .idle (.ok id))
    (A := fun _ => True) ?_ ⟨h, fun _ hi => hi⟩ (fun _ _ => trivial) hrun
  rintro t ⟨k, a⟩ t' ⟨hbare, hidle⟩ - hstep
  obtain ⟨hself, hothers⟩ := Program.threads_step_self hstep
  obtain ⟨hbare', hk⟩ := hbare.step (copyStep_cases hself) hothers
  refine ⟨hbare', fun i hi => ?_⟩
  by_cases hik : i = k
  · exact absurd (hik ▸ hi) hk
  · exact hidle i ((hothers i hik).symm.trans hi)

/-! ### Progress -/

/-- A goroutine at work goes on, unless it waits for a lock. -/
theorem exists_copyStep {x : Imports} {u : CopyCall} (hu : u.Busy)
    (hm : x.m = false ∨ u.holdsMutex = true) (hl : ∀ path, u = .wait path → x.locks path = false) :
    ∃ r, copyStep im x u (.step .done) = some r := by
  cases u with
  | idle answer => exact absurd rfl (hu answer)
  | enter path | record path vm =>
    have hfree : ¬ x.m = true := by simpa [CopyCall.holdsMutex] using hm
    exact ⟨_, if_neg hfree⟩
  | wait path =>
    have hfree : ¬ x.locks path = true := by simp [hl path rfl]
    exact ⟨_, if_neg hfree⟩
  | look path | exist path vm | snapshot path vm | write path vm => exact ⟨_, rfl⟩
  | read path => cases hknown : x.known.get? path <;> exact ⟨_, by rw [copyStep, hknown]⟩
  | checksum path => cases hsum : im.checksumOfFile path <;> exact ⟨_, by rw [copyStep, hsum]⟩
  | create path vm =>
    by_cases hmem : vm.id ∈ x.machines
    · exact ⟨_, if_pos hmem⟩
    · exact ⟨_, if_neg hmem⟩
  | clone path vm =>
    by_cases hsnap : x.machines.get? vm.id = some true
    · exact ⟨_, if_pos hsnap⟩
    · exact ⟨_, if_neg hsnap⟩

/-- While a goroutine is at work, some goroutine at work can go on. -/
theorem copies_progress (hs : (copyCalls im).threads.Reachable (fun _ _ => True) s) {i : Nat}
    (hi : (s.thread i).Busy) :
    ∃ j t, (s.thread j).Busy ∧ (copyCalls im).threads.step s (j, .step .done) = some t := by
  have hmutex := mutex_locks.exclusive hs
  obtain ⟨j, hj, hm, hl⟩ : ∃ j, (s.thread j).Busy ∧
      (s.shared.m = false ∨ (s.thread j).holdsMutex = true) ∧
      ∀ path, s.thread j = .wait path → s.shared.locks path = false := by
    cases hm : s.shared.m with
    | true =>
      -- The goroutine that has the mutex waits for nothing.
      obtain ⟨j, hj⟩ := hmutex.locked_iff.mp hm
      refine ⟨j, fun answer heq => ?_, .inr hj, fun path heq => ?_⟩
      · rw [heq] at hj
        cases hj
      · rw [heq] at hj
        cases hj
    | false =>
      by_cases hl : ∀ path, s.thread i = .wait path → s.shared.locks path = false
      · exact ⟨i, hi, .inl rfl, hl⟩
      · -- Another goroutine has the lock that this one waits for.
        obtain ⟨path, hpath⟩ := not_forall.mp hl
        obtain ⟨-, hlocked⟩ := Classical.not_imp.mp hpath
        obtain ⟨j, hj⟩ := ((path_locks path).exclusive hs).locked_iff.mp (by simpa using hlocked)
        refine ⟨j, fun answer heq => ?_, .inl rfl, fun path heq => ?_⟩
        · rw [heq] at hj
          cases hj
        · rw [heq] at hj
          cases hj
  have hcan : ∃ r, copyStep im s.shared (s.thread j) (.step .done) = some r :=
    exists_copyStep hj hm hl
  obtain ⟨r, hr⟩ := hcan
  exact ⟨j, _, hj, Program.threads_step.mpr ⟨r.1, r.2, hr, rfl⟩⟩

/-- Whatever the interleaving and the answers of VirtualBox: one goroutine at a time is at work on
an image. The library knows only machines that VirtualBox has. A machine without its snapshot gets
it from a goroutine that is about to take it, or a command for it has failed and no copy of it is
ever made again. And while a goroutine is at work, one can go on. -/
theorem copies_sound (hs : (copyCalls im).threads.Reachable (fun _ _ => True) s) :
    (∀ path i j, (s.thread i).locked = some path → (s.thread j).locked = some path → i = j) ∧
    (∀ path vm, s.shared.known.get? path = some vm → vm.id ∈ s.shared.machines) ∧
    (∀ id, s.shared.machines.get? id = some false →
      (∃ i path vm, s.thread i = .snapshot path vm ∧ vm.id = id) ∨
      id ∈ s.shared.failed ∧ ∀ as t, (copyCalls im).threads.run s as = some t →
        t.shared.machines.get? id = some false ∧
          ∀ i, t.thread i = .idle (.ok id) → s.thread i = .idle (.ok id)) ∧
    ∀ i, (s.thread i).Busy →
      ∃ j t, (s.thread j).Busy ∧ (copyCalls im).threads.step s (j, .step .done) = some t := by
  have h := imports_inv hs
  refine ⟨fun path i j hi hj => ?_, h.known, fun id hid => ?_, fun i hi => copies_progress hs hi⟩
  · refine ((path_locks path).exclusive hs).unique i j ?_ ?_
    · simp [CopyCall.holds, hi]
    · simp [CopyCall.holds, hj]
  · by_cases htaken : ∃ i path vm, s.thread i = .snapshot path vm ∧ vm.id = id
    · exact .inl htaken
    · have hbare : Bare id s := ⟨hid, fun i path vm hi heq => htaken ⟨i, path, vm, hi, heq⟩⟩
      refine .inr ⟨(h.bare id hid).resolve_right htaken, fun as t hrun => ?_⟩
      obtain ⟨hbare', hidle⟩ := bare_stays hbare hrun
      exact ⟨hbare'.without, hidle⟩

/-- The snapshot of an image fails. Another call finds the machine, and fails too. -/
theorem copies_sound_bare : ∃ s,
    (copyCalls ImageLibrary.kaliImages).threads.Reachable (fun _ _ => True) s ∧
    s.thread 1 = .idle (.error noSnapshotErr) ∧
    (∀ path i j, (s.thread i).locked = some path → (s.thread j).locked = some path → i = j) ∧
    (∀ path vm, s.shared.known.get? path = some vm → vm.id ∈ s.shared.machines) ∧
    (∀ id, s.shared.machines.get? id = some false →
      (∃ i path vm, s.thread i = .snapshot path vm ∧ vm.id = id) ∨
      id ∈ s.shared.failed ∧ ∀ as t, (copyCalls ImageLibrary.kaliImages).threads.run s as = some t →
        t.shared.machines.get? id = some false ∧
          ∀ i, t.thread i = .idle (.ok id) → s.thread i = .idle (.ok id)) ∧
    ∀ i, (s.thread i).Busy → ∃ j t, (s.thread j).Busy ∧
      (copyCalls ImageLibrary.kaliImages).threads.step s (j, .step .done) = some t := by
  let first : Threads Imports CopyCall :=
    { shared := ⟨false, fun _ => false, ∅, ∅, []⟩, thread := fun _ => .idle (.ok "") }
  have hfirst : (copyCalls ImageLibrary.kaliImages).threads.Reachable (fun _ _ => True) first :=
    .init ⟨⟨rfl, rfl, rfl, by simp [first]⟩, rfl⟩
  let actions : List (Nat × CopyAction) :=
    (0, .call "kali") :: List.replicate 7 (0, .step .done) ++
      [(0, .step (.failed "timeout")), (1, .call "kali")] ++ List.replicate 9 (1, .step .done)
  obtain ⟨s, hrun, hs⟩ : ∃ s,
      (copyCalls ImageLibrary.kaliImages).threads.run first actions = some s ∧
        s.thread 1 = .idle (.error noSnapshotErr) := ⟨_, rfl, rfl⟩
  have hreach := hfirst.run Machine.allSteps_true hrun
  exact ⟨s, hreach, hs, copies_sound hreach⟩

/-! ### Reads and writes of the map -/

/-- A goroutine reads `known`, and another one may write it at this moment. -/
def Races (s : Threads Imports CopyCall) : Prop :=
  ∃ i j path path' vm, s.thread i = .read path ∧ s.thread j = .write path' vm

/-- The calls are for requested images. -/
def ForImages (requested : String → Prop) (_ : Threads Imports CopyCall)
    (a : Nat × CopyAction) : Prop :=
  ∀ image, a.2 = .call image → requested image

namespace CopyCall

/-- The path of the call. -/
def path : CopyCall → Option String
  | .enter path | .look path | .wait path | .read path | .checksum path | .exist path _
  | .create path _ | .snapshot path _ | .record path _ | .write path _ | .clone path _ => some path
  | .idle _ => none

/-- The path of a call that has read its image file. -/
def opened : CopyCall → Option String
  | .exist path _ | .create path _ | .snapshot path _ | .record path _ | .write path _ => some path
  | .idle _ | .enter _ | .look _ | .wait _ | .read _ | .checksum _ | .clone _ _ => none

end CopyCall

variable {requested : String → Prop}

/-- A call that has read its image file could read it. -/
theorem opened_readable (hs : (copyCalls im).threads.Reachable (fun _ _ => True) s) {i : Nat}
    {path : String} (hi : (s.thread i).opened = some path) :
    ∃ sum, im.checksumOfFile path = .ok sum := by
  refine Program.thread_invariant
    (I := fun u => ∀ path, u.opened = some path → ∃ sum, im.checksumOfFile path = .ok sum)
    (fun path hpath => by cases hpath) (fun x u a x' u' hu hstep => ?_) hs i path hi
  cases copyStep_cases hstep with
  | @file path sum reply hsum =>
    intro path' hpath
    cases hpath
    exact ⟨sum, hsum⟩
  | found | absent | created | snapped | record => exact hu
  | call | enter | look | wait | known | unknown | noFile | createFailed | createdLate
  | snapFailed | snapLate | write | cloned | cloneFailed => nofun

/-- The path of each call is that of a requested image. -/
theorem path_requested (hs : (copyCalls im).threads.Reachable (ForImages requested) s) (i : Nat)
    {path : String} (hi : (s.thread i).path = some path) :
    ∃ image, requested image ∧ im.getPathFromFile image = path := by
  refine hs.invariant
    (fun s => ∀ i path, (s.thread i).path = some path →
      ∃ image, requested image ∧ im.getPathFromFile image = path) ?_ ?_ i path hi
  · rintro s ⟨-, hthread⟩ i path hi
    rw [hthread] at hi
    cases hi
  · rintro s ⟨k, a⟩ t h hok hstep i path hi
    obtain ⟨hself, hothers⟩ := Program.threads_step_self hstep
    by_cases hik : i = k
    · subst hik
      have hs := copyStep_cases hself
      have hold := h i
      generalize s.thread i = u at hs hold
      generalize t.thread i = u' at hs hi
      generalize t.shared = x at hs
      cases hs with
      | @call answer image =>
        cases hi
        exact ⟨image, hok image rfl, rfl⟩
      | enter | look | wait | known | unknown | file | found | absent | created | snapped | record
      | write => exact hold path hi
      | noFile | createFailed | createdLate | snapFailed | snapLate | cloned | cloneFailed =>
        cases hi
    · rw [hothers i hik] at hi
      exact h i path hi

/-- A step of one goroutine. -/
theorem go {u u' : CopyCall} {x : Imports} {a : CopyAction} {i : Nat}
    (hs : (copyCalls im).threads.Reachable (ForImages requested) s) (hu : s.thread i = u)
    (hok : ∀ image, a = .call image → requested image)
    (hstep : copyStep im s.shared u a = some (x, u')) :
    ∃ t, (copyCalls im).threads.Reachable (ForImages requested) t ∧ t.shared = x ∧
      t.thread i = u' ∧ ∀ j, j ≠ i → t.thread j = s.thread j := by
  have hself : (copyCalls im).step s.shared (s.thread i) a = some (x, u') := hu ▸ hstep
  refine ⟨_, hs.step (a := (i, a)) hok (Program.threads_step.mpr ⟨x, u', hself, rfl⟩), rfl,
    Function.update_self i u' s.thread, fun j hj => Function.update_of_ne hj u' s.thread⟩

/-- A goroutine comes to its look at the map. -/
theorem exists_read {i : Nat} {image : String} {answer : Except String String}
    (hs : (copyCalls im).threads.Reachable (ForImages requested) s)
    (hi : s.thread i = .idle answer) (himage : requested image) (hm : s.shared.m = false)
    (hl : s.shared.locks (im.getPathFromFile image) = false) :
    ∃ t, (copyCalls im).threads.Reachable (ForImages requested) t ∧
      t.shared = { s.shared with
        m := false
        locks := Function.update s.shared.locks (im.getPathFromFile image) true } ∧
      t.thread i = .read (im.getPathFromFile image) ∧ ∀ j, j ≠ i → t.thread j = s.thread j := by
  obtain ⟨s₁, hs₁, hshared₁, hi₁, hothers₁⟩ := go (a := .call image) hs hi
    (fun image' heq => by cases heq; exact himage) rfl
  obtain ⟨s₂, hs₂, hshared₂, hi₂, hothers₂⟩ := go (a := .step .done) hs₁ hi₁ nofun
    (if_neg (by rw [hshared₁, hm]; exact Bool.false_ne_true))
  obtain ⟨s₃, hs₃, hshared₃, hi₃, hothers₃⟩ := go (a := .step .done) hs₂ hi₂ nofun rfl
  obtain ⟨s₄, hs₄, hshared₄, hi₄, hothers₄⟩ := go (a := .step .done) hs₃ hi₃ nofun
    (if_neg (by rw [hshared₃, hshared₂, hshared₁]; simp [hl]))
  refine ⟨s₄, hs₄, ?_, hi₄, fun j hj => ?_⟩
  · rw [hshared₄, hshared₃, hshared₂, hshared₁]
  · rw [hothers₄ j hj, hothers₃ j hj, hothers₂ j hj, hothers₁ j hj]

/-- A goroutine imports an image, and comes to its entry into the map. -/
theorem exists_write {i : Nat} {path sum : String}
    (hs : (copyCalls im).threads.Reachable (ForImages requested) s)
    (hi : s.thread i = .read path) (hm : s.shared.m = false)
    (hknown : s.shared.known.get? path = none) (hsum : im.checksumOfFile path = .ok sum)
    (hnew : (im.imageVM path sum).id ∉ s.shared.machines) :
    ∃ t, (copyCalls im).threads.Reachable (ForImages requested) t ∧
      t.thread i = .write path (im.imageVM path sum) ∧ ∀ j, j ≠ i → t.thread j = s.thread j := by
  obtain ⟨s₁, hs₁, hshared₁, hi₁, hothers₁⟩ := go (a := .step .done) hs hi nofun
    (by rw [copyStep, hknown])
  obtain ⟨s₂, hs₂, hshared₂, hi₂, hothers₂⟩ := go (a := .step .done) hs₁ hi₁ nofun
    (by rw [copyStep, hsum])
  obtain ⟨s₃, hs₃, hshared₃, hi₃, hothers₃⟩ := go (a := .step .done) hs₂ hi₂ nofun rfl
  rw [hshared₂, hshared₁, if_neg hnew] at hi₃
  obtain ⟨s₄, hs₄, hshared₄, hi₄, hothers₄⟩ := go (a := .step .done) hs₃ hi₃ nofun
    (if_neg (by rw [hshared₃, hshared₂, hshared₁]; exact hnew))
  obtain ⟨s₅, hs₅, hshared₅, hi₅, hothers₅⟩ := go (a := .step .done) hs₄ hi₄ nofun rfl
  obtain ⟨s₆, hs₆, -, hi₆, hothers₆⟩ := go (a := .step .done) hs₅ hi₅ nofun
    (if_neg (by
      rw [hshared₅, hshared₄, hshared₃, hshared₂, hshared₁]
      simp [Imports.snapshotted, Imports.imported, hm]))
  refine ⟨s₆, hs₆, hi₆, fun j hj => ?_⟩
  rw [hothers₆ j hj, hothers₅ j hj, hothers₄ j hj, hothers₃ j hj, hothers₂ j hj, hothers₁ j hj]

/-- No goroutine reads the map while another one writes it, in any interleaving, if and only if an
image that can be read has the path of all requested images. -/
theorem known_unraced_iff (im : Images) (requested : String → Prop) :
    (∀ s, (copyCalls im).threads.Reachable (ForImages requested) s → ¬ Races s) ↔
      ∀ image image', requested image → requested image' →
        (∃ sum, im.checksumOfFile (im.getPathFromFile image') = .ok sum) →
        im.getPathFromFile image = im.getPathFromFile image' := by
  constructor
  · intro h image image' himage himage' hreadable
    obtain ⟨sum, hsum⟩ := hreadable
    by_contra hne
    have hinit : (copyCalls im).threads.Reachable (ForImages requested)
        { shared := ⟨false, fun _ => false, ∅, ∅, []⟩, thread := fun _ => .idle (.ok "") } :=
      .init ⟨⟨rfl, rfl, rfl, by simp⟩, rfl⟩
    obtain ⟨s, hs, hshared, hread, hothers⟩ := exists_read (i := 0) hinit rfl himage rfl rfl
    obtain ⟨t, ht, hshared', hread', hothers'⟩ := exists_read (i := 1) hs (hothers 1 (by decide))
      himage' (by rw [hshared]) (by rw [hshared]; exact Function.update_of_ne (Ne.symm hne) _ _)
    obtain ⟨t', ht', hwrite, hothers''⟩ := exists_write ht hread' (by rw [hshared'])
      (by rw [hshared', hshared]; rfl) hsum (by rw [hshared', hshared]; exact AList.notMem_empty _)
    refine h t' ht' ⟨0, 1, im.getPathFromFile image, _, _, ?_, hwrite⟩
    rw [hothers'' 0 (by decide), hothers' 0 (by decide)]
    exact hread
  · rintro h s hs ⟨i, j, path, path', vm, hi, hj⟩
    have hany : (copyCalls im).threads.Reachable (fun _ _ => True) s :=
      hs.strengthen (fun _ => True) (fun _ _ => trivial) fun _ _ _ _ _ _ => ⟨trivial, trivial⟩
    obtain ⟨image, himage, rfl⟩ := path_requested hs i (by rw [hi]; rfl)
    obtain ⟨image', himage', rfl⟩ := path_requested hs j (by rw [hj]; rfl)
    have hsame := h image image' himage himage' (opened_readable hany (by rw [hj]; rfl))
    -- Both goroutines have the lock of the path.
    have hij : i = j := by
      refine ((path_locks _).exclusive hany).unique i j (by rw [hi]; exact decide_eq_true rfl) ?_
      rw [hj, hsame]
      exact decide_eq_true rfl
    rw [hij, hj] at hi
    cases hi

end Haaukins.Virtual
