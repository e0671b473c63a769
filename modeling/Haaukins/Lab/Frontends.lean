import Haaukins.Lib.GoMap
import Haaukins.Lib.Machine
import Haaukins.Store.Event

/-!
# `Haaukins.Lab.Frontends`: the frontends of a lab (`lab/lab.go`, `virtual/vbox/vbox.go`)

`ResetFrontends` removes the virtual machine behind each RDP port and puts a clone in its place.
Each command to VirtualBox may fail, and it fails when there is no such machine. A command that
fails changes nothing.

* `resetOne_conf`: a port keeps its configuration, whatever fails.
* A machine that is removed when its clone cannot be made stays under its port, and each later
  `Close` of it fails (`resetOne_lost`). `retriable_iff` says that this is the only way in which
  `ResetFrontends` cannot be called again.

The link to the shared folder comes last, and its error is only written to the log.
-/

set_option autoImplicit false

namespace Haaukins.Lab

open Store (InstanceConfig)

/-- `vm`. -/
structure VM where
  /-- The field that `Start` and `Stop` set. -/
  running : Bool
  /-- VirtualBox knows the machine. -/
  registered : Bool
  deriving DecidableEq, Repr

/-- What Docker and VirtualBox answer in one round of `ResetFrontends`. -/
structure FrontendAnswers where
  poweroff : Option String
  unregistervm : Option String
  hostIP : Option String
  getCopy : Option String
  startvm : Option String
  deriving DecidableEq, Repr

/-- The error of a machine that VirtualBox does not know. -/
def notRegisteredErr : String := "Could not find a registered machine"

namespace VM

variable (vm : VM)

/-- `VBoxCmdContext` for the machine. -/
def vboxCmd (err : Option String) : Option String :=
  if vm.registered then err else some (err.getD notRegisteredErr)

/-- `Stop`. -/
def stop (err : Option String) : VM × Option String :=
  match vm.vboxCmd err with
  | some err => (vm, some err)
  | none => ({ vm with running := false }, none)

/-- `Start`. The error for the resolution is only written to the log. -/
def start (err : Option String) : VM × Option String :=
  match vm.vboxCmd err with
  | some err => (vm, some err)
  | none => ({ vm with running := true }, none)

/-- `ensureStopped`. -/
def ensureStopped (ans : FrontendAnswers) : VM × Option String :=
  if vm.running then vm.stop ans.poweroff else (vm, none)

/-- `Close`. It goes on when the machine cannot be stopped. -/
def close (ans : FrontendAnswers) : VM × Option String :=
  let vm := (vm.ensureStopped ans).1
  match vm.vboxCmd ans.unregistervm with
  | some err => (vm, some err)
  | none => ({ vm with registered := false }, none)

end VM

/-- `frontendConf`. -/
structure FrontendConf where
  vm : VM
  conf : InstanceConfig
  deriving DecidableEq

/-- `addFrontend`: what it stores under the port. -/
def addFrontend (conf : InstanceConfig) (ans : FrontendAnswers) : Except String FrontendConf :=
  match ans.hostIP with
  | some err => .error err
  | none =>
    match ans.getCopy with
    | some err => .error err
    | none => .ok { vm := { running := false, registered := true }, conf := conf }

/-- The body of the loop of `ResetFrontends`. -/
def FrontendConf.resetOne (ans : FrontendAnswers) (vmConf : FrontendConf) :
    FrontendConf × Option String :=
  match vmConf.vm.close ans with
  | (vm, some err) => ({ vmConf with vm := vm }, some err)
  | (vm, none) =>
    match addFrontend vmConf.conf ans with
    -- The entry of the map is the old one, with the machine that is gone.
    | .error err => ({ vmConf with vm := vm }, some err)
    | .ok vmConf =>
      let (vm, err) := vmConf.vm.start ans.startvm
      ({ vmConf with vm := vm }, err)

/-- The field `frontends` of a lab, by RDP ports. -/
abbrev Frontends := GoMap Nat FrontendConf

/-- A call of `ResetFrontends`: the order in which `range` visits the ports, and the answers. -/
structure ResetCall where
  order : List Nat
  answers : Nat → FrontendAnswers

/-- `ResetFrontends`. It returns the first error. -/
def Frontends.resetFrontends (l : Frontends) (call : ResetCall) : Frontends × Option String :=
  let (l', errs) := l.rangeLoop (fun p vmConf => vmConf.resetOne (call.answers p)) call.order
  (l', errs.head?)

/-- Calls of `ResetFrontends` one after another. -/
def frontendResets : Machine Frontends ResetCall where
  init l := ∀ p vmConf, l.get? p = some vmConf → vmConf.vm.registered
  step l call := if call.order.Perm l.keyList then some (l.resetFrontends call).1 else none

/-- None of the calls has an error. -/
def FrontendAnswers.Clean (ans : FrontendAnswers) : Prop :=
  ans.poweroff = none ∧ ans.unregistervm = none ∧ ans.hostIP = none ∧ ans.getCopy = none ∧
    ans.startvm = none

/-- A machine that can be removed can be replaced. -/
def FrontendAnswers.Replaces (ans : FrontendAnswers) : Prop :=
  ans.unregistervm = none → ans.hostIP = none ∧ ans.getCopy = none

/-- `l` has the ports of `l₀` with their configurations, and a call without failures serves each
of them with a running machine. -/
structure Retriable (l₀ l : Frontends) : Prop where
  conf : ∀ p, (l.get? p).map FrontendConf.conf = (l₀.get? p).map FrontendConf.conf
  clean : ∀ call : ResetCall, call.order.Perm l.keyList → (∀ p, (call.answers p).Clean) →
    (l.resetFrontends call).2 = none ∧ ∀ p vmConf, (l.resetFrontends call).1.get? p = some vmConf →
      vmConf.vm.registered ∧ vmConf.vm.running

/-! ### One port -/

section

/-- A machine that is stopped stays registered. -/
theorem VM.registered_ensureStopped (vm : VM) (ans : FrontendAnswers) :
    (vm.ensureStopped ans).1.registered = vm.registered := by
  unfold ensureStopped stop
  split
  · split <;> rfl
  · rfl

/-- `Close` removes the machine if and only if it returns nil. -/
theorem VM.close_cases (vm : VM) (ans : FrontendAnswers) :
    (vm.registered = true ∧ ans.unregistervm = none ∧ (vm.close ans).1.registered = false ∧
      (vm.close ans).2 = none) ∨
    (¬ (vm.registered = true ∧ ans.unregistervm = none) ∧
      (vm.close ans).1.registered = vm.registered ∧ ∃ err, (vm.close ans).2 = some err) := by
  have hstopped := vm.registered_ensureStopped ans
  simp only [close, vboxCmd, hstopped]
  cases hregistered : vm.registered with
  | false => exact .inr ⟨by simp, hstopped.trans hregistered, _, rfl⟩
  | true =>
    cases herr : ans.unregistervm with
    | none => exact .inl ⟨rfl, rfl, rfl, rfl⟩
    | some err => exact .inr ⟨by simp, hstopped.trans hregistered, err, rfl⟩

/-- A port keeps its configuration. -/
theorem FrontendConf.resetOne_conf (ans : FrontendAnswers) (vmConf : FrontendConf) :
    (vmConf.resetOne ans).1.conf = vmConf.conf := by
  unfold resetOne addFrontend
  split
  · rfl
  · cases ans.hostIP with
    | some err => rfl
    | none =>
      cases ans.getCopy with
      | some err => rfl
      | none => rfl

variable {ans : FrontendAnswers} {vmConf : FrontendConf}

/-- There is a machine under the port after a round if there was one before, and it was replaced
when it was removed. -/
theorem FrontendConf.resetOne_registered :
    (vmConf.resetOne ans).1.vm.registered ↔ vmConf.vm.registered ∧ ans.Replaces := by
  have hcases := vmConf.vm.close_cases ans
  unfold resetOne FrontendAnswers.Replaces addFrontend
  rcases hclose : vmConf.vm.close ans with ⟨vm, - | err⟩
  · simp only [hclose] at hcases ⊢
    obtain ⟨hvm, hunreg, hgone⟩ : vmConf.vm.registered = true ∧ ans.unregistervm = none ∧
        vm.registered = false := by simpa using hcases
    cases ans.hostIP with
    | some err => simp [hunreg, hgone]
    | none =>
      cases ans.getCopy with
      | some err => simp [hunreg, hgone]
      | none => cases ans.startvm <;> simp [hvm, VM.start, VM.vboxCmd]
  · simp only [hclose] at hcases ⊢
    obtain ⟨hnot, hsame⟩ : (vmConf.vm.registered = true → ¬ ans.unregistervm = none) ∧
        vm.registered = vmConf.vm.registered := by simpa using hcases
    rw [hsame]
    exact (and_iff_left_of_imp fun hvm hunreg => absurd hunreg (hnot hvm)).symm

/-- A machine that is gone is not replaced. -/
theorem FrontendConf.resetOne_lost (h : ¬ vmConf.vm.registered) :
    ∃ err, (vmConf.resetOne ans).2 = some err := by
  have hcases := vmConf.vm.close_cases ans
  unfold resetOne
  rcases hclose : vmConf.vm.close ans with ⟨vm, - | err⟩
  · simp only [hclose] at hcases
    simp [h] at hcases
  · exact ⟨err, rfl⟩

/-- A round without failures serves the port. -/
theorem FrontendConf.resetOne_clean (h : vmConf.vm.registered) (hans : ans.Clean) :
    (vmConf.resetOne ans).2 = none ∧ (vmConf.resetOne ans).1.vm = ⟨true, true⟩ := by
  obtain ⟨-, hunreg, hhost, hcopy, hstart⟩ := hans
  have hcases := vmConf.vm.close_cases ans
  unfold resetOne addFrontend
  rcases hclose : vmConf.vm.close ans with ⟨vm, - | err⟩
  · simp [hhost, hcopy, hstart, VM.start, VM.vboxCmd]
  · simp only [hclose] at hcases
    simp [h, hunreg] at hcases

end

/-! ### The loop -/

variable {l l' : Frontends} {call : ResetCall}

/-- Each port is reset once, whatever the order. -/
theorem get?_resetFrontends (h : call.order.Perm l.keyList) (p : Nat) :
    (l.resetFrontends call).1.get? p =
      (l.get? p).map fun vmConf => (vmConf.resetOne (call.answers p)).1 := by
  have hnodup : call.order.Nodup := h.nodup_iff.mpr l.nodup_keyList
  show (GoMap.rangeLoop _ call.order l).1.get? p = _
  rw [GoMap.get?_rangeLoop hnodup]
  split
  · rfl
  · next hp =>
    have hnone : l.get? p = none :=
      GoMap.get?_eq_none.mpr (mt (fun hmem => h.mem_iff.mpr (GoMap.mem_keyList.mpr hmem)) hp)
    rw [hnone]
    rfl

/-- The call returns nil if and only if each round does. -/
theorem resetFrontends_none_iff (h : call.order.Perm l.keyList) :
    (l.resetFrontends call).2 = none ↔
      ∀ p vmConf, l.get? p = some vmConf → (vmConf.resetOne (call.answers p)).2 = none := by
  have hnodup : call.order.Nodup := h.nodup_iff.mpr l.nodup_keyList
  show (GoMap.rangeLoop _ call.order l).2.head? = none ↔ _
  rw [List.head?_eq_none_iff, List.eq_nil_iff_forall_not_mem]
  simp only [GoMap.mem_errs_rangeLoop hnodup]
  constructor
  · intro hnone p vmConf hp
    by_contra herr
    obtain ⟨err, herr⟩ := Option.ne_none_iff_exists'.mp herr
    have hmem : p ∈ call.order :=
      h.mem_iff.mpr (GoMap.mem_keyList.mpr (GoMap.mem_iff_get?.mpr ⟨vmConf, hp⟩))
    exact hnone err ⟨p, hmem, vmConf, hp, herr⟩
  · rintro hnone err ⟨p, -, vmConf, hp, herr⟩
    exact Option.some_ne_none err (herr.symm.trans (hnone p vmConf hp))

/-- No port comes or goes. -/
theorem mem_resetFrontends (h : call.order.Perm l.keyList) {p : Nat} :
    p ∈ (l.resetFrontends call).1 ↔ p ∈ l := by
  simp only [GoMap.mem_iff_get?, get?_resetFrontends h, Option.map_eq_some_iff]
  constructor
  · rintro ⟨_, vmConf, hp, -⟩
    exact ⟨vmConf, hp⟩
  · rintro ⟨vmConf, hp⟩
    exact ⟨_, vmConf, hp, rfl⟩

/-- Each port has its machine. -/
def Served (l : Frontends) : Prop := ∀ p vmConf, l.get? p = some vmConf → vmConf.vm.registered

/-- A call keeps the machines if and only if it replaces those that it can remove. -/
theorem served_resetFrontends_iff (h : call.order.Perm l.keyList) :
    Served (l.resetFrontends call).1 ↔
      Served l ∧ ∀ p ∈ l, (call.answers p).Replaces := by
  simp only [Served, get?_resetFrontends h, GoMap.mem_iff_get?]
  constructor
  · intro hafter
    have hround := fun p vmConf (hp : l.get? p = some vmConf) =>
      FrontendConf.resetOne_registered.mp
        (hafter p _ (Option.map_eq_some_iff.mpr ⟨vmConf, hp, rfl⟩))
    refine ⟨fun p vmConf hp => (hround p vmConf hp).1, ?_⟩
    rintro p ⟨vmConf, hp⟩
    exact (hround p vmConf hp).2
  · rintro ⟨hserved, hreplaces⟩ p _ hafter
    obtain ⟨vmConf, hp, rfl⟩ := Option.map_eq_some_iff.mp hafter
    exact FrontendConf.resetOne_registered.mpr ⟨hserved p vmConf hp, hreplaces p ⟨vmConf, hp⟩⟩

/-! ### Runs -/

/-- A step is one call in an order of the ports. -/
theorem frontendResets_step {l l' : Frontends} {call : ResetCall}
    (h : frontendResets.step l call = some l') :
    call.order.Perm l.keyList ∧ l' = (l.resetFrontends call).1 := by
  have hstep : (if call.order.Perm l.keyList then some (l.resetFrontends call).1 else none) =
      some l' := h
  split at hstep
  · next hperm => exact ⟨hperm, (Option.some.inj hstep).symm⟩
  · cases hstep

/-- The ports and their configurations never change. -/
theorem conf_run {calls : List ResetCall} (hrun : frontendResets.run l calls = some l') (p : Nat) :
    (l'.get? p).map FrontendConf.conf = (l.get? p).map FrontendConf.conf := by
  induction calls generalizing l with
  | nil =>
    cases hrun
    rfl
  | cons call calls ih =>
    obtain ⟨l₁, hstep, hrest⟩ := Option.bind_eq_some_iff.mp hrun
    obtain ⟨hperm, rfl⟩ := frontendResets_step hstep
    rw [ih hrest, get?_resetFrontends hperm, Option.map_map]
    exact congrArg (Option.map · (l.get? p)) (funext fun vmConf => vmConf.resetOne_conf _)

/-- After a run each port is served if and only if it was at first and each reset replaced its
machine. -/
theorem served_run_iff {calls : List ResetCall}
    (hrun : frontendResets.run l calls = some l') :
    Served l' ↔ Served l ∧ ∀ call ∈ calls, ∀ p ∈ l, (call.answers p).Replaces := by
  induction calls generalizing l with
  | nil =>
    cases hrun
    simp
  | cons call calls ih =>
    obtain ⟨l₁, hstep, hrest⟩ := Option.bind_eq_some_iff.mp hrun
    obtain ⟨hperm, rfl⟩ := frontendResets_step hstep
    rw [ih hrest, served_resetFrontends_iff hperm, List.forall_mem_cons, and_assoc]
    simp only [mem_resetFrontends hperm]

/-- A call without failures that follows finds the machines that it closes. -/
theorem clean_iff_served :
    (∀ call : ResetCall, call.order.Perm l.keyList → (∀ p, (call.answers p).Clean) →
      (l.resetFrontends call).2 = none ∧
        ∀ p vmConf, (l.resetFrontends call).1.get? p = some vmConf →
          vmConf.vm.registered ∧ vmConf.vm.running) ↔ Served l := by
  constructor
  · intro hclean p vmConf hp
    obtain ⟨hnone, -⟩ := hclean ⟨l.keyList, fun _ => ⟨none, none, none, none, none⟩⟩ (.refl _)
      fun _ => ⟨rfl, rfl, rfl, rfl, rfl⟩
    have hround := (resetFrontends_none_iff (.refl _)).mp hnone p vmConf hp
    by_contra hlost
    obtain ⟨err, herr⟩ := FrontendConf.resetOne_lost hlost
    exact Option.some_ne_none err (herr.symm.trans hround)
  · intro hserved call hperm hans
    refine ⟨(resetFrontends_none_iff hperm).mpr fun p vmConf hp => ?_, fun p vmConf hp => ?_⟩
    · exact (FrontendConf.resetOne_clean (hserved p vmConf hp) (hans p)).1
    · rw [get?_resetFrontends hperm] at hp
      obtain ⟨before, hbefore, rfl⟩ := Option.map_eq_some_iff.mp hp
      rw [(FrontendConf.resetOne_clean (hserved p before hbefore) (hans p)).2]
      exact ⟨rfl, rfl⟩

/-- After a run of `ResetFrontends`, the call can be repeated if and only if no call removed a
machine and then failed to make its clone. -/
theorem retriable_iff {l l' : Frontends} {calls : List ResetCall} (hinit : frontendResets.init l)
    (hrun : frontendResets.run l calls = some l') :
    Retriable l l' ↔ ∀ call ∈ calls, ∀ p ∈ l, (call.answers p).Replaces := by
  have hserved : Served l' ↔ ∀ call ∈ calls, ∀ p ∈ l, (call.answers p).Replaces := by
    rw [served_run_iff hrun]
    exact and_iff_right hinit
  rw [← hserved, ← clean_iff_served]
  exact ⟨Retriable.clean, fun hclean => ⟨conf_run hrun, hclean⟩⟩

/-- A lab with one frontend, and a call that cannot make its clone. -/
def oneFrontend : Frontends := GoMap.set ∅ 3389 ⟨⟨true, true⟩, ⟨"kali", 2048⟩⟩

@[inherit_doc oneFrontend]
def failedClone : ResetCall where
  order := [3389]
  answers := fun _ => ⟨none, none, none, some "VBoxError", none⟩

/-- The condition in a run of two calls: the first cannot stop and remove the machine. -/
theorem retriable_oneFrontend :
    ∃ l', frontendResets.run oneFrontend
        [⟨[3389], fun _ => ⟨some "VBoxError", some "VBoxError", none, none, none⟩⟩,
          ⟨[3389], fun _ => ⟨none, none, none, none, none⟩⟩] = some l' ∧
      (Retriable oneFrontend l' ↔ ∀ call ∈ [(⟨[3389], fun _ => ⟨some "VBoxError",
          some "VBoxError", none, none, none⟩⟩ : ResetCall), ⟨[3389], fun _ =>
          ⟨none, none, none, none, none⟩⟩], ∀ p ∈ oneFrontend, (call.answers p).Replaces) := by
  refine ⟨_, rfl, retriable_iff (fun p vmConf hp => ?_) rfl⟩
  rw [oneFrontend, GoMap.get?_set] at hp
  split at hp
  · cases hp
    rfl
  · cases hp

/-- The machine of the port is gone, and the next call cannot close it. -/
theorem not_retriable_failedClone :
    ∃ l', frontendResets.run oneFrontend [failedClone] = some l' ∧ ¬ Retriable oneFrontend l' := by
  refine ⟨_, rfl, fun h => ?_⟩
  have hnone := (h.clean ⟨[3389], fun _ => ⟨none, none, none, none, none⟩⟩ (.refl _)
    fun _ => ⟨rfl, rfl, rfl, rfl, rfl⟩).1
  revert hnone
  decide

end Haaukins.Lab
