import Haaukins.Store.Event

/-!
# `Haaukins.Virtual.ImageLibrary`: copies of images (`virtual/vbox/vbox.go`)

`GetCopy` clones the machine of an image. At the first copy the library imports the image and
keeps the machine in `known`, later copies clone it at once. Only the first copy gets the
processors and the memory of the configuration: a later one gets what the caller passes.

* `Images` is what does not change while the server runs: the checksums of the image files, and
  the settings of the machine that was imported from an image.
* A library keeps under each path the machine of its image. This is a field of `ImageLibrary`.
* What VirtualBox answers to the commands of one copy is an argument, `CopyCalls`. A `float64` is
  a value of a type `F` with the two operations that the code uses.
* `getCopy_alike_iff` says when the first copy and a later one are configured alike, for any
  caller. `addFrontend_alike_iff` and `create_alike_iff` are about the two callers.

The mutexes of the library are left out.
-/

set_option autoImplicit false

namespace Haaukins.Virtual

/-- `InstanceConfig`. -/
structure InstanceConfig (F : Type) extends Store.InstanceConfig where
  cpu : F

/-- `x == 0` and `uint(math.Ceil(x))` of a `float64`. -/
structure Float64Ops (F : Type) where
  isZero (x : F) : Bool
  ceil (x : F) : Nat

/-- The processors and the memory of a machine. -/
structure Settings where
  cpus : Nat
  memory : Nat
  deriving DecidableEq, Repr

/-- `VMOpt`. -/
inductive VMOpt where
  | setBridge (nic : String)
  | setLocalRDP (ip : String) (port : Nat)
  | setCPU (cores : Nat)
  | setRAM (mb : Nat)
  deriving DecidableEq, Repr

/-- What an option sets. -/
def VMOpt.apply : VMOpt → Settings → Settings
  | .setBridge _, s => s
  | .setLocalRDP _ _, s => s
  | .setCPU cores, s => { s with cpus := cores }
  | .setRAM mb, s => { s with memory := mb }

/-- The settings of a machine after its options: the last option for a setting wins. -/
def effective (vmOpts : List VMOpt) (image : Settings) : Settings :=
  vmOpts.foldl (fun s opt => opt.apply s) image

/-- `vm`, without its path, its options and whether it runs. -/
structure VM where
  id : String
  image : String
  deriving DecidableEq, Repr

/-- A clone and its settings. -/
structure Clone extends VM where
  settings : Settings
  deriving DecidableEq, Repr

/-- What `path/filepath` computes. -/
structure PathOps where
  join (dir file : String) : String
  base (path : String) : String
  ext (path : String) : String

/-- The files of the images, and the settings in the snapshot `origin` of a machine. -/
structure Images extends PathOps where
  pwd : String
  checksumOfFile (path : String) : Except String String
  origin (id : String) : Settings

/-- What VirtualBox answers to the commands of one copy. `option` has the error of each option of
the clone. -/
structure CopyCalls where
  vmExists : Bool
  create : Option String
  snapshot : Option String
  clone : Option String
  option : Nat → Option String
  newID : String

namespace Images

variable (im : Images)

/-- `getPathFromFile`. -/
def getPathFromFile (file : String) : String :=
  let file := if im.pwd.toList.isPrefixOf file.toList then file else im.join im.pwd file
  if ".ova".toList.isSuffixOf file.toList then file else file ++ ".ova"

/-- `strings.TrimSuffix(filepath.Base(path), filepath.Ext(path))`. -/
def imageName (path : String) : String :=
  let base := im.base path
  let ext := im.ext path
  if ext.toList.isSuffixOf base.toList then
    String.ofList (base.toList.take (base.toList.length - ext.toList.length))
  else base

/-- The machine of an image: that of `NewVMWithSum`, and that of `VmExists`. -/
def imageVM (path checksum : String) : VM where
  id := im.imageName path ++ "\x7b" ++ checksum ++ "\x7d"
  image := im.imageName path

/-- The settings of the image of a file. -/
def settings (file : String) : Option Settings :=
  match im.checksumOfFile (im.getPathFromFile file) with
  | .ok sum => some (im.origin (im.imageVM (im.getPathFromFile file) sum).id)
  | .error _ => none

end Images

/-- The options of `LinkedClone`, one after another. -/
def applyOpts : List VMOpt → (Nat → Option String) → Settings → Except String Settings
  | [], _, s => .ok s
  | opt :: vmOpts, fails, s =>
    match fails 0 with
    | some err => .error err
    | none => applyOpts vmOpts (fun n => fails (n + 1)) (opt.apply s)

/-- `LinkedClone` of the snapshot `origin`. -/
def linkedClone (im : Images) (calls : CopyCalls) (v : VM) (vmOpts : List VMOpt) :
    Except String Clone :=
  match calls.clone with
  | some err => .error err
  | none =>
    match applyOpts vmOpts calls.option (im.origin v.id) with
    | .error err => .error err
    | .ok s => .ok { id := calls.newID, image := v.image, settings := s }

/-- `vBoxLibrary`. A known machine is that of its image. -/
structure ImageLibrary (im : Images) where
  known : GoMap String VM
  ofImages : ∀ path vm, known.get? path = some vm →
    ∃ sum, im.checksumOfFile path = .ok sum ∧ vm = im.imageVM path sum

namespace ImageLibrary

variable {im : Images} {F : Type}

/-- The empty library has only images of its files. -/
theorem ofImages_empty (path : String) (vm : VM) (h : (∅ : GoMap String VM).get? path = some vm) :
    ∃ sum, im.checksumOfFile path = .ok sum ∧ vm = im.imageVM path sum := by
  rw [GoMap.get?_empty] at h
  cases h

/-- `NewLibrary`. -/
def newLibrary (im : Images) : ImageLibrary im := { known := ∅, ofImages := ofImages_empty }

/-- A new entry is the image of its file. -/
theorem ofImages_set (lib : ImageLibrary im) {path sum : String}
    (hsum : im.checksumOfFile path = .ok sum) (p : String) (vm : VM)
    (h : (lib.known.set path (im.imageVM path sum)).get? p = some vm) :
    ∃ sum, im.checksumOfFile p = .ok sum ∧ vm = im.imageVM p sum := by
  rw [GoMap.get?_set] at h
  split at h
  · next hp =>
    cases h
    exact ⟨sum, hp ▸ hsum, by rw [hp]⟩
  · exact lib.ofImages p vm h

/-- Taking an entry out leaves images of their files. -/
theorem ofImages_delete (lib : ImageLibrary im) (path p : String) (vm : VM)
    (h : (lib.known.delete path).get? p = some vm) :
    ∃ sum, im.checksumOfFile p = .ok sum ∧ vm = im.imageVM p sum := by
  rw [GoMap.get?_delete] at h
  split at h
  · cases h
  · exact lib.ofImages p vm h

/-- `lib.known[path] = vm` for the machine of the image. -/
def remember (lib : ImageLibrary im) {path sum : String}
    (hsum : im.checksumOfFile path = .ok sum) : ImageLibrary im where
  known := lib.known.set path (im.imageVM path sum)
  ofImages := lib.ofImages_set hsum

/-- The library before the first copy of an image. -/
def forget (lib : ImageLibrary im) (path : String) : ImageLibrary im where
  known := lib.known.delete path
  ofImages := lib.ofImages_delete path

end ImageLibrary

/-- The options that the first copy adds to those of the caller. -/
def confOpts {F : Type} (float : Float64Ops F) (conf : InstanceConfig F) : List VMOpt :=
  (if float.isZero conf.cpu then [] else [.setCPU (float.ceil conf.cpu)]) ++
    (if conf.memoryMB = 0 then [] else [.setRAM conf.memoryMB])

namespace ImageLibrary

variable {im : Images} {F : Type}

/-- `GetCopy`. -/
def getCopy (lib : ImageLibrary im) (float : Float64Ops F) (conf : InstanceConfig F)
    (vmOpts : List VMOpt) (calls : CopyCalls) : ImageLibrary im × Except String Clone :=
  let path := im.getPathFromFile conf.image
  match lib.known.get? path with
  | some vm => (lib, linkedClone im calls vm vmOpts)
  | none =>
    match hsum : im.checksumOfFile path with
    | .error err => (lib, .error err)
    | .ok sum =>
      -- A machine that exists already is neither imported nor snapshotted.
      match if calls.vmExists then none else calls.create <|> calls.snapshot with
      | some err => (lib, .error err)
      | none =>
        (lib.remember hsum,
          linkedClone im calls (im.imageVM path sum) (vmOpts ++ confOpts float conf))

/-- The first copy of an image and a later one have the same processors and memory, whatever
VirtualBox answers. -/
def Alike (lib : ImageLibrary im) (float : Float64Ops F) (conf : InstanceConfig F)
    (vmOpts : List VMOpt) : Prop :=
  ∀ (sum : String) (hsum : im.checksumOfFile (im.getPathFromFile conf.image) = .ok sum)
    (calls calls' : CopyCalls) (first later : Clone),
    ((lib.forget (im.getPathFromFile conf.image)).getCopy float conf vmOpts calls).2 = .ok first →
    ((lib.remember hsum).getCopy float conf vmOpts calls').2 = .ok later →
    first.settings = later.settings

end ImageLibrary

/-- What the configuration asks for is what the options of the caller and the image give. -/
def AsConfigured {F : Type} (float : Float64Ops F) (conf : InstanceConfig F) (vmOpts : List VMOpt)
    (image : Settings) : Prop :=
  (float.isZero conf.cpu = false → (effective vmOpts image).cpus = float.ceil conf.cpu) ∧
    (conf.memoryMB ≠ 0 → (effective vmOpts image).memory = conf.memoryMB)

/-- Options are applied from left to right. -/
theorem effective_append (xs ys : List VMOpt) (image : Settings) :
    effective (xs ++ ys) image = effective ys (effective xs image) := List.foldl_append

/-- What the options of the first copy set. -/
theorem effective_confOpts {F : Type} (float : Float64Ops F) (conf : InstanceConfig F)
    (s : Settings) :
    effective (confOpts float conf) s =
      { cpus := if float.isZero conf.cpu then s.cpus else float.ceil conf.cpu
        memory := if conf.memoryMB = 0 then s.memory else conf.memoryMB } := by
  rw [confOpts, effective_append]
  by_cases hcpu : float.isZero conf.cpu = true
  · by_cases hmem : conf.memoryMB = 0
    · simp [hcpu, hmem, effective]
    · simp [hcpu, hmem, effective, VMOpt.apply]
  · by_cases hmem : conf.memoryMB = 0
    · simp [hcpu, hmem, effective, VMOpt.apply]
    · simp [hcpu, hmem, effective, VMOpt.apply]

/-- The added options change nothing if and only if the machine is as configured without them. -/
theorem effective_confOpts_iff {F : Type} (float : Float64Ops F) (conf : InstanceConfig F)
    (vmOpts : List VMOpt) (image : Settings) :
    effective (vmOpts ++ confOpts float conf) image = effective vmOpts image ↔
      AsConfigured float conf vmOpts image := by
  rw [effective_append, effective_confOpts, Settings.mk.injEq, AsConfigured]
  refine and_congr ?_ ?_
  · cases float.isZero conf.cpu with
    | true => simp
    | false => simp [eq_comm]
  · by_cases hmem : conf.memoryMB = 0
    · simp [hmem]
    · simp [hmem, eq_comm]

/-- Options that do not fail give their settings. -/
theorem applyOpts_ok {vmOpts : List VMOpt} {fails : Nat → Option String} {s s' : Settings}
    (h : applyOpts vmOpts fails s = .ok s') : s' = effective vmOpts s := by
  induction vmOpts generalizing fails s with
  | nil =>
    cases h
    rfl
  | cons opt vmOpts ih =>
    rw [applyOpts] at h
    split at h
    · cases h
    · exact ih h

/-- No option fails. -/
theorem applyOpts_none (vmOpts : List VMOpt) (s : Settings) :
    applyOpts vmOpts (fun _ => none) s = .ok (effective vmOpts s) := by
  induction vmOpts generalizing s with
  | nil => rfl
  | cons opt vmOpts ih => exact ih (opt.apply s)

variable {im : Images} {F : Type} {float : Float64Ops F} {conf : InstanceConfig F}
  {vmOpts : List VMOpt} {calls : CopyCalls}

/-- A clone has the settings of the snapshot and of the options. -/
theorem linkedClone_settings {v : VM} {vm : Clone} (h : linkedClone im calls v vmOpts = .ok vm) :
    vm.settings = effective vmOpts (im.origin v.id) := by
  rw [linkedClone] at h
  split at h
  · cases h
  · split at h
    · cases h
    · next s hs =>
      cases h
      exact applyOpts_ok hs

/-- VirtualBox does all that it is asked for. -/
def CopyCalls.fine : CopyCalls where
  vmExists := false
  create := none
  snapshot := none
  clone := none
  option _ := none
  newID := "c0ffee"

/-- A clone without a failing step has the settings of the options over those of the image. -/
theorem linkedClone_fine (v : VM) (vmOpts : List VMOpt) :
    linkedClone im .fine v vmOpts =
      .ok { id := "c0ffee", image := v.image, settings := effective vmOpts (im.origin v.id) } := by
  rw [linkedClone]
  show (match applyOpts vmOpts (fun _ => none) (im.origin v.id) with
    | .error err => .error err
    | .ok s => .ok { id := "c0ffee", image := v.image, settings := s } :
      Except String Clone) = _
  rw [applyOpts_none]

namespace ImageLibrary

variable {lib : ImageLibrary im}

/-- A copy of a known image is a clone with the options of the caller only. -/
theorem getCopy_known {vm : VM} (h : lib.known.get? (im.getPathFromFile conf.image) = some vm) :
    lib.getCopy float conf vmOpts calls = (lib, linkedClone im calls vm vmOpts) := by
  simp only [getCopy, h]

/-- The first copy of an image is a clone with the options of the configuration too. -/
theorem getCopy_first {vm : Clone} {sum : String}
    (hfirst : lib.known.get? (im.getPathFromFile conf.image) = none)
    (hsum : im.checksumOfFile (im.getPathFromFile conf.image) = .ok sum)
    (h : (lib.getCopy float conf vmOpts calls).2 = .ok vm) :
    linkedClone im calls (im.imageVM (im.getPathFromFile conf.image) sum)
      (vmOpts ++ confOpts float conf) = .ok vm := by
  simp only [getCopy, hfirst] at h
  split at h
  · next err herr =>
    rw [hsum] at herr
    cases herr
  · next sum' hsum' =>
    rw [hsum] at hsum'
    cases hsum'
    split at h
    · cases h
    · exact h

/-- The first copy is made when VirtualBox does all that it is asked for. -/
theorem getCopy_first_fine {sum : String}
    (hfirst : lib.known.get? (im.getPathFromFile conf.image) = none)
    (hsum : im.checksumOfFile (im.getPathFromFile conf.image) = .ok sum) :
    (lib.getCopy float conf vmOpts .fine).2 =
      linkedClone im .fine (im.imageVM (im.getPathFromFile conf.image) sum)
        (vmOpts ++ confOpts float conf) := by
  simp only [getCopy, hfirst]
  split
  · next err herr =>
    rw [hsum] at herr
    cases herr
  · next sum' hsum' =>
    rw [hsum] at hsum'
    cases hsum'
    rfl

/-- The settings of an image are those of the machine it was imported as. -/
theorem settings_of_checksum {sum : String}
    (hsum : im.checksumOfFile (im.getPathFromFile conf.image) = .ok sum) :
    im.settings conf.image =
      some (im.origin (im.imageVM (im.getPathFromFile conf.image) sum).id) := by
  rw [Images.settings, hsum]

/-- The first copy and a later one are alike if and only if the image and the options of the
caller already give what the configuration asks for. -/
theorem getCopy_alike_iff (lib : ImageLibrary im) (float : Float64Ops F)
    (conf : InstanceConfig F) (vmOpts : List VMOpt) :
    lib.Alike float conf vmOpts ↔
      ∀ image ∈ im.settings conf.image, AsConfigured float conf vmOpts image := by
  have hforget : (lib.forget (im.getPathFromFile conf.image)).known.get?
      (im.getPathFromFile conf.image) = none := GoMap.get?_delete_self _ _
  have hknown {sum : String}
      (hsum : im.checksumOfFile (im.getPathFromFile conf.image) = .ok sum) :
      (lib.remember hsum).known.get? (im.getPathFromFile conf.image) =
        some (im.imageVM (im.getPathFromFile conf.image) sum) := GoMap.get?_set_self _ _ _
  constructor
  · intro halike image himage
    cases hsum : im.checksumOfFile (im.getPathFromFile conf.image) with
    | error err => simp [Images.settings, hsum] at himage
    | ok sum =>
      rw [settings_of_checksum hsum] at himage
      cases himage
      rw [← effective_confOpts_iff]
      -- Both copies are made when VirtualBox does all that it is asked for.
      have hfirst :
          ((lib.forget (im.getPathFromFile conf.image)).getCopy float conf vmOpts .fine).2 =
          linkedClone im .fine (im.imageVM (im.getPathFromFile conf.image) sum)
            (vmOpts ++ confOpts float conf) := getCopy_first_fine hforget hsum
      have hlater : (lib.remember hsum).getCopy float conf vmOpts .fine =
          (lib.remember hsum,
            linkedClone im .fine (im.imageVM (im.getPathFromFile conf.image) sum) vmOpts) :=
        getCopy_known (hknown hsum)
      exact halike sum hsum .fine .fine _ _ (hfirst.trans (linkedClone_fine _ _))
        ((congrArg Prod.snd hlater).trans (linkedClone_fine _ _))
  · intro hconf sum hsum calls calls' first later hfirst hlater
    have himage := hconf _ (settings_of_checksum hsum)
    rw [getCopy_known (hknown hsum)] at hlater
    rw [linkedClone_settings (getCopy_first hforget hsum hfirst), linkedClone_settings hlater]
    exact (effective_confOpts_iff float conf vmOpts _).mpr himage

/-! ### The callers -/

/-- The options of `addFrontend`. -/
def addFrontendOpts (nic hostIp : String) (rdpPort : Nat) (conf : InstanceConfig F) :
    List VMOpt :=
  [.setBridge nic, .setLocalRDP hostIp rdpPort, .setRAM conf.memoryMB]

/-- The options of `exercise.Create`. -/
def createOpts (nic : String) : List VMOpt := [.setBridge nic]

/-- Frontends have their memory in every copy. -/
theorem addFrontend_alike_iff (lib : ImageLibrary im) (float : Float64Ops F)
    (conf : InstanceConfig F) (nic hostIp : String) (rdpPort : Nat) :
    lib.Alike float conf (addFrontendOpts nic hostIp rdpPort conf) ↔
      ∀ image ∈ im.settings conf.image,
        float.isZero conf.cpu = false → image.cpus = float.ceil conf.cpu := by
  rw [getCopy_alike_iff]
  refine forall₂_congr fun image _ => ?_
  simp [AsConfigured, addFrontendOpts, effective, VMOpt.apply]

/-- The machines of an exercise are alike when the image has what the configuration asks for. -/
theorem create_alike_iff (lib : ImageLibrary im) (float : Float64Ops F)
    (conf : InstanceConfig F) (nic : String) :
    lib.Alike float conf (createOpts nic) ↔
      ∀ image ∈ im.settings conf.image,
        (float.isZero conf.cpu = false → image.cpus = float.ceil conf.cpu) ∧
          (conf.memoryMB ≠ 0 → image.memory = conf.memoryMB) := by
  rw [getCopy_alike_iff]
  rfl

/-- The settings of every copy, when they are as configured. -/
theorem getCopy_settings {vm : Clone}
    (hconf : ∀ image ∈ im.settings conf.image, AsConfigured float conf vmOpts image)
    (h : (lib.getCopy float conf vmOpts calls).2 = .ok vm) :
    some vm.settings = (im.settings conf.image).map (effective vmOpts) := by
  cases hknown : lib.known.get? (im.getPathFromFile conf.image) with
  | some v =>
    obtain ⟨sum, hsum, hv⟩ := lib.ofImages _ v hknown
    rw [getCopy_known hknown] at h
    rw [settings_of_checksum hsum, linkedClone_settings h, hv, Option.map_some]
  | none =>
    cases hsum : im.checksumOfFile (im.getPathFromFile conf.image) with
    | error err =>
      simp only [getCopy, hknown] at h
      split at h
      · cases h
      · next sum' hsum' =>
        rw [hsum] at hsum'
        cases hsum'
    | ok sum =>
      have himage := settings_of_checksum hsum
      rw [himage, linkedClone_settings (getCopy_first hknown hsum h), Option.map_some,
        (effective_confOpts_iff float conf vmOpts _).mpr (hconf _ himage)]

/-- A call of `GetCopy`. -/
structure CopyRequest (F : Type) where
  conf : InstanceConfig F
  vmOpts : List VMOpt
  calls : CopyCalls

/-- The calls of `GetCopy` one after another, with their results. -/
def copies (float : Float64Ops F) :
    ImageLibrary im → List (CopyRequest F) → List (CopyRequest F × Except String Clone)
  | _, [] => []
  | lib, r :: rs =>
    (r, (lib.getCopy float r.conf r.vmOpts r.calls).2) ::
      copies float (lib.getCopy float r.conf r.vmOpts r.calls).1 rs

/-- In every run the copies of one configuration with the same options are configured alike, when
the image has what the configuration asks for. -/
theorem copies_alike {rs : List (CopyRequest F)}
    (hconf : ∀ r ∈ rs, ∀ image ∈ im.settings r.conf.image,
      AsConfigured float r.conf r.vmOpts image)
    {r : CopyRequest F} {vm : Clone} (h : (r, .ok vm) ∈ copies float lib rs) :
    some vm.settings = (im.settings r.conf.image).map (effective r.vmOpts) := by
  induction rs generalizing lib with
  | nil => cases h
  | cons r' rs ih =>
    rcases List.mem_cons.mp h with heq | hrest
    · obtain ⟨hr, hvm⟩ := Prod.ext_iff.mp heq
      have hreq : r = r' := hr
      subst hreq
      exact getCopy_settings (hconf r List.mem_cons_self) hvm.symm
    · exact ih (fun q hq => hconf q (List.mem_cons_of_mem r' hq)) hrest

/-- Numbers of half processors. -/
def halves : Float64Ops Nat where
  isZero x := x == 0
  ceil x := (x + 1) / 2

/-- An image with one processor and 1024 MB. -/
def kaliImages : Images where
  join dir file := dir ++ "/" ++ file
  base _ := "kali.ova"
  ext _ := ".ova"
  pwd := "/ova"
  checksumOfFile _ := .ok "1a2b"
  origin _ := { cpus := 1, memory := 1024 }

/-- The first machine of an exercise has the two processors and the 2048 MB of its configuration,
the next one has those of the image. -/
theorem create_not_alike :
    let lib := newLibrary kaliImages
    let conf : InstanceConfig Nat := { image := "kali", memoryMB := 2048, cpu := 3 }
    let first := lib.getCopy halves conf (createOpts "vboxnet0") .fine
    let later := first.1.getCopy halves conf (createOpts "vboxnet0") .fine
    first.2.map Clone.settings = .ok { cpus := 2, memory := 2048 } ∧
      later.2.map Clone.settings = .ok { cpus := 1, memory := 1024 } ∧
      ¬ lib.Alike halves conf (createOpts "vboxnet0") := by
  intro lib conf first later
  have hfirst : first.2.map Clone.settings = .ok { cpus := 2, memory := 2048 } := by decide
  have hlater : later.2.map Clone.settings = .ok { cpus := 1, memory := 1024 } := by decide
  refine ⟨hfirst, hlater, ?_⟩
  rw [create_alike_iff]
  intro halike
  have hcpus := (halike { cpus := 1, memory := 1024 } (by decide)).1 (by decide)
  exact absurd hcpus (by decide)

end ImageLibrary

end Haaukins.Virtual
