import Haaukins.Lib.Machine
import Haaukins.Virtual.ImageLibrary
import Mathlib.Data.List.Perm.Basic

/-!
# `Haaukins.Store.FrontendsFile`: the frontends file (`store/frontend.go`)

`NewFrontendsFile` reads the configurations of the images from a file into a map. `SetMemoryMB`
and `SetCpu` change one entry of the map, and a hook writes all entries back to the file. Both
setters drop the error of `runHooks`, so they return nil also when the file was not written.

* `Yaml` has the two functions of the package, with the assumption that they are a round trip. A
  `float64` is a value of a type `F`, with its zero and its test `x < 0`.
* The outcome of the file write (`FileWrite`) and the order in which `runHooks` visits the map are
  arguments of a call.
* `Persists` says what a caller expects of one call. `persists_iff` says which calls of a run
  meet it: those that end before the write, those whose write succeeds, and those whose failed
  write leaves a file that has the new value all the same.
-/

set_option autoImplicit false

namespace Haaukins.Store

variable {F B : Type}

/-! ## The code -/

/-- What the code uses of a `float64`: its zero value, and `x < 0`. -/
structure CPUOps (F : Type) where
  zero : F
  isNegative : F → Bool

/-- `yaml.Marshal` and `yaml.Unmarshal` of the record with the frontends. -/
structure Yaml (F B : Type) where
  marshal : List (Virtual.InstanceConfig F) → Except String B
  unmarshal : B → Except String (List (Virtual.InstanceConfig F))
  roundTrip : ∀ ics, ∃ bytes, marshal ics = .ok bytes ∧ unmarshal bytes = .ok ics

/-- The outcome of `ioutil.WriteFile`: written, or failed with an error and some file left
behind. -/
inductive FileWrite (B : Type) where
  | done
  | failed (err : String) (file : Option B)

/-- `InstanceConfig.Validate`. -/
def validateConfig (ops : CPUOps F) (ic : Virtual.InstanceConfig F) : Option String :=
  if ic.image = "" then some (emptyVarErr "Image" "Instance ServiceConfig")
  -- `MemoryMB` is a `uint`, so this does not happen.
  else if ic.memoryMB < 0 then some "memory cannot be negative"
  else if ops.isNegative ic.cpu then some "cpu cannot be negative"
  else none

/-- The store that `NewFrontendsFile` returns: the map, the record `conf` that the hook writes, and
the file, `none` when there is no file. -/
structure FrontendsFile (F B : Type) where
  frontends : GoMap String (Virtual.InstanceConfig F)
  conf : List (Virtual.InstanceConfig F)
  file : Option B

/-- The loop of `NewFrontendsFile` over the configurations of the file. -/
def loadFrontends (ops : CPUOps F) :
    GoMap String (Virtual.InstanceConfig F) → List (Virtual.InstanceConfig F) →
      Except String (GoMap String (Virtual.InstanceConfig F))
  | frontends, [] => .ok frontends
  | frontends, f :: fs =>
    match validateConfig ops f with
    | some err => .error err
    | none => loadFrontends ops (frontends.set f.image f) fs

/-- `NewFrontendsFile`, for a file that can be read. -/
def openFrontendsFile (yaml : Yaml F B) (ops : CPUOps F) (file : Option B) :
    Except String (FrontendsFile F B) :=
  match file with
  | none => .ok { frontends := ∅, conf := [], file := none }
  | some bytes =>
    match yaml.unmarshal bytes with
    | .error err => .error err
    | .ok conf =>
      match loadFrontends ops ∅ conf with
      | .error err => .error err
      | .ok frontends => .ok { frontends := frontends, conf := conf, file := some bytes }

namespace FrontendsFile

variable (yaml : Yaml F B) (ops : CPUOps F) (fs : FrontendsFile F B)

/-- The entry of an image, or a new one. -/
def entry (name : String) : Virtual.InstanceConfig F :=
  (fs.frontends.get? name).getD { image := name, memoryMB := 0, cpu := ops.zero }

/-- `GetFrontends`. -/
def getFrontends (names : List String) : List (Virtual.InstanceConfig F) := names.map (fs.entry ops)

/-- The entries in the order in which a loop over the map visits its keys. -/
def entries (order : List String) : List (Virtual.InstanceConfig F) :=
  order.filterMap fs.frontends.get?

/-- `runHooks` with its one hook: `conf.Frontends = ics`, then `save`. -/
def runHooks (order : List String) (w : FileWrite B) : FrontendsFile F B × Option String :=
  let ics := fs.entries order
  match yaml.marshal ics with
  | .error err => ({ fs with conf := ics }, some err)
  | .ok bytes =>
    match w with
    | .done => ({ fs with conf := ics, file := some bytes }, none)
    | .failed err file => ({ fs with conf := ics, file := file }, some err)

/-- What the two setters share: `update` sets the field. The error of the hooks is dropped. -/
def setEntry (f : String) (update : Virtual.InstanceConfig F → Virtual.InstanceConfig F)
    (order : List String) (w : FileWrite B) : FrontendsFile F B × Option String :=
  let ic := update (fs.entry ops f)
  match validateConfig ops ic with
  | some err => (fs, some err)
  | none => (({ fs with frontends := fs.frontends.set f ic }.runHooks yaml order w).1, none)

/-- `SetMemoryMB`. -/
def setMemoryMB (f : String) (memoryMB : Nat) :
    List String → FileWrite B → FrontendsFile F B × Option String :=
  fs.setEntry yaml ops f fun ic => { ic with memoryMB := memoryMB }

/-- `SetCpu`. -/
def setCpu (f : String) (cpu : F) :
    List String → FileWrite B → FrontendsFile F B × Option String :=
  fs.setEntry yaml ops f fun ic => { ic with cpu := cpu }

end FrontendsFile

/-! ## Runs -/

/-- A field of a configuration that a caller can set, with its new value. -/
inductive FrontendField (F : Type) where
  | memoryMB (mb : Nat)
  | cpu (x : F)

/-- A configuration with the new value of the field. -/
def FrontendField.set : FrontendField F → Virtual.InstanceConfig F → Virtual.InstanceConfig F
  | .memoryMB mb, ic => { ic with memoryMB := mb }
  | .cpu x, ic => { ic with cpu := x }

/-- A call of `SetMemoryMB` or `SetCpu`. -/
structure FrontendCall (F B : Type) where
  image : String
  field : FrontendField F
  order : List String
  write : FileWrite B

namespace FrontendCall

variable (yaml : Yaml F B) (ops : CPUOps F) (fs : FrontendsFile F B) (a : FrontendCall F B)

/-- The call, with the store after it and the error that it returns. -/
def call : FrontendsFile F B × Option String :=
  match a.field with
  | .memoryMB mb => fs.setMemoryMB yaml ops a.image mb a.order a.write
  | .cpu x => fs.setCpu yaml ops a.image x a.order a.write

/-- The entry of the image with the new value. -/
def newEntry : Virtual.InstanceConfig F := a.field.set (fs.entry ops a.image)

/-- The loop of `runHooks` visits the keys of the map after the change, in some order. -/
def Visits : Prop := a.order.Perm (fs.frontends.set a.image (a.newEntry ops fs)).keyList

instance : Decidable (a.Visits ops fs) :=
  inferInstanceAs (Decidable (a.order.Perm (fs.frontends.set a.image (a.newEntry ops fs)).keyList))

/-- What a caller expects of the call. A call that fails changes no answer. One that does not fail
changes the field of the image and nothing else, and a store that is opened on the file then gives
the same answers. -/
structure Persists : Prop where
  failed : (a.call yaml ops fs).2 ≠ none →
    ∀ names, (a.call yaml ops fs).1.getFrontends ops names = fs.getFrontends ops names
  changed : (a.call yaml ops fs).2 = none →
    ∀ names, (a.call yaml ops fs).1.getFrontends ops names =
      names.map fun name => if name = a.image then a.newEntry ops fs else fs.entry ops name
  saved : (a.call yaml ops fs).2 = none →
    ∃ new, openFrontendsFile yaml ops (a.call yaml ops fs).1.file = .ok new ∧
      ∀ names, new.getFrontends ops names = (a.call yaml ops fs).1.getFrontends ops names

/-- The file gives each image its entry, the one of the call with the new value. -/
def Holds (file : Option B) : Prop :=
  ∃ new, openFrontendsFile yaml ops file = .ok new ∧
    ∀ name, new.entry ops name =
      if name = a.image then a.newEntry ops fs else fs.entry ops name

/-- The call does not come to the write, or the write succeeds, or what a failed write leaves
behind has the new value all the same. -/
def WrittenBack : Prop :=
  validateConfig ops (a.newEntry ops fs) ≠ none ∨
    match a.write with
    | .done => True
    | .failed _ file => a.Holds yaml ops fs file

end FrontendCall

/-- The calls on the store that `NewFrontendsFile` returns for some file. -/
def frontendsFile (yaml : Yaml F B) (ops : CPUOps F) (file : Option B) :
    Machine (FrontendsFile F B) (FrontendCall F B) where
  init fs := openFrontendsFile yaml ops file = .ok fs
  step fs a := if a.Visits ops fs then some (a.call yaml ops fs).1 else none

/-! ### Loading -/

variable {yaml : Yaml F B} {ops : CPUOps F} {fs : FrontendsFile F B} {a : FrontendCall F B}

/-- The entries of the map stand under their images and pass the check. -/
structure FrontendsFile.Valid (ops : CPUOps F)
    (frontends : GoMap String (Virtual.InstanceConfig F)) : Prop where
  keyed : GoMap.Keyed (fun ic : Virtual.InstanceConfig F => ic.image) frontends
  checked : ∀ name ic, frontends.get? name = some ic → validateConfig ops ic = none

/-- A checked configuration may be stored. -/
theorem FrontendsFile.Valid.set {frontends : GoMap String (Virtual.InstanceConfig F)}
    (h : FrontendsFile.Valid ops frontends) {ic : Virtual.InstanceConfig F}
    (hic : validateConfig ops ic = none) :
    FrontendsFile.Valid ops (frontends.set ic.image ic) := by
  refine ⟨h.keyed.set rfl, fun name ic' hget => ?_⟩
  rw [GoMap.get?_set] at hget
  split at hget
  · cases hget
    exact hic
  · exact h.checked name ic' hget

/-- Configurations that pass the check are all entered. -/
theorem loadFrontends_of_checked {ics : List (Virtual.InstanceConfig F)} :
    ∀ {frontends : GoMap String (Virtual.InstanceConfig F)},
      (∀ ic ∈ ics, validateConfig ops ic = none) →
      loadFrontends ops frontends ics =
        .ok (ics.foldl (fun m ic => m.set ic.image ic) frontends) := by
  induction ics with
  | nil => exact fun _ => rfl
  | cons ic ics ih =>
    intro frontends hics
    rw [loadFrontends, hics ic List.mem_cons_self]
    exact ih fun ic' hic' => hics ic' (List.mem_cons_of_mem ic hic')

/-- What a file gives is valid. -/
theorem valid_of_loadFrontends {ics : List (Virtual.InstanceConfig F)} :
    ∀ {frontends loaded : GoMap String (Virtual.InstanceConfig F)},
      FrontendsFile.Valid ops frontends → loadFrontends ops frontends ics = .ok loaded →
      FrontendsFile.Valid ops loaded := by
  induction ics with
  | nil =>
    intro frontends loaded hvalid hload
    cases hload
    exact hvalid
  | cons ic ics ih =>
    intro frontends loaded hvalid hload
    rw [loadFrontends] at hload
    cases hic : validateConfig ops ic with
    | some err =>
      rw [hic] at hload
      cases hload
    | none =>
      rw [hic] at hload
      exact ih (hvalid.set hic) hload

/-- A file is opened only when each of its entries passes the check. -/
theorem valid_of_openFrontendsFile {file : Option B}
    (h : openFrontendsFile yaml ops file = .ok fs) : FrontendsFile.Valid ops fs.frontends := by
  have hempty : FrontendsFile.Valid ops ∅ := by
    refine ⟨GoMap.keyed_empty, fun name ic hget => ?_⟩
    rw [GoMap.get?_empty] at hget
    cases hget
  unfold openFrontendsFile at h
  split at h
  · cases h
    exact hempty
  · split at h
    · cases h
    · split at h
      · cases h
      · next hload =>
        cases h
        exact valid_of_loadFrontends hempty hload

/-- The loop over the map gives each entry once. -/
theorem map_image_entries (h : FrontendsFile.Valid ops fs.frontends) {order : List String}
    (horder : ∀ name ∈ order, name ∈ fs.frontends) :
    (fs.entries order).map (fun ic => ic.image) = order := by
  have himage : ∀ name ∈ order, (fs.frontends.get? name).map (fun ic => ic.image) = some name := by
    intro name hname
    obtain ⟨ic, hic⟩ := GoMap.mem_iff_get?.mp (horder name hname)
    rw [hic, Option.map_some]
    exact congrArg some (h.keyed name ic hic)
  rw [FrontendsFile.entries, List.map_filterMap, List.filterMap_congr himage,
    List.filterMap_some]

/-- A file with the entries of a store gives the answers of the store, in whatever order the
entries are. -/
theorem openFrontendsFile_of_entries (h : FrontendsFile.Valid ops fs.frontends)
    {order : List String} (horder : order.Perm fs.frontends.keyList) {bytes : B}
    (hbytes : yaml.unmarshal bytes = .ok (fs.entries order)) :
    ∃ new, openFrontendsFile yaml ops (some bytes) = .ok new ∧
      ∀ name, new.frontends.get? name = fs.frontends.get? name := by
  have hmem : ∀ name, name ∈ order ↔ name ∈ fs.frontends := fun name =>
    horder.mem_iff.trans GoMap.mem_keyList
  have hentry : ∀ ic, ic ∈ fs.entries order ↔ ∃ name, fs.frontends.get? name = some ic := by
    intro ic
    rw [FrontendsFile.entries, List.mem_filterMap]
    constructor
    · rintro ⟨name, -, hname⟩
      exact ⟨name, hname⟩
    · rintro ⟨name, hname⟩
      exact ⟨name, (hmem name).mpr (GoMap.mem_iff_get?.mpr ⟨ic, hname⟩), hname⟩
  -- What was checked on its way into the store passes the check again.
  have hchecked : ∀ ic ∈ fs.entries order, validateConfig ops ic = none := by
    intro ic hic
    obtain ⟨name, hname⟩ := (hentry ic).mp hic
    exact h.checked name ic hname
  have hnodup : ((fs.entries order).map fun ic => ic.image).Nodup := by
    rw [map_image_entries h fun name hname => (hmem name).mp hname]
    exact horder.nodup_iff.mpr (GoMap.nodup_keyList _)
  have hload : loadFrontends ops ∅ (fs.entries order) =
      .ok (GoMap.ofList (fun ic => ic.image) (fs.entries order)) :=
    loadFrontends_of_checked hchecked
  refine ⟨{ frontends := GoMap.ofList (fun ic => ic.image) (fs.entries order)
            conf := fs.entries order
            file := some bytes }, ?_, fun name => ?_⟩
  · rw [openFrontendsFile, hbytes]
    dsimp only
    rw [hload]
  · refine Option.ext fun ic => ?_
    -- Each image stands for one entry, so that the order does not matter.
    show (GoMap.ofList (fun ic => ic.image) (fs.entries order)).get? name = some ic ↔ _
    rw [GoMap.get?_ofList hnodup, hentry]
    constructor
    · rintro ⟨⟨name', hname'⟩, himage⟩
      have hsame : name' = name := (h.keyed name' ic hname').symm.trans himage
      rwa [← hsame]
    · intro hname
      exact ⟨⟨name, hname⟩, h.keyed name ic hname⟩

/-! ### One call -/

namespace FrontendCall

variable (yaml ops fs a)

/-- The store with the new entry, before the hooks run. -/
def changed : FrontendsFile F B :=
  { fs with frontends := fs.frontends.set a.image (a.newEntry ops fs) }

/-- The two calls differ in their field. -/
theorem call_eq : a.call yaml ops fs =
    fs.setEntry yaml ops a.image a.field.set a.order a.write := by
  unfold call
  cases a.field with
  | memoryMB mb => rfl
  | cpu x => rfl

variable {yaml ops fs a}

/-- A configuration that fails the check changes nothing. -/
theorem call_failed {err : String} (h : validateConfig ops (a.newEntry ops fs) = some err) :
    a.call yaml ops fs = (fs, some err) := by
  rw [call_eq, FrontendsFile.setEntry]
  show (match validateConfig ops (a.newEntry ops fs) with
    | some err => _
    | none => _) = _
  rw [h]

/-- A call that passes the check returns nil, whatever the hook has answered. -/
theorem call_checked (h : validateConfig ops (a.newEntry ops fs) = none) :
    a.call yaml ops fs = (((a.changed ops fs).runHooks yaml a.order a.write).1, none) := by
  rw [call_eq, FrontendsFile.setEntry]
  show (match validateConfig ops (a.newEntry ops fs) with
    | some err => _
    | none => _) = _
  rw [h]
  rfl

/-- The hook writes the entries, so the file has them or what the failed write has left. -/
theorem runHooks_eq (yaml : Yaml F B) (fs : FrontendsFile F B) (order : List String)
    (w : FileWrite B) :
    ∃ bytes, yaml.unmarshal bytes = .ok (fs.entries order) ∧
      fs.runHooks yaml order w =
        match w with
        | .done => ({ fs with conf := fs.entries order, file := some bytes }, none)
        | .failed err file => ({ fs with conf := fs.entries order, file := file }, some err) := by
  obtain ⟨bytes, hmarshal, hunmarshal⟩ := yaml.roundTrip (fs.entries order)
  refine ⟨bytes, hunmarshal, ?_⟩
  simp only [FrontendsFile.runHooks, hmarshal]

/-- The hooks write the file, and leave the map alone. -/
theorem frontends_runHooks (fs : FrontendsFile F B) (order : List String) (w : FileWrite B) :
    (fs.runHooks yaml order w).1.frontends = fs.frontends := by
  obtain ⟨bytes, -, heq⟩ := runHooks_eq yaml fs order w
  rw [heq]
  cases w <;> rfl

/-- The entry of the image is a configuration of this image. -/
theorem image_newEntry (h : FrontendsFile.Valid ops fs.frontends) :
    (a.newEntry ops fs).image = a.image := by
  have hentry : (fs.entry ops a.image).image = a.image := by
    unfold FrontendsFile.entry
    cases hget : fs.frontends.get? a.image with
    | none => rfl
    | some ic => exact h.keyed a.image ic hget
  unfold newEntry FrontendField.set
  cases a.field with
  | memoryMB mb => exact hentry
  | cpu x => exact hentry

/-- A checked change keeps the map valid. -/
theorem valid_changed (h : FrontendsFile.Valid ops fs.frontends)
    (hchecked : validateConfig ops (a.newEntry ops fs) = none) :
    FrontendsFile.Valid ops (a.changed ops fs).frontends := by
  have hset := h.set hchecked
  rwa [image_newEntry h] at hset

/-- So does a call, checked or refused. -/
theorem valid_call (h : FrontendsFile.Valid ops fs.frontends) :
    FrontendsFile.Valid ops (a.call yaml ops fs).1.frontends := by
  cases hcheck : validateConfig ops (a.newEntry ops fs) with
  | some err =>
    rw [call_failed hcheck]
    exact h
  | none =>
    rw [call_checked hcheck]
    show FrontendsFile.Valid ops ((a.changed ops fs).runHooks yaml a.order a.write).1.frontends
    rw [frontends_runHooks]
    exact valid_changed h hcheck

/-- A change is seen at its own image. -/
theorem entry_changed (name : String) :
    (a.changed ops fs).entry ops name =
      if name = a.image then a.newEntry ops fs else fs.entry ops name := by
  unfold FrontendsFile.entry changed
  rw [GoMap.get?_set]
  split <;> rfl

/-- A store answers for every list of names as the changed one exactly when it has its entries. -/
theorem getFrontends_eq_iff {new : FrontendsFile F B} :
    (∀ names, new.getFrontends ops names = (a.changed ops fs).getFrontends ops names) ↔
      ∀ name, new.entry ops name =
        if name = a.image then a.newEntry ops fs else fs.entry ops name := by
  constructor
  · intro h name
    have hname : [new.entry ops name] = [(a.changed ops fs).entry ops name] := h [name]
    rw [← entry_changed, List.singleton_inj.mp hname]
  · intro h names
    refine List.map_congr_left fun name _ => ?_
    rw [h, entry_changed]

/-- When a call passes the check, what is left is what a store answers that is opened on the
file. -/
theorem persists_iff_holds (hcheck : validateConfig ops (a.newEntry ops fs) = none) :
    a.Persists yaml ops fs ↔ a.Holds yaml ops fs (a.call yaml ops fs).1.file := by
  have hcall : a.call yaml ops fs =
      (((a.changed ops fs).runHooks yaml a.order a.write).1, none) := call_checked hcheck
  have hnil : (a.call yaml ops fs).2 = none := by rw [hcall]
  have hanswers : ∀ names, (a.call yaml ops fs).1.getFrontends ops names =
      (a.changed ops fs).getFrontends ops names := by
    intro names
    rw [hcall]
    refine List.map_congr_left fun name _ => ?_
    unfold FrontendsFile.entry
    rw [frontends_runHooks]
  have hchanged : ∀ names, (a.call yaml ops fs).1.getFrontends ops names =
      names.map fun name => if name = a.image then a.newEntry ops fs else fs.entry ops name := by
    intro names
    rw [hanswers]
    exact List.map_congr_left fun name _ => entry_changed name
  constructor
  · intro hpersists
    obtain ⟨new, hopen, hnew⟩ := hpersists.saved hnil
    refine ⟨new, hopen, getFrontends_eq_iff.mp fun names => ?_⟩
    rw [hnew, hanswers]
  · rintro ⟨new, hopen, hnew⟩
    refine ⟨fun hfails => absurd hnil hfails, fun _ => hchanged, fun _ => ⟨new, hopen, ?_⟩⟩
    intro names
    rw [hanswers, getFrontends_eq_iff.mpr hnew]

/-- The file holds the new answers when its write succeeds. -/
theorem holds_written (h : FrontendsFile.Valid ops fs.frontends) (hvisits : a.Visits ops fs)
    (hcheck : validateConfig ops (a.newEntry ops fs) = none) {bytes : B}
    (hbytes : yaml.unmarshal bytes = .ok ((a.changed ops fs).entries a.order)) :
    a.Holds yaml ops fs (some bytes) := by
  obtain ⟨new, hopen, hnew⟩ := openFrontendsFile_of_entries (valid_changed h hcheck) hvisits hbytes
  refine ⟨new, hopen, fun name => ?_⟩
  rw [← entry_changed]
  unfold FrontendsFile.entry
  rw [hnew]

/-- A call does what its caller expects exactly when it is written back, or fails before. -/
theorem persists_iff_writtenBack (h : FrontendsFile.Valid ops fs.frontends)
    (hvisits : a.Visits ops fs) : a.Persists yaml ops fs ↔ a.WrittenBack yaml ops fs := by
  cases hcheck : validateConfig ops (a.newEntry ops fs) with
  | some err =>
    have hcall : a.call yaml ops fs = (fs, some err) := call_failed hcheck
    have hfails : (a.call yaml ops fs).2 ≠ none := by simp [hcall]
    refine iff_of_true ⟨fun _ names => ?_, fun hnil => absurd hnil hfails,
      fun hnil => absurd hnil hfails⟩ (.inl (by simp [hcheck]))
    rw [hcall]
  | none =>
    have hwritten : a.WrittenBack yaml ops fs ↔
        match a.write with
        | .done => True
        | .failed _ file => a.Holds yaml ops fs file := by
      unfold WrittenBack
      rw [hcheck]
      simp
    rw [persists_iff_holds hcheck, hwritten, call_checked hcheck]
    obtain ⟨bytes, hbytes, heq⟩ := runHooks_eq yaml (a.changed ops fs) a.order a.write
    rw [heq]
    cases a.write with
    | done => exact iff_of_true (holds_written h hvisits hcheck hbytes) trivial
    -- The error of the write is dropped, and the file is what the write has left.
    | failed err file => exact Iff.rfl

end FrontendCall

/-! ### Runs -/

/-- The map is valid in each state of a run. -/
theorem valid_step {file : Option B} {fs' : FrontendsFile F B}
    (h : FrontendsFile.Valid ops fs.frontends)
    (hstep : (frontendsFile yaml ops file).step fs a = some fs') :
    FrontendsFile.Valid ops fs'.frontends := by
  simp only [frontendsFile, Option.ite_none_right_eq_some, Option.some.injEq] at hstep
  obtain ⟨-, rfl⟩ := hstep
  exact FrontendCall.valid_call h

/-- From any file that opens, each call of a run does what its caller expects exactly when each
call is written back or fails before. -/
theorem persists_iff (yaml : Yaml F B) (ops : CPUOps F) (file : Option B) (fs : FrontendsFile F B)
    (hopen : openFrontendsFile yaml ops file = .ok fs) (as : List (FrontendCall F B)) :
    (frontendsFile yaml ops file).AllSteps (fun fs a => a.Persists yaml ops fs) fs as ↔
      (frontendsFile yaml ops file).AllSteps (fun fs a => a.WrittenBack yaml ops fs) fs as := by
  apply Machine.allSteps_congr_of_invariant
    (I := fun fs => FrontendsFile.Valid ops fs.frontends) (A := fun _ => True)
  · exact fun fs a fs' hvalid _ hstep => valid_step hvalid hstep
  · intro fs a fs' hvalid hstep
    simp only [frontendsFile, Option.ite_none_right_eq_some] at hstep
    exact FrontendCall.persists_iff_writtenBack hvalid hstep.1
  · exact valid_of_openFrontendsFile hopen
  · exact fun _ _ => trivial

/-- A file that holds the list as it is. -/
def plainYaml : Yaml Int (List (Virtual.InstanceConfig Int)) where
  marshal ics := .ok ics
  unmarshal ics := .ok ics
  roundTrip ics := ⟨ics, rfl, rfl⟩

/-- Shares of the processor that are integers. -/
def intOps : CPUOps Int := { zero := 0, isNegative := fun x => x < 0 }

/-- The store without a file. -/
def noFrontends : FrontendsFile Int (List (Virtual.InstanceConfig Int)) :=
  { frontends := ∅, conf := [], file := none }

/-- The first image gets its memory. -/
def firstMemory (w : FileWrite (List (Virtual.InstanceConfig Int))) :
    FrontendCall Int (List (Virtual.InstanceConfig Int)) :=
  { image := "kali", field := .memoryMB 1024, order := ["kali"], write := w }

/-- The first setting of an image is written back to the file. -/
theorem firstMemory_persists :
    (frontendsFile plainYaml intOps none).AllSteps (fun fs a => a.Persists plainYaml intOps fs)
      noFrontends [firstMemory .done] :=
  (persists_iff plainYaml intOps none noFrontends rfl [firstMemory .done]).mpr
    fun _ _ => ⟨.inr trivial, trivial⟩

/-- When the disk is full, `SetMemoryMB` returns nil, and no file has the memory. -/
theorem firstMemory_lost :
    openFrontendsFile plainYaml intOps none = .ok noFrontends ∧
      ((firstMemory (.failed "no space left on device" none)).call plainYaml intOps
        noFrontends).2 = none ∧
      ¬ (frontendsFile plainYaml intOps none).AllSteps
        (fun fs a => a.Persists plainYaml intOps fs) noFrontends
        [firstMemory (.failed "no space left on device" none)] := by
  refine ⟨rfl, rfl, fun h => ?_⟩
  have hvisits :
      (firstMemory (.failed "no space left on device" none)).Visits intOps noFrontends := by
    decide
  have hstep : (frontendsFile plainYaml intOps none).step noFrontends
      (firstMemory (.failed "no space left on device" none)) =
        some ((firstMemory (.failed "no space left on device" none)).call plainYaml intOps
          noFrontends).1 := if_pos (e := none) hvisits
  obtain ⟨new, hopen, hnew⟩ := (h _ hstep).1.saved rfl
  have hfile : (noFrontends : FrontendsFile Int _) = new := Except.ok.inj hopen
  have hmemory := congrArg (List.map fun ic => ic.memoryMB) (hnew ["kali"])
  rw [← hfile] at hmemory
  exact absurd hmemory (by decide)

end Haaukins.Store
