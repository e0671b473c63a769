import Haaukins.Lib.Machine
import Haaukins.Lib.GoMap
import Haaukins.Lib.Resources
import Haaukins.Exercise.Environment

/-!
# `Haaukins.Lab.LabResources`: the resources of a lab (`lab/lab.go`, `exercise/exercise.go`)

The networks, containers and virtual machines that exist while a lab is made, gets exercises and
has exercises reset, with every point at which Docker or VirtualBox can fail. A lab holds its
network, the machines of its exercises and the machines of its frontends. These are what
`lab.Close` closes.

`labResources_accounted_iff` says along which runs each resource that exists is held by the lab.
`NewLab` closes nothing when it fails after the network is made, `Create` drops the machines that
it made before a failure, a machine that is made but not configured is dropped at once, and two
frontends with the same port keep one machine.

* A call on something nil ends the process. It is an error here (`nilDereference`): the network
  of a static exercise, and the information on a network when Docker does not give it.
* `GetCopy` imports an image at its first use. That machine belongs to the library and is not
  counted. Its failures come before the clone exists.
* The servers of a lab are made by `Start`, and a disabled exercise differs from the others only
  there.
-/

set_option autoImplicit false

namespace Haaukins.Lab

open Exercise (LabExercise newExercise missingTagsErr duplicateTagErr unknownTagErr)
open Store (newTag)

/-- The kinds of resources. -/
inductive ResourceKind where
  | network
  | container
  | vm
  deriving DecidableEq

/-- The panic of a call on nil. -/
def nilDereference : String :=
  "runtime error: invalid memory address or nil pointer dereference"

/-- What Docker answers to the calls for one container of an exercise. -/
structure ContainerCalls where
  createContainer : Option String
  disconnectNetwork : Option String
  connectNetwork : Option String

/-- What VirtualBox answers to the calls for one machine: those of `GetCopy` up to the clone,
and those of the options. -/
structure CloneCalls where
  clone : Option String
  options : Option String

/-- A machine of an exercise. -/
inductive MachineCalls where
  | container (c : ContainerCalls)
  | vm (c : CloneCalls)

/-- What Docker and VirtualBox answer during a `Create`. -/
structure CreateCalls where
  container : Nat → ContainerCalls
  vm : Nat → CloneCalls

/-- What Docker answers in `NewNetwork`. -/
structure NetworkCalls where
  create : Option String
  info : Bool

/-- The port of a frontend, and the answers to the calls of `addFrontend`. -/
structure FrontendCalls where
  port : Nat
  hostIP : Option String
  vm : CloneCalls

/-- An exercise with its machines. -/
structure HeldExercise where
  exercise : LabExercise
  machines : List (Resource ResourceKind)

/-- What a lab holds. -/
structure LabResources where
  network : Resource ResourceKind
  exercises : List HeldExercise
  frontends : GoMap Nat (Resource ResourceKind)

/-- `docker.NewNetwork`. -/
def newNetwork (w : World ResourceKind) (c : NetworkCalls) :
    World ResourceKind × Except String (Resource ResourceKind) :=
  match c.create with
  | some err => (w, .error ("docker new network err " ++ err))
  | none =>
    let (n, w) := w.make .network
    -- Without the information on the network its subnet is read from nil.
    if c.info then (w, .ok n) else (w, .error nilDereference)

/-- `GetCopy`. -/
def getCopy (w : World ResourceKind) (c : CloneCalls) :
    World ResourceKind × Except String (Resource ResourceKind) :=
  match c.clone with
  | some err => (w, .error err)
  | none =>
    let (vm, w) := w.make .vm
    -- A clone whose options fail is not returned.
    match c.options with
    | some err => (w, .error err)
    | none => (w, .ok vm)

/-- The bodies of the loops of `Create`: `CreateContainer` and `Connect`, or `GetCopy`. -/
def createMachine (net : Bool) (w : World ResourceKind) :
    MachineCalls → World ResourceKind × Except String (Resource ResourceKind)
  | .container c =>
    match c.createContainer with
    | some err => (w, .error err)
    | none =>
      let (m, w) := w.make .container
      -- The container exists, and no later branch closes it.
      match c.disconnectNetwork with
      | some err => (w, .error err)
      | none =>
        if net then
          match c.connectNetwork with
          | some err => (w, .error err)
          | none => (w, .ok m)
        else (w, .error nilDereference)
  | .vm c => getCopy w c

/-- The machines that `Create` makes, in their order: the containers, and then the others. -/
def machineCalls (e : LabExercise) (c : CreateCalls) : List MachineCalls :=
  (List.range e.containerOpts.length).map (fun i => .container (c.container i)) ++
    (List.range e.vboxOpts.length).map fun i => .vm (c.vm i)

namespace HeldExercise

variable (w : World ResourceKind) (e : HeldExercise)

/-- `exercise.Create`. -/
def create (c : CreateCalls) : World ResourceKind × HeldExercise × Option String :=
  match w.makeAll (createMachine e.exercise.net) [] (machineCalls e.exercise c) with
  -- The machines made so far were in a local variable.
  | (w, .error err) => (w, e, some err)
  | (w, .ok machines) => (w, { e with machines := machines }, none)

/-- `exercise.Close`. It logs the errors of the machines. -/
def close (closeErr : Resource ResourceKind → Option String) :
    World ResourceKind × HeldExercise :=
  (w.closeAll closeErr e.machines, { e with machines := [] })

/-- `exercise.Reset`, up to `Start`. -/
def reset (closeErr : Resource ResourceKind → Option String) (c : CreateCalls) :
    World ResourceKind × HeldExercise × Option String :=
  let (w, e) := e.close w closeErr
  e.create w c

end HeldExercise

/-- `environment.Add`, on the exercises of the environment. -/
def addExercises (newFlag : String → Nat → Nat → String) (c : String → CreateCalls) :
    World ResourceKind → List HeldExercise → List Store.Exercise →
      World ResourceKind × List HeldExercise × Option String
  | w, es, [] => (w, es, none)
  | w, es, conf :: confs =>
    if conf.tag = "" then (w, es, some missingTagsErr)
    else if conf.tag ∈ es.map fun e => e.exercise.tag then (w, es, some duplicateTagErr)
    else
      let e : HeldExercise := { exercise := newExercise (newFlag conf.tag) conf, machines := [] }
      if conf.static then addExercises newFlag c w (es ++ [e]) confs
      else
        match e.create w (c conf.tag) with
        | (w, _, some err) => (w, es, some err)
        | (w, e, none) => addExercises newFlag c w (es ++ [e]) confs

/-- `environment.ResetByTag` for a valid tag, on the exercises of the environment. -/
def resetExercise (t : String) (closeErr : Resource ResourceKind → Option String)
    (c : CreateCalls) (w : World ResourceKind) :
    List HeldExercise → World ResourceKind × List HeldExercise × Option String
  | [] => (w, [], some unknownTagErr)
  | e :: es =>
    if e.exercise.tag = t then
      let (w, e, err) := e.reset w closeErr c
      (w, e :: es, err)
    else
      let (w, es, err) := resetExercise t closeErr c w es
      (w, e :: es, err)

/-- The loop of `NewLab` over the frontends, with the map of those before. -/
def addFrontends : World ResourceKind → GoMap Nat (Resource ResourceKind) → List FrontendCalls →
    World ResourceKind × Except String (GoMap Nat (Resource ResourceKind))
  | w, frontends, [] => (w, .ok frontends)
  | w, frontends, f :: fs =>
    match f.hostIP with
    | some err => (w, .error err)
    | none =>
      match getCopy w f.vm with
      | (w, .error err) => (w, .error err)
      -- A frontend with the port of an earlier one takes its place.
      | (w, .ok vm) => addFrontends w (frontends.set f.port vm) fs

/-- What Docker and VirtualBox answer during a `NewLab`. -/
structure NewLabCalls where
  network : NetworkCalls
  exercises : String → CreateCalls
  frontends : List FrontendCalls

/-- `LabHost.NewLab`, for the exercises of the host. -/
def newLab (newFlag : String → Nat → Nat → String) (exercises : List Store.Exercise)
    (c : NewLabCalls) (w : World ResourceKind) :
    World ResourceKind × Except String LabResources :=
  match newNetwork w c.network with
  | (w, .error err) => (w, .error ("new environment create err " ++ err ++ " "))
  | (w, .ok network) =>
    match addExercises newFlag c.exercises w [] exercises with
    -- The network and the exercises are dropped with the environment.
    | (w, _, some err) => (w, .error ("new environment add err " ++ err ++ " "))
    | (w, held, none) =>
      match addFrontends w ∅ c.frontends with
      | (w, .error err) => (w, .error err)
      | (w, .ok frontends) =>
        (w, .ok { network := network, exercises := held, frontends := frontends })

/-- The machines of the exercises. -/
def machinesOf (es : List HeldExercise) : List (Resource ResourceKind) :=
  es.flatMap HeldExercise.machines

/-- What `lab.Close` closes. -/
def LabResources.held (l : LabResources) : List (Resource ResourceKind) :=
  l.network :: machinesOf l.exercises ++ l.frontends.values

/-- The resources that exist, and the lab when there is one. -/
structure LabState where
  world : World ResourceKind
  lab : Option LabResources

/-- The operations on a lab. -/
inductive LabAction where
  | newLab (exercises : List Store.Exercise) (c : NewLabCalls)
  | addChallenge (confs : List Store.Exercise) (c : String → CreateCalls)
  | resetByTag (tag : String) (closeErr : Resource ResourceKind → Option String)
    (c : CreateCalls)

namespace LabState

variable (s : LabState)

/-- What the lab holds, and nothing without a lab. -/
def holders : List (Resource ResourceKind) := s.lab.elim [] LabResources.held

/-- Each resource that exists is held by the lab. -/
def Accounted : Prop := s.world.Accounted s.holders

end LabState

/-- The life of a lab. -/
def labResources (newFlag : String → Nat → Nat → String) : Machine LabState LabAction where
  init s := s.world.live = [] ∧ s.lab = none
  step s
    | .newLab exercises c =>
      match s.lab with
      | some _ => none
      | none =>
        let (w, r) := newLab newFlag exercises c s.world
        some { world := w, lab := r.toOption }
    | .addChallenge confs c =>
      s.lab.map fun l =>
        let (w, es, _) := addExercises newFlag c s.world l.exercises confs
        { world := w, lab := some { l with exercises := es } }
    | .resetByTag tag closeErr c =>
      s.lab.map fun l =>
        match newTag tag with
        | .error _ => s
        | .ok t =>
          let (w, es, _) := resetExercise t closeErr c s.world l.exercises
          { world := w, lab := some { l with exercises := es } }

/-! ### When nothing is lost -/

/-- All calls for the machine succeed. -/
def MachineCalls.Succeeds (net : Bool) : MachineCalls → Prop
  | .container c =>
    c.createContainer = none ∧ c.disconnectNetwork = none ∧ net = true ∧ c.connectNetwork = none
  | .vm c => c.clone = none ∧ c.options = none

/-- The first call for the machine fails, before the machine exists. -/
def MachineCalls.MakesNothing : MachineCalls → Prop
  | .container c => c.createContainer ≠ none
  | .vm c => c.clone ≠ none

/-- `Create` makes all its machines. -/
def Creates (e : LabExercise) (c : CreateCalls) : Prop :=
  ∀ m ∈ machineCalls e c, m.Succeeds e.net

/-- `Create` makes all its machines, or none. -/
def CreatesAllOrNone (e : LabExercise) (c : CreateCalls) : Prop :=
  World.Lossless (MachineCalls.Succeeds e.net) MachineCalls.MakesNothing (machineCalls e c)

/-- `Add` succeeds: the tags are new, and the machines of all exercises are made. -/
def Adds (newFlag : String → Nat → Nat → String) (c : String → CreateCalls) :
    List String → List Store.Exercise → Prop
  | _, [] => True
  | tags, conf :: confs =>
    conf.tag ≠ "" ∧ conf.tag ∉ tags ∧
      (conf.static = false → Creates (newExercise (newFlag conf.tag) conf) (c conf.tag)) ∧
      Adds newFlag c (tags ++ [conf.tag]) confs

/-- Each exercise that `Add` gets to has all its machines made, or none. -/
def AddsLossless (newFlag : String → Nat → Nat → String) (c : String → CreateCalls) :
    List String → List Store.Exercise → Prop
  | _, [] => True
  | tags, conf :: confs =>
    conf.tag ≠ "" → conf.tag ∉ tags →
      let e := newExercise (newFlag conf.tag) conf
      (conf.static = false → CreatesAllOrNone e (c conf.tag)) ∧
        ((conf.static = false → Creates e (c conf.tag)) →
          AddsLossless newFlag c (tags ++ [conf.tag]) confs)

/-- All calls for the frontend succeed. -/
def FrontendCalls.Succeeds (f : FrontendCalls) : Prop :=
  f.hostIP = none ∧ f.vm.clone = none ∧ f.vm.options = none

/-- The step loses no resource. `NewLab` makes nothing, or all of the lab with frontends on
different ports. `AddChallenge` makes each exercise that it gets to in full, or none of it. A
reset closes all machines, and makes all new ones, or none. -/
def Lossless (newFlag : String → Nat → Nat → String) (s : LabState) : LabAction → Prop
  | .newLab exercises c => c.network.create = none →
      c.network.info = true ∧ Adds newFlag c.exercises [] exercises ∧
        (∀ f ∈ c.frontends, f.Succeeds) ∧ (c.frontends.map FrontendCalls.port).Nodup
  | .addChallenge confs c => ∀ l, s.lab = some l →
      AddsLossless newFlag c (l.exercises.map fun e => e.exercise.tag) confs
  | .resetByTag tag closeErr c => ∀ l t, s.lab = some l → newTag tag = .ok t →
      ∀ e, l.exercises.find? (fun e => e.exercise.tag = t) = some e →
        (∀ m ∈ e.machines, closeErr m = none) ∧ CreatesAllOrNone e.exercise c

/-! ### What each function makes -/

variable {newFlag : String → Nat → Nat → String} {w : World ResourceKind}

/-- Creating a machine leaves nothing behind when it fails. -/
theorem createMachine_steps (net : Bool) :
    World.Steps (createMachine net) (MachineCalls.Succeeds net) MachineCalls.MakesNothing where
  handsOver := by
    rintro (c | c) h w
    · obtain ⟨hcreate, hdisconnect, hnet, hconnect⟩ := h
      exact ⟨.container, by simp [createMachine, hcreate, hdisconnect, hnet, hconnect]⟩
    · exact ⟨.vm, by simp [createMachine, getCopy, h.1, h.2]⟩
  fails := by
    rintro (c | c) h w
    · obtain ⟨err, hcreate⟩ := Option.ne_none_iff_exists'.mp h
      exact ⟨err, by simp [createMachine, hcreate]⟩
    · obtain ⟨err, hclone⟩ := Option.ne_none_iff_exists'.mp h
      exact ⟨err, by simp [createMachine, getCopy, hclone]⟩
  loses := by
    rintro (⟨create, disconnect, connect⟩ | ⟨clone, options⟩) hfails hmade w
    · -- The container exists. Docker fails on one of its networks, or there is no network.
      obtain rfl : create = none := not_not.mp hmade
      refine ⟨.container, ?_⟩
      cases disconnect with
      | some err => exact ⟨err, rfl⟩
      | none =>
        cases net with
        | false => exact ⟨nilDereference, rfl⟩
        | true =>
          cases connect with
          | some err => exact ⟨err, rfl⟩
          | none => exact absurd ⟨rfl, rfl, rfl, rfl⟩ hfails
    · obtain rfl : clone = none := not_not.mp hmade
      cases options with
      | some err => exact ⟨.vm, err, rfl⟩
      | none => exact absurd ⟨rfl, rfl⟩ hfails

namespace HeldExercise

/-- What `Create` makes is in the exercise after a success, and nowhere after an error. -/
theorem create_spec (w : World ResourceKind) (e : HeldExercise) (c : CreateCalls) :
    ∃ new, World.Grew w (e.create w c).1 new ∧
      (Creates e.exercise c → (e.create w c).2 = ({ e with machines := new }, none)) ∧
      (¬ Creates e.exercise c → (∃ err, (e.create w c).2 = (e, some err)) ∧
        (new = [] ↔ CreatesAllOrNone e.exercise c)) := by
  obtain ⟨new, hgrew, hok, herr⟩ :=
    World.makeAll_spec (createMachine_steps e.exercise.net) [] (machineCalls e.exercise c) w
  unfold create
  generalize w.makeAll (createMachine e.exercise.net) [] (machineCalls e.exercise c) = r
    at hgrew hok herr
  obtain ⟨w', result⟩ := r
  by_cases hcreates : Creates e.exercise c
  · obtain rfl : result = .ok new := hok hcreates
    exact ⟨new, hgrew, fun _ => rfl, fun h => absurd hcreates h⟩
  · obtain ⟨⟨err, hfailed⟩, hnothing⟩ := herr hcreates
    obtain rfl : result = .error err := hfailed
    exact ⟨new, hgrew, fun h => absurd h hcreates, fun _ => ⟨⟨err, rfl⟩, hnothing⟩⟩

end HeldExercise

/-- The machines of two lists of exercises. -/
@[simp] theorem machinesOf_append (es es' : List HeldExercise) :
    machinesOf (es ++ es') = machinesOf es ++ machinesOf es' :=
  List.flatMap_append

/-- The machines of the first exercise and of the rest. -/
@[simp] theorem machinesOf_cons (e : HeldExercise) (es : List HeldExercise) :
    machinesOf (e :: es) = e.machines ++ machinesOf es := rfl

/-- `Add` gives a part of what it makes to the new exercises. The other part is empty exactly
when each exercise that it gets to is made in full or not at all. -/
theorem addExercises_spec (newFlag : String → Nat → Nat → String) (c : String → CreateCalls)
    (confs : List Store.Exercise) (w : World ResourceKind) (es : List HeldExercise) :
    ∃ kept lost,
      World.Grew w (addExercises newFlag c w es confs).1 (kept ++ lost) ∧
      machinesOf (addExercises newFlag c w es confs).2.1 = machinesOf es ++ kept ∧
      (lost = [] ↔ AddsLossless newFlag c (es.map fun e => e.exercise.tag) confs) ∧
      ((addExercises newFlag c w es confs).2.2 = none ↔
        Adds newFlag c (es.map fun e => e.exercise.tag) confs) := by
  -- Induction on the exercises that are added. `es` grows by each that succeeds.
  induction confs generalizing w es with
  | nil => exact ⟨[], [], .refl w, by simp [addExercises], by simp [AddsLossless], by
      simp [addExercises, Adds]⟩
  | cons conf confs ih =>
    rw [addExercises, AddsLossless, Adds]
    -- An invalid tag ends the loop before anything is made.
    by_cases htag : conf.tag = ""
    · rw [if_pos htag]
      exact ⟨[], [], .refl w, by simp, by simp [htag], by simp [htag]⟩
    rw [if_neg htag]
    by_cases hdup : conf.tag ∈ es.map fun e => e.exercise.tag
    · rw [if_pos hdup]
      exact ⟨[], [], .refl w, by simp, by simp only [hdup]; simp, by simp only [hdup]; simp⟩
    rw [if_neg hdup]
    have hpush : ∀ machines, (es ++ [({
        exercise := newExercise (newFlag conf.tag) conf, machines := machines } :
          HeldExercise)]).map (fun e => e.exercise.tag) =
        es.map (fun e => e.exercise.tag) ++ [conf.tag] := by
      intro machines
      rw [List.map_append]
      rfl
    cases hstatic : conf.static with
    | true =>
      -- A static exercise joins without machines.
      obtain ⟨kept, lost, hgrew, hmachines, hlost, herr⟩ := ih w
        (es ++ [{ exercise := newExercise (newFlag conf.tag) conf, machines := [] }])
      rw [hpush] at hlost herr
      refine ⟨kept, lost, hgrew, ?_, ?_, ?_⟩
      · simpa [machinesOf] using hmachines
      · simpa [htag, hdup] using hlost
      · simpa [htag, hdup] using herr
    | false =>
      obtain ⟨new, hnew, hok, hfailed⟩ := HeldExercise.create_spec w
        { exercise := newExercise (newFlag conf.tag) conf, machines := [] } (c conf.tag)
      simp only [Bool.false_eq_true, if_false, forall_const, htag, hdup, not_false_eq_true,
        ne_eq, true_and]
      generalize HeldExercise.create w
        { exercise := newExercise (newFlag conf.tag) conf, machines := [] } (c conf.tag) = r
        at hnew hok hfailed ⊢
      obtain ⟨w', r⟩ := r
      by_cases hcreates : Creates (newExercise (newFlag conf.tag) conf) (c conf.tag)
      · obtain rfl := hok hcreates
        obtain ⟨kept, lost, hgrew, hmachines, hlost, herr⟩ := ih w'
          (es ++ [{ exercise := newExercise (newFlag conf.tag) conf, machines := new }])
        rw [hpush] at hlost herr
        refine ⟨new ++ kept, lost, ?_, ?_, ?_, ?_⟩
        · rw [List.append_assoc]
          exact hnew.trans hgrew
        · rw [hmachines, machinesOf_append, List.append_assoc]
          simp [machinesOf]
        · rw [hlost]
          exact ⟨fun h => ⟨.inl hcreates, fun _ => h⟩, fun h => h.2 hcreates⟩
        · rw [herr]
          exact ⟨fun h => ⟨hcreates, h⟩, fun h => h.2⟩
      · obtain ⟨⟨err, rfl⟩, hnothing⟩ := hfailed hcreates
        refine ⟨[], new, hnew, by simp, ?_, ?_⟩
        · rw [hnothing]
          exact ⟨fun h => ⟨h, fun h => absurd h hcreates⟩, fun h => h.1⟩
        · exact iff_of_false nofun fun h => hcreates h.1

/-- What `Add` does without an error loses nothing. -/
theorem Adds.lossless {c : String → CreateCalls} {confs : List Store.Exercise} :
    ∀ {tags : List String}, Adds newFlag c tags confs → AddsLossless newFlag c tags confs := by
  induction confs with
  | nil => exact fun _ => trivial
  | cons conf confs ih =>
    intro tags h _ _
    obtain ⟨_, _, hcreates, hrest⟩ := h
    exact ⟨fun hstatic => .inl (hcreates hstatic), fun _ => ih hrest⟩

/-- A copy without a failing call makes one machine. -/
theorem getCopy_of_succeeds {c : CloneCalls} (hclone : c.clone = none)
    (hoptions : c.options = none) :
    getCopy w c = ((w.make .vm).2, .ok (w.make .vm).1) := by
  simp [getCopy, hclone, hoptions]

/-- A `GetCopy` that fails makes at most its machine, and does not hand it over. -/
theorem getCopy_error {c : CloneCalls} (h : ¬ (c.clone = none ∧ c.options = none)) :
    ∃ new err, World.Grew w (getCopy w c).1 new ∧ (getCopy w c).2 = .error err := by
  obtain ⟨clone, options⟩ := c
  cases clone with
  | some err => exact ⟨[], err, .refl w, rfl⟩
  | none =>
    cases options with
    | some err => exact ⟨_, err, World.grew_make w .vm, rfl⟩
    | none => exact absurd ⟨rfl, rfl⟩ h

/-- When all calls succeed, the machines of the frontends are entered under their ports. -/
theorem addFrontends_of_succeeds (fs : List FrontendCalls) (hfs : ∀ f ∈ fs, f.Succeeds)
    (w : World ResourceKind) (frontends : GoMap Nat (Resource ResourceKind)) :
    ∃ new, World.Grew w (addFrontends w frontends fs).1 new ∧ new.length = fs.length ∧
      (addFrontends w frontends fs).2 = .ok
        ((fs.zip new).foldl (fun m x => m.set x.1.port x.2) frontends) := by
  induction fs generalizing w frontends with
  | nil => exact ⟨[], .refl w, rfl, rfl⟩
  | cons f fs ih =>
    obtain ⟨⟨hhost, hclone, hoptions⟩, hfs⟩ := List.forall_mem_cons.mp hfs
    obtain ⟨new, hgrew, hlength, hok⟩ := ih hfs (w.make .vm).2
      (frontends.set f.port (w.make .vm).1)
    simp only [addFrontends, hhost, getCopy_of_succeeds hclone hoptions]
    exact ⟨_, (World.grew_make w .vm).trans hgrew, by simp [hlength], hok⟩

/-- One failing frontend fails the whole list. -/
theorem addFrontends_error (fs : List FrontendCalls) (hfs : ¬ ∀ f ∈ fs, f.Succeeds)
    (w : World ResourceKind) (frontends : GoMap Nat (Resource ResourceKind)) :
    ∃ new err, World.Grew w (addFrontends w frontends fs).1 new ∧
      (addFrontends w frontends fs).2 = .error err := by
  induction fs generalizing w frontends with
  | nil => exact absurd (by simp) hfs
  | cons f fs ih =>
    rw [addFrontends]
    cases hhost : f.hostIP with
    | some err => exact ⟨[], err, .refl w, rfl⟩
    | none =>
      by_cases hvm : f.vm.clone = none ∧ f.vm.options = none
      · have hrest : ¬ ∀ f ∈ fs, f.Succeeds := fun h =>
          hfs (List.forall_mem_cons.mpr ⟨⟨hhost, hvm⟩, h⟩)
        obtain ⟨new, err, hgrew, herr⟩ := ih hrest (w.make .vm).2
          (frontends.set f.port (w.make .vm).1)
        rw [getCopy_of_succeeds hvm.1 hvm.2]
        exact ⟨_, err, (World.grew_make w .vm).trans hgrew, herr⟩
      · obtain ⟨new, err, hgrew, herr⟩ := getCopy_error (w := w) hvm
        generalize getCopy w f.vm = r at hgrew herr
        obtain ⟨w', r⟩ := r
        obtain rfl : r = .error err := herr
        exact ⟨new, err, hgrew, rfl⟩


/-- After a loop over the frontends, all machines have their place in the map exactly when no
call fails and no port comes twice. With an error all that was made before has no holder. -/
theorem addFrontends_ownedIff {w₀ : World ResourceKind} {made : List (Resource ResourceKind)}
    (hw : w₀.Owned []) (hmade : World.Grew w₀ w made) (hne : made ≠ [])
    (fs : List FrontendCalls) :
    (addFrontends w ∅ fs).1.OwnedIff
      ((addFrontends w ∅ fs).2.toOption.elim [] fun frontends => made ++ frontends.values)
      ((∀ f ∈ fs, f.Succeeds) ∧ (fs.map FrontendCalls.port).Nodup) := by
  by_cases hfs : ∀ f ∈ fs, f.Succeeds
  · obtain ⟨new, hgrew, hlength, hok⟩ := addFrontends_of_succeeds fs hfs w ∅
    rw [hok]
    have hports : (fs.zip new).map (fun x => x.1.port) = fs.map FrontendCalls.port := by
      conv_rhs => rw [← List.map_fst_zip hlength.ge, List.map_map]
      rfl
    have hvms : (fs.zip new).map Prod.snd = new := List.map_snd_zip hlength.le
    refine ⟨fun hcond => (hw.append (hmade.trans hgrew)).perm ?_, fun hcond => ?_⟩
    · have hvalues := GoMap.values_foldl_set_perm (fs.zip new) (fun x => x.1.port) Prod.snd ∅
        (hports ▸ hcond.2) (by simp)
      rw [hvms] at hvalues
      exact hvalues.symm.append_left made
    · -- A port that comes twice has one place for two machines.
      refine hw.not_accounted_of_length (hmade.trans hgrew) ?_
      have hlt := GoMap.size_foldl_set_lt (fs.zip new) (fun x => x.1.port) Prod.snd ∅
        (fun h => hcond ⟨hfs, hports ▸ h.1⟩)
      simpa [hlength] using hlt
  · obtain ⟨new, err, hgrew, hfailed⟩ := addFrontends_error fs hfs w ∅
    rw [hfailed]
    exact hw.ownedIff_nil (hmade.trans hgrew)
      (iff_of_false (by simp [hne]) fun h => hfs h.1)

/-- `NewLab` makes nothing, or a whole lab with frontends on different ports. Otherwise the
network at least is lost. -/
theorem newLab_ownedIff (exercises : List Store.Exercise) (c : NewLabCalls)
    (hw : w.Owned []) :
    (newLab newFlag exercises c w).1.OwnedIff
      ((newLab newFlag exercises c w).2.toOption.elim [] LabResources.held)
      (c.network.create = none → c.network.info = true ∧ Adds newFlag c.exercises [] exercises ∧
        (∀ f ∈ c.frontends, f.Succeeds) ∧ (c.frontends.map FrontendCalls.port).Nodup) := by
  obtain ⟨⟨create, info⟩, calls, fs⟩ := c
  have hnetwork := World.grew_make w .network
  cases create with
  | some err => exact ⟨fun _ => hw, fun h => absurd nofun h⟩
  | none =>
    cases info with
    | false =>
      -- The network exists, and the result has no lab.
      exact hw.ownedIff_nil hnetwork (iff_of_false nofun fun h => nomatch (h rfl).1)
    | true =>
      obtain ⟨kept, lost, hadded, hmachines, hlost, herr⟩ :=
        addExercises_spec newFlag calls exercises (w.make .network).2 []
      simp only [newLab, newNetwork, if_true, true_and, forall_const]
      generalize addExercises newFlag calls (w.make .network).2 [] exercises = r
        at hadded hmachines herr ⊢
      obtain ⟨w', es, err⟩ := r
      cases err with
      | some err =>
        refine hw.ownedIff_nil (hnetwork.trans hadded) (iff_of_false nofun fun h => ?_)
        exact nomatch herr.mpr h.1
      | none =>
        have hadds : Adds newFlag calls [] exercises := herr.mp rfl
        obtain rfl : lost = [] := hlost.mpr hadds.lossless
        obtain rfl : machinesOf es = kept := hmachines
        rw [List.append_nil] at hadded
        have hframe := addFrontends_ownedIff hw (hnetwork.trans hadded) nofun fs
        dsimp only
        generalize addFrontends w' ∅ fs = r at hframe ⊢
        obtain ⟨w'', frontends | frontends⟩ := r
        · exact ⟨fun h => hframe.owned h.2, fun h => hframe.lost fun h' => h ⟨hadds, h'⟩⟩
        · exact ⟨fun h => hframe.owned h.2, fun h => hframe.lost fun h' => h ⟨hadds, h'⟩⟩

namespace HeldExercise

/-- A reset that cannot close a machine drops it. Otherwise it is a `Create`. -/
theorem reset_ownedIff (e : HeldExercise) (closeErr : Resource ResourceKind → Option String)
    (c : CreateCalls) {rest : List (Resource ResourceKind)}
    (hw : w.Owned (rest ++ e.machines)) :
    (e.reset w closeErr c).1.OwnedIff (rest ++ (e.reset w closeErr c).2.1.machines)
      ((∀ m ∈ e.machines, closeErr m = none) ∧ CreatesAllOrNone e.exercise c) := by
  obtain ⟨new, hgrew, hok, hfailed⟩ :=
    create_spec (w.closeAll closeErr e.machines) { e with machines := [] } c
  have hreset : e.reset w closeErr c =
      create (w.closeAll closeErr e.machines) { e with machines := [] } c := rfl
  rw [hreset]
  generalize create (w.closeAll closeErr e.machines) { e with machines := [] } c = r
    at hgrew hok hfailed ⊢
  obtain ⟨w', r⟩ := r
  -- The new machines are the ones of the exercise, or they are lost.
  obtain ⟨kept, lost, hkept, hall, hlost⟩ : ∃ kept lost, r.1.machines = kept ∧
      kept ++ lost = new ∧ (lost = [] ↔ CreatesAllOrNone e.exercise c) := by
    by_cases hcreates : Creates e.exercise c
    · obtain rfl := hok hcreates
      exact ⟨new, [], rfl, List.append_nil new, iff_of_true rfl (.inl hcreates)⟩
    · obtain ⟨⟨err, herr⟩, hnothing⟩ := hfailed hcreates
      obtain rfl := herr
      exact ⟨[], new, rfl, rfl, hnothing⟩
  subst hkept hall
  by_cases hclose : ∀ m ∈ e.machines, closeErr m = none
  · exact (hw.closeAll hclose).ownedIff hgrew
      (hlost.trans (and_iff_right hclose).symm)
  · obtain ⟨m, hm, hopen⟩ := not_forall₂.mp hclose
    exact ⟨fun h => absurd h.1 hclose, fun _ =>
      hw.not_accounted_closeAll hm hopen hgrew (List.subset_append_left _ _)⟩

end HeldExercise

/-- An unknown tag resets nothing. -/
theorem resetExercise_of_unknown {t : String} {closeErr : Resource ResourceKind → Option String}
    {c : CreateCalls} {es : List HeldExercise} (h : ∀ e ∈ es, e.exercise.tag ≠ t) :
    resetExercise t closeErr c w es = (w, es, some unknownTagErr) := by
  induction es with
  | nil => rfl
  | cons e es ih =>
    obtain ⟨he, hes⟩ := List.forall_mem_cons.mp h
    rw [resetExercise, if_neg he, ih hes]

/-- The first exercise with the tag is reset. -/
theorem resetExercise_append {t : String} {closeErr : Resource ResourceKind → Option String}
    {c : CreateCalls} {before after : List HeldExercise} {e : HeldExercise}
    (hbefore : ∀ e ∈ before, e.exercise.tag ≠ t) (he : e.exercise.tag = t) :
    resetExercise t closeErr c w (before ++ e :: after) =
      ((e.reset w closeErr c).1, before ++ (e.reset w closeErr c).2.1 :: after,
        (e.reset w closeErr c).2.2) := by
  induction before with
  | nil =>
    rw [List.nil_append, resetExercise, if_pos he]
    rfl
  | cons b before ih =>
    obtain ⟨hb, hbefore⟩ := List.forall_mem_cons.mp hbefore
    rw [List.cons_append, resetExercise, if_neg hb, ih hbefore]
    rfl

/-- What the lab holds beside `rest`, with the machines of one exercise at the end. -/
theorem held_perm (l : LabResources) (before after : List HeldExercise) (e : HeldExercise)
    (rest : List (Resource ResourceKind)) :
    (({ l with exercises := before ++ e :: after } : LabResources).held ++ rest).Perm
      (({ l with exercises := before ++ after } : LabResources).held ++ rest ++ e.machines) := by
  refine List.perm_iff_count.mpr fun r => ?_
  simp only [LabResources.held, machinesOf_append, machinesOf_cons, List.count_append,
    List.count_cons]
  omega

namespace LabState

variable {s t : LabState} {a : LabAction}

/-- A step loses nothing exactly under its condition, whatever else there is beside the lab. -/
theorem step_ownedIff_append (rest : List (Resource ResourceKind))
    (hw : s.world.Owned (s.holders ++ rest)) (hs : s.lab = none → rest = [])
    (hstep : (labResources newFlag).step s a = some t) :
    t.world.OwnedIff (t.holders ++ rest) (Lossless newFlag s a) := by
  obtain ⟨w, lab⟩ := s
  cases a with
  | newLab exercises c =>
    cases lab with
    | some l => cases hstep
    | none =>
      cases hstep
      obtain rfl := hs rfl
      rw [List.append_nil]
      exact newLab_ownedIff exercises c hw
  | addChallenge confs c =>
    cases lab with
    | none => cases hstep
    | some l =>
      cases hstep
      obtain ⟨kept, lost, hgrew, hmachines, hlost, -⟩ :=
        addExercises_spec newFlag c confs w l.exercises
      refine (World.Owned.ownedIff hw hgrew (hlost.trans ?_)).perm ?_
      · simp [Lossless]
      · refine List.perm_iff_count.mpr fun r => ?_
        simp only [holders, Option.elim, LabResources.held, hmachines, List.count_append,
          List.count_cons]
        omega
  | resetByTag tag closeErr c =>
    cases lab with
    | none => cases hstep
    | some l =>
      simp only [labResources, Option.map_some, Option.some.injEq] at hstep
      subst hstep
      cases htag : newTag tag with
      | error err => exact ⟨fun _ => hw, fun hcond => absurd (by simp [Lossless, htag]) hcond⟩
      | ok t =>
        cases hfind : l.exercises.find? fun e => e.exercise.tag = t with
        -- An unknown tag makes nothing and closes nothing.
        | none =>
          have hunknown : ∀ e ∈ l.exercises, e.exercise.tag ≠ t := by
            simpa using List.find?_eq_none.mp hfind
          simp only [resetExercise_of_unknown hunknown]
          exact ⟨fun _ => hw, fun hcond => absurd (by simp [Lossless, htag, hfind]) hcond⟩
        | some e =>
          obtain ⟨he, before, after, hes, hbefore⟩ := List.find?_eq_some_iff_append.mp hfind
          have hbefore : ∀ e ∈ before, e.exercise.tag ≠ t := by simpa using hbefore
          have he : e.exercise.tag = t := by simpa using he
          obtain ⟨network, es, frontends⟩ := l
          obtain rfl : es = before ++ e :: after := hes
          -- The machines of the exercise stand at the end, for the lemma about one exercise.
          have hperm := fun e => held_perm ⟨network, [], frontends⟩ before after e rest
          simp only [resetExercise_append hbefore he]
          have hreset := e.reset_ownedIff closeErr c (hw.perm (hperm e))
          refine (hreset.perm (hperm _).symm).congr ?_
          simp [Lossless, htag, hfind]

/-- A step loses nothing exactly under its condition. -/
theorem step_ownedIff (h : s.world.Owned s.holders)
    (hstep : (labResources newFlag).step s a = some t) :
    t.world.OwnedIff t.holders (Lossless newFlag s a) := by
  rw [← List.append_nil s.holders] at h
  rw [← List.append_nil t.holders]
  exact step_ownedIff_append [] h (fun _ => rfl) hstep

end LabState

/-- Along a run each resource that exists is held by the lab if and only if no step fails after a
part of its work, closes only a part of the machines, or enters two frontends under one port. -/
theorem labResources_accounted_iff {s : LabState} (hs : (labResources newFlag).init s)
    (as : List LabAction) :
    (labResources newFlag).AllStates LabState.Accounted s as ↔
      (labResources newFlag).AllSteps (Lossless newFlag) s as := by
  have hinit : s.world.Owned s.holders := by
    obtain ⟨hlive, hlab⟩ := hs
    rw [LabState.holders, hlab]
    exact World.owned_nil hlive
  exact Machine.allStates_iff_allSteps (I := fun s => s.world.Owned s.holders)
    (A := fun _ _ => True) (fun _ h => h.accounted)
    (fun _ _ _ h _ hok hstep => (LabState.step_ownedIff h hstep).owned hok)
    (fun _ _ _ h _ hnot hstep => (LabState.step_ownedIff h hstep).lost hnot) hinit
    Machine.allSteps_true

/-- Nothing exists yet. -/
def noLab : LabState := { world := { made := 0, live := [] }, lab := none }

/-- An exercise with one virtual machine. -/
def vmExercise : Store.Exercise :=
  { tag := "sql", static := false, instances := [{ image := "sql.ova", flags := [] }] }

/-- A `NewLab` with two frontends, whose exercises get the answers `c`. -/
def labCalls (c : CreateCalls) : NewLabCalls where
  network := { create := none, info := true }
  exercises _ := c
  frontends := [⟨5000, none, ⟨none, none⟩⟩, ⟨5001, none, ⟨none, none⟩⟩]

/-- All calls succeed. -/
def workingCalls : CreateCalls where
  container _ := ⟨none, none, none⟩
  vm _ := ⟨none, none⟩

/-- The disk is full. -/
def failingCalls : CreateCalls where
  container _ := ⟨none, none, none⟩
  vm _ := ⟨some "disk full", none⟩

/-- A lab whose exercise is made is accounted for. -/
theorem labResources_accounted_working :
    (labResources fun _ _ _ => "HKN{0}").AllStates LabState.Accounted noLab
      [.newLab [vmExercise] (labCalls workingCalls)] := by
  refine (labResources_accounted_iff ⟨rfl, rfl⟩ _).mpr fun t _ => ⟨fun _ => ?_, trivial⟩
  have hmachines : machineCalls (newExercise (fun _ _ => "HKN{0}") vmExercise) workingCalls =
      [.vm ⟨none, none⟩] := rfl
  refine ⟨rfl, ⟨by decide, by decide, fun _ m hm => ?_, trivial⟩, fun f hf => ?_, by decide⟩
  · obtain rfl := List.mem_singleton.mp (hmachines ▸ hm)
    exact ⟨rfl, rfl⟩
  · simp only [labCalls, List.mem_cons, List.not_mem_nil, or_false] at hf
    obtain rfl | rfl := hf
    · exact ⟨rfl, rfl, rfl⟩
    · exact ⟨rfl, rfl, rfl⟩

/-- `NewLab` fails at the only machine of its exercise, and the network stays. -/
theorem newLab_loses_network :
    ¬ ∀ (newFlag : String → Nat → Nat → String) (s : LabState) (as : List LabAction),
      (labResources newFlag).init s →
        (labResources newFlag).AllStates LabState.Accounted s as := by
  intro h
  have hall := h (fun _ _ _ => "HKN{0}") noLab [.newLab [vmExercise] (labCalls failingCalls)]
    ⟨rfl, rfl⟩
  obtain ⟨t, hlost, haccounted⟩ := hall.of_run
    (fun t => (t.world.live, t.holders)) ([⟨.network, 0⟩], []) (by decide)
  obtain ⟨hlive, hholders⟩ := Prod.mk.inj hlost
  have hheld := haccounted ⟨.network, 0⟩ (by rw [hlive]; exact List.mem_cons_self)
  rw [hholders] at hheld
  cases hheld

end Haaukins.Lab
