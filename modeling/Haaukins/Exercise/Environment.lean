import Mathlib.Data.List.Infix
import Haaukins.Store.Exercise

/-!
# `Haaukins.Exercise.Environment`: the exercises of a lab (`exercise/environment.go`)

An `Environment` has the exercises of one lab with the states of their machines. The map
`tags` and the list `exercises` of the source hold the same pointers, so the model has the list
alone. Its field `distinct` is what `Add` checks before it enters a tag into the map.

* The calls to Docker and VirtualBox succeed, and so do the servers for DHCP and DNS.
* `Create` on a static exercise has no network: when the exercise has containers, the call on
  the nil network ends the process, and the result is `none`.
* `Add` stops at the first exercise that it refuses and keeps the ones before it.
-/

set_option autoImplicit false

namespace Haaukins.Exercise

open Store (Challenge ContainerOptions ExerciseInstanceConfig newTag validateTag)

/-- `DuplicateTagErr`. -/
def duplicateTagErr : String := "Tag already exists"

/-- `MissingTagsErr`. -/
def missingTagsErr : String := "No tags, need atleast one tag"

/-- `UnknownTagErr`. -/
def unknownTagErr : String := "Unknown tag"

/-- `OvaSuffix`. -/
def ovaSuffix : String := ".ova"

/-- `virtual.State` of a machine. -/
inductive InstanceState where
  | running
  | stopped
  | suspended
  | error
  deriving DecidableEq, Repr

/-- `exercise`. -/
structure LabExercise where
  tag : String
  containerOpts : List ContainerOptions
  vboxOpts : List ExerciseInstanceConfig
  /-- `net` is not nil. -/
  net : Bool
  machines : List InstanceState
  deriving DecidableEq

/-- `strings.Contains(c.Image, OvaSuffix)`. -/
def isOva (c : ExerciseInstanceConfig) : Bool := ovaSuffix.toList <:+: c.image.toList

/-- `NewExercise`. The loop over the instances stops at the first container, and takes the
options of all instances then. -/
def newExercise (newFlag : Nat → Nat → String) (conf : Store.Exercise) : LabExercise where
  tag := conf.tag
  containerOpts := if conf.instances.all isOva then [] else conf.containerOpts newFlag
  vboxOpts := if conf.static then [] else conf.instances.takeWhile isOva
  net := !conf.static
  machines := []

namespace LabExercise

variable (e : LabExercise)

/-- The number of machines that `Create` makes. -/
def size : Nat := e.containerOpts.length + e.vboxOpts.length

/-- `Create` makes the machines, and starts none. -/
def create : Option LabExercise :=
  if !e.net && !e.containerOpts.isEmpty then none
  else some { e with machines := List.replicate e.size .stopped }

/-- `Start`. -/
def start : LabExercise :=
  { e with machines := e.machines.map fun state =>
      if state ≠ .running then .running else state }

/-- `Stop`. -/
def stop : LabExercise := { e with machines := e.machines.map fun _ => .stopped }

/-- `Reset`: `Close`, `Create` and `Start`. -/
def reset : Option LabExercise := ({ e with machines := [] } : LabExercise).create.map start

/-- `Challenges`. -/
def challenges : List Challenge :=
  e.containerOpts.flatMap ContainerOptions.challenges ++
    e.vboxOpts.flatMap fun opt => opt.flags.map fun f => { tag := f.tag, value := f.staticFlag }

/-- `Start` keeps the tag. -/
theorem start_tag : e.start.tag = e.tag := rfl

/-- `Stop` keeps the tag. -/
theorem stop_tag : e.stop.tag = e.tag := rfl

variable {e} {e' : LabExercise}

/-- `Create` makes the machines and leaves the rest. -/
theorem create_eq_some (h : e.create = some e') :
    e' = { e with machines := List.replicate e.size .stopped } := by
  unfold create at h
  split at h
  · cases h
  · exact (Option.some.inj h).symm

/-- After `Reset` all machines of the exercise run. -/
theorem reset_eq_some (h : e.reset = some e') :
    e' = { e with machines := List.replicate e.size .running } := by
  obtain ⟨created, hcreate, rfl⟩ := Option.map_eq_some_iff.mp h
  obtain rfl := create_eq_some hcreate
  simp [start, size]

/-- `Reset` keeps the tag, also when it fails. -/
theorem reset_getD_tag (e : LabExercise) : (e.reset.getD e).tag = e.tag := by
  cases hreset : e.reset with
  | none => rfl
  | some e' =>
    obtain rfl := reset_eq_some hreset
    rfl

end LabExercise

/-- `environment`. -/
structure Environment where
  exercises : List LabExercise
  disabledExercises : List String
  distinct : (exercises.map LabExercise.tag).Nodup

namespace Environment

variable (ee : Environment)

/-- The keys of `ee.tags`. -/
def tags : List String := ee.exercises.map LabExercise.tag

/-- `NewEnvironment`. -/
def new : Environment := { exercises := [], disabledExercises := [], distinct := .nil }

/-- The exercise of a tag, `ee.tags[t]`. -/
def byTag (t : String) : Option LabExercise := ee.exercises.find? fun e => e.tag = t

/-- One more exercise, whose tag is new. -/
def push (e : LabExercise) (h : e.tag ∉ ee.tags) : Environment where
  exercises := ee.exercises ++ [e]
  disabledExercises := ee.disabledExercises
  distinct := by
    rw [List.map_append, List.nodup_append]
    refine ⟨ee.distinct, by simp, ?_⟩
    rintro tag htag tag' htag' rfl
    obtain rfl : tag = e.tag := by simpa using htag'
    exact h htag

/-- A method that keeps the tags runs on each exercise. -/
def mapExercises (f : LabExercise → LabExercise) (hf : ∀ e, (f e).tag = e.tag) : Environment where
  exercises := ee.exercises.map f
  disabledExercises := ee.disabledExercises
  distinct := by
    have htags : (ee.exercises.map f).map LabExercise.tag = ee.exercises.map LabExercise.tag := by
      rw [List.map_map]
      exact List.map_congr_left fun e _ => hf e
    rw [htags]
    exact ee.distinct

/-- A method that keeps the tags runs on the exercise of one tag. -/
def mapTag (t : String) (f : LabExercise → LabExercise) (hf : ∀ e, (f e).tag = e.tag) :
    Environment :=
  ee.mapExercises (fun e => if e.tag = t then f e else e) fun e => by
    split
    · exact hf e
    · rfl

/-- The exercise that `Add` makes of a configuration. A static one gets no machines. -/
def added (newFlag : String → Nat → Nat → String) (conf : Store.Exercise) : LabExercise :=
  let e := newExercise (newFlag conf.tag) conf
  if conf.static then e else { e with machines := List.replicate e.size .stopped }

/-- A new exercise has the tag of its configuration. -/
@[simp] theorem added_tag (newFlag : String → Nat → Nat → String) (conf : Store.Exercise) :
    (added newFlag conf).tag = conf.tag := by
  simp only [added]
  split <;> rfl

/-- `Add`, where `newFlag` gives the flags that are drawn for the children of each exercise. -/
def add (newFlag : String → Nat → Nat → String) :
    Environment → List Store.Exercise → Environment × Option String
  | ee, [] => (ee, none)
  | ee, conf :: confs =>
    if conf.tag = "" then (ee, some missingTagsErr)
    else if h : conf.tag ∈ ee.tags then (ee, some duplicateTagErr)
    else (ee.push (added newFlag conf) (by rwa [added_tag])).add newFlag confs

/-- `Start`, without the exercises that are disabled. -/
def start : Environment :=
  ee.mapExercises (fun e => if e.tag ∈ ee.disabledExercises then e else e.start) fun e => by
    split <;> rfl

/-- `Reset` of the environment. It resets the disabled exercises too, which then run. -/
def reset : Option Environment :=
  if ee.exercises.all fun e => e.reset.isSome then
    some (ee.mapExercises (fun e => e.reset.getD e) LabExercise.reset_getD_tag)
  else none

/-- `StartByTag`. -/
def startByTag (s : String) : Environment × Option String :=
  match newTag s with
  | .error err => (ee, some err)
  | .ok t =>
    if t ∈ ee.tags then (ee.mapTag t LabExercise.start LabExercise.start_tag, none)
    else (ee, some unknownTagErr)

/-- `StopByTag`. -/
def stopByTag (s : String) : Environment × Option String :=
  match newTag s with
  | .error err => (ee, some err)
  | .ok t =>
    if t ∈ ee.tags then (ee.mapTag t LabExercise.stop LabExercise.stop_tag, none)
    else (ee, some unknownTagErr)

/-- `ResetByTag`. -/
def resetByTag (s : String) : Option (Environment × Option String) :=
  match newTag s with
  | .error err => some (ee, some err)
  | .ok t =>
    match ee.byTag t with
    | none => some (ee, some unknownTagErr)
    | some e =>
      e.reset.map fun _ =>
        (ee.mapTag t (fun e => e.reset.getD e) LabExercise.reset_getD_tag, none)

/-- `Challenges`. -/
def challenges : List Challenge := ee.exercises.flatMap LabExercise.challenges

/-! ### The tags of an environment -/

/-- A new environment has no exercises. -/
@[simp] theorem tags_new : new.tags = [] := rfl

/-- An environment carries the proof that its tags are different. -/
theorem nodup_tags : ee.tags.Nodup := ee.distinct

/-- A new exercise comes last. -/
@[simp] theorem tags_push (e : LabExercise) (h : e.tag ∉ ee.tags) :
    (ee.push e h).tags = ee.tags ++ [e.tag] := by
  simp [push, tags]

/-- A change of the exercises that keeps their tags. -/
@[simp] theorem tags_mapExercises (f : LabExercise → LabExercise)
    (hf : ∀ e, (f e).tag = e.tag) : (ee.mapExercises f hf).tags = ee.tags := by
  rw [tags, mapExercises, List.map_map]
  exact List.map_congr_left fun e _ => hf e

/-- A change of one exercise that keeps its tag. -/
@[simp] theorem tags_mapTag (t : String) (f : LabExercise → LabExercise)
    (hf : ∀ e, (f e).tag = e.tag) : (ee.mapTag t f hf).tags = ee.tags :=
  ee.tags_mapExercises _ _

/-- `StartByTag` keeps the tags. -/
@[simp] theorem tags_startByTag (s : String) : (ee.startByTag s).1.tags = ee.tags := by
  unfold startByTag
  split
  · rfl
  · split <;> simp

variable {ee} {newFlag : String → Nat → Nat → String}

/-- `Add` enters the exercises before the first one that it refuses. -/
theorem add_cons_of_ok {conf : Store.Exercise} (hne : conf.tag ≠ "") (hnew : conf.tag ∉ ee.tags)
    (confs : List Store.Exercise) :
    ee.add newFlag (conf :: confs) =
      (ee.push (added newFlag conf) (by rwa [added_tag])).add newFlag confs := by
  rw [add, if_neg hne, dif_neg hnew]

/-- The tags after `Add`: those before the first exercise that it refuses. -/
def addTags : List String → List Store.Exercise → List String
  | tags, [] => tags
  | tags, conf :: confs =>
    if conf.tag = "" ∨ conf.tag ∈ tags then tags else addTags (tags ++ [conf.tag]) confs

/-- `Add` appends the new tags. -/
theorem tags_add_eq (confs : List Store.Exercise) :
    (ee.add newFlag confs).1.tags = addTags ee.tags confs := by
  induction confs generalizing ee with
  | nil => rfl
  | cons conf confs ih =>
    rw [add, addTags]
    split
    · next hempty => simp [hempty]
    split
    · next hmem => simp [hmem]
    · next hempty hmem =>
      rw [ih, if_neg (by simp [hempty, hmem])]
      simp

/-- No tag gets lost. -/
theorem subset_addTags (tags : List String) (confs : List Store.Exercise) :
    tags ⊆ addTags tags confs := by
  induction confs generalizing tags with
  | nil => exact List.Subset.refl _
  | cons conf confs ih =>
    rw [addTags]
    split
    · exact List.Subset.refl _
    · exact List.Subset.trans (List.subset_append_left _ _) (ih _)

/-- `Add` removes no exercise. -/
theorem tags_subset_add (confs : List Store.Exercise) :
    ee.tags ⊆ (ee.add newFlag confs).1.tags := by
  rw [tags_add_eq]
  exact subset_addTags _ _

/-- A second `Add` of the same exercises changes nothing. -/
theorem addTags_twice (tags : List String) (confs : List Store.Exercise) :
    addTags (addTags tags confs) confs = addTags tags confs := by
  cases confs with
  | nil => rfl
  | cons conf confs =>
    have hrefused : conf.tag = "" ∨ conf.tag ∈ addTags tags (conf :: confs) := by
      by_cases hold : conf.tag = "" ∨ conf.tag ∈ tags
      · exact hold.imp_right fun hmem => subset_addTags _ _ hmem
      · rw [addTags, if_neg hold]
        exact .inr (subset_addTags _ _ (by simp))
    generalize addTags tags (conf :: confs) = tags' at hrefused
    rw [addTags, if_pos hrefused]

/-- `Add` succeeds exactly when the new tags are not empty, pairwise different and new. -/
theorem add_eq_none_iff {confs : List Store.Exercise} :
    (ee.add newFlag confs).2 = none ↔
      (∀ c ∈ confs, c.tag ≠ "" ∧ c.tag ∉ ee.tags) ∧ (confs.map Store.Exercise.tag).Nodup := by
  induction confs generalizing ee with
  | nil => simp [add]
  | cons conf confs ih =>
    rw [add]
    split
    · next hempty => simp [hempty]
    split
    · next hmem => simp [hmem]
    · next hne hnew =>
      rw [ih]
      simp only [tags_push, added_tag, List.mem_append, List.mem_cons, List.not_mem_nil,
        or_false, not_or, List.map_cons, List.nodup_cons, List.mem_map, not_exists, not_and]
      constructor
      · rintro ⟨hall, hnodup⟩
        refine ⟨?_, fun c hc => (hall c hc).2.2, hnodup⟩
        rintro c (rfl | hc)
        · exact ⟨hne, hnew⟩
        · exact ⟨(hall c hc).1, (hall c hc).2.1⟩
      · rintro ⟨hall, hout, hnodup⟩
        exact ⟨fun c hc => ⟨(hall c (.inr hc)).1, (hall c (.inr hc)).2, hout c hc⟩, hnodup⟩

/-- After a successful `Add` the environment has the new tags as well. -/
theorem tags_add {confs : List Store.Exercise} (h : (ee.add newFlag confs).2 = none) :
    (ee.add newFlag confs).1.tags = ee.tags ++ confs.map Store.Exercise.tag := by
  induction confs generalizing ee with
  | nil => simp [add]
  | cons conf confs ih =>
    obtain ⟨hall, -⟩ := add_eq_none_iff.mp h
    obtain ⟨hne, hnew⟩ := hall conf (by simp)
    rw [add_cons_of_ok hne hnew] at h ⊢
    rw [ih h]
    simp

end Environment

end Haaukins.Exercise
