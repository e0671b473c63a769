import Haaukins.Lib.GoMap
import Haaukins.Lib.GoTime
import Haaukins.Store.Exercise

/-!
# `Haaukins.Store.Event`: configurations of events (`store/event.go`, `store/frontend.go`)

An `EventConfig` has all fields that the daemon and the event host write into the store and read
from it. Counts of the type `int` are integers, and the numbers of the messages are `Int32`.

A frontend is an image, with the memory that the administrator gave it. `FrontendStore` carries
that each frontend stands under its image, so `GetFrontends` returns the images that it is asked
for.
-/

set_option autoImplicit false

namespace Haaukins.Store

/-- `EmptyVarErr.Error`. -/
def emptyVarErr (var type : String) : String :=
  if type = "" then var ++ " cannot be empty" else var ++ " cannot be empty for " ++ type

/-- `InstanceConfig`, without its share of the processor. -/
structure InstanceConfig where
  image : String
  memoryMB : Nat
  deriving DecidableEq

/-- `frontendstore`. -/
structure FrontendStore where
  frontends : GoMap String InstanceConfig
  keyed : GoMap.Keyed InstanceConfig.image frontends

/-- The frontends of `NewFrontendsFile`, for the configurations of the file. -/
def newFrontendsFile (configs : List InstanceConfig) : FrontendStore where
  frontends := GoMap.ofList InstanceConfig.image configs
  keyed := GoMap.keyed_ofList InstanceConfig.image configs

/-- `GetFrontends`. -/
def FrontendStore.getFrontends (fs : FrontendStore) (names : List String) :
    List InstanceConfig :=
  names.map fun name => (fs.frontends.get? name).getD { image := name, memoryMB := 0 }

/-- `GetFrontends` returns the images that it is asked for. -/
@[simp] theorem FrontendStore.map_image_getFrontends (fs : FrontendStore)
    (names : List String) : (fs.getFrontends names).map InstanceConfig.image = names := by
  have himage : ∀ name, InstanceConfig.image
      ((fs.frontends.get? name).getD { image := name, memoryMB := 0 }) = name := by
    intro name
    cases hget : fs.frontends.get? name with
    | none => rfl
    | some ic => exact fs.keyed name ic hget
  rw [getFrontends, List.map_map]
  exact (List.map_congr_left fun name _ => himage name).trans (List.map_id names)

/-- `Lab` of an event. -/
structure EventLab where
  frontends : List InstanceConfig
  exercises : List String
  disabledExercises : List String
  deriving DecidableEq

/-- `EventConfig`. -/
structure EventConfig where
  name : String
  tag : String
  available : Int
  capacity : Int
  lab : EventLab
  startedAt : Time
  finishExpected : Time
  status : Int32
  createdBy : String
  onlyVPN : Int32
  vpnAddress : String
  secretKey : String
  deriving DecidableEq

/-- `EventConfig.Validate`. -/
def EventConfig.validate (e : EventConfig) : Option String :=
  if e.name = "" then some (emptyVarErr "Name" "Event")
  else if e.tag = "" then some (emptyVarErr "Tag" "Event")
  else if e.createdBy = "" then some (emptyVarErr "User" "Event")
  else if e.lab.exercises.length = 0 then some (emptyVarErr "Exercises" "Event")
  else if e.lab.frontends.length = 0 then some (emptyVarErr "Frontends" "Event")
  else none

/-- A check without an error was passed, and the next one has no error either. -/
theorem ite_some_eq_none {α : Type*} {p : Prop} [Decidable p] {a : α} {x : Option α} :
    (if p then some a else x) = none ↔ ¬ p ∧ x = none := by
  by_cases h : p <;> simp [h]

/-- A configuration is valid exactly when none of these fields is empty. -/
theorem EventConfig.validate_eq_none {e : EventConfig} : e.validate = none ↔
    e.name ≠ "" ∧ e.tag ≠ "" ∧ e.createdBy ≠ "" ∧ e.lab.exercises ≠ [] ∧
      e.lab.frontends ≠ [] := by
  simp only [EventConfig.validate, ite_some_eq_none, List.length_eq_zero_iff, and_true, ne_eq]

/-- `pbc.AddEventRequest`. The store answers `GetEvents` with the same fields, where the start time
is called `StartedAt`. -/
structure AddEventRequest where
  name : String
  tag : String
  frontends : String
  exercises : String
  available : Int32
  capacity : Int32
  startTime : String
  expectedFinishTime : String
  status : Int32
  createdBy : String
  onlyVPN : Int32
  secretKey : String
  disabledExercises : String
  deriving DecidableEq

/-- A valid tag has only letters, digits and hyphens. -/
theorem tagChar_or_hyphen_of_validateTag {s : String} (h : validateTag s = none) :
    ∀ c ∈ s.toList, tagChar c = true ∨ c = '-' := by
  have hregex : tagRegex s = true := by
    by_contra hnot
    unfold validateTag at h
    split at h
    · cases h
    · simp [hnot] at h
  unfold tagRegex at hregex
  split at hregex
  · next first c cs hs =>
    rw [Bool.and_eq_true, Bool.and_eq_true, List.all_eq_true, Option.any_eq_true] at hregex
    obtain ⟨⟨hfirst, hmiddle⟩, last, hlast, htag⟩ := hregex
    rw [hs]
    intro c' hc'
    rcases List.mem_cons.mp hc' with rfl | hc'
    · exact .inl hfirst
    · -- The last character is a letter or a digit, and the others may be hyphens.
      rw [← List.dropLast_append_getLast? last hlast, List.mem_append,
        List.mem_singleton] at hc'
      rcases hc' with hc' | rfl
      · simpa using hmiddle c' hc'
      · exact .inl htag
  · cases hregex

/-- A valid tag has no comma. -/
theorem comma_notMem_of_validateTag {s : String} (h : validateTag s = none) :
    ',' ∉ s.toList := by
  intro hmem
  have := tagChar_or_hyphen_of_validateTag h ',' hmem
  revert this
  decide

end Haaukins.Store
