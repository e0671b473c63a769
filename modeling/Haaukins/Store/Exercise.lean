import Haaukins.Store.Challenges

/-!
# `Haaukins.Store.Exercise`: tags and exercises (`store/flag.go`, `store/exercise.go`)

An exercise is a parent challenge: its instances carry the children challenges, each with its
own tag and flag. `containerOpts` makes the flag of a child that has no static one, so the
flags that it draws are an argument.

The fields of an exercise that describe its containers and its texts are left out.
-/

set_option autoImplicit false

namespace Haaukins.Store

/-- `TagEmptyErr`. -/
def tagEmptyErr : String := "Tag cannot be empty"

/-- The text of `InvalidTagSyntaxErr`. -/
def invalidTagSyntaxErr (tag : String) : String :=
  "Invalid syntax for tag \"" ++ tag ++ "\", allowed syntax: ^[a-z0-9][a-z0-9-]*[a-z0-9]$"

/-- The class `[a-z0-9]`. -/
def tagChar (c : Char) : Bool := c.isLower || c.isDigit

/-- `tagRegex`. -/
def tagRegex (s : String) : Bool :=
  match s.toList with
  | first :: c :: cs =>
    tagChar first && (c :: cs).dropLast.all (fun c => tagChar c || c == '-') &&
      (c :: cs).getLast?.any tagChar
  | _ => false

/-- `Tag.Validate`. -/
def validateTag (s : String) : Option String :=
  if s = "" then some tagEmptyErr
  else if !tagRegex s then some (invalidTagSyntaxErr s)
  else none

/-- `NewTag`. -/
def newTag (s : String) : Except String String :=
  match validateTag s with
  | some err => .error err
  | none => .ok s

/-- The tag of `tag, _ := NewTag(s)`, which drops the error. -/
def newTagOrEmpty (s : String) : String := (newTag s).toOption.getD ""

/-- `ChildrenChalConfig`. -/
structure ChildrenChalConfig where
  tag : String
  staticFlag : String
  staticChallenge : Bool
  deriving DecidableEq, Repr

/-- `ExerciseInstanceConfig`. -/
structure ExerciseInstanceConfig where
  image : String
  flags : List ChildrenChalConfig
  deriving DecidableEq, Repr

/-- `Exercise`. -/
structure Exercise where
  tag : String
  /-- There is no container and no virtual machine. -/
  static : Bool
  instances : List ExerciseInstanceConfig
  deriving DecidableEq, Repr

/-- The challenges of `ContainerOptions`. -/
structure ContainerOptions where
  challenges : List Challenge
  deriving DecidableEq, Repr

namespace Exercise

variable (e : Exercise)

/-- `Flags`. -/
def flags : List ChildrenChalConfig :=
  e.instances.flatMap fun conf => conf.flags.map fun f => { f with staticChallenge := e.static }

/-- `ChildTags`. -/
def childTags : List String := e.flags.map ChildrenChalConfig.tag

/-- `ContainerOpts`, where `newFlag i j` is the flag that is drawn for the child `j` of the
instance `i`. -/
def containerOpts (newFlag : Nat → Nat → String) : List ContainerOptions :=
  e.instances.mapIdx fun i conf =>
    { challenges := conf.flags.mapIdx fun j flag =>
        { tag := flag.tag
          value := if flag.staticFlag = "" then newFlag i j else flag.staticFlag } }

end Exercise

/-- `Config` of a lab, with the exercises of the event. -/
structure LabConfig where
  exercises : List Exercise
  disabledExercises : List String

namespace LabConfig

variable (conf : LabConfig)

/-- `Flags`. -/
def flags : List ChildrenChalConfig := conf.exercises.flatMap Exercise.flags

/-- `GetChildrenChallenges`. -/
def getChildrenChallenges (parentTag : String) : List String :=
  (conf.exercises.filter fun i => i.tag = parentTag).flatMap fun i =>
    (i.instances.flatMap ExerciseInstanceConfig.flags).map ChildrenChalConfig.tag

end LabConfig

/-- A valid text is its own tag. -/
theorem newTag_ok_iff {s t : String} : newTag s = .ok t ↔ validateTag s = none ∧ t = s := by
  unfold newTag
  cases validateTag s with
  | none => simp [eq_comm]
  | some err => simp

example : validateTag "sql-1" = none ∧ validateTag "a" = some (invalidTagSyntaxErr "a") := by
  decide

end Haaukins.Store
