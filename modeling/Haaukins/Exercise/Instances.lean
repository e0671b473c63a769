import Haaukins.Amigo.Scoreboard
import Haaukins.Exercise.DNSRecords

/-!
# `Haaukins.Exercise.Instances`: the instances of an exercise (`exercise/exercise.go`,
`store/exercise.go`)

An exercise configuration with the images, the variables and the children of its instances.
`ContainerOpts` makes the options of a container from each instance, and draws a flag for each
child that has no static one. `NewExercise` takes the `.ova` instances up to the first container,
and then the options of all instances.

* `challenges_newExercise` connects the challenges with those of `Haaukins.Exercise.Environment`.
* `usedOnce_iff` says when the two lists of an exercise are the `.ova` instances and the other
  ones. `challenges_perm_iff` is the weaker condition under which each child is a challenge once.
* `deployed_iff` says when each challenge has a flag, and the container of a child without a
  static flag has it in the variable of the child.

The memory and the processors of an instance are copied, and left out here.
-/

set_option autoImplicit false

namespace Haaukins.Exercise

open Amigo (ChallengeConfig)
open Store (validateTag)

/-! ### Flags -/

/-- `letterBytes`. -/
def letterBytes : List Char := "abcdefghijklmnopqrstuvwxyzABCDEFGHIJKLMNOPQRSTUVWXYZ12345679".toList

/-- What is drawn for one flag: the letters of `NewFlag`, and the places of the dashes in its
`String`. -/
structure FlagDraw where
  letters : Fin 10 → Fin letterBytes.length
  first : Fin 2
  second : Fin 2

/-- The letters of `NewFlag`. -/
def FlagDraw.chars (d : FlagDraw) : List Char := List.ofFn fun k => letterBytes.get (d.letters k)

/-- `NewFlag().String()`. -/
def FlagDraw.value (d : FlagDraw) : String :=
  let i := 2 + d.first.val
  let j := i + 2 + d.second.val
  "HKN\x7b" ++ String.ofList (d.chars.take i ++ ['-'] ++ (d.chars.drop i).take (j - i) ++ ['-'] ++
    d.chars.drop j) ++ "\x7d"

/-- The text of `EmptyVarErr` with a type. -/
def emptyVarErr (var type : String) : String := var ++ " cannot be empty for " ++ type

/-- `ChildrenChalConfig.Validate`. -/
def validateChild (fc : ChallengeConfig) : Option String :=
  match validateTag fc.tag with
  | some err => some err
  | none =>
    if fc.name = "" then some (emptyVarErr "Name" "Flag ServiceConfig")
    else if fc.staticFlag = "" ∧ fc.envVar = "" then
      some (emptyVarErr "Static or Env" "Flag ServiceConfig")
    else if fc.points = 0 then some (emptyVarErr "Points" "Flag ServiceConfig")
    else none

/-- A drawn flag is not empty. -/
theorem FlagDraw.value_ne_empty (d : FlagDraw) : d.value ≠ "" := by
  have hlist : d.value.toList ≠ [] := by
    simp only [FlagDraw.value, String.toList_append]
    simp
  exact fun h => hlist (by rw [h]; rfl)

/-- The flag with one letter ten times. -/
def FlagDraw.repeated (k : Fin letterBytes.length) : FlagDraw :=
  ⟨fun _ => k, ⟨0, Nat.zero_lt_two⟩, ⟨0, Nat.zero_lt_two⟩⟩

/-- No text is the only flag that can be drawn. -/
theorem FlagDraw.exists_value_ne (s : String) : ∃ d : FlagDraw, d.value ≠ s := by
  let a := FlagDraw.repeated ⟨0, by decide +kernel⟩
  let b := FlagDraw.repeated ⟨1, by decide +kernel⟩
  have hne : a.value ≠ b.value := by decide +kernel
  by_cases h : a.value = s
  · exact ⟨b, fun hb => hne (h.trans hb.symm)⟩
  · exact ⟨a, h⟩

/-! ### Instances -/

/-- `EnvVarConfig`. -/
structure EnvVarConfig where
  envVar : String
  value : String

/-- `ExerciseInstanceConfig`. -/
structure InstanceConfig where
  image : String
  envs : List EnvVarConfig
  flags : List ChallengeConfig
  records : List RecordConfig

/-- `store.Exercise`. -/
structure ExerciseConfig where
  tag : String
  static : Bool
  instances : List InstanceConfig

/-- `docker.ContainerConfig`, with the fields of `ContainerOpts`. -/
structure ContainerConfig where
  image : String
  envVars : GoMap String String

/-- `store.Challenge`. -/
structure NamedChallenge where
  name : String
  tag : String
  value : String
  deriving DecidableEq

/-- The fields of the other models. -/
def NamedChallenge.outline (ch : NamedChallenge) : Store.Challenge := ⟨ch.tag, ch.value⟩

/-- `store.ContainerOptions`. -/
structure InstanceOptions where
  dockerConf : ContainerConfig
  records : List RecordConfig
  challenges : List NamedChallenge

namespace InstanceConfig

variable (c : InstanceConfig) (draw : Nat → FlagDraw)

@[inherit_doc NamedChallenge.outline]
def outline : Store.ExerciseInstanceConfig := ⟨c.image, c.flags.map ChallengeConfig.conf⟩

/-- `strings.Contains(c.Image, OvaSuffix)`. -/
def isOva : Bool := ovaSuffix.toList <:+: c.image.toList

/-- The flag of a child in `ContainerOpts`, where `draw j` is what is drawn for the child `j`. -/
def flagValue (p : ChallengeConfig × Nat) : String :=
  if p.1.staticFlag = "" then (draw p.2).value else p.1.staticFlag

/-- The variables of the container: the flags that are drawn, and then the `Envs`. -/
def envVars : GoMap String String :=
  let envVars := c.flags.zipIdx.foldl (fun m p =>
    if p.1.staticFlag = "" then m.set p.1.envVar (flagValue draw p) else m) ∅
  c.envs.foldl (fun m env => m.set env.envVar env.value) envVars

/-- The body of the loop of `ContainerOpts`. -/
def containerOptions (static : Bool) : InstanceOptions where
  dockerConf :=
    if static then { image := "", envVars := ∅ }
    else { image := c.image, envVars := c.envVars draw }
  records := c.records
  challenges := c.flags.zipIdx.map fun p =>
    { name := p.1.name, tag := p.1.tag, value := flagValue draw p }

end InstanceConfig

namespace ExerciseConfig

variable (conf : ExerciseConfig) (draw : Nat → Nat → FlagDraw)

@[inherit_doc NamedChallenge.outline]
def outline : Store.Exercise := ⟨conf.tag, conf.static, conf.instances.map InstanceConfig.outline⟩

/-- `Flags`. -/
def flags : List ChallengeConfig :=
  conf.instances.flatMap fun c => c.flags.map fun f => { f with staticChallenge := conf.static }

/-- `ContainerOpts`. -/
def containerOpts : List InstanceOptions :=
  conf.instances.zipIdx.map fun p => p.1.containerOptions (draw p.2) conf.static

end ExerciseConfig

/-- The options of an `exercise`. -/
structure ExerciseOptions where
  containerOpts : List InstanceOptions
  vboxOpts : List InstanceConfig

/-- The loop of `NewExercise` over the instances, from `vboxOpts` on. -/
def splitInstances (containerOpts : List InstanceOptions) (vboxOpts : List InstanceConfig) :
    List InstanceConfig → ExerciseOptions
  | [] => { containerOpts := [], vboxOpts := vboxOpts }
  | c :: cs =>
    if c.isOva then splitInstances containerOpts (vboxOpts ++ [c]) cs
    else { containerOpts := containerOpts, vboxOpts := vboxOpts }

/-- The options in `NewExercise`. -/
def newExerciseOptions (draw : Nat → Nat → FlagDraw) (conf : ExerciseConfig) : ExerciseOptions :=
  let opts := splitInstances (conf.containerOpts draw) [] conf.instances
  if !conf.static then opts else { opts with vboxOpts := [] }

namespace ExerciseOptions

variable (e : ExerciseOptions)

/-- `Challenges`. -/
def challenges : List NamedChallenge :=
  e.containerOpts.flatMap InstanceOptions.challenges ++
    e.vboxOpts.flatMap fun opt => opt.flags.map fun f =>
      { name := f.name, tag := f.tag, value := f.staticFlag }

end ExerciseOptions

/-! ### What the loop finds -/

variable {draw : Nat → Nat → FlagDraw} {conf : ExerciseConfig}

/-- The loop sorts the instances into VMs and containers, up to the first of the other kind. -/
theorem splitInstances_eq (opts : List InstanceOptions) (vboxOpts cs : List InstanceConfig) :
    splitInstances opts vboxOpts cs =
      { containerOpts := if cs.all InstanceConfig.isOva then [] else opts
        vboxOpts := vboxOpts ++ cs.takeWhile InstanceConfig.isOva } := by
  induction cs generalizing vboxOpts with
  | nil => simp [splitInstances]
  | cons c cs ih =>
    rw [splitInstances]
    by_cases hova : c.isOva = true
    · rw [if_pos hova, ih, List.takeWhile_cons_of_pos hova, List.append_assoc,
        List.singleton_append, List.all_cons, hova, Bool.true_and]
    · have hfalse : c.isOva = false := Bool.not_eq_true _ ▸ hova
      rw [if_neg hova, List.takeWhile_cons_of_neg hova, List.append_nil, List.all_cons, hfalse]
      rfl

/-- The challenges of a container, without their variables. -/
theorem containerOptions_outline (c : InstanceConfig) (d : Nat → FlagDraw) (static : Bool) :
    (c.containerOptions d static).challenges.map NamedChallenge.outline =
      c.outline.flags.mapIdx fun j flag =>
        { tag := flag.tag
          value := if flag.staticFlag = "" then (d j).value else flag.staticFlag } := by
  rw [InstanceConfig.containerOptions, InstanceConfig.outline, List.mapIdx_eq_zipIdx_map,
    List.zipIdx_map, List.map_map, List.map_map]
  rfl

/-- The challenges of all containers, without their variables. -/
theorem containerOpts_outline :
    (conf.outline.containerOpts fun i j => (draw i j).value).flatMap
        Store.ContainerOptions.challenges =
      ((conf.containerOpts draw).flatMap InstanceOptions.challenges).map
        NamedChallenge.outline := by
  rw [List.map_flatMap, ExerciseConfig.containerOpts, List.flatMap_map]
  simp only [containerOptions_outline]
  rw [Store.Exercise.containerOpts, List.mapIdx_eq_zipIdx_map, List.flatMap_map,
    ExerciseConfig.outline, List.zipIdx_map, List.flatMap_map]
  rfl

/-- The challenges of all machines, without their variables. -/
theorem machines_outline (cs : List InstanceConfig) :
    ((cs.map InstanceConfig.outline).flatMap fun opt => opt.flags.map fun f =>
        ({ tag := f.tag, value := f.staticFlag } : Store.Challenge)) =
      (cs.flatMap fun opt => opt.flags.map fun f =>
        ({ name := f.name, tag := f.tag, value := f.staticFlag } : NamedChallenge)).map
        NamedChallenge.outline := by
  rw [List.flatMap_map, List.map_flatMap]
  refine List.flatMap_congr fun c _ => ?_
  rw [InstanceConfig.outline, List.map_map, List.map_map]
  rfl

/-- The challenges are those of the exercise in a lab. -/
theorem challenges_newExercise :
    (newExercise (fun i j => (draw i j).value) conf.outline).challenges =
      (newExerciseOptions draw conf).challenges.map NamedChallenge.outline := by
  have hall : conf.outline.instances.all Exercise.isOva =
      conf.instances.all InstanceConfig.isOva := List.all_map
  have hvms : conf.outline.instances.takeWhile Exercise.isOva =
      (conf.instances.takeWhile InstanceConfig.isOva).map InstanceConfig.outline :=
    List.takeWhile_map ..
  have hstatic : conf.outline.static = conf.static := rfl
  rw [LabExercise.challenges, ExerciseOptions.challenges, List.map_append, newExercise,
    newExerciseOptions, splitInstances_eq, List.nil_append, hall, hvms, hstatic]
  cases conf.static with
  | true =>
    simp only [if_true, Bool.not_true, Bool.false_eq_true, if_false, List.flatMap_nil,
      List.map_nil, List.append_nil]
    split
    · rfl
    · exact containerOpts_outline
  | false =>
    simp only [Bool.false_eq_true, if_false, Bool.not_false, if_true]
    congr 1
    · split
      · rfl
      · exact containerOpts_outline
    · exact machines_outline _

/-- The two lists of an exercise that is not static. -/
theorem newExerciseOptions_eq (hstatic : conf.static = false) :
    newExerciseOptions draw conf =
      { containerOpts :=
          if conf.instances.all InstanceConfig.isOva then [] else conf.containerOpts draw
        vboxOpts := conf.instances.takeWhile InstanceConfig.isOva } := by
  rw [newExerciseOptions, hstatic, splitInstances_eq, List.nil_append]
  rfl

/-- The tags of the children of some instances. -/
def childTags (cs : List InstanceConfig) : List String :=
  cs.flatMap fun c => c.flags.map ChallengeConfig.tag

/-- The tags of the flags are the tags of the children. -/
theorem flags_tags : conf.flags.map ChallengeConfig.tag = childTags conf.instances := by
  simp only [ExerciseConfig.flags, childTags, List.map_flatMap, List.map_map, Function.comp_def]

section

variable {α β : Type*} (xs : List α)

/-- A map that does not read the index. -/
theorem map_zipIdx_fst (f : α → β) : (xs.zipIdx.map fun p => f p.1) = xs.map f := by
  conv_rhs => rw [← List.zipIdx_map_fst 0 xs, List.map_map]
  rfl

/-- A filter that does not read the index. -/
theorem filter_zipIdx_map_fst (f : α → Bool) :
    (xs.zipIdx.filter fun p => f p.1).map Prod.fst = xs.filter f := by
  conv_rhs => rw [← List.zipIdx_map_fst 0 xs, List.filter_map]
  rfl

/-- A list beside a map of itself. -/
theorem zip_map_zipIdx (f : α × Nat → β) :
    xs.zip (xs.zipIdx.map f) = xs.zipIdx.map fun p => (p.1, f p) := by
  have hzip : xs.zip (xs.zipIdx.map f) = (xs.zipIdx.map Prod.fst).zip (xs.zipIdx.map f) := by
    rw [List.zipIdx_map_fst]
  rw [hzip, List.zip_map']

end

/-- A container has a challenge for each flag of its instance. -/
theorem containerOptions_tags (c : InstanceConfig) (draw : Nat → FlagDraw) (static : Bool) :
    (c.containerOptions draw static).challenges.map NamedChallenge.tag =
      c.flags.map ChallengeConfig.tag := by
  rw [InstanceConfig.containerOptions, List.map_map]
  exact map_zipIdx_fst c.flags ChallengeConfig.tag

/-- All containers together have one for each child. -/
theorem containerOpts_tags :
    ((conf.containerOpts draw).flatMap InstanceOptions.challenges).map NamedChallenge.tag =
      childTags conf.instances := by
  rw [List.map_flatMap, ExerciseConfig.containerOpts, List.flatMap_map, childTags]
  simp only [containerOptions_tags, List.flatMap_def]
  rw [map_zipIdx_fst conf.instances fun c => c.flags.map ChallengeConfig.tag]

/-- What the exercise lists: the children of its containers, and those of its first VMs. -/
theorem challenges_tags (hstatic : conf.static = false) :
    (newExerciseOptions draw conf).challenges.map NamedChallenge.tag =
      (if conf.instances.all InstanceConfig.isOva then [] else childTags conf.instances) ++
        childTags (conf.instances.takeWhile InstanceConfig.isOva) := by
  rw [newExerciseOptions_eq hstatic, ExerciseOptions.challenges, List.map_append]
  congr 1
  · split
    · rfl
    · exact containerOpts_tags
  · simp only [childTags, List.map_flatMap, List.map_map, Function.comp_def]

/-! ### Each instance and each child once -/

/-- `NewExercise` takes the `.ova` instances as machines and the other ones as containers, and
`Challenges` has each child of `Flags` once. -/
structure ExerciseOptions.UsedOnce (e : ExerciseOptions) (conf : ExerciseConfig) : Prop where
  vboxOpts : e.vboxOpts = conf.instances.filter InstanceConfig.isOva
  containerOpts : List.Forall₂ (fun c opt => ∃ draw, opt = c.containerOptions draw conf.static)
    (conf.instances.filter fun c => !c.isOva) e.containerOpts
  challenges : (e.challenges.map NamedChallenge.tag).Perm (conf.flags.map ChallengeConfig.tag)

/-- `Challenges` has each child once exactly when no `.ova` instance with a child stands before
the first container. -/
theorem challenges_perm_iff (draw : Nat → Nat → FlagDraw) (hstatic : conf.static = false) :
    ((newExerciseOptions draw conf).challenges.map NamedChallenge.tag).Perm
        (conf.flags.map ChallengeConfig.tag) ↔
      (∀ c ∈ conf.instances, c.isOva = true) ∨
        ∀ c ∈ conf.instances.takeWhile InstanceConfig.isOva, c.flags = [] := by
  rw [challenges_tags hstatic, flags_tags]
  by_cases hall : ∀ c ∈ conf.instances, c.isOva = true
  · rw [if_pos (List.all_eq_true.mpr hall), List.takeWhile_eq_self_iff.mpr hall]
    exact iff_of_true (List.Perm.refl _) (.inl hall)
  · rw [if_neg (mt List.all_eq_true.mp hall)]
    constructor
    · intro hperm
      -- The children of the machines come on top of all children.
      have hlength := hperm.length_eq
      rw [List.length_append] at hlength
      have hnil : childTags (conf.instances.takeWhile InstanceConfig.isOva) = [] :=
        List.eq_nil_of_length_eq_zero (by omega)
      refine .inr fun c hc => ?_
      simpa using List.flatMap_eq_nil_iff.mp hnil c hc
    · rintro (h | h)
      · exact absurd h hall
      · have hnil : childTags (conf.instances.takeWhile InstanceConfig.isOva) = [] :=
          List.flatMap_eq_nil_iff.mpr fun c hc => by rw [h c hc, List.map_nil]
        rw [hnil, List.append_nil]

/-- Each instance has its own options. -/
theorem forall₂_containerOpts :
    List.Forall₂ (fun c opt => ∃ draw, opt = c.containerOptions draw conf.static)
      conf.instances (conf.containerOpts draw) := by
  have hzip : ∀ (cs : List InstanceConfig) (n : Nat),
      List.Forall₂ (fun c opt => ∃ draw, opt = c.containerOptions draw conf.static) cs
        ((cs.zipIdx n).map fun p => p.1.containerOptions (draw p.2) conf.static) := by
    intro cs
    induction cs with
    | nil => exact fun n => .nil
    | cons c cs ih => exact fun n => .cons ⟨draw n, rfl⟩ (ih (n + 1))
  exact hzip conf.instances 0

/-- Each instance and each child of an exercise is used once exactly when its instances are all
`.ova`, or none of them is. -/
theorem usedOnce_iff (draw : Nat → Nat → FlagDraw) (conf : ExerciseConfig)
    (hstatic : conf.static = false) :
    (newExerciseOptions draw conf).UsedOnce conf ↔
      (∀ c ∈ conf.instances, c.isOva = true) ∨ ∀ c ∈ conf.instances, c.isOva = false := by
  constructor
  · intro h
    by_contra hmixed
    obtain ⟨hall, hnone⟩ := not_or.mp hmixed
    have hopts := h.containerOpts.length_eq
    -- The options are those of all instances, so no instance was left out.
    rw [newExerciseOptions_eq hstatic, if_neg (mt List.all_eq_true.mp hall),
      ExerciseConfig.containerOpts, List.length_map, List.length_zipIdx,
      List.length_filter_eq_length_iff] at hopts
    exact hnone fun c hc => by simpa using hopts c hc
  · intro h
    have hperm := (challenges_perm_iff draw hstatic).mpr
      (h.imp_right fun hnone c hc => absurd (List.mem_takeWhile_imp hc)
        (by simp [hnone c (List.takeWhile_subset _ hc)]))
    rw [newExerciseOptions_eq hstatic] at hperm ⊢
    rcases h with hall | hnone
    · have hfilter : (conf.instances.filter fun c => !c.isOva) = [] :=
        List.filter_eq_nil_iff.mpr fun c hc => by simp [hall c hc]
      refine ⟨?_, ?_, hperm⟩
      · rw [List.takeWhile_eq_self_iff.mpr hall, List.filter_eq_self.mpr hall]
      · rw [hfilter, if_pos (List.all_eq_true.mpr hall)]
        exact .nil
    · have hfilter : (conf.instances.filter fun c => !c.isOva) = conf.instances :=
        List.filter_eq_self.mpr fun c hc => by simp [hnone c hc]
      have hnil : conf.instances.takeWhile InstanceConfig.isOva = [] :=
        List.eq_nil_iff_forall_not_mem.mpr fun c hc => by
          have := List.mem_takeWhile_imp hc
          simp [hnone c (List.takeWhile_subset _ hc)] at this
      refine ⟨?_, ?_, hperm⟩
      · rw [hnil, List.filter_eq_nil_iff.mpr fun c hc => by simp [hnone c hc]]
      · rw [hfilter]
        split
        · next hall =>
          -- Both conditions hold only without instances.
          have hempty : conf.instances = [] :=
            List.eq_nil_iff_forall_not_mem.mpr fun c hc => by
              have := List.all_eq_true.mp hall c hc
              simp [hnone c hc] at this
          rw [hempty]
          exact .nil
        · exact forall₂_containerOpts

/-- An exercise with two containers. -/
theorem usedOnce_containers :
    (newExerciseOptions (fun _ _ => .repeated ⟨0, by decide +kernel⟩)
      ⟨"web", false, [⟨"web", [], [], []⟩, ⟨"db", [], [], []⟩]⟩).UsedOnce
      ⟨"web", false, [⟨"web", [], [], []⟩, ⟨"db", [], [], []⟩]⟩ :=
  (usedOnce_iff _ _ rfl).mpr (.inr (by decide))

/-- The child of a machine in front of a container is a challenge twice. -/
theorem usedOnce_not_mixed :
    let ftp : InstanceConfig := ⟨"ftp.ova", [], [{ ChallengeConfig.zero with tag := "ftp-1" }], []⟩
    let conf : ExerciseConfig := ⟨"ftp", false, [ftp, ⟨"web", [], [], []⟩]⟩
    ¬ (newExerciseOptions (fun _ _ => .repeated ⟨0, by decide +kernel⟩) conf).UsedOnce conf := by
  intro ftp conf h
  have hperm := h.challenges
  rw [challenges_tags rfl, flags_tags] at hperm
  exact absurd hperm.length_eq (by decide)

/-! ### The flags in the containers -/

/-- Each challenge has a flag, and when its child has no static flag, the container that is made
for its instance has this flag in the variable of the child. -/
structure ExerciseOptions.Deployed (e : ExerciseOptions) (conf : ExerciseConfig) : Prop where
  nonempty : ∀ ch ∈ e.challenges, ch.value ≠ ""
  container : ∀ p ∈ conf.instances.zip e.containerOpts, ∀ q ∈ p.1.flags.zip p.2.challenges,
    q.1.staticFlag = "" → p.2.dockerConf.envVars.get? q.1.envVar = some q.2.value

namespace InstanceConfig

variable (c : InstanceConfig) (d : Nat → FlagDraw)

/-- The children without a static flag. -/
def drawn : List (ChallengeConfig × Nat) := c.flags.zipIdx.filter fun p => p.1.staticFlag = ""

/-- What `ContainerOpts` writes into the variables, one after another. -/
def writes : List (String × String) :=
  (c.drawn.map fun p => (p.1.envVar, (d p.2).value)) ++
    c.envs.map fun env => (env.envVar, env.value)

/-- What is written last into the variable of a child is the flag of the child. -/
def Kept : Prop :=
  ∀ p ∈ c.drawn, ∀ w ∈ (c.writes d).reverse.find? fun w => w.1 = p.1.envVar, w.2 = (d p.2).value

/-- The children without a static flag have different variables, and the `Envs` have none of
them. -/
structure Separate : Prop where
  children : ((c.flags.filter fun f => f.staticFlag = "").map ChallengeConfig.envVar).Nodup
  envs : ∀ f ∈ c.flags, f.staticFlag = "" → ∀ env ∈ c.envs, env.envVar ≠ f.envVar

variable {c d}

/-- The variables of a container are written in the order of `writes`. -/
theorem envVars_eq : c.envVars d = (c.writes d).foldl (fun m w => m.set w.1 w.2) ∅ := by
  rw [envVars, writes, List.foldl_append, List.foldl_map, List.foldl_map, drawn,
    List.foldl_filter]
  congr 1
  refine List.foldl_ext _ _ _ fun m p _ => ?_
  by_cases hp : p.1.staticFlag = ""
  · simp only [hp, flagValue, if_true, decide_true]
  · simp only [hp, if_false, decide_false, Bool.false_eq_true]

/-- The flags that are drawn are those without a static text. -/
theorem mem_drawn {p : ChallengeConfig × Nat} :
    p ∈ c.drawn ↔ p ∈ c.flags.zipIdx ∧ p.1.staticFlag = "" := by
  rw [drawn, List.mem_filter, decide_eq_true_eq]

/-- Their variables, in the order of the instance. -/
theorem drawn_envVars : (c.drawn.map fun p => p.1.envVar) =
    (c.flags.filter fun f => f.staticFlag = "").map ChallengeConfig.envVar := by
  rw [← filter_zipIdx_map_fst c.flags fun f => f.staticFlag = "", List.map_map]
  rfl

/-- A variable that is written has the value that was written last. -/
theorem get?_envVars {p : ChallengeConfig × Nat} (hp : p ∈ c.drawn) (v : String) :
    (c.envVars d).get? p.1.envVar = some v ↔
      ∀ w ∈ (c.writes d).reverse.find? fun w => w.1 = p.1.envVar, w.2 = v := by
  have hsome : ((c.writes d).reverse.find? fun w => w.1 = p.1.envVar).isSome = true := by
    rw [List.find?_isSome]
    refine ⟨(p.1.envVar, (d p.2).value), List.mem_reverse.mpr ?_, decide_eq_true rfl⟩
    exact List.mem_append_left _ (List.mem_map_of_mem hp)
  obtain ⟨w, hw⟩ := Option.isSome_iff_exists.mp hsome
  rw [envVars_eq, GoMap.get?_foldl_last, hw]
  simp

/-- Children with the same variable have the same flag when both are kept. -/
theorem Kept.value_eq (h : c.Kept d) {p p' : ChallengeConfig × Nat} (hp : p ∈ c.drawn)
    (hp' : p' ∈ c.drawn) (heq : p.1.envVar = p'.1.envVar) : (d p.2).value = (d p'.2).value := by
  have hget := (get?_envVars (d := d) hp _).mpr (h p hp)
  have hget' := (get?_envVars (d := d) hp' _).mpr (h p' hp')
  rw [heq, hget'] at hget
  exact (Option.some.inj hget).symm

/-- With different variables no flag is overwritten. -/
theorem Separate.kept (h : c.Separate) (d : Nat → FlagDraw) : c.Kept d := by
  intro p hp w hw
  rw [Option.mem_def] at hw
  have hkey : w.1 = p.1.envVar := by simpa using List.find?_some hw
  have hmem : w ∈ c.writes d := List.mem_reverse.mp (List.mem_of_find?_eq_some hw)
  rcases List.mem_append.mp hmem with hchild | hset
  · -- The variables of the children are different, so the write is that of the child.
    obtain ⟨p', hp', rfl⟩ := List.mem_map.mp hchild
    have hnodup := h.children
    rw [← drawn_envVars] at hnodup
    rw [List.inj_on_of_nodup_map hnodup hp' hp hkey]
  · obtain ⟨env, henv, rfl⟩ := List.mem_map.mp hset
    obtain ⟨hflag, hstatic⟩ := mem_drawn.mp hp
    exact absurd hkey (h.envs p.1 (List.fst_mem_of_mem_zipIdx hflag) hstatic env henv)

/-- Children that are kept whatever is drawn have variables of their own. -/
theorem separate_of_kept (h : ∀ d, c.Kept d) : c.Separate where
  children := by
    have hdrawn : c.drawn.Nodup := (List.nodup_zipIdx_map_snd c.flags).of_map.filter _
    rw [← drawn_envVars, List.nodup_map_iff_inj_on hdrawn]
    intro p hp p' hp' heq
    by_contra hne
    -- Draw another flag for the second child.
    obtain ⟨b, hb⟩ := FlagDraw.exists_value_ne (FlagDraw.repeated ⟨0, by decide +kernel⟩).value
    have hindex : p.2 ≠ p'.2 := by
      intro hindex
      have hp1 := List.mem_zipIdx' (mem_drawn.mp hp).1
      have hp2 := List.mem_zipIdx' (mem_drawn.mp hp').1
      refine hne (Prod.ext ?_ hindex)
      rw [hp1.2, hp2.2]
      simp only [hindex]
    have hvalue := (h fun k => if k = p'.2 then b else .repeated ⟨0, by decide +kernel⟩).value_eq
      hp hp' heq
    rw [if_neg hindex, if_pos rfl] at hvalue
    exact hb hvalue.symm
  envs := by
    intro f hf hstatic env henv heq
    obtain ⟨j, hj, rfl⟩ := List.mem_iff_getElem.mp hf
    have hp : (c.flags[j], j) ∈ c.drawn :=
      mem_drawn.mpr ⟨List.mk_mem_zipIdx_iff_getElem?.mpr (List.getElem?_eq_getElem hj), hstatic⟩
    -- The write of an `Env` comes after the flags and does not depend on them.
    obtain ⟨w, hw⟩ : ∃ w, (c.envs.map fun env => (env.envVar, env.value)).reverse.find?
        (fun w => w.1 = c.flags[j].envVar) = some w := by
      rw [← Option.isSome_iff_exists, List.find?_isSome]
      exact ⟨(env.envVar, env.value), List.mem_reverse.mpr (List.mem_map_of_mem henv),
        decide_eq_true heq⟩
    obtain ⟨b, hb⟩ := FlagDraw.exists_value_ne w.2
    refine hb (h (fun _ => b) _ hp w ?_).symm
    rw [writes, List.reverse_append, List.find?_append, hw]
    rfl

/-- The challenges of a container have flags. -/
theorem flagValue_ne_empty (p : ChallengeConfig × Nat) : flagValue d p ≠ "" := by
  unfold flagValue
  split
  · exact (d p.2).value_ne_empty
  · assumption

/-- A container has the flags of its children in their variables exactly when they are kept. -/
theorem containerOptions_deployed_iff :
    (∀ q ∈ c.flags.zip (c.containerOptions d false).challenges, q.1.staticFlag = "" →
      (c.containerOptions d false).dockerConf.envVars.get? q.1.envVar = some q.2.value) ↔
      c.Kept d := by
  rw [containerOptions, zip_map_zipIdx, List.forall_mem_map]
  show (∀ p ∈ c.flags.zipIdx, p.1.staticFlag = "" →
    (c.envVars d).get? p.1.envVar = some (flagValue d p)) ↔ c.Kept d
  constructor
  · intro h p hp
    obtain ⟨hflag, hstatic⟩ := mem_drawn.mp hp
    have hget := h p hflag hstatic
    rw [flagValue, if_pos hstatic] at hget
    exact (get?_envVars hp _).mp hget
  · intro h p hflag hstatic
    have hp := mem_drawn.mpr ⟨hflag, hstatic⟩
    rw [flagValue, if_pos hstatic]
    exact (get?_envVars hp _).mpr (h p hp)

end InstanceConfig

namespace ExerciseConfig

variable (conf : ExerciseConfig)

/-- Each child of the `.ova` instances before the first container has a static flag. -/
def VMsStatic : Prop :=
  ∀ c ∈ conf.instances.takeWhile InstanceConfig.isOva, ∀ f ∈ c.flags, f.staticFlag ≠ ""

/-- There is no container. -/
def OnlyVMs : Prop := ∀ c ∈ conf.instances, c.isOva = true

end ExerciseConfig

/-- No flag in the containers is empty. -/
theorem containerOpts_value_ne_empty {ch : NamedChallenge}
    (hch : ch ∈ (conf.containerOpts draw).flatMap InstanceOptions.challenges) : ch.value ≠ "" := by
  obtain ⟨opt, hopt, hch⟩ := List.mem_flatMap.mp hch
  obtain ⟨p, -, rfl⟩ := List.mem_map.mp hopt
  obtain ⟨q, -, rfl⟩ := List.mem_map.mp hch
  exact InstanceConfig.flagValue_ne_empty q

/-- Each challenge has a flag exactly when those of the machines are static. -/
theorem challenges_nonempty_iff (draw : Nat → Nat → FlagDraw) (hstatic : conf.static = false) :
    (∀ ch ∈ (newExerciseOptions draw conf).challenges, ch.value ≠ "") ↔ conf.VMsStatic := by
  have hcontainers : ∀ ch ∈ (newExerciseOptions draw conf).containerOpts.flatMap
      InstanceOptions.challenges, ch.value ≠ "" := by
    rw [newExerciseOptions_eq hstatic]
    intro ch hch
    dsimp only at hch
    split at hch
    · cases hch
    · exact containerOpts_value_ne_empty hch
  rw [ExerciseOptions.challenges, List.forall_mem_append, and_iff_right hcontainers,
    newExerciseOptions_eq hstatic, ExerciseConfig.VMsStatic]
  simp only [List.mem_flatMap, List.mem_map]
  constructor
  · intro h c hc f hf
    exact h _ ⟨c, hc, f, hf, rfl⟩
  · rintro h ch ⟨c, hc, f, hf, rfl⟩
    exact h c hc f hf

/-- For the flags that were drawn: each challenge has a flag, which is in the container when it is
not static, exactly when the children of the machines have static flags and the last write to
the variable of each other child is its flag. -/
theorem deployed_iff_kept (draw : Nat → Nat → FlagDraw) (hstatic : conf.static = false) :
    (newExerciseOptions draw conf).Deployed conf ↔
      conf.VMsStatic ∧ (conf.OnlyVMs ∨ ∀ p ∈ conf.instances.zipIdx, p.1.Kept (draw p.2)) := by
  have hcontainers : (∀ p ∈ conf.instances.zip (newExerciseOptions draw conf).containerOpts,
      ∀ q ∈ p.1.flags.zip p.2.challenges, q.1.staticFlag = "" →
        p.2.dockerConf.envVars.get? q.1.envVar = some q.2.value) ↔
      conf.OnlyVMs ∨ ∀ p ∈ conf.instances.zipIdx, p.1.Kept (draw p.2) := by
    rw [newExerciseOptions_eq hstatic]
    dsimp only
    split
    · next hall =>
      rw [List.zip_nil_right]
      exact iff_of_true (fun p hp => absurd hp List.not_mem_nil) (.inl (List.all_eq_true.mp hall))
    · next hall =>
      have hcontainer : ¬ conf.OnlyVMs := mt List.all_eq_true.mpr hall
      rw [or_iff_right hcontainer, ExerciseConfig.containerOpts, zip_map_zipIdx,
        List.forall_mem_map, hstatic]
      exact forall₂_congr fun p _ => InstanceConfig.containerOptions_deployed_iff
  rw [← challenges_nonempty_iff draw hstatic, ← hcontainers]
  exact ⟨fun h => ⟨h.nonempty, h.container⟩, fun h => ⟨h.1, h.2⟩⟩

/-- For the flags of one draw, and for all flags that can be drawn: each challenge has a flag, and
the container of a child without a static flag has it in the variable of the child. The
condition on all draws is that each child of a machine has a static flag, and each other child
without one a variable of its own. -/
theorem deployed_iff (conf : ExerciseConfig) (hstatic : conf.static = false) :
    (∀ draw, (newExerciseOptions draw conf).Deployed conf ↔
      conf.VMsStatic ∧ (conf.OnlyVMs ∨ ∀ p ∈ conf.instances.zipIdx, p.1.Kept (draw p.2))) ∧
    ((∀ draw, (newExerciseOptions draw conf).Deployed conf) ↔
      conf.VMsStatic ∧ (conf.OnlyVMs ∨ ∀ c ∈ conf.instances, c.Separate)) := by
  refine ⟨fun draw => deployed_iff_kept draw hstatic, ?_⟩
  simp only [deployed_iff_kept _ hstatic]
  constructor
  · intro h
    refine ⟨(h fun _ _ => .repeated ⟨0, by decide +kernel⟩).1, ?_⟩
    by_cases hvms : conf.OnlyVMs
    · exact .inl hvms
    · refine .inr fun c hc => InstanceConfig.separate_of_kept fun d => ?_
      obtain ⟨i, hi, rfl⟩ := List.mem_iff_getElem.mp hc
      have hmem : (conf.instances[i], i) ∈ conf.instances.zipIdx :=
        List.mk_mem_zipIdx_iff_getElem?.mpr (List.getElem?_eq_getElem hi)
      exact (h fun _ => d).2.resolve_left hvms _ hmem
  · rintro ⟨hvms, h⟩ draw
    refine ⟨hvms, h.imp_right fun hsep p hp => ?_⟩
    exact (hsep p.1 (List.fst_mem_of_mem_zipIdx hp)).kept (draw p.2)

/-- A container with one child that has a variable of its own. -/
def ftpContainer : ExerciseConfig where
  tag := "ftp"
  static := false
  instances := [⟨"ftp", [⟨"MODE", "passive"⟩],
    [{ ChallengeConfig.zero with tag := "ftp-1", envVar := "FLAG" }], []⟩]

@[inherit_doc ftpContainer]
theorem deployed_ftp :
    (newExerciseOptions (fun _ _ => .repeated ⟨0, by decide +kernel⟩) ftpContainer).Deployed
      ftpContainer := by
  refine (deployed_iff _ rfl).2.mpr ⟨?_, .inr ?_⟩ _
  · intro c hc
    have hnil : c ∈ ([] : List InstanceConfig) := hc
    cases hnil
  · intro c hc
    obtain rfl := List.mem_singleton.mp hc
    exact ⟨by decide, by decide⟩

/-- The child of a machine is valid, and its challenge has no flag. -/
theorem deployed_not_vm :
    let conf : ExerciseConfig :=
      { tag := "ftp", static := false
        instances := [⟨"ftp.ova", [],
          [{ ChallengeConfig.zero with
              tag := "ftp-1", name := "FTP", envVar := "FLAG", points := 5 }], []⟩] }
    (∀ f ∈ conf.flags, validateChild f = none) ∧
      ¬ (newExerciseOptions (fun _ _ => .repeated ⟨0, by decide +kernel⟩) conf).Deployed conf := by
  intro conf
  refine ⟨by decide, fun h => ?_⟩
  exact h.nonempty ⟨"FTP", "ftp-1", ""⟩ (by decide) rfl

end Haaukins.Exercise
