import Haaukins.Exercise.Environment

/-!
# `Haaukins.Exercise.Machines`: which machines run after an operation (`exercise/environment.go`)

`Environment.Marked disabled` compares the machines of a lab with a predicate on tags: an
exercise with machines is disabled exactly when its machines are stopped. For each operation of
an environment, one lemma says when the predicate still fits after it.

* `startByTag`, `stopByTag` and `resetByTag` change one exercise, so the predicate may change
  for its tag as well.
* `reset` starts all exercises, and does not look at `disabledExercises`.
* `start` leaves the exercises of `disabledExercises` alone, which is what a new lab is
  marked with.
-/

set_option autoImplicit false

namespace Haaukins.Exercise

open Store (newTag validateTag)

namespace LabExercise

variable (e : LabExercise)

/-- The exercise is not static, and it has a machine. -/
def HasMachine : Prop := e.net = true ∧ e.machines ≠ []

/-- The exercise is not static, and `Create` makes a machine for it. -/
def MakesMachine : Prop := e.net = true ∧ e.size ≠ 0

/-- All machines of the exercise are stopped. -/
def Stopped : Prop := ∀ state ∈ e.machines, state = .stopped

instance : Decidable e.HasMachine := by
  unfold HasMachine
  infer_instance

instance : Decidable e.MakesMachine := by
  unfold MakesMachine
  infer_instance

instance : Decidable e.Stopped := by
  unfold Stopped
  infer_instance

/-- `Start` makes no machine. -/
@[simp] theorem start_hasMachine : e.start.HasMachine ↔ e.HasMachine := by
  simp [HasMachine, start]

/-- `Stop` takes no machine away. -/
@[simp] theorem stop_hasMachine : e.stop.HasMachine ↔ e.HasMachine := by
  simp [HasMachine, stop]

/-- After `Stop` no machine runs. -/
theorem stopped_stop : e.stop.Stopped := by
  simp [Stopped, stop]

variable {e}

/-- After `Start` a machine runs, when there is one. -/
theorem not_stopped_start (h : e.HasMachine) : ¬ e.start.Stopped := by
  obtain ⟨state, hstate⟩ := List.exists_mem_of_ne_nil _ h.2
  intro hstopped
  have hstart := hstopped _ (List.mem_map_of_mem hstate)
  -- A machine that was not running was started, and the others were running already.
  split at hstart
  · cases hstart
  · next hrunning => simp [hstart] at hrunning

/-- A second `Start` finds all machines running. -/
theorem start_start : e.start.start = e.start := by
  simp only [start, List.map_map]
  congr 1
  refine List.map_congr_left fun state _ => ?_
  simp only [Function.comp]
  split <;> simp_all

/-- `Reset` makes the machines of the configuration. -/
theorem reset_hasMachine {e' : LabExercise} (h : e.reset = some e') :
    e'.HasMachine ↔ e.MakesMachine := by
  obtain rfl := reset_eq_some h
  simp [HasMachine, MakesMachine]

/-- After `Reset` they run. -/
theorem not_stopped_reset {e' : LabExercise} (h : e.reset = some e') (hmachine : e'.HasMachine) :
    ¬ e'.Stopped := by
  obtain rfl := reset_eq_some h
  intro hstopped
  obtain ⟨state, hstate⟩ := List.exists_mem_of_ne_nil _ hmachine.2
  have hrunning := List.eq_of_mem_replicate hstate
  rw [hstopped state hstate] at hrunning
  cases hrunning

/-- A second `Reset` makes the same machines again. -/
theorem reset_twice {e' : LabExercise} (h : e.reset = some e') : e'.reset = some e' := by
  obtain ⟨created, hcreate, -⟩ := Option.map_eq_some_iff.mp h
  obtain rfl := reset_eq_some h
  have hnet : (!e.net && !e.containerOpts.isEmpty) = false := by
    unfold create at hcreate
    split at hcreate
    · cases hcreate
    · next hnot => simpa using hnot
  simp [reset, create, start, size, hnet]

end LabExercise

namespace Environment

variable (ee : Environment)

/-- The exercises with machines are disabled exactly when these are stopped. -/
def Marked (disabled : String → Prop) : Prop :=
  ∀ e ∈ ee.exercises, e.HasMachine → (disabled e.tag ↔ e.Stopped)

instance (disabled : String → Prop) [DecidablePred disabled] : Decidable (ee.Marked disabled) := by
  unfold Marked
  infer_instance

variable {ee} {ee' : Environment} {disabled disabled' : String → Prop} {s : String}

/-- The marks count by their tags. -/
theorem marked_congr (h : ∀ tag, disabled tag ↔ disabled' tag) :
    ee.Marked disabled ↔ ee.Marked disabled' :=
  forall₃_congr fun e _ _ => iff_congr (h e.tag) Iff.rfl

/-- When one tag and its exercise change, the other exercises stay marked. -/
theorem Marked.mapTag_iff (h : ee.Marked disabled)
    (hothers : ∀ tag, tag ≠ s → (disabled' tag ↔ disabled tag))
    {f : LabExercise → LabExercise} {hf : ∀ e, (f e).tag = e.tag} :
    (ee.mapTag s f hf).Marked disabled' ↔
      ∀ e ∈ ee.exercises, e.tag = s → (f e).HasMachine → (disabled' s ↔ (f e).Stopped) := by
  simp only [Marked, mapTag, mapExercises, List.forall_mem_map]
  refine forall₂_congr fun e he => ?_
  by_cases htag : e.tag = s
  · simp only [htag, if_true, forall_true_left, hf]
  · -- Another exercise keeps its machines and its mark.
    simp only [htag, if_false, false_imp_iff, iff_true]
    rw [hothers e.tag htag]
    exact h e he

/-- The exercises stay as they are, and one tag changes. -/
theorem Marked.tag_iff (h : ee.Marked disabled)
    (hothers : ∀ tag, tag ≠ s → (disabled' tag ↔ disabled tag)) :
    ee.Marked disabled' ↔
      ∀ e ∈ ee.exercises, e.tag = s → e.HasMachine → (disabled' s ↔ disabled s) := by
  refine forall₂_congr fun e he => ?_
  by_cases htag : e.tag = s
  · subst htag
    simp only [forall_true_left]
    exact forall_congr' fun hmachine => by rw [h e he hmachine]
  · simp only [htag, false_imp_iff, iff_true]
    rw [hothers e.tag htag]
    exact h e he

/-- `StartByTag` starts the exercise of a valid tag that the environment knows, and otherwise
does nothing. -/
theorem startByTag_cases (ee : Environment) (s : String) :
    (validateTag s = none ∧ s ∈ ee.tags ∧
        ee.startByTag s = (ee.mapTag s LabExercise.start LabExercise.start_tag, none)) ∨
      ¬ (validateTag s = none ∧ s ∈ ee.tags) ∧ ∃ err, ee.startByTag s = (ee, some err) := by
  rw [startByTag, newTag]
  cases validateTag s with
  | some err => exact .inr ⟨by simp, err, rfl⟩
  | none =>
    by_cases hmem : s ∈ ee.tags
    · exact .inl ⟨rfl, hmem, by simp [hmem]⟩
    · exact .inr ⟨by simp [hmem], unknownTagErr, by simp [hmem]⟩

/-- `StopByTag` stops the exercise of a valid tag that the environment knows, and otherwise
does nothing. -/
theorem stopByTag_cases (ee : Environment) (s : String) :
    (validateTag s = none ∧ s ∈ ee.tags ∧
        ee.stopByTag s = (ee.mapTag s LabExercise.stop LabExercise.stop_tag, none)) ∨
      ¬ (validateTag s = none ∧ s ∈ ee.tags) ∧ ∃ err, ee.stopByTag s = (ee, some err) := by
  rw [stopByTag, newTag]
  cases validateTag s with
  | some err => exact .inr ⟨by simp, err, rfl⟩
  | none =>
    by_cases hmem : s ∈ ee.tags
    · exact .inl ⟨rfl, hmem, by simp [hmem]⟩
    · exact .inr ⟨by simp [hmem], unknownTagErr, by simp [hmem]⟩

/-- An exercise has its tag among the tags. -/
theorem mem_tags_of_mem {e : LabExercise} (he : e ∈ ee.exercises) : e.tag ∈ ee.tags :=
  List.mem_map_of_mem he

/-- The operations keep the list of disabled exercises. -/
theorem disabledExercises_startByTag (ee : Environment) (s : String) :
    (ee.startByTag s).1.disabledExercises = ee.disabledExercises := by
  rcases ee.startByTag_cases s with ⟨-, -, hstart⟩ | ⟨-, err, hstart⟩
  · rw [hstart]
    rfl
  · rw [hstart]

/-- `StopByTag` leaves the list of disabled exercises alone. -/
theorem disabledExercises_stopByTag (ee : Environment) (s : String) :
    (ee.stopByTag s).1.disabledExercises = ee.disabledExercises := by
  rcases ee.stopByTag_cases s with ⟨-, -, hstop⟩ | ⟨-, err, hstop⟩
  · rw [hstop]
    rfl
  · rw [hstop]

/-- An exercise keeps its tag, so a lookup finds the changed exercise. -/
theorem byTag_mapTag (tag : String) {f : LabExercise → LabExercise} (hf : ∀ e, (f e).tag = e.tag) :
    (ee.mapTag s f hf).byTag tag =
      (ee.byTag tag).map fun e => if e.tag = s then f e else e := by
  simp only [byTag, mapTag, mapExercises, List.find?_map]
  congr 2
  funext e
  simp only [Function.comp]
  split
  · rw [hf]
  · rfl

/-- Two changes of the exercise with a tag are one. -/
theorem mapTag_mapTag {f g : LabExercise → LabExercise} (hf : ∀ e, (f e).tag = e.tag)
    (hg : ∀ e, (g e).tag = e.tag) :
    (ee.mapTag s f hf).mapTag s g hg =
      ee.mapTag s (fun e => g (f e)) fun e => (hg (f e)).trans (hf e) := by
  simp only [mapTag, mapExercises, List.map_map, mk.injEq, and_true]
  refine List.map_congr_left fun e _ => ?_
  simp only [Function.comp]
  split
  · next htag => rw [if_pos ((hf e).trans htag)]
  · rfl

/-- Two changes that agree on the exercises are the same change. -/
theorem mapTag_congr {f g : LabExercise → LabExercise} {hf : ∀ e, (f e).tag = e.tag}
    {hg : ∀ e, (g e).tag = e.tag} (h : ∀ e ∈ ee.exercises, f e = g e) :
    ee.mapTag s f hf = ee.mapTag s g hg := by
  simp only [mapTag, mapExercises, mk.injEq, and_true]
  refine List.map_congr_left fun e he => ?_
  rw [h e he]

/-- `ResetByTag` changes no tags, and no list of disabled exercises. -/
theorem resetByTag_frame {err : Option String} (hreset : ee.resetByTag s = some (ee', err)) :
    ee'.tags = ee.tags ∧ ee'.disabledExercises = ee.disabledExercises := by
  rw [resetByTag] at hreset
  split at hreset
  · cases hreset
    exact ⟨rfl, rfl⟩
  split at hreset
  · cases hreset
    exact ⟨rfl, rfl⟩
  · obtain ⟨e, -, hee'⟩ := Option.map_eq_some_iff.mp hreset
    cases hee'
    exact ⟨tags_mapTag .., rfl⟩

/-- `Reset` leaves the list of disabled exercises alone. -/
theorem disabledExercises_reset (hreset : ee.reset = some ee') :
    ee'.disabledExercises = ee.disabledExercises := by
  rw [reset] at hreset
  split at hreset
  · cases hreset
    rfl
  · cases hreset

/-- After `StartByTag` the tag of a started exercise must not be disabled. -/
theorem Marked.startByTag_iff (h : ee.Marked disabled)
    (hothers : ∀ tag, tag ≠ s → (disabled' tag ↔ disabled tag)) :
    (ee.startByTag s).1.Marked disabled' ↔
      ∀ e ∈ ee.exercises, e.tag = s → e.HasMachine →
        if validateTag s = none then ¬ disabled' s else (disabled' s ↔ disabled s) := by
  rcases ee.startByTag_cases s with ⟨hvalid, -, hstart⟩ | ⟨hnot, err, hstart⟩
  · rw [hstart, h.mapTag_iff hothers]
    simp only [if_pos hvalid, LabExercise.start_hasMachine]
    refine forall₄_congr fun e _ _ hmachine => ?_
    exact iff_false_right (LabExercise.not_stopped_start hmachine)
  · -- Nothing starts. When the lab has the tag, it is not a valid one.
    rw [hstart, h.tag_iff hothers]
    refine forall₄_congr fun e he htag _ => ?_
    have hinvalid : ¬ validateTag s = none := fun hvalid =>
      hnot ⟨hvalid, htag ▸ mem_tags_of_mem he⟩
    rw [if_neg hinvalid]

/-- After `StopByTag` the tag of a stopped exercise must be disabled. -/
theorem Marked.stopByTag_iff (h : ee.Marked disabled)
    (hothers : ∀ tag, tag ≠ s → (disabled' tag ↔ disabled tag)) :
    (ee.stopByTag s).1.Marked disabled' ↔
      ∀ e ∈ ee.exercises, e.tag = s → e.HasMachine →
        if validateTag s = none then disabled' s else (disabled' s ↔ disabled s) := by
  rcases ee.stopByTag_cases s with ⟨hvalid, -, hstop⟩ | ⟨hnot, err, hstop⟩
  · rw [hstop, h.mapTag_iff hothers]
    simp only [if_pos hvalid, LabExercise.stop_hasMachine]
    refine forall₄_congr fun e _ _ _ => ?_
    exact iff_true_right (LabExercise.stopped_stop e)
  · -- Nothing stops. When the lab has the tag, it is not a valid one.
    rw [hstop, h.tag_iff hothers]
    refine forall₄_congr fun e he htag _ => ?_
    have hinvalid : ¬ validateTag s = none := fun hvalid =>
      hnot ⟨hvalid, htag ▸ mem_tags_of_mem he⟩
    rw [if_neg hinvalid]

/-- `ResetByTag` fails for a tag that is not valid, or not known, and changes nothing then. -/
theorem resetByTag_eq_some {err : Option String} (hreset : ee.resetByTag s = some (ee', err)) :
    (err = none ↔ validateTag s = none ∧ s ∈ ee.tags) ∧ (err ≠ none → ee' = ee) := by
  rw [resetByTag, newTag] at hreset
  cases hvalid : validateTag s with
  | some err' =>
    rw [hvalid] at hreset
    obtain ⟨rfl, rfl⟩ := Prod.mk.inj (Option.some.inj hreset)
    simp
  | none =>
    simp only [hvalid] at hreset
    have hbyTag : (ee.byTag s).isSome ↔ s ∈ ee.tags := by
      simp [byTag, tags, List.find?_isSome]
    cases hfound : ee.byTag s with
    | none =>
      rw [hfound] at hreset hbyTag
      obtain ⟨rfl, rfl⟩ := Prod.mk.inj (Option.some.inj hreset)
      simpa using hbyTag
    | some e =>
      rw [hfound] at hreset hbyTag
      obtain ⟨_, -, hreset⟩ := Option.map_eq_some_iff.mp hreset
      obtain ⟨-, rfl⟩ := Prod.mk.inj hreset
      simpa using hbyTag

/-- What a successful `ResetByTag` does: it finds an exercise that can be reset, and resets the
exercises with the tag. -/
theorem resetByTag_succeeds (hreset : ee.resetByTag s = some (ee', none)) :
    newTag s = .ok s ∧
      (∃ e e', ee.byTag s = some e ∧ e.tag = s ∧ e.reset = some e') ∧
      ee' = ee.mapTag s (fun e => e.reset.getD e) LabExercise.reset_getD_tag := by
  rw [resetByTag] at hreset
  split at hreset
  · cases hreset
  next t hnew =>
  obtain ⟨-, rfl⟩ := Store.newTag_ok_iff.mp hnew
  split at hreset
  · cases hreset
  next e hfound =>
  obtain ⟨e', he', hee'⟩ := Option.map_eq_some_iff.mp hreset
  have htag : e.tag = t := by simpa using List.find?_some hfound
  exact ⟨hnew, ⟨e, e', hfound, htag, he'⟩, (Prod.mk.inj hee').1.symm⟩

/-- What `ResetByTag` makes of an environment when it succeeds. -/
theorem resetByTag_eq_mapTag (hreset : ee.resetByTag s = some (ee', none)) :
    ee' = ee.mapTag s (fun e => e.reset.getD e) LabExercise.reset_getD_tag :=
  (resetByTag_succeeds hreset).2.2

/-- A second `ResetByTag` succeeds as well, and changes nothing. -/
theorem resetByTag_twice (hreset : ee.resetByTag s = some (ee', none)) :
    ee'.resetByTag s = some (ee', none) := by
  obtain ⟨hnew, ⟨e, e', hfound, htag, he'⟩, hee'⟩ := resetByTag_succeeds hreset
  have hfound' : ee'.byTag s = some e' := by
    rw [hee', byTag_mapTag, hfound, Option.map_some, if_pos htag, he', Option.getD_some]
  simp only [resetByTag, hnew, hfound', LabExercise.reset_twice he', Option.map_some,
    Option.some.injEq, Prod.mk.injEq, and_true]
  rw [hee', mapTag_mapTag]
  -- Each exercise with the tag was reset, or could not be.
  refine mapTag_congr fun e _ => ?_
  cases hagain : e.reset with
  | none => rw [Option.getD_none, hagain, Option.getD_none]
  | some e'' => rw [Option.getD_some, LabExercise.reset_twice hagain, Option.getD_some]

/-- A `ResetByTag` that succeeds resets each exercise with the tag. -/
theorem resetByTag_reset {e : LabExercise} (hreset : ee.resetByTag s = some (ee', none))
    (he : e ∈ ee.exercises) (htag : e.tag = s) : ∃ e', e.reset = some e' := by
  obtain ⟨-, ⟨e₀, e₁, hfound, htag₀, hreset₀⟩, -⟩ := resetByTag_succeeds hreset
  -- The tags are distinct, so this is the exercise that `ResetByTag` found.
  obtain rfl : e = e₀ := List.inj_on_of_nodup_map ee.distinct he (List.mem_of_find?_eq_some hfound)
    (htag.trans htag₀.symm)
  exact ⟨e₁, hreset₀⟩

/-- After `ResetByTag` the tag must not be disabled, unless its exercise makes no machine. -/
theorem Marked.resetByTag_iff (h : ee.Marked disabled)
    (hothers : ∀ tag, tag ≠ s → (disabled' tag ↔ disabled tag))
    (hreset : ee.resetByTag s = some (ee', none)) :
    ee'.Marked disabled' ↔
      ∀ e ∈ ee.exercises, e.tag = s → e.MakesMachine → ¬ disabled' s := by
  rw [resetByTag_eq_mapTag hreset, h.mapTag_iff hothers]
  refine forall₃_congr fun e he htag => ?_
  obtain ⟨e', he'⟩ := resetByTag_reset hreset he htag
  rw [he', Option.getD_some, LabExercise.reset_hasMachine he']
  refine forall_congr' fun hmakes => ?_
  exact iff_false_right
    (LabExercise.not_stopped_reset he' ((LabExercise.reset_hasMachine he').mpr hmakes))

/-- After `Reset` no exercise that makes machines may be disabled. -/
theorem marked_reset_iff (hreset : ee.reset = some ee') :
    ee'.Marked disabled ↔ ∀ e ∈ ee.exercises, e.MakesMachine → ¬ disabled e.tag := by
  rw [reset] at hreset
  split at hreset
  swap
  · cases hreset
  next hall =>
  obtain rfl := Option.some.inj hreset
  simp only [Marked, mapExercises, List.forall_mem_map]
  refine forall₂_congr fun e he => ?_
  -- `Reset` succeeded for each exercise.
  obtain ⟨e', he'⟩ := Option.isSome_iff_exists.mp (List.all_eq_true.mp hall e he)
  have htag : e'.tag = e.tag := by rw [← LabExercise.reset_getD_tag e, he', Option.getD_some]
  rw [he', Option.getD_some, LabExercise.reset_hasMachine he', htag]
  refine forall_congr' fun hmakes => ?_
  exact iff_false_right
    (LabExercise.not_stopped_reset he' ((LabExercise.reset_hasMachine he').mpr hmakes))

/-- `Start` marks the environment with its disabled exercises when no machine runs before. -/
theorem marked_start (hstopped : ∀ e ∈ ee.exercises, e.Stopped) :
    ee.start.Marked fun tag => tag ∈ ee.disabledExercises := by
  simp only [Marked, start, mapExercises, List.forall_mem_map]
  intro e he hmachine
  by_cases hdisabled : e.tag ∈ ee.disabledExercises
  · simp only [if_pos hdisabled]
    exact iff_of_true hdisabled (hstopped e he)
  · simp only [if_neg hdisabled] at hmachine ⊢
    exact iff_of_false hdisabled
      (LabExercise.not_stopped_start ((LabExercise.start_hasMachine e).mp hmachine))

/-! ### The exercises that `Add` enters -/

variable (newFlag : String → Nat → Nat → String) {conf : Store.Exercise}
  {confs : List Store.Exercise}

/-- The exercises before the first one that `Add` refuses. -/
def accepted : List String → List Store.Exercise → List Store.Exercise
  | _, [] => []
  | tags, conf :: confs =>
    if conf.tag = "" ∨ conf.tag ∈ tags then [] else conf :: accepted (tags ++ [conf.tag]) confs

/-- `Add` appends what it accepts. -/
theorem exercises_add (ee : Environment) (confs : List Store.Exercise) :
    (ee.add newFlag confs).1.exercises =
      ee.exercises ++ (accepted ee.tags confs).map (added newFlag) := by
  induction confs generalizing ee with
  | nil => simp [add, accepted]
  | cons conf confs ih =>
    rw [add, accepted]
    split
    · next hempty => simp [hempty]
    split
    · next hmem => simp [hmem]
    · next hempty hmem =>
      -- The rest is added to the environment with this exercise.
      rw [ih, if_neg (by simp [hempty, hmem]), tags_push, added_tag]
      simp [push]

/-- `Add` leaves the list of disabled exercises alone. -/
theorem disabledExercises_add (ee : Environment) (confs : List Store.Exercise) :
    (ee.add newFlag confs).1.disabledExercises = ee.disabledExercises := by
  induction confs generalizing ee with
  | nil => rfl
  | cons conf confs ih =>
    rw [add]
    split
    · rfl
    split
    · rfl
    · rw [ih]
      rfl

/-- `Add` succeeds exactly when it refuses no exercise. -/
theorem add_eq_none_iff_accepted (ee : Environment) (confs : List Store.Exercise) :
    (ee.add newFlag confs).2 = none ↔ accepted ee.tags confs = confs := by
  induction confs generalizing ee with
  | nil => simp [add, accepted]
  | cons conf confs ih =>
    rw [add, accepted]
    split
    · next hempty => simp [hempty]
    split
    · next hmem => simp [hmem]
    · next hempty hmem =>
      rw [ih, if_neg (by simp [hempty, hmem]), tags_push, added_tag, List.cons.injEq,
        and_iff_right rfl]

/-- An accepted configuration has a new tag. -/
theorem notMem_of_accepted {tags : List String} (h : conf ∈ accepted tags confs) :
    conf.tag ∉ tags := by
  induction confs generalizing tags with
  | nil => cases h
  | cons head confs ih =>
    rw [accepted] at h
    split at h
    · cases h
    · next hnew =>
      -- The later exercises are accepted behind more tags.
      rcases List.mem_cons.mp h with rfl | hrest
      · exact fun hmem => hnew (.inr hmem)
      · exact fun hmem => ih hrest (List.mem_append_left _ hmem)

/-- Each instance gets a machine, as a container or as a virtual machine. -/
theorem newExercise_size (flag : Nat → Nat → String) (hstatic : conf.static = false) :
    (newExercise flag conf).size ≠ 0 ↔ conf.instances ≠ [] := by
  cases hinstances : conf.instances with
  | nil => simp [newExercise, LabExercise.size, hinstances]
  | cons c cs =>
    by_cases hova : isOva c
    · simp [newExercise, LabExercise.size, hinstances, hstatic, hova]
    · simp [newExercise, LabExercise.size, hinstances, hova, Store.Exercise.containerOpts]

variable {newFlag}

/-- A new exercise has a machine when it is not static and has an instance. -/
theorem added_hasMachine :
    (added newFlag conf).HasMachine ↔ conf.static = false ∧ conf.instances ≠ [] := by
  cases hstatic : conf.static with
  | true => simp [added, LabExercise.HasMachine, newExercise, hstatic]
  | false =>
    -- `Create` runs for an exercise that is not static.
    rw [← newExercise_size (newFlag conf.tag) hstatic]
    simp [added, LabExercise.HasMachine, newExercise, hstatic]

/-- `Add` starts no machine. -/
theorem stopped_added : (added newFlag conf).Stopped := by
  cases hstatic : conf.static with
  | true => simp [added, LabExercise.Stopped, newExercise, hstatic]
  | false => simp [added, LabExercise.Stopped, hstatic, List.mem_replicate]

end Environment

end Haaukins.Exercise
