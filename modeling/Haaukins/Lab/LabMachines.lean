import Haaukins.Exercise.Machines
import Haaukins.Lab.Lab

/-!
# `Haaukins.Lab.LabMachines`: the machines of new labs and of added exercises (`lab/lab.go`)

* `newLab_start_marked`: a lab that was just made and started has exactly its disabled
  exercises stopped.
* `marked_addChallenge_iff`: `addChallenge` starts the exercises that it adds, whether they are
  disabled or not. When the environment refuses one of them, those before it were made and are
  not started.
-/

set_option autoImplicit false

namespace Haaukins.Lab

open Exercise (Environment LabExercise)
open Exercise.Environment (accepted added)
open Store (validateTag)

variable {newFlag newFlag' : String → Nat → Nat → String} {ee : Environment}
  {confs : List Store.Exercise} {disabled : String → Prop}

/-- A new lab has the disabled exercises of its configuration. -/
theorem LabHost.newLab_disabledExercises {lh : LabHost} (h : lh.newLab newFlag = .ok ee) :
    ee.disabledExercises = lh.conf.disabledExercises := by
  unfold LabHost.newLab at h
  split at h
  · cases h
  · cases h
    rfl

/-- A lab that was just made and started has exactly its disabled exercises stopped. -/
theorem LabHost.newLab_start_marked {lh : LabHost} (h : lh.newLab newFlag = .ok ee) :
    ee.start.Marked fun tag => tag ∈ ee.disabledExercises := by
  refine Environment.marked_start fun e he => ?_
  unfold LabHost.newLab at h
  split at h
  · cases h
  next env hadd =>
  cases h
  have hexercises := Environment.exercises_add newFlag .new lh.conf.exercises
  rw [hadd] at hexercises
  change e ∈ env.exercises at he
  rw [hexercises] at he
  obtain ⟨conf, -, rfl⟩ := List.mem_map.mp (by simpa [Environment.new] using he)
  exact Environment.stopped_added

/-- The loop of `AddChallenge` starts an exercise with this tag. -/
def Starts (confs : List Store.Exercise) (tag : String) : Prop :=
  ∃ c ∈ confs, c.static = false ∧ validateTag c.tag = none ∧ c.tag = tag

instance (confs : List Store.Exercise) (tag : String) : Decidable (Starts confs tag) := by
  unfold Starts
  infer_instance

/-- Only the exercises of a valid tag are started. -/
theorem exercises_startByTag (ee : Environment) {tag : String} :
    (ee.startByTag tag).1.exercises =
      ee.exercises.map fun e => if validateTag tag = none ∧ e.tag = tag then e.start else e := by
  rcases ee.startByTag_cases tag with ⟨hvalid, -, hstart⟩ | ⟨hnot, err, hstart⟩
  · rw [hstart]
    simp [Environment.mapTag, Environment.mapExercises, hvalid]
  · have hsame : ∀ e ∈ ee.exercises,
        (if validateTag tag = none ∧ e.tag = tag then e.start else e) = e := by
      intro e he
      refine if_neg ?_
      rintro ⟨hvalid, rfl⟩
      exact hnot ⟨hvalid, Environment.mem_tags_of_mem he⟩
    rw [hstart, List.map_congr_left hsame, List.map_id']

/-- Each exercise that a configuration names is started. -/
theorem exercises_startChallenges (ee : Environment) (err : Option String) :
    (startChallenges ee err confs).1.exercises =
      ee.exercises.map fun e => if Starts confs e.tag then e.start else e := by
  induction confs generalizing ee err with
  | nil => simp [startChallenges, Starts]
  | cons c confs ih =>
    have hcons : ∀ tag, Starts (c :: confs) tag ↔
        (c.static = false ∧ validateTag c.tag = none ∧ c.tag = tag) ∨ Starts confs tag := by
      intro tag
      simp [Starts]
    rw [startChallenges]
    split
    · next hstatic => simp [ih, hcons, hstatic]
    · next hstatic =>
      rw [ih, exercises_startByTag, List.map_map]
      refine List.map_congr_left fun e _ => ?_
      have hfalse : c.static = false := by simpa using hstatic
      simp only [Function.comp, hcons, hfalse, true_and, eq_comm (a := c.tag)]
      by_cases hfirst : validateTag c.tag = none ∧ e.tag = c.tag
      · -- The rest may start it once more.
        simp only [hfirst, and_self, true_or, if_true, LabExercise.start_tag,
          LabExercise.start_start, ite_self]
      · simp only [hfirst, false_or, if_false]

/-- Starting does not change the disabled ones. -/
theorem disabledExercises_startChallenges (ee : Environment) (err : Option String) :
    (startChallenges ee err confs).1.disabledExercises = ee.disabledExercises := by
  induction confs generalizing ee err with
  | nil => rfl
  | cons c confs ih =>
    rw [startChallenges]
    split
    · exact ih ee err
    · rw [ih, Environment.disabledExercises_startByTag]

/-- Nor does adding. -/
theorem disabledExercises_addChallenge (ee : Environment) (confs : List Store.Exercise) :
    (addChallenge newFlag ee confs).1.disabledExercises = ee.disabledExercises := by
  have hadd := Environment.disabledExercises_add newFlag ee confs
  rw [addChallenge]
  split
  · next ee' err heq => rwa [heq] at hadd
  · next ee' heq =>
    rw [heq] at hadd
    rw [disabledExercises_startChallenges, ← hadd]

/-- A second addition of the same exercises changes nothing. -/
theorem addChallenge_fst_twice (ee : Environment) (confs : List Store.Exercise) :
    (addChallenge newFlag' (addChallenge newFlag ee confs).1 confs).1 =
      (addChallenge newFlag ee confs).1 := by
  cases confs with
  | nil => rfl
  | cons conf confs =>
    have htwice : ∃ err, addChallenge newFlag' (addChallenge newFlag ee (conf :: confs)).1
        (conf :: confs) = ((addChallenge newFlag ee (conf :: confs)).1, some err) :=
      addChallenge_twice
    obtain ⟨err, htwice⟩ := htwice
    rw [htwice]

/-- Each exercise that `addChallenge` makes is disabled exactly when it is not started: when the
environment refuses an exercise behind it, or its tag is not valid. -/
def AddsMarked (ee : Environment) (confs : List Store.Exercise) (disabled : String → Prop) :
    Prop :=
  ∀ conf ∈ accepted ee.tags confs, conf.static = false → conf.instances ≠ [] →
    (disabled conf.tag ↔
      ¬ (accepted ee.tags confs = confs ∧ validateTag conf.tag = none))

instance (ee : Environment) (confs : List Store.Exercise) (disabled : String → Prop)
    [DecidablePred disabled] : Decidable (AddsMarked ee confs disabled) := by
  unfold AddsMarked
  infer_instance

/-- After `addChallenge` an environment that was marked is marked exactly when the exercises that
were made are. -/
theorem marked_addChallenge_iff (h : ee.Marked disabled) :
    (addChallenge newFlag ee confs).1.Marked disabled ↔ AddsMarked ee confs disabled := by
  have hadd := Environment.exercises_add newFlag ee confs
  have hnone := Environment.add_eq_none_iff_accepted newFlag ee confs
  rw [addChallenge]
  split
  · next ee' err hrefused =>
    simp only [hrefused, reduceCtorEq, false_iff] at hadd hnone
    have hold : ∀ e ∈ ee.exercises, e.HasMachine → (disabled e.tag ↔ e.Stopped) := h
    simp only [Environment.Marked, hadd, List.forall_mem_append, and_iff_right hold,
      List.forall_mem_map, AddsMarked, hnone, false_and, not_false_eq_true]
    refine forall₂_congr fun conf _ => ?_
    rw [Environment.added_tag, Environment.added_hasMachine, and_imp]
    exact forall₂_congr fun _ _ => iff_congr Iff.rfl (iff_true_intro Environment.stopped_added)
  · next ee' hok =>
    simp only [hok, true_iff] at hadd hnone
    simp only [Environment.Marked, exercises_startChallenges, List.forall_mem_map, hadd, hnone,
      List.forall_mem_append, AddsMarked, true_and]
    have hold : ∀ e ∈ ee.exercises,
        (if Starts confs e.tag then e.start else e).HasMachine →
          (disabled (if Starts confs e.tag then e.start else e).tag ↔
            (if Starts confs e.tag then e.start else e).Stopped) := by
      intro e he
      -- The environment had the tag before, so it is not among the new ones.
      have hnot : ¬ Starts confs e.tag := by
        rintro ⟨c, hc, -, -, htag⟩
        have hnew : c.tag ∉ ee.tags := Environment.notMem_of_accepted (by rwa [hnone])
        exact hnew (htag ▸ Environment.mem_tags_of_mem he)
      simp only [if_neg hnot]
      exact h e he
    rw [and_iff_right hold]
    refine forall₂_congr fun conf hconf => ?_
    have hstarts : conf.static = false → (Starts confs conf.tag ↔ validateTag conf.tag = none) := by
      intro hstatic
      constructor
      · rintro ⟨c, -, -, hvalid, htag⟩
        rwa [← htag]
      · intro hvalid
        exact ⟨conf, hconf, hstatic, hvalid, rfl⟩
    by_cases hstart : Starts confs conf.tag
    · simp only [Environment.added_tag, if_pos hstart, LabExercise.start_hasMachine,
        LabExercise.start_tag, Environment.added_hasMachine, and_imp]
      refine forall₂_congr fun hstatic hinstances => ?_
      have hmachine : (added newFlag conf).HasMachine :=
        Environment.added_hasMachine.mpr ⟨hstatic, hinstances⟩
      have hvalid : validateTag conf.tag = none := (hstarts hstatic).mp hstart
      exact iff_congr Iff.rfl
        (iff_of_false (LabExercise.not_stopped_start hmachine) (not_not_intro hvalid))
    · simp only [Environment.added_tag, if_neg hstart, Environment.added_hasMachine, and_imp]
      refine forall₂_congr fun hstatic _ => ?_
      have hinvalid : ¬ validateTag conf.tag = none := mt (hstarts hstatic).mpr hstart
      exact iff_congr Iff.rfl (iff_of_true Environment.stopped_added hinvalid)

end Haaukins.Lab
