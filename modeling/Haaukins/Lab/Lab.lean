import Haaukins.Exercise.Environment

/-!
# `Haaukins.Lab.Lab`: the exercises of one lab, and the host that makes labs (`lab/lab.go`)

* `addChallenge` adds exercises to the environment of a lab that runs, and starts the ones that
  have machines. It stops when the environment refuses one of them, so a second call with the
  same exercises changes nothing (`addChallenge_twice`).
* `LabHost` has the exercises that each new lab gets. `updateExercises` puts the new ones in
  front.

The frontends of a lab are left out.
-/

set_option autoImplicit false

namespace Haaukins.Lab

open Exercise (Environment)
open Store (LabConfig validateTag newTag)

/-- The loop of `lab.AddChallenge`. It keeps the error of the last exercise that did not
start. -/
def startChallenges (ee : Environment) (startByTagError : Option String) :
    List Store.Exercise → Environment × Option String
  | [] => (ee, startByTagError)
  | ch :: confs =>
    if ch.static then startChallenges ee startByTagError confs
    else
      match ee.startByTag ch.tag with
      | (ee, err) => startChallenges ee (err <|> startByTagError) confs

/-- `lab.AddChallenge`. -/
def addChallenge (newFlag : String → Nat → Nat → String) (ee : Environment)
    (confs : List Store.Exercise) : Environment × Option String :=
  match ee.add newFlag confs with
  | (ee, some err) => (ee, some err)
  | (ee, none) => startChallenges ee none confs

/-- `LabHost`. -/
structure LabHost where
  conf : LabConfig

namespace LabHost

/-- `LabHost.UpdateExercises`. -/
def updateExercises (lh : LabHost) (newExercises : List Store.Exercise) : LabHost where
  conf := { lh.conf with exercises := newExercises ++ lh.conf.exercises }

/-- `LabHost.NewLab`. -/
def newLab (lh : LabHost) (newFlag : String → Nat → Nat → String) : Except String Environment :=
  match Environment.new.add newFlag lh.conf.exercises with
  | (_, some err) => .error ("new environment add err " ++ err ++ " ")
  | (env, none) => .ok { env with disabledExercises := lh.conf.disabledExercises }

end LabHost

variable {newFlag newFlag' : String → Nat → Nat → String} {ee : Environment}

/-- A new lab has the exercises of its host. -/
theorem LabHost.newLab_tags {lh : LabHost} (h : lh.newLab newFlag = .ok ee) :
    ee.tags = lh.conf.exercises.map Store.Exercise.tag := by
  unfold LabHost.newLab at h
  split at h
  · cases h
  · next env hadd =>
    cases h
    have hok : (Environment.new.add newFlag lh.conf.exercises).2 = none := by rw [hadd]
    have htags := Environment.tags_add hok
    rw [hadd] at htags
    exact htags

/-- Starting a tag fails unless it is valid and known. -/
theorem startByTag_eq_none_iff {s : String} :
    (ee.startByTag s).2 = none ↔ validateTag s = none ∧ s ∈ ee.tags := by
  unfold Environment.startByTag
  split
  · next err hnew =>
    unfold newTag at hnew
    split at hnew
    · next h => simp [h]
    · cases hnew
  · next t hnew =>
    obtain ⟨hvalid, rfl⟩ := Store.newTag_ok_iff.mp hnew
    split
    · next hmem => simp [hvalid, hmem]
    · next hmem => simp [hmem]

/-- Starting changes no tags. -/
theorem startChallenges_tags (confs : List Store.Exercise) (err : Option String) :
    (startChallenges ee err confs).1.tags = ee.tags := by
  induction confs generalizing ee err with
  | nil => rfl
  | cons ch confs ih =>
    rw [startChallenges]
    split
    · exact ih err
    · rw [ih, Environment.tags_startByTag]

/-- The loop ends without an error exactly when each exercise with machines has a valid tag
that the environment knows. -/
theorem startChallenges_eq_none_iff {confs : List Store.Exercise} {err : Option String} :
    (startChallenges ee err confs).2 = none ↔
      err = none ∧ ∀ c ∈ confs, c.static = false → validateTag c.tag = none ∧ c.tag ∈ ee.tags := by
  induction confs generalizing ee err with
  | nil => simp [startChallenges]
  | cons ch confs ih =>
    rw [startChallenges]
    split
    · next hstatic => simp [ih, hstatic]
    · next hstatic =>
      rw [ih, Environment.tags_startByTag, List.forall_mem_cons, ← startByTag_eq_none_iff]
      have hfalse : ch.static = false := by simpa using hstatic
      cases (ee.startByTag ch.tag).2 <;> simp [hfalse]

/-- The tags are those after the adding. -/
theorem addChallenge_tags {confs : List Store.Exercise} :
    (addChallenge newFlag ee confs).1.tags = (ee.add newFlag confs).1.tags := by
  unfold addChallenge
  split
  · next hadd => rw [hadd]
  · next hadd => rw [startChallenges_tags, hadd]

/-- Adding fails if the adding or one of the starts does. -/
theorem addChallenge_eq_none_iff {confs : List Store.Exercise} :
    (addChallenge newFlag ee confs).2 = none ↔
      (ee.add newFlag confs).2 = none ∧
        ∀ c ∈ confs, c.static = false → validateTag c.tag = none := by
  unfold addChallenge
  split
  · next hadd => simp [hadd]
  · next ee' hadd =>
    have hok : (ee.add newFlag confs).2 = none := by rw [hadd]
    have htags := Environment.tags_add hok
    rw [hadd] at htags
    rw [startChallenges_eq_none_iff, hadd]
    simp only [true_and]
    refine forall₃_congr fun c hc _ => and_iff_left ?_
    rw [htags]
    exact List.mem_append_right _ (List.mem_map_of_mem hc)

/-- An exercise without a tag or with a known tag is refused, and nothing is added. -/
theorem addChallenge_of_refused {conf : Store.Exercise} {confs : List Store.Exercise}
    (h : conf.tag = "" ∨ conf.tag ∈ ee.tags) :
    ∃ err, addChallenge newFlag ee (conf :: confs) = (ee, some err) := by
  by_cases hempty : conf.tag = ""
  · exact ⟨_, by rw [addChallenge, Environment.add, if_pos hempty]⟩
  · have hmem : conf.tag ∈ ee.tags := h.resolve_left hempty
    exact ⟨_, by rw [addChallenge, Environment.add, if_neg hempty, dif_pos hmem]⟩

/-- A second call with the same exercises is refused at the first of them. -/
theorem addChallenge_twice {conf : Store.Exercise} {confs : List Store.Exercise} :
    let ee' := (addChallenge newFlag ee (conf :: confs)).1
    ∃ err, addChallenge newFlag' ee' (conf :: confs) = (ee', some err) := by
  refine addChallenge_of_refused ?_
  rw [addChallenge_tags]
  by_cases hempty : conf.tag = ""
  · exact .inl hempty
  by_cases hold : conf.tag ∈ ee.tags
  · exact .inr (Environment.tags_subset_add _ hold)
  · rw [Environment.add_cons_of_ok hempty hold]
    exact .inr (Environment.tags_subset_add _ (by simp))

end Haaukins.Lab
