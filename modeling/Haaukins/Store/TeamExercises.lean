import Haaukins.Store.Exercise

/-!
# `Haaukins.Store.TeamExercises`: the parent challenges of a team (`store/team.go`)

A team knows the children of each parent challenge (`allChallenges`), and those of the parents
that its frontend shows as disabled (`disabledChallenges`). `manageDisabledChals` toggles a
parent, `addDisabledChal` only disables. Both look the children up in `allChallenges`, and
leave a parent alone that is not there.
-/

set_option autoImplicit false

namespace Haaukins.Store

/-- The challenge fields of a `Team`. -/
structure TeamExercises where
  challenges : TeamChallenges
  allChallenges : GoMap String (List String)
  disabledChallenges : GoMap String (List String)

/-- The challenge fields of `NewTeam`. `CopyMap` makes new maps with the same entries. -/
def newTeamExercises (solvedChalsDB : List (String × String))
    (disabledExs allChallenges : GoMap String (List String)) : TeamExercises where
  challenges := .new solvedChalsDB
  allChallenges := allChallenges
  disabledChallenges := disabledExs

namespace TeamExercises

variable (t : TeamExercises)

/-- `GetDisabledChals`. -/
def getDisabledChals : List String := t.disabledChallenges.values.flatten

/-- `GetChildChallenges`. -/
def getChildChallenges (parentTag : String) : List String :=
  (t.allChallenges.get? parentTag).getD []

/-- `UpdateAllChallenges`. -/
def updateAllChallenges (challenges : GoMap String (List String)) : TeamExercises :=
  { t with allChallenges := challenges.pairs.foldl (fun m e => m.set e.1 e.2) t.allChallenges }

/-- `ManageDisabledChals`. The result is true when the challenge was disabled. -/
def manageDisabledChals (parentTag : String) : TeamExercises × Bool :=
  if parentTag ∈ t.disabledChallenges then
    ({ t with disabledChallenges := t.disabledChallenges.delete parentTag }, true)
  else
    match t.allChallenges.get? parentTag with
    | some ch => ({ t with disabledChallenges := t.disabledChallenges.set parentTag ch }, false)
    | none => (t, false)

/-- `AddDisabledChal`. -/
def addDisabledChal (parentTag : String) : TeamExercises :=
  match t.allChallenges.get? parentTag with
  | some ch => { t with disabledChallenges := t.disabledChallenges.set parentTag ch }
  | none => t

/-- The loop that registers the challenges of an environment with a team. It drops the errors of
`NewTag` and `AddChallenge`. -/
def addChallenges (chals : List Challenge) : TeamExercises :=
  let addChallenge (challenges : TeamChallenges) (chal : Challenge) : TeamChallenges :=
    (challenges.addChallenge { tag := newTagOrEmpty chal.tag, value := chal.value }).1
  { t with challenges := chals.foldl addChallenge t.challenges }

/-- `UpdateAllChallenges` enters its parents, and keeps the other ones. -/
theorem get?_updateAllChallenges (challenges : GoMap String (List String)) (tag : String) :
    (t.updateAllChallenges challenges).allChallenges.get? tag =
      (challenges.get? tag).or (t.allChallenges.get? tag) :=
  GoMap.get?_foldl_pairs t.allChallenges challenges tag

/-- Registering challenges touches no solve of the store service. -/
theorem addChallenges_solvedChalsDB (chals : List Challenge) :
    (t.addChallenges chals).challenges.solvedChalsDB = t.challenges.solvedChalsDB := by
  simp only [addChallenges]
  induction chals generalizing t with
  | nil => rfl
  | cons chal chals ih =>
    rw [List.foldl_cons]
    generalize hc : t.challenges.addChallenge
      { tag := newTagOrEmpty chal.tag, value := chal.value } = r
    have hsame : r.1.solvedChalsDB = t.challenges.solvedChalsDB := by
      rw [← hc, TeamChallenges.addChallenge]
      split <;> rfl
    rw [← hsame]
    exact ih { t with challenges := r.1 }

/-! ### The disabled challenges -/

/-- The answer says whether the tag was disabled. -/
theorem manageDisabledChals_snd (parentTag : String) :
    (t.manageDisabledChals parentTag).2 = decide (parentTag ∈ t.disabledChallenges) := by
  unfold manageDisabledChals
  split
  · next h => simp [h]
  · next h => split <;> simp [h]

/-- The map of all challenges is not touched. -/
theorem manageDisabledChals_allChallenges (parentTag : String) :
    (t.manageDisabledChals parentTag).1.allChallenges = t.allChallenges := by
  unfold manageDisabledChals
  split
  · rfl
  · split <;> rfl

/-- The toggle disables a challenge that the team knows, and takes a disabled one out. -/
theorem mem_manageDisabledChals {parentTag tag : String} :
    tag ∈ (t.manageDisabledChals parentTag).1.disabledChallenges ↔
      if tag = parentTag then parentTag ∉ t.disabledChallenges ∧ parentTag ∈ t.allChallenges
      else tag ∈ t.disabledChallenges := by
  unfold manageDisabledChals
  split
  · next h =>
    rw [GoMap.mem_delete]
    split <;> simp_all
  · next h =>
    split
    · next ch hch =>
      have hmem : parentTag ∈ t.allChallenges := GoMap.mem_iff_get?.mpr ⟨ch, hch⟩
      rw [GoMap.mem_set]
      split <;> simp_all
    · next hnone =>
      have hnot : parentTag ∉ t.allChallenges := GoMap.get?_eq_none.mp hnone
      split <;> simp_all

/-- `AddDisabledChal` disables a challenge that the team knows. -/
theorem mem_addDisabledChal {parentTag tag : String} :
    tag ∈ (t.addDisabledChal parentTag).disabledChallenges ↔
      tag ∈ t.disabledChallenges ∨ tag = parentTag ∧ parentTag ∈ t.allChallenges := by
  unfold addDisabledChal
  split
  · next ch hch =>
    have hmem : parentTag ∈ t.allChallenges := GoMap.mem_iff_get?.mpr ⟨ch, hch⟩
    rw [GoMap.mem_set, or_comm]
    simp [hmem]
  · next hnone =>
    have hnot : parentTag ∉ t.allChallenges := GoMap.get?_eq_none.mp hnone
    simp [hnot]

/-- A child is disabled when one of the disabled parents lists it. -/
theorem mem_getDisabledChals {tag : String} :
    tag ∈ t.getDisabledChals ↔
      ∃ parentTag ch, t.disabledChallenges.get? parentTag = some ch ∧ tag ∈ ch := by
  simp only [getDisabledChals, List.mem_flatten, GoMap.mem_values]
  constructor
  · rintro ⟨ch, ⟨parentTag, hget⟩, htag⟩
    exact ⟨parentTag, ch, hget, htag⟩
  · rintro ⟨parentTag, ch, hget, htag⟩
    exact ⟨ch, ⟨parentTag, hget⟩, htag⟩

end TeamExercises

end Haaukins.Store
