import Haaukins.Daemon.Exercise

/-!
# `Haaukins.Daemon.AddChallenge`: where an added challenge arrives (`daemon/exercise.go`)

A request adds its exercises to each lab in `hub.Labs()`, and then once more to each assigned
lab. The labs of the teams are in `hub.Labs()`, so the second addition is refused with
`DuplicateTagErr`, and the request returns this error although it did its work.

`addChallenge_everywhere_iff` says when a request returns nil with all its exercises in place.
-/

set_option autoImplicit false

namespace Haaukins.Daemon

open Amigo (newFrontendData)
open Exercise (Environment)
open Store (validateTag)

variable {newFlag : Nat → String → Nat → Nat → String} {exers : List Store.Exercise}

/-- The loop over `hub.Labs()` visits each of its labs once, and no other. -/
theorem addToLabs_env {labs : List Nat} (hnodup : labs.Nodup) (env : Nat → Environment)
    (addChalError : Option String) (l : Nat) :
    (addToLabs newFlag exers env addChalError labs).1 l =
      if l ∈ labs then (Lab.addChallenge (newFlag l) (env l) exers).1 else env l := by
  induction labs generalizing env addChalError with
  | nil => simp [addToLabs]
  | cons lb labs ih =>
    obtain ⟨hlb, hnodup⟩ := List.nodup_cons.mp hnodup
    rw [addToLabs, ih hnodup]
    by_cases hl : l = lb
    · -- The rest of the loop does not visit `lb` again.
      subst hl
      rw [if_neg hlb, if_pos List.mem_cons_self, Function.update_self]
    · rw [Function.update_of_ne hl]
      simp only [List.mem_cons, hl, false_or]

/-- The loop ends without an error exactly when each of its labs takes the exercises. -/
theorem addToLabs_eq_none_iff {labs : List Nat} (hnodup : labs.Nodup)
    {env : Nat → Environment} {addChalError : Option String} :
    (addToLabs newFlag exers env addChalError labs).2 = none ↔
      addChalError = none ∧
        ∀ l ∈ labs, (Lab.addChallenge (newFlag l) (env l) exers).2 = none := by
  induction labs generalizing env addChalError with
  | nil => simp [addToLabs]
  | cons lb labs ih =>
    obtain ⟨hlb, hnodup⟩ := List.nodup_cons.mp hnodup
    -- The first lab is not among the others, so their environments are the old ones.
    have hothers : (∀ l ∈ labs, (Lab.addChallenge (newFlag l) (Function.update env lb
          (Lab.addChallenge (newFlag lb) (env lb) exers).1 l) exers).2 = none) ↔
        ∀ l ∈ labs, (Lab.addChallenge (newFlag l) (env l) exers).2 = none := by
      refine forall₂_congr fun l hl => ?_
      rw [Function.update_of_ne fun heq : l = lb => hlb (heq ▸ hl)]
    rw [addToLabs, ih hnodup, hothers, List.forall_mem_cons]
    cases (Lab.addChallenge (newFlag lb) (env lb) exers).2 <;> simp

/-- The loop over the assigned labs adds no error exactly when there is nothing to add, or its
labs are different ones and take the exercises. -/
theorem addToAssigned_eq_none_iff {childrenChalTags : GoMap String (List String)}
    {rest : List (String × Nat)} {s s' : EventState} {addChalError err : Option String}
    (h : addToAssigned newFlag exers childrenChalTags s addChalError rest = some (s', err)) :
    err = none ↔ addChalError = none ∧ (exers = [] ∨ (rest.map Prod.snd).Nodup ∧
      ∀ e ∈ rest, (Lab.addChallenge (newFlag e.2) (s.env e.2) exers).2 = none) := by
  induction rest generalizing s addChalError with
  | nil =>
    obtain ⟨-, rfl⟩ := Prod.mk.inj (Option.some.inj h)
    simp
  | cons entry rest ih =>
    obtain ⟨tid, l⟩ := entry
    rw [addToAssigned] at h
    split at h
    swap
    · cases h
    next ee err₁ t hlab _ =>
    have hrest := ih h
    simp only at hrest
    have horElse : (err₁ <|> addChalError) = none ↔ err₁ = none ∧ addChalError = none := by
      cases err₁ <;> simp
    rw [hrest, horElse]
    cases exers with
    | nil =>
      -- Nothing is added, so a lab can stand in the list twice.
      obtain ⟨-, rfl⟩ : s.env l = ee ∧ (none : Option String) = err₁ := Prod.mk.inj hlab
      simp
    | cons conf confs =>
      simp only [reduceCtorEq, false_or, List.map_cons, List.nodup_cons, List.mem_map,
        not_exists, not_and, List.forall_mem_cons, hlab]
      -- A lab that stands in the rest once more refuses its second addition.
      have hsecond : ∀ e ∈ rest,
          (Lab.addChallenge (newFlag e.2) (Function.update s.env l ee e.2)
            (conf :: confs)).2 = none ↔
          e.2 ≠ l ∧ (Lab.addChallenge (newFlag e.2) (s.env e.2) (conf :: confs)).2 = none := by
        intro e _
        by_cases heq : e.2 = l
        · have htwice : ∃ err₂, Lab.addChallenge (newFlag l)
              (Lab.addChallenge (newFlag l) (s.env l) (conf :: confs)).1 (conf :: confs) =
                ((Lab.addChallenge (newFlag l) (s.env l) (conf :: confs)).1, some err₂) :=
            Lab.addChallenge_twice
          rw [hlab] at htwice
          obtain ⟨err₂, htwice⟩ := htwice
          simp [heq, htwice]
        · simp [heq]
      constructor
      · rintro ⟨⟨rfl, rfl⟩, hnodup, hall⟩
        have hboth := fun e he => (hsecond e he).mp (hall e he)
        exact ⟨rfl, ⟨fun e he => (hboth e he).1, hnodup⟩, rfl, fun e he => (hboth e he).2⟩
      · rintro ⟨rfl, ⟨hne, hnodup⟩, rfl, hall⟩
        exact ⟨⟨rfl, rfl⟩, hnodup, fun e he => (hsecond e he).mpr ⟨hne e he, hall e he⟩⟩

/-- When the team store has the teams, the loop over the assigned labs comes to its end. -/
theorem addToAssigned_isSome (childrenChalTags : GoMap String (List String))
    {rest : List (String × Nat)} {s : EventState} (h : ∀ e ∈ rest, e.1 ∈ s.teams)
    (addChalError : Option String) :
    ∃ s' err, addToAssigned newFlag exers childrenChalTags s addChalError rest = some (s', err) ∧
      ∀ tid ∈ s.teams, tid ∈ s'.teams := by
  induction rest generalizing s addChalError with
  | nil => exact ⟨s, addChalError, rfl, fun _ htid => htid⟩
  | cons entry rest ih =>
    obtain ⟨tid, l⟩ := entry
    obtain ⟨t, ht⟩ := GoMap.mem_iff_get?.mp (h (tid, l) List.mem_cons_self)
    simp only [addToAssigned, ht]
    -- The team stays in the store, and so do the teams of the rest.
    obtain ⟨s', err, hrun, hteams⟩ := ih (s := { s with
        env := Function.update s.env l (Lab.addChallenge (newFlag l) (s.env l) exers).1
        teams := s.teams.set tid ((t.addChallenges
          (Lab.addChallenge (newFlag l) (s.env l) exers).1.challenges).updateAllChallenges
            childrenChalTags) })
      (fun e he => GoMap.mem_set.mpr (.inr (h e (List.mem_cons_of_mem _ he)))) _
    exact ⟨s', err, hrun, fun tid' htid' => hteams tid' (GoMap.mem_set.mpr (.inr htid'))⟩

namespace EventState

/-- A request that the services answer, in an event whose labs do not have its tags. The labs
of the teams are among the labs of the hub. -/
structure NewRequest (s : EventState) (req : AddChallengeRequest)
    (exers : List Store.Exercise) : Prop where
  nodup : s.labs.Nodup
  assigned : ∀ tid l, s.assigned.get? tid = some l → l ∈ s.labs ∧ tid ∈ s.teams
  new : ∀ l ∈ s.labs, ∀ tag ∈ req.challengeTag, tag ∉ (s.env l).tags
  found : req.getExerciseByTags = .ok exers
  tags : ∀ tag, tag ∈ req.challengeTag ↔ ∃ e ∈ exers, e.tag = tag
  updated : req.updateErr = none

/-- Each lab has each requested exercise once, and each team with a lab has the new children
and the new parents. -/
structure AddedEverywhere (s s' : EventState) (req : AddChallengeRequest)
    (exers : List Store.Exercise) : Prop where
  labs : ∀ l ∈ s.labs, ∀ tag ∈ req.challengeTag, (s'.env l).tags.count tag = 1
  teams : ∀ tid ∈ s.assigned, ∃ t, s'.teams.get? tid = some t ∧
    (∀ e ∈ exers, ∀ child ∈ e.childTags, ∃ f, t.challenges.Registered child f) ∧
    ∀ tag ∈ req.challengeTag, tag ∈ t.allChallenges

/-- The exercises have different tags, which are not empty, and valid ones when there are
machines to start. -/
def Addable (exers : List Store.Exercise) : Prop :=
  (exers.map Store.Exercise.tag).Nodup ∧
    ∀ e ∈ exers, e.tag ≠ "" ∧ (e.static = false → validateTag e.tag = none)

/-- The event does not know the tags, and it has no lab that refuses the exercises: the
request is empty, or no team has a lab and the exercises can be added. -/
def Takes (s : EventState) (req : AddChallengeRequest) (exers : List Store.Exercise) : Prop :=
  (∀ tag ∈ req.challengeTag, tag ∉ s.allChallenges) ∧
    (exers = [] ∨ s.assigned.pairs = [] ∧ (s.labs = [] ∨ Addable exers))

instance (s : EventState) (req : AddChallengeRequest) (exers : List Store.Exercise) :
    Decidable (s.Takes req exers) := by
  unfold Takes Addable
  infer_instance

variable {s s' : EventState} {req : AddChallengeRequest}

/-- The lab of a team was visited by the first loop, so it refuses the exercises. -/
theorem NewRequest.refused (h : s.NewRequest req exers) {conf : Store.Exercise}
    {confs : List Store.Exercise} (hexers : exers = conf :: confs) {tid : String} {l : Nat}
    (hl : s.assigned.get? tid = some l) :
    ∃ err, (Lab.addChallenge (req.newFlag l)
      ((addToLabs req.newFlag exers s.env none s.labs).1 l) exers).2 = some err := by
  subst hexers
  rw [addToLabs_env h.nodup, if_pos (h.assigned tid l hl).1]
  have htwice : ∃ err, Lab.addChallenge (req.newFlag l)
      (Lab.addChallenge (req.newFlag l) (s.env l) (conf :: confs)).1 (conf :: confs) =
        ((Lab.addChallenge (req.newFlag l) (s.env l) (conf :: confs)).1, some err) :=
    Lab.addChallenge_twice
  obtain ⟨err, herr⟩ := htwice
  exact ⟨err, congrArg Prod.snd herr⟩

/-- A lab without the tags takes the exercises exactly when they can be added. -/
theorem NewRequest.lab_iff (h : s.NewRequest req exers) {l : Nat} (hl : l ∈ s.labs) :
    (Lab.addChallenge (req.newFlag l) (s.env l) exers).2 = none ↔ Addable exers := by
  have hnew : ∀ e ∈ exers, e.tag ∉ (s.env l).tags := fun e he =>
    h.new l hl e.tag ((h.tags e.tag).mpr ⟨e, he, rfl⟩)
  rw [Lab.addChallenge_eq_none_iff, Environment.add_eq_none_iff]
  constructor
  · rintro ⟨⟨hall, hnodup⟩, hvalid⟩
    exact ⟨hnodup, fun e he => ⟨(hall e he).1, hvalid e he⟩⟩
  · rintro ⟨hnodup, hall⟩
    exact ⟨⟨fun e he => ⟨(hall e he).1, hnew e he⟩, hnodup⟩, fun e he => (hall e he).2⟩

/-- The request up to the end of the first loop. -/
theorem NewRequest.beginAddChallenge (h : s.NewRequest req exers)
    (hguard : ∀ tag ∈ req.challengeTag, tag ∉ s.allChallenges) :
    s.beginAddChallenge req = .ok
      ({ s with env := (addToLabs req.newFlag exers s.env none s.labs).1 },
        { exers := exers
          childrenChalTags := Daemon.childrenChalTags req.challengeTag exers
          addChalError := (addToLabs req.newFlag exers s.env none s.labs).2
          frontendData := s.frontends.length - 1 }) := by
  have hnot : ¬ ∃ i ∈ req.challengeTag, i ∈ s.allChallenges := by simpa using hguard
  rw [EventState.beginAddChallenge, if_neg hnot, h.found]

/-- The services answer, so the end of the request is the end of its second loop. -/
theorem NewRequest.addChallenge (h : s.NewRequest req exers)
    (hguard : ∀ tag ∈ req.challengeTag, tag ∉ s.allChallenges) :
    ∃ s₁ err, addToAssigned req.newFlag exers (Daemon.childrenChalTags req.challengeTag exers)
        { s with env := (addToLabs req.newFlag exers s.env none s.labs).1 }
        (addToLabs req.newFlag exers s.env none s.labs).2 s.assigned.pairs = some (s₁, err) ∧
      (∀ tid ∈ s.teams, tid ∈ s₁.teams) ∧
      ∃ s', s.addChallenge req = some (s', err) ∧ s'.env = s₁.env ∧ s'.teams = s₁.teams := by
  have hteams : ∀ e ∈ s.assigned.pairs, e.1 ∈ s.teams := by
    rintro ⟨tid, l⟩ he
    exact (h.assigned tid l (GoMap.mem_pairs.mp he)).2
  obtain ⟨s₁, err, hrun, hkept⟩ := addToAssigned_isSome
    (Daemon.childrenChalTags req.challengeTag exers)
    (s := { s with env := (addToLabs req.newFlag exers s.env none s.labs).1 }) hteams
    (addToLabs req.newFlag exers s.env none s.labs).2
  refine ⟨s₁, err, hrun, hkept, ?_⟩
  rw [EventState.addChallenge, h.beginAddChallenge hguard]
  simp only [finishAddChallenge, hrun, Option.map_some, h.updated]
  exact ⟨_, rfl, rfl, rfl⟩

/-- The request returns nil when the guard lets it pass and no lab refuses it. -/
theorem NewRequest.addChallenge_of_takes (h : s.NewRequest req exers)
    (htakes : s.Takes req exers) :
    ∃ s', s.addChallenge req = some (s', none) ∧ s.AddedEverywhere s' req exers := by
  obtain ⟨hguard, hrest⟩ := htakes
  obtain ⟨s₁, err, hrun, hkept, s', hs', henv, hteams⟩ := h.addChallenge hguard
  rcases hrest with rfl | ⟨hassigned, hlabs⟩
  · -- An empty request has no tags, and both loops only pass by.
    have htags : req.challengeTag = [] := by
      rw [List.eq_nil_iff_forall_not_mem]
      intro tag htag
      simpa using (h.tags tag).mp htag
    have hfirst : (addToLabs req.newFlag [] s.env none s.labs).2 = none :=
      (addToLabs_eq_none_iff h.nodup).mpr ⟨rfl, fun _ _ => rfl⟩
    obtain rfl : err = none := (addToAssigned_eq_none_iff hrun).mpr ⟨hfirst, .inl rfl⟩
    refine ⟨s', hs', ⟨by simp [htags], fun tid htid => ?_⟩⟩
    obtain ⟨l, hl⟩ := GoMap.mem_iff_get?.mp htid
    obtain ⟨t, ht⟩ := GoMap.mem_iff_get?.mp (hkept tid (h.assigned tid l hl).2)
    exact ⟨t, by rw [hteams, ht], by simp, by simp [htags]⟩
  · -- No team has a lab, so the second loop has no round.
    rw [hassigned] at hrun
    obtain ⟨rfl, rfl⟩ := Prod.mk.inj (Option.some.inj hrun)
    have hadd : ∀ l ∈ s.labs, (Lab.addChallenge (req.newFlag l) (s.env l) exers).2 = none := by
      intro l hl
      rcases hlabs with hnone | haddable
      · simp [hnone] at hl
      · exact (h.lab_iff hl).mpr haddable
    rw [(addToLabs_eq_none_iff h.nodup).mpr ⟨rfl, hadd⟩] at hs'
    refine ⟨s', hs', ⟨fun l hl tag htag => ?_, fun tid htid => ?_⟩⟩
    · -- The exercise is there, and an environment has no tag twice.
      refine List.count_eq_one_of_mem (s'.env l).nodup_tags ?_
      obtain ⟨e, he, rfl⟩ := (h.tags tag).mp htag
      rw [henv]
      simp only [addToLabs_env h.nodup, if_pos hl, Lab.addChallenge_tags]
      rw [Environment.tags_add (Lab.addChallenge_eq_none_iff.mp (hadd l hl)).1]
      exact List.mem_append_right _ (List.mem_map_of_mem he)
    · obtain ⟨l, hl⟩ := GoMap.mem_iff_get?.mp htid
      simpa [hassigned] using GoMap.mem_pairs.mpr hl

/-- A request that returns nil passed the guard, and no lab refused it. -/
theorem NewRequest.takes (h : s.NewRequest req exers)
    (hs : s.addChallenge req = some (s', none)) : s.Takes req exers := by
  have hguard : ∀ tag ∈ req.challengeTag, tag ∉ s.allChallenges := by
    -- Otherwise the request returns the error of the guard.
    by_contra hnot
    have hfound : ∃ i ∈ req.challengeTag, i ∈ s.allChallenges := by simpa using hnot
    rw [EventState.addChallenge, EventState.beginAddChallenge, if_pos hfound] at hs
    cases hs
  refine ⟨hguard, ?_⟩
  obtain ⟨s₁, err, hrun, -, s₂, hs₂, -, -⟩ := h.addChallenge hguard
  obtain rfl : err = none := (Prod.mk.inj (Option.some.inj (hs₂.symm.trans hs))).2
  have hboth := (addToAssigned_eq_none_iff hrun).mp rfl
  cases hexers : exers with
  | nil => exact .inl rfl
  | cons conf confs =>
    rw [← hexers]
    refine .inr ⟨?_, ?_⟩
    · -- Each assigned lab refuses the exercises, so there is none.
      rw [List.eq_nil_iff_forall_not_mem]
      rintro ⟨tid, l⟩ hentry
      obtain ⟨err, herr⟩ := h.refused hexers (GoMap.mem_pairs.mp hentry)
      rcases hboth.2 with hempty | ⟨-, htaken⟩
      · rw [hexers] at hempty
        cases hempty
      · exact absurd (herr.symm.trans (htaken _ hentry)) (by simp)
    · -- Without an error, each lab of the first loop took the exercises.
      by_cases hlabs : s.labs = []
      · exact .inl hlabs
      obtain ⟨l, hl⟩ := List.exists_mem_of_ne_nil s.labs hlabs
      exact .inr ((h.lab_iff hl).mp (((addToLabs_eq_none_iff h.nodup).mp hboth.1).2 l hl))

end EventState

/-- A request with new tags, whose services answer, returns nil with each exercise in place if
and only if the event does not have the tags, and the request is empty, or no team has a lab
and the exercises can be added. -/
theorem addChallenge_everywhere_iff (s : EventState) (req : AddChallengeRequest)
    (exers : List Store.Exercise) (h : s.NewRequest req exers) :
    (∃ s', s.addChallenge req = some (s', none) ∧ s.AddedEverywhere s' req exers) ↔
      s.Takes req exers :=
  ⟨fun ⟨_, hs, _⟩ => h.takes hs, h.addChallenge_of_takes⟩

/-- A static exercise with one child. -/
def sqlExercise : Store.Exercise where
  tag := "sql"
  static := true
  instances := [{ image := "sql", flags := [⟨"sql-1", "HKN-1", false⟩] }]

/-- A request for this exercise. -/
def sqlRequest : AddChallengeRequest where
  challengeTag := ["sql"]
  getExerciseByTags := .ok [sqlExercise]
  updateErr := none
  newFlag := fun _ _ _ _ => ""

/-- An event with some labs and one team. -/
def withLabs (labs : List Nat) (assigned : GoMap String Nat) : EventState where
  labs := labs
  env := fun _ => .new
  assigned := assigned
  teams := GoMap.set ∅ "ab" (Store.newTeamExercises [] ∅ ∅)
  allChallenges := ∅
  disabledChallenges := ∅
  labHost := { conf := { exercises := [], disabledExercises := [] } }
  exercises := ""
  challenges := []
  frontends := [newFrontendData []]

/-- An event whose labs are not assigned takes the exercise into each of them. -/
theorem addChallenge_everywhere_unassigned :
    ∃ s', (withLabs [0, 1, 2] ∅).addChallenge sqlRequest = some (s', none) ∧
      (withLabs [0, 1, 2] ∅).AddedEverywhere s' sqlRequest [sqlExercise] :=
  (addChallenge_everywhere_iff (withLabs [0, 1, 2] ∅) sqlRequest [sqlExercise]
    { nodup := by decide
      assigned := by simp [withLabs]
      new := by simp [withLabs]
      found := rfl
      tags := by simp [sqlRequest, sqlExercise, eq_comm]
      updated := rfl }).mpr (by decide)

/-- A team has the lab, and the request returns `DuplicateTagErr`. -/
theorem addChallenge_not_everywhere :
    ¬ ∀ (s : EventState) (req : AddChallengeRequest) (exers : List Store.Exercise),
      s.NewRequest req exers →
        ∃ s', s.addChallenge req = some (s', none) ∧ s.AddedEverywhere s' req exers := by
  intro h
  obtain ⟨s', hs, -⟩ := h (withLabs [0] (GoMap.set ∅ "ab" 0)) sqlRequest [sqlExercise]
    { nodup := by decide
      assigned := by
        intro tid l hl
        simp only [withLabs, GoMap.get?_set, GoMap.get?_empty] at hl
        split at hl
        · next heq =>
          cases hl
          exact ⟨by decide, GoMap.mem_set.mpr (.inl heq)⟩
        · cases hl
      new := by simp [withLabs]
      found := rfl
      tags := by simp [sqlRequest, sqlExercise, eq_comm]
      updated := rfl }
  have hresult : ((withLabs [0] (GoMap.set ∅ "ab" 0)).addChallenge sqlRequest).map Prod.snd =
      some (some Exercise.duplicateTagErr) := by decide
  rw [hs] at hresult
  cases hresult

end Haaukins.Daemon
