import Haaukins.Amigo.InitChallenges
import Haaukins.Amigo.ManageChallenge

/-!
# `Haaukins.Amigo.StartStop`: a start or stop that fails (`svcs/amigo/amigo.go`)

`handleStartStopChallenge` toggles the mark of a challenge, calls the hook, and disables the
challenge after an error. This undoes the toggle of a challenge that was to be started. A
challenge that was to be stopped stays disabled.

* `handleStartStopChallenge_restores_iff` says when a failed request leaves the disabled
  challenges as they were: the entry of the challenge has to be the one of `allChallenges`.
* The hook gets the lab of `GetLabByTeam`, with whatever its operations answer. A missing lab
  is not reported, and the call on it, in a goroutine of its own, ends the process.
-/

set_option autoImplicit false

namespace Haaukins.Amigo

open Exercise (Environment)
open Store (TeamExercises newTeam newTeamExercises)

/-- How a request is answered. -/
inductive Answer where
  | ok
  | error (err : String)
  /-- The request ends in a panic, without an answer. -/
  | panicked
  deriving DecidableEq

/-- What a lab answers to `StartByTag` and `StopByTag`. -/
structure LabAnswers where
  startByTag : String → Option String
  stopByTag : String → Option String

/-- The answers of an environment whose machines obey. -/
def envAnswers (env : Environment) : LabAnswers where
  startByTag tag := (env.startByTag tag).2
  stopByTag tag := (env.stopByTag tag).2

/-- `startStopHook`, where `none` is a panic. The error for a missing lab is made and dropped. -/
def startStopHook (teamLab : Option LabAnswers) (challengeTag : String) (stopped : Bool) :
    Option (Option String) :=
  teamLab.map fun lab =>
    if stopped then lab.startByTag challengeTag else lab.stopByTag challengeTag

/-- The error for a team without a lab. -/
def labNotAssignedErr (team eventTag : String) : String :=
  "Lab is NOT assigned to team [ " ++ team ++ " ] on event [ " ++ eventTag ++ " ]"

/-- `handleStartStopChallenge` for a team that is logged in. `msg` is the tag of the message, or
the error of `safeReadJson`. -/
def handleStartStopChallenge (isDigit : Char → Bool) (eventTag : String)
    (runHook : String → Bool → Option (Option String)) (t : TeamView)
    (msg : Except String String) : TeamView × Answer :=
  match msg with
  | .error err => (t, .error err)
  | .ok tag =>
    match getParentChallengeTag isDigit tag with
    | none => (t, .panicked)
    | some chalTag =>
      if !t.team.isLabAssigned then (t, .error (labNotAssignedErr t.team.name eventTag))
      else
        let (exercises, stopped) := t.exercises.manageDisabledChals chalTag
        match runHook chalTag stopped with
        | none => ({ t with exercises := exercises }, .panicked)
        -- Disabling undoes the toggle of a challenge that was disabled, and of no other one.
        | some (some err) => ({ t with exercises := exercises.addDisabledChal chalTag }, .error err)
        | some none => ({ t with exercises := exercises }, .ok)

/-- After an error the disabled challenges are those from before. After a success the parent of
the tag has changed sides, when the team knows it. -/
def Restores (isDigit : Char → Bool) (t t' : TeamExercises) (msg : Except String String) :
    Answer → Prop
  | .ok => ∀ tag chalTag, msg = .ok tag → getParentChallengeTag isDigit tag = some chalTag →
      chalTag ∈ t.allChallenges →
      (chalTag ∈ t'.disabledChallenges ↔ chalTag ∉ t.disabledChallenges)
  | .error _ => ∀ parentTag,
      t'.disabledChallenges.get? parentTag = t.disabledChallenges.get? parentTag
  | .panicked => True

/-- The hook does not fail, or the challenge has the same entry among the disabled challenges as
among all challenges. -/
def Restorable (isDigit : Char → Bool) (teamLab : Option LabAnswers) (t : TeamView)
    (msg : Except String String) : Prop :=
  ∀ tag chalTag err, msg = .ok tag → getParentChallengeTag isDigit tag = some chalTag →
    t.team.isLabAssigned = true →
    startStopHook teamLab chalTag (decide (chalTag ∈ t.exercises.disabledChallenges)) =
      some (some err) →
    t.exercises.disabledChallenges.get? chalTag = t.exercises.allChallenges.get? chalTag

variable {isDigit : Char → Bool} {teamLab : Option LabAnswers} {chalTag : String}

/-- Toggling a challenge and then disabling it puts the entry of all challenges in its place. -/
theorem get?_addDisabledChal_manageDisabledChals (t : TeamExercises) (chalTag parentTag : String) :
    ((t.manageDisabledChals chalTag).1.addDisabledChal chalTag).disabledChallenges.get? parentTag =
      if parentTag = chalTag then t.allChallenges.get? chalTag
      else t.disabledChallenges.get? parentTag := by
  unfold TeamExercises.addDisabledChal
  rw [TeamExercises.manageDisabledChals_allChallenges]
  by_cases hmem : chalTag ∈ t.disabledChallenges
  -- The challenge was disabled, and `manageDisabledChals` has taken it out.
  · have htoggle : (t.manageDisabledChals chalTag).1.disabledChallenges =
        t.disabledChallenges.delete chalTag := by
      simp only [TeamExercises.manageDisabledChals, if_pos hmem]
    cases hall : t.allChallenges.get? chalTag with
    | some ch =>
      show ((t.manageDisabledChals chalTag).1.disabledChallenges.set chalTag ch).get? parentTag = _
      rw [htoggle, GoMap.get?_set, GoMap.get?_delete]
      split <;> rfl
    | none =>
      show (t.manageDisabledChals chalTag).1.disabledChallenges.get? parentTag = _
      rw [htoggle, GoMap.get?_delete]
  -- The challenge was not disabled, and `manageDisabledChals` has entered it.
  · have hnone : t.disabledChallenges.get? chalTag = none := GoMap.get?_eq_none.mpr hmem
    cases hall : t.allChallenges.get? chalTag with
    | some ch =>
      have htoggle : (t.manageDisabledChals chalTag).1.disabledChallenges =
          t.disabledChallenges.set chalTag ch := by
        simp only [TeamExercises.manageDisabledChals, if_neg hmem, hall]
      show ((t.manageDisabledChals chalTag).1.disabledChallenges.set chalTag ch).get? parentTag = _
      rw [htoggle, GoMap.get?_set, GoMap.get?_set]
      split <;> rfl
    | none =>
      have htoggle : (t.manageDisabledChals chalTag).1 = t := by
        simp only [TeamExercises.manageDisabledChals, if_neg hmem, hall]
      show (t.manageDisabledChals chalTag).1.disabledChallenges.get? parentTag = _
      rw [htoggle]
      split
      · next heq => rw [heq, hnone]
      · rfl

/-- A request that gets to the hook is answered with the error of the hook. -/
theorem handleStartStopChallenge_run_eq (eventTag : String) {t : TeamView} {tag : String}
    (hparent : getParentChallengeTag isDigit tag = some chalTag)
    (hlab : t.team.isLabAssigned = true) (runHook : String → Bool → Option (Option String)) :
    handleStartStopChallenge isDigit eventTag runHook t (.ok tag) =
      match runHook chalTag (decide (chalTag ∈ t.exercises.disabledChallenges)) with
      | none => ({ t with exercises := (t.exercises.manageDisabledChals chalTag).1 }, .panicked)
      | some (some err) =>
        ({ t with exercises :=
            (t.exercises.manageDisabledChals chalTag).1.addDisabledChal chalTag }, .error err)
      | some none =>
        ({ t with exercises := (t.exercises.manageDisabledChals chalTag).1 }, .ok) := by
  simp only [handleStartStopChallenge, hparent, hlab, Bool.not_true, Bool.false_eq_true, if_false,
    TeamExercises.manageDisabledChals_snd]

/-- For a lab whose machines obey, the handler is the start and stop of the team and its lab. -/
theorem handleStartStopChallenge_teamLab (eventTag : String) {t : TeamView} {tag : String}
    (hparent : getParentChallengeTag isDigit tag = some chalTag)
    (hlab : t.team.isLabAssigned = true) (env : Environment) :
    (handleStartStopChallenge isDigit eventTag (startStopHook (some (envAnswers env))) t
        (.ok tag)).1.exercises =
      (TeamLab.startStopChallenge { team := t.exercises, env := env } chalTag).1.team := by
  rw [handleStartStopChallenge_run_eq eventTag hparent hlab]
  simp only [TeamLab.startStopChallenge, TeamLab.startStopHook, startStopHook, envAnswers,
    Option.map_some, TeamExercises.manageDisabledChals_snd, decide_eq_true_eq]
  by_cases hmem : chalTag ∈ t.exercises.disabledChallenges
  · simp only [if_pos hmem]
    generalize env.startByTag chalTag = answer
    cases answer with
    | mk env' err => cases err <;> rfl
  · simp only [if_neg hmem]
    generalize env.stopByTag chalTag = answer
    cases answer with
    | mk env' err => cases err <;> rfl

/-- A request that is answered with an error leaves the disabled challenges of the team, and one
that is answered ok moves a known parent to the other side, if and only if the hook does not
fail, or the challenge is disabled with the children that `allChallenges` has for it, or is in
neither map. -/
theorem handleStartStopChallenge_restores_iff (isDigit : Char → Bool) (eventTag : String)
    (teamLab : Option LabAnswers) (t : TeamView) (msg : Except String String) :
    Restores isDigit t.exercises
        (handleStartStopChallenge isDigit eventTag (startStopHook teamLab) t msg).1.exercises msg
        (handleStartStopChallenge isDigit eventTag (startStopHook teamLab) t msg).2 ↔
      Restorable isDigit teamLab t msg := by
  cases msg with
  | error err => exact iff_of_true (fun _ => rfl) (fun _ _ _ hmsg => nomatch hmsg)
  | ok tag =>
    cases hparent : getParentChallengeTag isDigit tag with
    | none =>
      -- The slice of the tag is out of range.
      simp only [handleStartStopChallenge, hparent]
      refine iff_of_true trivial fun tag' chalTag err hmsg htag => ?_
      cases hmsg
      rw [hparent] at htag
      cases htag
    | some chalTag =>
      by_cases hlab : t.team.isLabAssigned = true
      swap
      · have hfalse : t.team.isLabAssigned = false := by simpa using hlab
        simp only [handleStartStopChallenge, hparent, hfalse, Bool.not_false, if_true]
        exact iff_of_true (fun _ => rfl) fun _ _ _ _ _ hassigned => absurd hassigned hlab
      have hcond : Restorable isDigit teamLab t (.ok tag) ↔
          ∀ err, startStopHook teamLab chalTag
              (decide (chalTag ∈ t.exercises.disabledChallenges)) = some (some err) →
            t.exercises.disabledChallenges.get? chalTag =
              t.exercises.allChallenges.get? chalTag := by
        constructor
        · intro h err herr
          exact h tag chalTag err rfl hparent hlab herr
        · intro h tag' chalTag' err hmsg hparent' _ herr
          cases hmsg
          obtain rfl : chalTag = chalTag' := Option.some.inj (hparent.symm.trans hparent')
          exact h err herr
      rw [hcond, handleStartStopChallenge_run_eq eventTag hparent hlab]
      cases hhook : startStopHook teamLab chalTag
          (decide (chalTag ∈ t.exercises.disabledChallenges)) with
      | none => simp [Restores]
      | some answer =>
        cases answer with
        | none =>
          refine iff_of_true ?_ (fun err herr => nomatch herr)
          intro tag' chalTag' hmsg hparent' hknown
          cases hmsg
          obtain rfl : chalTag = chalTag' := Option.some.inj (hparent.symm.trans hparent')
          rw [TeamExercises.mem_manageDisabledChals, if_pos rfl, and_iff_left hknown]
        | some err =>
          -- The entry of the challenge is now the one of all challenges.
          simp only [Restores, get?_addDisabledChal_manageDisabledChals, Option.some.injEq,
            forall_eq']
          constructor
          · intro h
            simpa using (h chalTag).symm
          · intro h parentTag
            split
            · next heq => rw [heq, h]
            · rfl

/-- A team with a lab that knows the challenge "sql", with the given disabled challenges. -/
def sqlTeam (disabled : GoMap String (List String)) : TeamView where
  team := { newTeam "ab" "ab" with isLabAssigned := true }
  exercises := newTeamExercises [] disabled (GoMap.set ∅ "sql" ["sql-1"])

/-- The machine of the challenge cannot be stopped, and the challenge is disabled all the same. -/
theorem handleStartStopChallenge_not_restored :
    ¬ ∀ (isDigit : Char → Bool) (eventTag : String) (teamLab : Option LabAnswers) (t : TeamView)
      (msg : Except String String),
      Restores isDigit t.exercises
        (handleStartStopChallenge isDigit eventTag (startStopHook teamLab) t msg).1.exercises msg
        (handleStartStopChallenge isDigit eventTag (startStopHook teamLab) t msg).2 := by
  intro h
  have herror := h Char.isDigit "demo"
    (some { startByTag := fun _ => none, stopByTag := fun _ => some "no such container" })
    (sqlTeam ∅) (.ok "sql-1") "sql"
  revert herror
  decide

end Haaukins.Amigo
