import Haaukins.Lib.GoStrings
import Haaukins.Exercise.Machines
import Haaukins.Store.TeamExercises

/-!
# `Haaukins.Amigo.ManageChallenge`: start, stop and reset by a team (`svcs/amigo/amigo.go`)

A `TeamLab` is a team with the environment of its lab, and is `Marked` when the disabled
challenges of the team are those whose machines are stopped.

* `startStopChallenge` toggles the mark first, and then starts or stops by the old mark. A
  challenge that the team does not know is stopped without a mark.
* `resetHook` starts the machines and takes the mark away, so it keeps a team marked.
* `stopSolved` runs after a solved challenge. The children of a parent that the team does not
  know are all solved, because there are none.
-/

set_option autoImplicit false

namespace Haaukins.Amigo

open Exercise (Environment)
open Store (TeamExercises validateTag)

/-- `getParentChallengeTag`, where `isDigit` is `unicode.IsDigit`. -/
def getParentChallengeTag (isDigit : Char → Bool) (child : String) : Option String :=
  if child.toList.any isDigit then GoStrings.dropLastBytes child 2 else some child

/-- The parent of a child tag with a number of one digit. -/
theorem getParentChallengeTag_child {isDigit : Char → Bool} {d : Char} (hdigit : isDigit d = true)
    (hsize : d.utf8Size = 1) (parent : String) :
    getParentChallengeTag isDigit (parent ++ String.ofList ['-', d]) = some parent := by
  have hany : (parent ++ String.ofList ['-', d]).toList.any isDigit = true := by
    simp [hdigit]
  have hbytes : (String.ofList ['-', d]).utf8ByteSize = 2 := by
    rw [String.ofList_cons, String.utf8ByteSize_append, ← String.singleton_eq_ofList,
      String.utf8ByteSize_singleton, String.utf8ByteSize_singleton, hsize]
    decide
  rw [getParentChallengeTag, if_pos hany, ← hbytes, GoStrings.dropLastBytes_append]

/-- The children of the challenge that the team has solved are as many as its children. -/
def AllSolved (t : TeamExercises) (parentTag : String) : Prop :=
  ((t.getChildChallenges parentTag).filter fun ch =>
      (t.challenges.isTeamSolvedChallenge ch).isSome).length =
    (t.getChildChallenges parentTag).length

instance (t : TeamExercises) (parentTag : String) : Decidable (AllSolved t parentTag) := by
  unfold AllSolved
  infer_instance

/-- A team has no children of a challenge that it does not know, so it has solved them all. -/
theorem allSolved_of_notMem {t : TeamExercises} {parentTag : String}
    (h : parentTag ∉ t.allChallenges) : AllSolved t parentTag := by
  simp [AllSolved, TeamExercises.getChildChallenges, GoMap.get?_eq_none.mpr h]

/-- A team and its lab. -/
structure TeamLab where
  team : TeamExercises
  env : Environment

namespace TeamLab

variable (tl : TeamLab)

/-- `startStopHook`. -/
def startStopHook (challengeTag : String) (stopped : Bool) : TeamLab × Option String :=
  match if stopped then tl.env.startByTag challengeTag else tl.env.stopByTag challengeTag with
  | (env, startStopErr) => ({ tl with env := env }, startStopErr)

/-- `handleStartStopChallenge` for a team with a lab. -/
def startStopChallenge (chalTag : String) : TeamLab × Option String :=
  -- The mark is toggled before the machines are touched.
  let (t, stopped) := tl.team.manageDisabledChals chalTag
  match startStopHook { tl with team := t } chalTag stopped with
  | (tl, some err) => ({ tl with team := tl.team.addDisabledChal chalTag }, some err)
  | (tl, none) => (tl, none)

/-- The mark is taken away when it is there. -/
def unmark (t : TeamExercises) (challengeTag : String) : TeamExercises :=
  if challengeTag ∈ t.disabledChallenges then (t.manageDisabledChals challengeTag).1 else t

/-- `resetHook`. -/
def resetHook (challengeTag : String) : Option (TeamLab × Option String) :=
  (tl.env.resetByTag challengeTag).map fun
    | (env, some err) => ({ tl with env := env }, some ("Reset challenge hook error " ++ err))
    | (env, none) => ({ team := unmark tl.team challengeTag, env := env }, none)

/-- The goroutine that `handleFlagVerify` starts. It goes on after an error of the stop. -/
def stopSolved (parentTag : String) : TeamLab :=
  if AllSolved tl.team parentTag then
    -- The error of the hook is only logged.
    let (tl, _) := tl.startStopHook parentTag false
    { tl with team := tl.team.addDisabledChal parentTag }
  else tl

/-! ### The marks of a team -/

/-- A challenge with machines in the lab is disabled exactly when these are stopped. -/
def Marked : Prop := tl.env.Marked fun tag => tag ∈ tl.team.disabledChallenges

instance : Decidable tl.Marked := by
  unfold Marked
  infer_instance

/-- The team knows a challenge that has machines, or has disabled it. A challenge whose tag
`NewTag` refuses can be neither started nor stopped, and then both must agree. -/
def CanStartStop (chalTag : String) : Prop :=
  ∀ e ∈ tl.env.exercises, e.tag = chalTag → e.HasMachine →
    if validateTag chalTag = none then
      chalTag ∈ tl.team.disabledChallenges ∨ chalTag ∈ tl.team.allChallenges
    else (chalTag ∈ tl.team.disabledChallenges ↔ chalTag ∈ tl.team.allChallenges)

/-- The team knows a challenge that has machines, or has disabled it. A challenge whose tag
`NewTag` refuses keeps running, and the team must not mark it. -/
def CanStopSolved (parentTag : String) : Prop :=
  ∀ e ∈ tl.env.exercises, e.tag = parentTag → e.HasMachine →
    if validateTag parentTag = none then
      parentTag ∈ tl.team.disabledChallenges ∨ parentTag ∈ tl.team.allChallenges
    else (parentTag ∈ tl.team.allChallenges → parentTag ∈ tl.team.disabledChallenges)

/-- The challenge is not disabled, when a reset makes machines for it. -/
def NotDisabled (tag : String) : Prop :=
  ∀ e ∈ tl.env.exercises, e.tag = tag → e.MakesMachine → tag ∉ tl.team.disabledChallenges

/-- No challenge for which a reset makes machines is disabled. -/
def NoneDisabled : Prop :=
  ∀ e ∈ tl.env.exercises, e.MakesMachine → e.tag ∉ tl.team.disabledChallenges

instance (tag : String) : Decidable (tl.NotDisabled tag) := by
  unfold NotDisabled
  infer_instance

instance : Decidable tl.NoneDisabled := by
  unfold NoneDisabled
  infer_instance

instance (chalTag : String) : Decidable (tl.CanStartStop chalTag) := by
  unfold CanStartStop
  infer_instance

instance (parentTag : String) : Decidable (tl.CanStopSolved parentTag) := by
  unfold CanStopSolved
  infer_instance

variable {tl} {tl' : TeamLab} {tag chalTag : String} {err : Option String}

/-- Only the one tag is no longer marked. -/
theorem mem_unmark {t : TeamExercises} :
    tag ∈ (unmark t chalTag).disabledChallenges ↔
      tag ≠ chalTag ∧ tag ∈ t.disabledChallenges := by
  unfold unmark
  split
  · next h =>
    rw [TeamExercises.mem_manageDisabledChals]
    split <;> simp_all
  · next h =>
    rw [ne_eq, iff_and_self]
    rintro hmem rfl
    exact h hmem

/-- The request starts a challenge that was disabled, and stops any other one. -/
theorem startStopChallenge_env (tl : TeamLab) (chalTag : String) :
    (tl.startStopChallenge chalTag).1.env =
      (if chalTag ∈ tl.team.disabledChallenges then tl.env.startByTag chalTag
        else tl.env.stopByTag chalTag).1 := by
  simp only [startStopChallenge, startStopHook, TeamExercises.manageDisabledChals_snd,
    decide_eq_true_eq]
  split <;> next heq => exact (congrArg TeamLab.env (Prod.mk.inj heq).1).symm

/-- The start or the stop fails for a tag that is not valid or not known to the lab. -/
theorem startStopHook_eq_none_iff (tl : TeamLab) (chalTag : String) (stopped : Bool) :
    (tl.startStopHook chalTag stopped).2 = none ↔
      validateTag chalTag = none ∧ chalTag ∈ tl.env.tags := by
  cases stopped with
  | false =>
    simp only [startStopHook]
    rcases tl.env.stopByTag_cases chalTag with ⟨hvalid, hmem, hstop⟩ | ⟨hnot, err, hstop⟩
    · simp [hstop, hvalid, hmem]
    · simp [hstop, hnot]
  | true =>
    simp only [startStopHook]
    rcases tl.env.startByTag_cases chalTag with ⟨hvalid, hmem, hstart⟩ | ⟨hnot, err, hstart⟩
    · simp [hstart, hvalid, hmem]
    · simp [hstart, hnot]

/-- After a request that fails, the challenge is marked when the team knows it. -/
theorem mem_startStopChallenge (tl : TeamLab) (chalTag : String) {tag : String} :
    tag ∈ (tl.startStopChallenge chalTag).1.team.disabledChallenges ↔
      if tag = chalTag then
        chalTag ∈ tl.team.allChallenges ∧
          (validateTag chalTag = none ∧ chalTag ∈ tl.env.tags →
            chalTag ∉ tl.team.disabledChallenges)
      else tag ∈ tl.team.disabledChallenges := by
  have hnone := startStopHook_eq_none_iff
    { tl with team := (tl.team.manageDisabledChals chalTag).1 } chalTag
    (tl.team.manageDisabledChals chalTag).2
  have hall : ∀ tag, tag ∈ (tl.team.manageDisabledChals chalTag).1.allChallenges ↔
      tag ∈ tl.team.allChallenges := by
    intro tag
    rw [TeamExercises.manageDisabledChals_allChallenges]
  simp only [startStopChallenge]
  split
  · next tl' err heq =>
    -- The hook failed, so the toggled mark is set again.
    have hteam : tl'.team = (tl.team.manageDisabledChals chalTag).1 :=
      (congrArg TeamLab.team (Prod.mk.inj heq).1).symm
    rw [heq] at hnone
    simp only [reduceCtorEq, false_iff] at hnone
    rw [TeamExercises.mem_addDisabledChal, hteam, TeamExercises.mem_manageDisabledChals, hall]
    split <;> simp_all
  · next tl' heq =>
    -- The hook succeeded, so the tag is a valid one that the lab has.
    have hteam : tl'.team = (tl.team.manageDisabledChals chalTag).1 :=
      (congrArg TeamLab.team (Prod.mk.inj heq).1).symm
    rw [heq] at hnone
    simp only [true_iff] at hnone
    rw [hteam, TeamExercises.mem_manageDisabledChals]
    split <;> simp_all [and_comm]

/-- A start or stop keeps a team marked exactly when it can be carried out on both sides. -/
theorem Marked.startStop_iff (h : tl.Marked) (chalTag : String) :
    (tl.startStopChallenge chalTag).1.Marked ↔ tl.CanStartStop chalTag := by
  have hothers : ∀ tag, tag ≠ chalTag →
      (tag ∈ (tl.startStopChallenge chalTag).1.team.disabledChallenges ↔
        tag ∈ tl.team.disabledChallenges) := by
    intro tag htag
    rw [mem_startStopChallenge, if_neg htag]
  have hself : chalTag ∈ (tl.startStopChallenge chalTag).1.team.disabledChallenges ↔
      chalTag ∈ tl.team.allChallenges ∧ (validateTag chalTag = none ∧ chalTag ∈ tl.env.tags →
        chalTag ∉ tl.team.disabledChallenges) := by
    rw [mem_startStopChallenge, if_pos rfl]
  rw [Marked, startStopChallenge_env]
  by_cases hdisabled : chalTag ∈ tl.team.disabledChallenges
  · -- The challenge is started, and its mark goes away.
    rw [if_pos hdisabled, Environment.Marked.startByTag_iff h hothers]
    refine forall₄_congr fun e he htag _ => ?_
    have hmem : chalTag ∈ tl.env.tags := htag ▸ Environment.mem_tags_of_mem he
    rw [hself]
    split <;> simp_all
  · -- The challenge is stopped, and a team that knows it marks it.
    rw [if_neg hdisabled, Environment.Marked.stopByTag_iff h hothers]
    refine forall₄_congr fun e he htag _ => ?_
    rw [hself]
    split <;> simp_all

/-- The reset of a challenge keeps a team marked. -/
theorem Marked.resetHook (h : tl.Marked) (hreset : tl.resetHook chalTag = some (tl', err)) :
    tl'.Marked := by
  obtain ⟨⟨env, err'⟩, hbyTag, htl'⟩ := Option.map_eq_some_iff.mp hreset
  cases err' with
  | some text =>
    -- The lab does not have the tag.
    obtain ⟨rfl, -⟩ := Prod.mk.inj htl'
    obtain rfl : env = tl.env := (Environment.resetByTag_eq_some hbyTag).2 (by simp)
    exact h
  | none =>
    -- The machines run after the reset, and the mark is taken away.
    obtain ⟨rfl, -⟩ := Prod.mk.inj htl'
    have hothers : ∀ tag, tag ≠ chalTag →
        (tag ∈ (unmark tl.team chalTag).disabledChallenges ↔
          tag ∈ tl.team.disabledChallenges) := by
      intro tag htag
      rw [mem_unmark, and_iff_right htag]
    refine (Environment.Marked.resetByTag_iff h hothers hbyTag).mpr fun e _ _ _ => ?_
    rw [mem_unmark]
    exact fun hmem => hmem.1 rfl

/-- The stop after a solved challenge keeps a team marked exactly when its children are not all
solved, or the stop can be carried out on both sides. -/
theorem Marked.stopSolved_iff (h : tl.Marked) (parentTag : String) :
    (tl.stopSolved parentTag).Marked ↔
      (AllSolved tl.team parentTag → tl.CanStopSolved parentTag) := by
  unfold stopSolved
  split
  swap
  · next hnot => exact iff_of_true h fun hall => absurd hall hnot
  next hall =>
  rw [forall_prop_of_true hall]
  have hothers : ∀ tag, tag ≠ parentTag →
      (tag ∈ (tl.team.addDisabledChal parentTag).disabledChallenges ↔
        tag ∈ tl.team.disabledChallenges) := by
    intro tag htag
    rw [TeamExercises.mem_addDisabledChal]
    simp [htag]
  refine (Environment.Marked.stopByTag_iff h hothers).trans ?_
  refine forall₄_congr fun e _ _ _ => ?_
  rw [TeamExercises.mem_addDisabledChal]
  split <;> simp

/-- A reset of one challenge without its mark. -/
theorem Marked.resetByTag_iff (h : tl.Marked) {env : Environment}
    (hreset : tl.env.resetByTag tag = some (env, none)) :
    Marked { tl with env := env } ↔ tl.NotDisabled tag :=
  Environment.Marked.resetByTag_iff h (fun _ _ => Iff.rfl) hreset

/-- A reset of all challenges without their marks. -/
theorem reset_iff {env : Environment} (hreset : tl.env.reset = some env) :
    Marked { tl with env := env } ↔ tl.NoneDisabled :=
  Environment.marked_reset_iff hreset

end TeamLab

end Haaukins.Amigo
