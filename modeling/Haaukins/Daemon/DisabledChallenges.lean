import Haaukins.Daemon.ManagedEvent

/-!
# `Haaukins.Daemon.DisabledChallenges`: the disabled challenges along the requests of an event

A challenge of a team is marked as disabled when it is a key of `disabledChallenges`. Seven kinds
of requests start or stop its machines.

* Start and stop, the reset by a team, the stop after a solved challenge and `ResetExercise` with
  a list of teams change machines and marks together.
* `ResetExercise` without a list, `RestartTeamLab` and `AddChallenge` change the machines alone.
* A team that signs up gets the marks of the event, and its lab was started by the list of the
  lab host.

`managedEvent_marked_iff` says when the marks and the machines agree along a run.
-/

set_option autoImplicit false

namespace Haaukins.Daemon

open Amigo (AllSolved TeamLab getParentChallengeTag)
open Exercise (Environment)
open Store (TeamExercises)

namespace EventState

variable {s : EventState}

/-- A flag changes no marks. -/
theorem AllMarked.verifyFlag (h : s.AllMarked) (tid tag flag : String) (now : Time)
    (db : Option String) : (s.verifyFlag tid tag flag now db).1.AllMarked :=
  h.of_disabledChallenges (by rw [verifyFlag_frame]) (fun _ _ _ => by rw [verifyFlag_frame])
    (s.verifyFlag_disabledChallenges tid tag flag now db)

end EventState

namespace ManagedEvent

/-- The marks agree with the machines after the step. A lab is assigned as `Start` left it, with
its disabled exercises stopped. A start or a stop is for a challenge that the team knows or has
disabled. `ResetExercise` without a list gets to no team that has disabled the challenge, and
`RestartTeamLab` restarts no lab with a disabled challenge. `AddChallenge` makes an exercise in
the lab of a team either running and not disabled, or stopped and disabled. -/
def KeepsMarks (c : AmigoConf) (s : ManagedEvent) : ManageAction → Prop
  | .newLab _ | .startedLab _ | .signup _ | .resetChallenge _ _ | .verifyFlag _ _ _ _ _ => True
  | .assignLab _ l => (s.event.env l).Marked fun tag => tag ∈ (s.event.env l).disabledExercises
  | .startStopChallenge tid tag =>
    ∀ chalTag ∈ getParentChallengeTag c.isDigit tag, ∀ lab ∈ s.event.teamLab tid,
      lab.2.CanStartStop chalTag
  | .stopSolved i =>
    ∀ goroutine ∈ s.solved[i]?, ∀ lab ∈ s.event.teamLab goroutine.1,
      AllSolved lab.2.team goroutine.2 → lab.2.CanStopSolved goroutine.2
  | .resetExercise exerciseTag reqTeams getTeams =>
    reqTeams = [] → ∀ tid ∈ s.event.resetReach exerciseTag getTeams,
      ∀ lab ∈ s.event.teamLab tid, lab.2.NotDisabled exerciseTag
  | .restartTeamLab tid => ∀ lab ∈ s.event.teamLab tid, lab.2.NoneDisabled
  | .addChallenge req =>
    ∀ tid ∈ s.event.teams.keys, ∀ lab ∈ s.event.teamLab tid,
      Lab.AddsMarked lab.2.env (s.event.addedExercises req) fun tag =>
        tag ∈ lab.2.team.disabledChallenges

instance (c : AmigoConf) (s : ManagedEvent) : ∀ a, Decidable (s.KeepsMarks c a) := by
  intro a
  cases a <;> dsimp only [KeepsMarks] <;> infer_instance

variable {c : AmigoConf} {s t : ManagedEvent} {a : ManageAction}

/-- A new lab belongs to no team. -/
theorem Managed.newLab_marked (h : s.Managed) (hmarked : s.event.AllMarked) (env : Environment) :
    (s.event.setEnv s.created env).AllMarked := by
  refine hmarked.of_disabledChallenges rfl (fun tid l hl => ?_) fun _ => rfl
  have hlt : l < s.created := h.created l (h.assigned tid l hl)
  exact Function.update_of_ne (Nat.ne_of_lt hlt) env s.event.env

/-- A team that signs up has no lab. -/
theorem signup_marked {event : EventState} (hmarked : event.AllMarked) {tid : String}
    (hnew : tid ∉ event.assigned) (t : TeamExercises) :
    EventState.AllMarked { event with teams := event.teams.set tid t } := by
  intro tid' l tl htl
  obtain ⟨hl, ht, henv⟩ := EventState.teamLab_eq_some_iff.mp htl
  have hne : tid' ≠ tid := by
    rintro rfl
    exact hnew (GoMap.mem_iff_get?.mpr ⟨l, hl⟩)
  rw [GoMap.get?_set, if_neg hne] at ht
  exact hmarked tid' l tl (EventState.teamLab_eq_some_iff.mpr ⟨hl, ht, henv⟩)

/-- A team that gets a lab has the marks of the event, and these are the disabled exercises of
the lab. -/
theorem Managed.assignLab_marked_iff (h : s.Managed) (hmarked : s.event.AllMarked) {tid : String}
    {l : Nat} {t : TeamExercises} (ht : s.event.teams.get? tid = some t)
    (htid : tid ∉ s.event.assigned) (hl : l ∈ s.event.labs) (chals : List Store.Challenge) :
    EventState.AllMarked { s.event with
        assigned := s.event.assigned.set tid l
        teams := s.event.teams.set tid (t.addChallenges chals) } ↔
      (s.event.env l).Marked fun tag => tag ∈ (s.event.env l).disabledExercises := by
  -- Neither has been changed since the event was created.
  have hmarks : ∀ tag, tag ∈ (t.addChallenges chals).disabledChallenges ↔
      tag ∈ (s.event.env l).disabledExercises := by
    intro tag
    rw [h.env l (h.created l hl)]
    exact h.unassigned tid t (GoMap.get?_eq_none.mpr htid) ht tag
  rw [← Environment.marked_congr hmarks]
  constructor
  · intro hall
    refine hall tid l { team := t.addChallenges chals, env := s.event.env l } ?_
    rw [EventState.teamLab_eq_some_iff]
    exact ⟨GoMap.get?_set_self .., GoMap.get?_set_self .., rfl⟩
  · intro hlab tid' l' tl htl
    obtain ⟨hl', ht', henv⟩ := EventState.teamLab_eq_some_iff.mp htl
    rw [GoMap.get?_set] at hl' ht'
    split at hl'
    · next heq =>
      rw [if_pos heq] at ht'
      cases hl'
      obtain ⟨team, env⟩ := tl
      cases ht'
      cases henv
      exact hlab
    · next hne =>
      -- The other teams keep their labs.
      rw [if_neg hne] at ht'
      exact hmarked tid' l' tl (EventState.teamLab_eq_some_iff.mpr ⟨hl', ht', henv⟩)

/-- A start or a stop concerns the marks of one team. -/
theorem Managed.startStopChallenge_marked_iff (h : s.Managed) (hmarked : s.event.AllMarked)
    (isDigit : Char → Bool) (tid tag : String) :
    (s.event.handleStartStopChallenge isDigit tid tag).AllMarked ↔
      ∀ chalTag ∈ getParentChallengeTag isDigit tag, ∀ lab ∈ s.event.teamLab tid,
        lab.2.CanStartStop chalTag := by
  unfold EventState.handleStartStopChallenge
  split
  · next chalTag l tl hparent htl =>
    obtain ⟨hl, -, -⟩ := EventState.teamLab_eq_some_iff.mp htl
    rw [hmarked.setTeamLab_iff h.separate hl, (hmarked tid l tl htl).startStop_iff]
    simp [hparent, htl]
  · next hnot =>
    -- The request only replies.
    refine iff_of_true hmarked ?_
    rintro chalTag hparent ⟨l, tl⟩ htl
    exact absurd htl (hnot chalTag l tl hparent)

/-- The reset of a challenge keeps the marks. -/
theorem Managed.resetChallenge_marked (h : s.Managed) (hmarked : s.event.AllMarked)
    (isDigit : Char → Bool) (tid tag : String) :
    (s.event.handleResetChallenge isDigit tid tag).AllMarked := by
  unfold EventState.handleResetChallenge
  split
  · next chalTag l tl hparent htl =>
    obtain ⟨hl, -, -⟩ := EventState.teamLab_eq_some_iff.mp htl
    split
    · next tl' err hreset =>
      exact (hmarked.setTeamLab_iff h.separate hl).mpr ((hmarked tid l tl htl).resetHook hreset)
    · exact hmarked
  · exact hmarked

/-- The stop after a solved challenge keeps the marks if and only if the lab, where the team has
solved the whole exercise, can stop it. -/
theorem Managed.stopSolved_marked_iff (h : s.Managed) (hmarked : s.event.AllMarked)
    {tid parentTag : String} {event : EventState}
    (hs : s.event.stopSolved tid parentTag = some event) :
    event.AllMarked ↔ ∀ lab ∈ s.event.teamLab tid,
      AllSolved lab.2.team parentTag → lab.2.CanStopSolved parentTag := by
  unfold EventState.stopSolved at hs
  split at hs
  · next ht =>
    cases hs
    refine iff_of_true hmarked ?_
    rintro ⟨l, tl⟩ htl
    rw [(EventState.teamLab_eq_some_iff.mp htl).2.1] at ht
    cases ht
  · next t l ht hl =>
    cases hs
    have htl : s.event.teamLab tid = some (l, { team := t, env := s.event.env l }) :=
      EventState.teamLab_eq_some_iff.mpr ⟨hl, ht, rfl⟩
    rw [hmarked.setTeamLab_iff h.separate hl, (hmarked tid l _ htl).stopSolved_iff]
    simp [htl]
  · next t ht hl =>
    split at hs
    · cases hs
    · -- Without a lab the team has no marks to agree with.
      cases hs
      refine iff_of_true hmarked ?_
      rintro ⟨l, tl⟩ htl
      rw [(EventState.teamLab_eq_some_iff.mp htl).1] at hl
      cases hl

/-- After a step the marks agree with the machines exactly when the step meets the condition. -/
theorem Managed.step_iff (h : s.Managed) (hmarked : s.event.AllMarked)
    (hs : (managedEvent c).step s a = some t) : t.event.AllMarked ↔ s.KeepsMarks c a := by
  cases step_change hs with
  | newLab newFlag env hnew => exact iff_of_true (h.newLab_marked hmarked _) trivial
  | startedLab l => exact iff_of_true hmarked trivial
  | signup tid hteams hassigned => exact iff_of_true (signup_marked hmarked hassigned _) trivial
  | assignLab tid l t₀ ht htid hl => exact h.assignLab_marked_iff hmarked ht htid hl _
  | startStopChallenge tid tag => exact h.startStopChallenge_marked_iff hmarked c.isDigit tid tag
  | resetChallenge tid tag =>
    exact iff_of_true (h.resetChallenge_marked hmarked c.isDigit tid tag) trivial
  | badTag => exact iff_of_true hmarked trivial
  | verifyFlag tid tag flag now db =>
    exact iff_of_true (hmarked.verifyFlag tid tag flag now db) trivial
  | stopSolved i tid parentTag event hgoroutine hevent =>
    refine (h.stopSolved_marked_iff hmarked hevent).trans ?_
    simp [KeepsMarks, hgoroutine]
  | resetExercise exerciseTag reqTeams getTeams event err hperm hevent =>
    rw [EventState.resetExercise] at hevent
    split at hevent
    · next hnil =>
      -- `ev.GetTeams()` has each team once.
      have hnodup : getTeams.Nodup := hperm.nodup_iff.mpr s.event.teams.nodupKeys
      refine (hmarked.resetLabs_iff h.separate hnodup hevent).trans ?_
      simp only [KeepsMarks, hnil, forall_true_left, Option.mem_def, Prod.forall]
      exact forall_congr' fun tid => ⟨fun hall hin l tl htl => hall l tl htl hin,
        fun hall l tl htl hin => hall hin l tl htl⟩
    · next hne =>
      exact iff_of_true (hmarked.resetTeams h.separate hevent) fun hnil => absurd hnil hne
  | restartTeamLab tid event err hevent =>
    refine (hmarked.restartTeamLab_iff h.separate hevent).trans ?_
    simp [KeepsMarks]
  | addChallenge req event err hevent =>
    refine (hmarked.addChallenge_iff h.nodup h.assigned hevent).trans ?_
    simp only [KeepsMarks, Option.mem_def, Prod.forall]
    refine forall_congr' fun tid => ⟨fun hall _ => hall, fun hall l tl htl => ?_⟩
    -- A team with a lab is in the team store.
    have hmem : tid ∈ s.event.teams.keys := AList.mem_keys.mp
      (GoMap.mem_iff_get?.mpr ⟨_, (EventState.teamLab_eq_some_iff.mp htl).2.1⟩)
    exact hall hmem l tl htl

/-- A new event has no lab, so that there is nothing to mark. -/
theorem allMarked_new (exercises disabledExercises : List String) (exers : List Store.Exercise)
    (teamsDB : List (String × List (String × String))) :
    (new exercises disabledExercises exers teamsDB).event.AllMarked := by
  intro tid l tl htl
  have hl := (EventState.teamLab_eq_some_iff.mp htl).1
  simp [new, newEventState] at hl

end ManagedEvent

/-- Along a run, the challenges that a team with a lab has disabled are those whose machines are
stopped if and only if each step meets `KeepsMarks`. -/
theorem managedEvent_marked_iff (c : AmigoConf) (exercises disabledExercises : List String)
    (exers : List Store.Exercise) (teamsDB : List (String × List (String × String)))
    (as : List ManageAction) :
    (managedEvent c).AllStates (fun s => s.event.AllMarked)
        (.new exercises disabledExercises exers teamsDB) as ↔
      (managedEvent c).AllSteps (ManagedEvent.KeepsMarks c)
        (.new exercises disabledExercises exers teamsDB) as :=
  Machine.allStates_iff_allSteps
    (I := fun s : ManagedEvent => s.Managed ∧ s.event.AllMarked) (A := fun _ _ => True)
    (fun _ h => h.2)
    (fun _ _ _ h _ hkeeps hs => ⟨h.1.step hs, (h.1.step_iff h.2 hs).mpr hkeeps⟩)
    (fun _ _ _ h _ hnot hs => mt (h.1.step_iff h.2 hs).mp hnot)
    ⟨ManagedEvent.managed_new exercises disabledExercises exers teamsDB,
      ManagedEvent.allMarked_new exercises disabledExercises exers teamsDB⟩
    Machine.allSteps_true

/-- An exercise with one container. -/
def xssExercise : Store.Exercise where
  tag := "xss"
  static := false
  instances := [{ image := "xss", flags := [⟨"xss-1", "HKN-1", false⟩] }]

/-- A team signs up, gets a lab with the exercise and stops it. -/
def xssStopped : List ManageAction :=
  [.newLab fun _ _ _ => "", .startedLab 0, .signup "ab", .assignLab "ab" 0,
    .startStopChallenge "ab" "xss"]

example : (managedEvent { recaptcha := true, isDigit := Char.isDigit }).AllSteps
    (ManagedEvent.KeepsMarks { recaptcha := true, isDigit := Char.isDigit })
    (.new ["xss"] [] [xssExercise] []) (xssStopped ++ [.resetChallenge "ab" "xss"]) := by
  decide

/-- After `RestartTeamLab` the machine runs, and the team has the challenge still disabled. -/
theorem managedEvent_not_marked :
    ¬ ∀ (c : AmigoConf) (exercises disabledExercises : List String)
      (exers : List Store.Exercise) (teamsDB : List (String × List (String × String)))
      (as : List ManageAction),
      (managedEvent c).AllStates (fun s => s.event.AllMarked)
        (.new exercises disabledExercises exers teamsDB) as := by
  intro h
  let c : AmigoConf := { recaptcha := true, isDigit := Char.isDigit }
  have hall := h c ["xss"] [] [xssExercise] [] (xssStopped ++ [.restartTeamLab "ab"])
  obtain ⟨s, hfalse, hmarked⟩ := hall.of_run
    (fun s => decide (∀ lab ∈ s.event.teamLab "ab", lab.2.Marked)) false (by decide)
  exact of_decide_eq_false hfalse fun lab hlab => hmarked "ab" lab.1 lab.2 hlab

end Haaukins.Daemon
