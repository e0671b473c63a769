import Haaukins.Daemon.EventEffects
import Haaukins.Daemon.ResetBranches

/-!
# `Haaukins.Daemon.ForeignEvents`: requests to events of other users (`daemon/team.go`,
`daemon/exercise.go`, `daemon/instance.go`, `daemon/event.go`)

Each handler of an `OwnerRequest` has its own test of the owner, or none. `handle` is the daemon
that gets such a request.

* `resetExercise_same_iff`, `resetFrontends_same_iff` and `addChallenge_same_iff` follow the loops
  over the teams with the rule `untilReturn_iff`: what a round has changed stays visible, in the
  count of the machines that were made or in a machine that is gone. The test of the owner is
  missing there, and in `SetTeamSuspend` and `RestartTeamLab`.
* `handle_others_iff` says when a request leaves the events of others as they are.
-/

set_option autoImplicit false

namespace Haaukins.Daemon

open Amigo.TeamLab (unmark)
open Exercise (Environment)
open Lab (FrontendLab LabAnswers)
open Store (TeamExercises TeamChallenge User validateTag)

/-! ### Resets of one exercise -/

namespace TeamEvent

variable {ev ev' : TeamEvent} {user : User} {err : Option String} {exerciseTag : String}
  {x : String × LabAnswers}

/-- The team is there, and has disabled the exercise. -/
def Marked (ev : TeamEvent) (exerciseTag tid : String) : Prop :=
  ∃ t, ev.state.teams.get? tid = some t ∧ exerciseTag ∈ t.disabledChallenges

instance (ev : TeamEvent) (exerciseTag tid : String) : Decidable (ev.Marked exerciseTag tid) :=
  decidable_of_iff ((ev.state.teams.get? tid).any fun t => exerciseTag ∈ t.disabledChallenges)
    (by simp [Marked, Option.any_eq_true])

/-- What the rounds of `ResetExercise` never take back: the age of the labs, and the marks that are
gone. -/
def resetView (exerciseTag : String) (ev : TeamEvent) : (Nat → Nat) × (String → Nat) :=
  (fun l => (ev.lab l).resetAge exerciseTag,
    fun tid => if ev.Marked exerciseTag tid then 0 else 1)

/-- The marks are part of what two like events agree on. -/
theorem Marked.congr (h : ev.Same ev') (tid : String) :
    ev'.Marked exerciseTag tid ↔ ev.Marked exerciseTag tid := by
  have hteam := h.teams tid
  unfold Marked
  cases ht : ev.state.teams.get? tid with
  | none =>
    rw [ht, Option.map_none, Option.map_eq_none_iff] at hteam
    rw [hteam]
  | some t =>
    rw [ht, Option.map_some, Option.map_eq_some_iff] at hteam
    obtain ⟨t', ht', hview⟩ := hteam
    have hget : t'.disabledChallenges.get? = t.disabledChallenges.get? :=
      congrArg (fun view => view.2.2.2) hview
    simp only [ht', Option.some.injEq, exists_eq_left', GoMap.mem_iff_get?, hget]

/-- An event that stays as it was shows nothing new. -/
theorem resetView_of_same (h : ev.Same ev') :
    resetView exerciseTag ev' ≤ resetView exerciseTag ev := by
  refine ⟨fun l => le_of_eq ?_, fun tid => le_of_eq ?_⟩
  · show (ev'.lab l).resetAge exerciseTag = (ev.lab l).resetAge exerciseTag
    rw [FrontendLab.resetAge, FrontendLab.resetAge, (h.lab l).env, (h.lab l).made]
  · show (if ev'.Marked exerciseTag tid then 0 else 1) = if ev.Marked exerciseTag tid then 0 else 1
    simp only [Marked.congr h tid]

/-- A reset of a lab keeps the marks. -/
theorem resetView_setLab (ev : TeamEvent) {l : Nat} {lab : FrontendLab}
    (h : (ev.lab l).resetAge exerciseTag ≤ lab.resetAge exerciseTag) :
    resetView exerciseTag ev ≤ resetView exerciseTag (ev.setLab l lab) := by
  refine ⟨fun l' => ?_, fun tid => le_rfl⟩
  show (ev.lab l').resetAge exerciseTag ≤ ((ev.setLab l lab).lab l').resetAge exerciseTag
  rw [lab_setLab]
  split
  · next heq => exact heq ▸ h
  · exact le_rfl

/-- Taking a mark away leaves the labs alone. -/
theorem lab_unmarkTeam (ev : TeamEvent) (tid : String) (t : TeamExercises) (l : Nat) :
    (ev.unmarkTeam tid t exerciseTag).lab l = ev.lab l := by
  unfold unmarkTeam
  split <;> rfl

/-- No team gets a mark. -/
theorem marked_unmarkTeam {tid : String} {t : TeamExercises} {tid' : String} :
    (ev.unmarkTeam tid t exerciseTag).Marked exerciseTag tid' → ev.Marked exerciseTag tid' := by
  unfold unmarkTeam
  split
  · rintro ⟨t', ht', hmem⟩
    rw [GoMap.get?_set] at ht'
    split at ht'
    · cases ht'
      have hnone : (unmark t exerciseTag).disabledChallenges.get? exerciseTag = none := by
        rw [EventState.get?_unmark, if_pos rfl]
      exact absurd hmem (GoMap.get?_eq_none.mp hnone)
    · exact ⟨t', ht', hmem⟩
  · exact id

/-- Taking a mark away is progress. -/
theorem resetView_unmarkTeam (ev : TeamEvent) (tid : String) (t : TeamExercises) :
    resetView exerciseTag ev ≤ resetView exerciseTag (ev.unmarkTeam tid t exerciseTag) := by
  refine ⟨fun l => le_of_eq ?_, fun tid' => ?_⟩
  · show _ = ((ev.unmarkTeam tid t exerciseTag).lab l).resetAge exerciseTag
    rw [lab_unmarkTeam]
    rfl
  · show (if ev.Marked exerciseTag tid' then 0 else 1) ≤
      if (ev.unmarkTeam tid t exerciseTag).Marked exerciseTag tid' then 0 else 1
    split
    · exact Nat.zero_le _
    · next hnot => rw [if_neg (mt marked_unmarkTeam hnot)]

/-- One round of `ResetExercise`: there is no lab, or the lab is reset and the loop returns, or it
goes on to the marks. -/
theorem resetRound_cases {listed : Bool}
    (h : resetRound listed exerciseTag ev x = some (ev', err)) :
    (ev.state.assigned.get? x.1 = none ∧ ev' = ev ∧ err = none) ∨
    ∃ l lab failure, ev.state.assigned.get? x.1 = some l ∧
      (ev.lab l).resetByTag x.2 exerciseTag = (lab, failure) ∧ failure ≠ some .panic ∧
      ((failure ≠ none ∧ err ≠ none ∧ ev' = ev.setLab l lab) ∨
       (failure = none ∧ err = none ∧ listed = false ∧ ev' = ev.setLab l lab) ∨
       (failure = none ∧ err = none ∧ listed = true ∧ ∃ t, ev.state.teams.get? x.1 = some t ∧
          ev' = (ev.setLab l lab).unmarkTeam x.1 t exerciseTag)) := by
  unfold resetRound at h
  cases hl : ev.state.assigned.get? x.1 with
  -- A team without a lab is passed.
  | none =>
    rw [hl] at h
    cases h
    exact .inl ⟨rfl, rfl, rfl⟩
  | some l =>
    rw [hl] at h
    refine .inr ⟨l, _, _, rfl, rfl, ?_⟩
    dsimp only at h
    split at h
    · cases h
    · next hreset =>
      cases h
      obtain ⟨rfl, hpanic, hfailure⟩ := afterLab_eq_some hreset
      -- A lab that fails ends the loop with the error of the lab.
      exact ⟨hpanic, .inl ⟨mt hfailure.mpr (Option.some_ne_none _), Option.some_ne_none _, rfl⟩⟩
    · next hreset =>
      obtain ⟨rfl, hpanic, hfailure⟩ := afterLab_eq_some hreset
      have hnone := hfailure.mp rfl
      refine ⟨hpanic, .inr ?_⟩
      -- Only a request with a list of teams takes the mark away.
      cases listed with
      | false =>
        cases h
        exact .inl ⟨hnone, rfl, rfl, rfl⟩
      | true =>
        obtain ⟨t, ht, heq⟩ := Option.map_eq_some_iff.mp h
        cases heq
        exact .inr ⟨hnone, rfl, rfl, t, ht, rfl⟩

/-- Each round is progress, whatever its labs answer. -/
theorem resetView_resetRound {listed : Bool}
    (h : resetRound listed exerciseTag ev x = some (ev', err)) :
    resetView exerciseTag ev ≤ resetView exerciseTag ev' := by
  rcases resetRound_cases h with ⟨-, rfl, -⟩ | ⟨l, lab, failure, -, hreset, hpanic, hend⟩
  · exact le_rfl
  · have hlab := resetView_setLab ev (FrontendLab.resetAge_le hreset hpanic)
    rcases hend with ⟨-, -, rfl⟩ | ⟨-, -, -, rfl⟩ | ⟨-, -, -, t, -, rfl⟩
    · exact hlab
    · exact hlab
    · exact hlab.trans (resetView_unmarkTeam _ _ _)

/-- A round on the event keeps it, or its change is seen. -/
theorem resetRound_same {listed : Bool}
    (h : resetRound listed exerciseTag ev x = some (ev', err)) :
    (ev.ResetKeeps listed exerciseTag x ∧ ev' = ev ∧
      (ev.ResetStops exerciseTag x ↔ err ≠ none)) ∨
    (¬ ev.ResetKeeps listed exerciseTag x ∧
      ¬ resetView exerciseTag ev' ≤ resetView exerciseTag ev) := by
  unfold ResetKeeps ResetStops
  rcases resetRound_cases h with ⟨hnone, rfl, rfl⟩ | ⟨l, lab, failure, hl, hreset, hpanic, hend⟩
  · refine .inl ⟨⟨fun l hl => ?_, fun _ hmem => ?_⟩, rfl, iff_of_false ?_ (not_not.mpr rfl)⟩
    -- Without a lab nothing is reset, and the loop goes on.
    · rw [hnone] at hl
      cases hl
    · exact absurd hmem (GoMap.get?_eq_none.mp hnone)
    · rintro ⟨l, hl, -⟩
      rw [hnone] at hl
      cases hl
  simp only [hl, Option.some.injEq, forall_eq', exists_eq_left']
  have hassigned : x.1 ∈ ev.state.assigned := GoMap.mem_iff_get?.mpr ⟨l, hl⟩
  rcases FrontendLab.resetByTag_cases hreset hpanic with ⟨hrefused, rfl, hstops⟩ | ⟨hnot, hlt⟩
  · -- The lab is the same, so all is about the mark.
    rw [setLab_lab] at hend
    rcases hend with ⟨hfailure, herr, rfl⟩ | ⟨hfailure, rfl, rfl, rfl⟩ |
      ⟨hfailure, rfl, rfl, t, ht, rfl⟩
    · exact .inl ⟨⟨hrefused, fun _ _ hgo => absurd (hstops.mpr hfailure) hgo⟩, rfl,
        iff_of_true (hstops.mpr hfailure) herr⟩
    · exact .inl ⟨⟨hrefused, nofun⟩, rfl, iff_of_false (mt hstops.mp (not_not.mpr hfailure))
        (not_not.mpr rfl)⟩
    · have hgo := mt hstops.mp (not_not.mpr hfailure)
      by_cases hmem : exerciseTag ∈ t.disabledChallenges
      · refine .inr ⟨fun hkeeps => hkeeps.2 rfl hassigned hgo t ht hmem, fun hle => ?_⟩
        have hmark := hle.2 x.1
        have hgone : ¬ (ev.unmarkTeam x.1 t exerciseTag).Marked exerciseTag x.1 := by
          rintro ⟨t', ht', hmem'⟩
          rw [unmarkTeam, if_pos hmem, GoMap.get?_set_self] at ht'
          cases ht'
          have hnone : (unmark t exerciseTag).disabledChallenges.get? exerciseTag = none := by
            rw [EventState.get?_unmark, if_pos rfl]
          exact GoMap.get?_eq_none.mp hnone hmem'
        change (if (ev.unmarkTeam x.1 t exerciseTag).Marked exerciseTag x.1 then 0 else 1) ≤
          if ev.Marked exerciseTag x.1 then 0 else 1 at hmark
        rw [if_neg hgone, if_pos ⟨t, ht, hmem⟩] at hmark
        exact Nat.not_succ_le_zero 0 hmark
      · refine .inl ⟨⟨hrefused, fun _ _ _ t' ht' => ?_⟩, ?_,
          iff_of_false hgo (not_not.mpr rfl)⟩
        · rw [ht] at ht'
          cases ht'
          exact hmem
        · rw [unmarkTeam, if_neg hmem]
  -- The lab lost machines or made new ones, which the age of its exercise shows.
  · refine .inr ⟨fun hkeeps => hnot hkeeps.1, fun hle => ?_⟩
    have hafter : (ev'.lab l) = lab := by
      rcases hend with ⟨-, -, rfl⟩ | ⟨-, -, -, rfl⟩ | ⟨-, -, -, t, -, rfl⟩
      · rw [lab_setLab, if_pos rfl]
      · rw [lab_setLab, if_pos rfl]
      · rw [lab_unmarkTeam, lab_setLab, if_pos rfl]
    have hage : (ev'.lab l).resetAge exerciseTag ≤ (ev.lab l).resetAge exerciseTag := hle.1 l
    rw [hafter] at hage
    omega

/-- A loop of `ResetExercise` changes nothing if and only if its rounds change nothing, up to the
first that returns. -/
theorem resetRounds_same_iff {listed : Bool} {teams : List (String × LabAnswers)}
    (h : untilReturn (resetRound listed exerciseTag) ev teams = some (ev', err)) :
    ev.Same ev' ↔ UpToFirst (ev.ResetStops exerciseTag) (ev.ResetKeeps listed exerciseTag)
      teams := by
  refine (untilReturn_iff (resetView exerciseTag) (resetView exerciseTag ev) (fun s => s = ev)
    (fun s => ev.Same s) _ _ (fun s a s' err => resetView_resetRound)
    (fun s hsame => resetView_of_same hsame) (fun s hs => hs ▸ .refl ev) ?_ rfl h).1
  rintro x - s s' err rfl hround
  rcases resetRound_same hround with ⟨hkeeps, rfl, hstops⟩ | hchanged
  · exact .inl ⟨hkeeps, .refl _, hstops, fun _ => rfl⟩
  · exact .inr hchanged

/-- `ResetExercise` changes nothing when each round up to its end keeps its team. -/
theorem resetExercise_same_iff {teams getTeams : List (String × LabAnswers)}
    (h : ev.resetExercise exerciseTag teams getTeams = some (ev', err)) :
    ev.Same ev' ↔ UpToFirst (ev.ResetStops exerciseTag)
      (ev.ResetKeeps (!teams.isEmpty) exerciseTag) (if teams.isEmpty then getTeams else teams) := by
  unfold resetExercise at h
  split at h
  · next hempty =>
    rw [hempty, if_pos rfl]
    exact resetRounds_same_iff h
  · next hlisted =>
    rw [Bool.eq_false_of_not_eq_true hlisted]
    exact resetRounds_same_iff h

/-! ### Resets of the frontends -/

/-- What the rounds of `ResetFrontends` never take back. -/
def frontendsView (ev : TeamEvent) : Nat → Nat → Nat := fun l p => (ev.lab l).frontendAge p

/-- A round skips a team without a lab, and resets the frontends of another one. -/
theorem resetFrontendsRound_cases (h : resetFrontendsRound ev x = some (ev', err)) :
    (ev.state.assigned.get? x.1 = none ∧ ev' = ev ∧ err = none) ∨
    ∃ l, ev.state.assigned.get? x.1 = some l ∧
      ev' = ev.setLab l ((ev.lab l).resetFrontends x.2).1 ∧
      (err = none ↔ ((ev.lab l).resetFrontends x.2).2 = none) := by
  unfold resetFrontendsRound at h
  cases hl : ev.state.assigned.get? x.1 with
  | none =>
    rw [hl] at h
    cases h
    exact .inl ⟨rfl, rfl, rfl⟩
  | some l =>
    rw [hl] at h
    obtain ⟨rfl, -, herr⟩ := afterLab_eq_some h
    exact .inr ⟨l, rfl, rfl, herr⟩

/-- The ages of the frontends never fall. -/
theorem frontendsView_round (h : resetFrontendsRound ev x = some (ev', err)) :
    frontendsView ev ≤ frontendsView ev' := by
  rcases resetFrontendsRound_cases h with ⟨-, rfl, -⟩ | ⟨l, -, rfl, -⟩
  · exact le_rfl
  · intro l' p
    show (ev.lab l').frontendAge p ≤ ((ev.setLab l _).lab l').frontendAge p
    rw [lab_setLab]
    split
    · next heq => exact heq ▸ FrontendLab.frontendAge_le p
    · exact le_rfl

/-- A round keeps the event, or its frontends are new for the rest of the call. -/
theorem resetFrontendsRound_same (h : resetFrontendsRound ev x = some (ev', err)) :
    (ev.FrontendsKeep x ∧ ev.Same ev' ∧ (ev.FrontendsStop x ↔ err ≠ none) ∧
      (err = none → ev' = ev)) ∨
    (¬ ev.FrontendsKeep x ∧ ¬ frontendsView ev' ≤ frontendsView ev) := by
  unfold FrontendsKeep FrontendsStop
  rcases resetFrontendsRound_cases h with ⟨hnone, rfl, rfl⟩ | ⟨l, hl, rfl, herr⟩
  · refine .inl ⟨fun l hl => ?_, .refl _, iff_of_false ?_ (not_not.mpr rfl), fun _ => rfl⟩
    · rw [hnone] at hl
      cases hl
    · rintro ⟨l, hl, -⟩
      rw [hnone] at hl
      cases hl
  simp only [hl, Option.some.injEq, forall_eq', exists_eq_left']
  rcases (ev.lab l).resetFrontends_cases x.2 with ⟨hrefuse, hsame, hstops, hnext⟩ | ⟨hnot, p, hlt⟩
  · refine .inl ⟨hrefuse, setLab_same_iff.mpr hsame, hstops.trans (not_congr herr.symm), ?_⟩
    intro hnone
    rw [hnext (herr.mp hnone), setLab_lab]
  · refine .inr ⟨hnot, fun hle => ?_⟩
    have hage : ((ev.setLab l _).lab l).frontendAge p ≤ (ev.lab l).frontendAge p := hle l p
    rw [lab_setLab, if_pos rfl] at hage
    omega

/-- `ResetFrontends` changes nothing when each round up to its end keeps its frontends. -/
theorem resetFrontends_same_iff {teams getTeams : List (String × LabAnswers)}
    (h : ev.resetFrontends teams getTeams = some (ev', err)) :
    ev.Same ev' ↔ UpToFirst ev.FrontendsStop ev.FrontendsKeep
      (if teams.isEmpty then getTeams else teams) := by
  refine (untilReturn_iff frontendsView (frontendsView ev) (fun s => s = ev)
    (fun s => ev.Same s) _ _ (fun s a s' err => frontendsView_round) ?_
    (fun s hs => hs ▸ .refl ev) ?_ rfl h).1
  · intro s hsame l p
    show (s.lab l).frontendAge p ≤ (ev.lab l).frontendAge p
    rw [FrontendLab.frontendAge, FrontendLab.frontendAge, (hsame.lab l).frontends]
  · rintro x - s s' err rfl hround
    exact (resetFrontendsRound_same hround).imp_right id

end TeamEvent

/-! ### Added challenges -/

/-- The round of a team changes nothing when it has the challenges and knows the children. -/
theorem addedTeam_view_iff (t : TeamExercises) (chals : List Store.Challenge)
    (childrenChalTags : GoMap String (List String)) :
    teamView ((t.addChallenges chals).updateAllChallenges childrenChalTags) = teamView t ↔
      (t.addChallenges chals).challenges.challenges.get? = t.challenges.challenges.get? ∧
        ∀ tag ch, childrenChalTags.get? tag = some ch → t.allChallenges.get? tag = some ch := by
  have hall : ((t.addChallenges chals).updateAllChallenges childrenChalTags).allChallenges.get? =
      t.allChallenges.get? ↔
        ∀ tag ch, childrenChalTags.get? tag = some ch → t.allChallenges.get? tag = some ch := by
    rw [funext_iff]
    refine forall_congr' fun tag => ?_
    rw [TeamExercises.get?_updateAllChallenges]
    show (childrenChalTags.get? tag).or (t.allChallenges.get? tag) = _ ↔ _
    cases childrenChalTags.get? tag with
    | none => simp
    | some ch => simp [eq_comm]
  have hsolved : (t.addChallenges chals).challenges.solvedChalsDB = t.challenges.solvedChalsDB :=
    t.addChallenges_solvedChalsDB chals
  rw [← hall]
  show (_, _, _, _) = (_, _, _, _) ↔ _
  simp only [Prod.mk.injEq]
  constructor
  · rintro ⟨hchallenges, -, hparents, -⟩
    exact ⟨hchallenges, hparents⟩
  · rintro ⟨hchallenges, hparents⟩
    exact ⟨hchallenges, hsolved, hparents, rfl⟩

namespace TeamEvent

variable {newFlag : Nat → String → Nat → Nat → String} {exers : List Store.Exercise}
  {childrenChalTags : GoMap String (List String)} {ev ev' : TeamEvent}
  {s s' : TeamEvent × Option String} {err : Option String} {req : AddChallengeRequest}
  {calls : AddCalls}

/-- What the rounds of `AddChallenge` never take back. -/
def addView (s : TeamEvent × Option String) : Nat → Nat := fun l => (s.1.lab l).addAge

/-- A round of the first loop changes its lab, and its error is only collected. -/
theorem addRound_eq_some {x : Nat × LabAnswers} (h : addRound newFlag exers s x = some (s', err)) :
    s'.1 = s.1.setLab x.1 ((s.1.lab x.1).addChallenge x.2 (newFlag x.1) exers).1 ∧ err = none := by
  obtain ⟨r, hr, heq⟩ := Option.map_eq_some_iff.mp h
  cases heq
  exact ⟨(afterLab_eq_some hr).1, rfl⟩

/-- A round of the second loop changes its lab, and then the lists of its team. -/
theorem addTeamRound_eq_some {x : (String × Nat) × LabAnswers}
    (h : addTeamRound newFlag exers childrenChalTags s x = some (s', err)) :
    ∃ s₁, addRound newFlag exers s (x.1.2, x.2) = some (s₁, none) ∧ err = none ∧
      ∃ t, s₁.1.state.teams.get? x.1.1 = some t ∧
        s'.1 = { s₁.1 with state := { s₁.1.state with
          teams := s₁.1.state.teams.set x.1.1
            ((t.addChallenges (s₁.1.state.env x.1.2).challenges).updateAllChallenges
              childrenChalTags) } } := by
  obtain ⟨⟨s₁, err₁⟩, hround, hrest⟩ := Option.bind_eq_some_iff.mp h
  obtain ⟨t, ht, heq⟩ := Option.map_eq_some_iff.mp hrest
  obtain ⟨-, rfl⟩ := addRound_eq_some hround
  cases heq
  exact ⟨s₁, hround, rfl, t, ht, rfl⟩

/-- A visit keeps the lab, or what it has added is seen. -/
theorem addRound_cases {x : Nat × LabAnswers} (h : addRound newFlag exers s x = some (s', err)) :
    ((s.1.lab x.1).env.AddRefused x.2.answers (newFlag x.1) exers ∧ s'.1 = s.1) ∨
    (¬ (s.1.lab x.1).env.AddRefused x.2.answers (newFlag x.1) exers ∧
      addView s x.1 < addView s' x.1) := by
  obtain ⟨hs', -⟩ := addRound_eq_some h
  rcases (s.1.lab x.1).addChallenge_cases x.2 (newFlag x.1) exers with ⟨hrefused, hsame⟩ |
    ⟨hnot, hlt⟩
  · rw [hsame, setLab_lab] at hs'
    exact .inl ⟨hrefused, hs'⟩
  · refine .inr ⟨hnot, ?_⟩
    show (s.1.lab x.1).addAge < (s'.1.lab x.1).addAge
    rw [hs', lab_setLab, if_pos rfl]
    exact hlt

/-- The first loop only adds. -/
theorem addView_addRound {x : Nat × LabAnswers} (h : addRound newFlag exers s x = some (s', err)) :
    addView s ≤ addView s' := by
  intro l
  by_cases hl : l = x.1
  · subst hl
    rcases addRound_cases h with ⟨-, hsame⟩ | ⟨-, hlt⟩
    · rw [addView, addView, hsame]
    · exact hlt.le
  · obtain ⟨hs', -⟩ := addRound_eq_some h
    show (s.1.lab l).addAge ≤ (s'.1.lab l).addAge
    rw [hs', lab_setLab, if_neg hl]

/-- The round of a team has the labs of its visit. -/
theorem addTeamRound_lab {x : (String × Nat) × LabAnswers}
    (h : addTeamRound newFlag exers childrenChalTags s x = some (s', err)) :
    ∃ s₁, addRound newFlag exers s (x.1.2, x.2) = some (s₁, none) ∧
      s'.1.lab = s₁.1.lab := by
  obtain ⟨s₁, hround, -, t, -, heq⟩ := addTeamRound_eq_some h
  exact ⟨s₁, hround, by rw [heq]; rfl⟩

/-- The second loop only adds. -/
theorem addView_addTeamRound {x : (String × Nat) × LabAnswers}
    (h : addTeamRound newFlag exers childrenChalTags s x = some (s', err)) :
    addView s ≤ addView s' := by
  obtain ⟨s₁, hround, hlab⟩ := addTeamRound_lab h
  have hview : addView s' = addView s₁ := by
    unfold addView
    rw [hlab]
  rw [hview]
  exact addView_addRound hround

/-- The loop over the hub adds nothing if and only if each visit refuses the exercises. -/
theorem addRounds_iff {visits : List (Nat × LabAnswers)}
    (h : untilReturn (addRound newFlag exers) (ev, none) visits = some (s', err)) :
    (addView s' ≤ addView (ev, none) ↔
      ∀ x ∈ visits, (ev.lab x.1).env.AddRefused x.2.answers (newFlag x.1) exers) ∧
    (addView s' ≤ addView (ev, none) → s'.1 = ev) := by
  have herr : err = none := untilReturn_error (fun s x s' err hround =>
    (addRound_eq_some hround).2) h
  rw [← upToFirst_of_not (fun _ => not_false) visits]
  have hloop := untilReturn_iff addView (addView (ev, none)) (fun s => s.1 = ev)
    (fun s => addView s ≤ addView (ev, none)) (fun _ => False)
    (fun x => (ev.lab x.1).env.AddRefused x.2.answers (newFlag x.1) exers)
    (fun s x s' err => addView_addRound) (fun s => id)
    (fun s hs => le_of_eq (by unfold addView; rw [hs])) ?_ rfl h
  · exact ⟨hloop.1, fun hle => hloop.2 hle herr⟩
  · rintro x - s s' err rfl hround
    obtain ⟨-, rfl⟩ := addRound_eq_some hround
    rcases addRound_cases hround with ⟨hrefused, hsame⟩ | ⟨hnot, hlt⟩
    · exact .inl ⟨hrefused, le_of_eq (by unfold addView; rw [hsame]),
        iff_of_false not_false (not_not.mpr rfl), fun _ => hsame⟩
    · exact .inr ⟨hnot, fun hle => absurd (hle x.1) (not_le_of_gt hlt)⟩

/-- The same for the loop over the labs of the teams. -/
theorem addTeamRounds_iff {visits : List ((String × Nat) × LabAnswers)} (hs : s.1.lab = ev.lab)
    (h : untilReturn (addTeamRound newFlag exers childrenChalTags) s visits = some (s', err)) :
    addView s' ≤ addView (ev, none) ↔ ∀ x ∈ visits,
      (ev.lab x.1.2).env.AddRefused x.2.answers (newFlag x.1.2) exers := by
  rw [← upToFirst_of_not (fun _ => not_false) visits]
  refine (untilReturn_iff addView (addView (ev, none)) (fun s => s.1.lab = ev.lab)
    (fun s => addView s ≤ addView (ev, none)) (fun _ => False)
    (fun x => (ev.lab x.1.2).env.AddRefused x.2.answers (newFlag x.1.2) exers)
    (fun s x s' err => addView_addTeamRound) (fun s => id)
    (fun s hs => le_of_eq (by unfold addView; rw [hs])) ?_ hs h).1
  intro x _ s s' err hs hround
  obtain ⟨s₁, hvisit, rfl, -⟩ := addTeamRound_eq_some hround
  obtain ⟨s₂, hvisit', hlab⟩ := addTeamRound_lab hround
  obtain rfl : s₂ = s₁ := (Prod.mk.inj (Option.some.inj (hvisit'.symm.trans hvisit))).1
  rw [← hs]
  rcases addRound_cases hvisit with ⟨hrefused, hsame⟩ | ⟨hnot, hlt⟩
  · have hkept : s'.1.lab = ev.lab := by rw [hlab, hsame, hs]
    exact .inl ⟨hrefused, le_of_eq (by unfold addView; rw [hkept]),
      iff_of_false not_false (not_not.mpr rfl), fun _ => hkept.trans hs.symm⟩
  · refine .inr ⟨hnot, fun hle => absurd (hle x.1.2) (not_le_of_gt ?_)⟩
    have hbefore : addView (ev, none) x.1.2 = addView s x.1.2 := by
      unfold addView
      rw [hs]
    have hafter : addView s' x.1.2 = addView s₂ x.1.2 := by
      unfold addView
      rw [hlab]
    rw [hbefore, hafter]
    exact hlt

/-- What the loop does to the teams when the labs take nothing. -/
theorem addTeamRounds_teams {visits : List ((String × Nat) × LabAnswers)}
    (hnodup : (visits.map fun x => x.1.1).Nodup)
    (hrefused : ∀ x ∈ visits, (s.1.lab x.1.2).env.AddRefused x.2.answers (newFlag x.1.2) exers)
    (h : untilReturn (addTeamRound newFlag exers childrenChalTags) s visits = some (s', err)) :
    s'.1 = { s.1 with state := { s.1.state with teams := s'.1.state.teams } } ∧
      ∀ tid, (∀ x ∈ visits, x.1.1 = tid → s'.1.state.teams.get? tid =
          (s.1.state.teams.get? tid).map fun t =>
            (t.addChallenges (s.1.state.env x.1.2).challenges).updateAllChallenges
              childrenChalTags) ∧
        (tid ∉ visits.map (fun x => x.1.1) →
          s'.1.state.teams.get? tid = s.1.state.teams.get? tid) := by
  -- The induction is on the rounds; the teams that are still to come are other ones.
  induction visits generalizing s with
  | nil =>
    cases h
    exact ⟨rfl, fun tid => ⟨fun x hx => absurd hx List.not_mem_nil, fun _ => rfl⟩⟩
  | cons x visits ih =>
    obtain ⟨hnot, hnodup⟩ := List.nodup_cons.mp hnodup
    obtain ⟨hhead, hrest⟩ := List.forall_mem_cons.mp hrefused
    rw [untilReturn] at h
    split at h
    · cases h
    -- A round that returns would have an error, and these have none.
    · next hround =>
      obtain ⟨-, -, herr, -⟩ := addTeamRound_eq_some hround
      cases herr
    · next s₁ hround =>
      obtain ⟨s₀, hvisit, -, t, ht, hs₁⟩ := addTeamRound_eq_some hround
      have hsame : s₀.1 = s.1 := by
        rcases addRound_cases hvisit with ⟨-, hsame⟩ | ⟨hnot, -⟩
        · exact hsame
        · exact absurd hhead hnot
      rw [hsame] at hs₁ ht
      have hlab : s₁.1.lab = s.1.lab := by
        rw [hs₁]
        rfl
      obtain ⟨hframe, hteams⟩ := ih hnodup (fun y hy => hlab ▸ hrest y hy) h
      refine ⟨by rw [hframe, hs₁], fun tid => ?_⟩
      obtain ⟨hlisted, hothers⟩ := hteams tid
      have hget : s₁.1.state.teams.get? tid = if tid = x.1.1 then
          some ((t.addChallenges (s.1.state.env x.1.2).challenges).updateAllChallenges
            childrenChalTags)
          else s.1.state.teams.get? tid := by
        rw [hs₁]
        exact GoMap.get?_set ..
      have henv : s₁.1.state.env = s.1.state.env := by
        rw [hs₁]
      by_cases htid : tid = x.1.1
      · -- The team does not come once more.
        subst htid
        rw [if_pos rfl] at hget
        refine ⟨fun y hy htid => ?_, fun hout => absurd List.mem_cons_self hout⟩
        rcases List.mem_cons.mp hy with rfl | hy
        · rw [hothers hnot, hget, ht, Option.map_some]
        · exact absurd (List.mem_map.mpr ⟨y, hy, htid⟩) hnot
      · rw [if_neg htid] at hget
        rw [hget, henv] at hlisted
        constructor
        · intro y hy heq
          rcases List.mem_cons.mp hy with rfl | hy
          · exact absurd heq.symm htid
          · exact hlisted y hy heq
        · intro hout
          rw [hothers fun hmem => hout (List.mem_cons_of_mem _ hmem), hget]

/-- Each team with a lab is visited once. -/
theorem nodup_teamVisits (ev : TeamEvent) (calls : AddCalls) :
    ((ev.teamVisits calls).map fun x => x.1.1).Nodup := by
  rw [teamVisits, List.map_map]
  exact ev.state.assigned.nodup_map_pairs

/-- When the labs refuse the exercises, the loops change no team exactly when the teams know their
challenges. -/
theorem addTeamRounds_same_iff
    (hrefuse : ∀ x ∈ ev.teamVisits calls,
      (ev.lab x.1.2).env.AddRefused x.2.answers (newFlag x.1.2) exers)
    (hs : s.1 = ev)
    (h : untilReturn (addTeamRound newFlag exers (Daemon.childrenChalTags req.challengeTag exers))
      s (ev.teamVisits calls) = some (s', err)) :
    ev.Same s'.1 ↔ ev.TeamsKnow req.challengeTag exers := by
  subst hs
  obtain ⟨hframe, hteams⟩ := addTeamRounds_teams (nodup_teamVisits _ calls) hrefuse h
  have hlisted : ∀ tid l, s.1.state.assigned.get? tid = some l →
      s'.1.state.teams.get? tid = (s.1.state.teams.get? tid).map fun t =>
        (t.addChallenges (s.1.state.env l).challenges).updateAllChallenges
          (Daemon.childrenChalTags req.challengeTag exers) := by
    intro tid l hl
    refine (hteams tid).1 ((tid, l), calls.team tid) ?_ rfl
    exact List.mem_map.mpr ⟨(tid, l), GoMap.mem_pairs.mpr hl, rfl⟩
  constructor
  · intro hsame tid l t hl ht
    have hview := hsame.teams tid
    rw [hlisted tid l hl, ht, Option.map_some, Option.map_some, Option.map_some,
      Option.some.injEq] at hview
    exact (addedTeam_view_iff ..).mp hview
  -- The frame is that of the loop, so that only the teams are left to compare.
  · intro hknow
    rw [hframe]
    refine { SameFrame.refl s.1 with lab := fun l => .refl _, teams := fun tid => ?_ }
    show (s'.1.state.teams.get? tid).map teamView = _
    cases hl : s.1.state.assigned.get? tid with
    -- A team without a lab has no round.
    | none =>
      rw [(hteams tid).2]
      intro hmem
      obtain ⟨x, hx, rfl⟩ := List.mem_map.mp hmem
      obtain ⟨e, he, rfl⟩ := List.mem_map.mp hx
      rw [GoMap.mem_pairs.mp he] at hl
      cases hl
    | some l =>
      rw [hlisted tid l hl]
      cases ht : s.1.state.teams.get? tid with
      | none => rfl
      | some t =>
        rw [Option.map_some, Option.map_some, Option.map_some]
        exact congrArg some ((addedTeam_view_iff ..).mpr (hknow tid l t hl ht))

/-- An event that stays as it was has nothing added. -/
theorem addView_of_same (h : ev.Same s.1) : addView s ≤ addView (ev, none) := by
  intro l
  show (s.1.lab l).addAge ≤ (ev.lab l).addAge
  rw [FrontendLab.addAge, FrontendLab.addAge, (h.lab l).env, (h.lab l).made]

/-- The loops keep the list of exercises in the store service. -/
theorem exercises_addRound {x : Nat × LabAnswers}
    (h : addRound newFlag exers s x = some (s', err)) :
    s'.1.state.exercises = s.1.state.exercises := by
  rw [(addRound_eq_some h).1]
  rfl

/-- The second loop keeps the list of exercises in the store service. -/
theorem exercises_addTeamRound {x : (String × Nat) × LabAnswers}
    (h : addTeamRound newFlag exers childrenChalTags s x = some (s', err)) :
    s'.1.state.exercises = s.1.state.exercises := by
  obtain ⟨s₁, hround, -, t, -, hs'⟩ := addTeamRound_eq_some h
  rw [hs']
  exact exercises_addRound hround

/-- `AddChallenge` changes nothing exactly when the answers make it harmless. -/
theorem addChallenge_same_iff (h : ev.addChallenge req calls = some (ev', err)) :
    ev.Same ev' ↔ ev.AddHarmless req calls := by
  unfold addChallenge at h
  split at h
  · next hguard =>
    cases h
    exact iff_of_true (.refl ev) (.inl hguard)
  next hguard =>
  cases hexers : req.getExerciseByTags with
  | error text =>
    simp only [hexers] at h
    cases h
    exact iff_of_true (.refl ev) (.inr (.inl ⟨text, hexers⟩))
  | ok exers =>
  simp only [hexers] at h
  obtain ⟨⟨s₁, err₁⟩, hfirst, hrest⟩ := Option.bind_eq_some_iff.mp h
  obtain ⟨⟨s₂, err₂⟩, hsecond, hfinish⟩ := Option.map_eq_some_iff.mp hrest
  have hharmless : ev.AddHarmless req calls ↔ req.updateErr ≠ none ∧
      ev.LabsRefuse req.newFlag exers calls ∧ ev.TeamsKnow req.challengeTag exers := by
    simp only [AddHarmless, hguard, hexers, reduceCtorEq, exists_false, false_or,
      Except.ok.injEq, exists_eq_left']
  rw [hharmless]
  unfold finishAdd at hfinish
  cases hupdate : req.updateErr with
  | none =>
    -- The list of exercises in the store service grows.
    refine iff_of_false (fun hsame => ?_) fun hboth => hboth.1 rfl
    simp only [hupdate] at hfinish
    have hgrown : ev'.state.exercises =
        s₂.1.state.exercises ++ ("," ++ ",".intercalate req.challengeTag) := by
      rw [← (Prod.mk.inj hfinish).1]
    have hle₁ := le_untilReturn (fun s => s.1.state.exercises.length)
      (fun s x s' err hround => le_of_eq (by rw [exercises_addRound hround])) hfirst
    have hle₂ := le_untilReturn (fun s => s.1.state.exercises.length)
      (fun s x s' err hround => le_of_eq (by rw [exercises_addTeamRound hround])) hsecond
    have hlength := congrArg String.length (hgrown.symm.trans hsame.exercises)
    rw [String.length_append, String.length_append] at hlength
    have hcomma : (",": String).length = 1 := rfl
    dsimp only at hle₁ hle₂
    omega
  | some text =>
    simp only [hupdate] at hfinish
    obtain rfl : s₂.1 = ev' := (Prod.mk.inj hfinish).1
    obtain ⟨hhub, hkept⟩ := addRounds_iff hfirst
    have hsome : (some text : Option String) ≠ none := Option.some_ne_none text
    simp only [ne_eq, hsome, not_false_eq_true, true_and]
    constructor
    · intro hsame
      -- What the first loop has added is still seen after the second.
      have hsecondLe := addView_of_same hsame
      have hfirstLe :=
        (le_untilReturn addView (fun s x s' err => addView_addTeamRound) hsecond).trans hsecondLe
      have hs₁ := hkept hfirstLe
      have hteamVisits := (addTeamRounds_iff (congrArg TeamEvent.lab hs₁) hsecond).mp hsecondLe
      exact ⟨⟨hhub.mp hfirstLe, hteamVisits⟩,
        (addTeamRounds_same_iff hteamVisits hs₁ hsecond).mp hsame⟩
    · rintro ⟨⟨hhubVisits, hteamVisits⟩, hknow⟩
      exact (addTeamRounds_same_iff hteamVisits (hkept (hhub.mpr hhubVisits)) hsecond).mpr hknow

end TeamEvent

/-! ### Requests with a test of the owner -/

namespace TeamEvent

variable {ev ev' : TeamEvent} {user : User} {err : Option String}

/-- `SuspendEvent` refuses a foreign event. -/
theorem suspendEvent_foreign (hnp : user.npUser = true) (hforeign : ev.createdBy ≠ user.username)
    {suspend : Bool} {ans : Nat → LabAnswers} {setStatus : Option String}
    (h : ev.suspendEvent user suspend ans setStatus = some (ev', err)) : ev' = ev := by
  have howner : (!user.npUser || user.username == ev.createdBy) = false := by
    simp [hnp, Ne.symm hforeign]
  rw [suspendEvent, howner] at h
  cases h
  rfl

/-- `SolveChallenge` and `UpdateTeamPassword` have the same test. -/
theorem noFlagMngtPriv (hnp : user.npUser = true) (hforeign : ev.createdBy ≠ user.username) :
    (user.npUser && ev.createdBy != user.username) = true := by
  simp [hnp, hforeign]

/-- `SolveChallenge` refuses a foreign event. -/
theorem solveChallenge_foreign (hnp : user.npUser = true)
    (hforeign : ev.createdBy ≠ user.username) {teamID challengeTag : String} {now : Time}
    {db : Option String}
    (h : ev.solveChallenge user teamID challengeTag now db = some (ev', err)) : ev' = ev := by
  rw [solveChallenge, if_pos (noFlagMngtPriv hnp hforeign)] at h
  cases h
  rfl

/-- `UpdateTeamPassword` refuses a foreign event. -/
theorem updateTeamPassword_foreign (hnp : user.npUser = true)
    (hforeign : ev.createdBy ≠ user.username) {teamID password passwordRepeat : String}
    {c : PassCalls}
    (h : ev.updateTeamPassword user teamID password passwordRepeat c = some (ev', err)) :
    ev' = ev := by
  rw [updateTeamPassword, if_pos (noFlagMngtPriv hnp hforeign)] at h
  cases h
  rfl

/-- A superuser gets past the test of `DeleteTeam`, also as an NPUser. The lab is restarted first,
and a failing restart ends the request. -/
theorem deleteTeam_same_iff (hforeign : ev.createdBy ≠ user.username) {evTag teamId : String}
    {ans : LabAnswers} {db : Option String}
    (h : ev.deleteTeam user evTag teamId ans db = some (ev', err)) :
    ev.Same ev' ↔ (user.superUser = true → ∀ l, ev.state.assigned.get? teamId = some l →
      (ev.lab l).RestartRefused ans) := by
  unfold deleteTeam at h
  cases hsuper : user.superUser with
  | false =>
    have hrefused : (!user.superUser && ev.createdBy != user.username) = true := by
      simp [hsuper, hforeign]
    rw [if_pos hrefused] at h
    cases h
    exact iff_of_true (.refl ev) nofun
  | true =>
    have hallowed : ¬ (!user.superUser && ev.createdBy != user.username) = true := by
      simp [hsuper]
    rw [if_neg hallowed] at h
    rw [imp_iff_right rfl]
    cases hl : ev.state.assigned.get? teamId with
    | none =>
      simp only [hl] at h
      cases h
      exact iff_of_true (.refl ev) nofun
    | some l =>
      simp only [hl] at h
      simp only [Option.some.injEq, forall_eq']
      rw [← FrontendLab.restart_same_iff]
      split at h
      · cases h
      · next hrestart =>
        cases h
        obtain ⟨rfl, -, -⟩ := afterLab_eq_some hrestart
        exact setLab_same_iff
      · next ev₁ hrestart =>
        obtain ⟨rfl, -, hnone⟩ := afterLab_eq_some hrestart
        have hgrown : ev'.deallocatedLabs = ev.deallocatedLabs ++ [l] := by
          split at h
          · cases h
            rfl
          · cases h
            rfl
        -- The lab goes back to the hub, whatever becomes of the team.
        refine iff_of_false (fun hsame => ?_) fun hsame => ?_
        · have hlength := congrArg List.length (hgrown.symm.trans hsame.deallocatedLabs)
          simp at hlength
        · rcases (ev.lab l).refreshDHCP_cases ans with ⟨-, err, hrefresh⟩ | ⟨hnot, -⟩
          · have hfailed : ((ev.lab l).restart ans).2 = some err := by
              rw [FrontendLab.restart, hrefresh]
              rfl
            rw [hnone.mp rfl] at hfailed
            cases hfailed
          · exact hnot (FrontendLab.restart_same_iff.mp hsame)

end TeamEvent

/-! ### The daemon -/

/-- A request that changes the labs or the teams of an event, with the answers that it gets. -/
inductive OwnerRequest where
  | restartTeamLab (eventTag teamId : String) (ans : LabAnswers)
  | setTeamSuspend (eventTag teamId : String) (suspend : Bool) (ans : LabAnswers)
  | suspendEvent (eventTag : String) (suspend : Bool) (ans : Nat → LabAnswers)
      (setStatus : Option String)
  | resetExercise (eventTag exerciseTag : String) (teams getTeams : List (String × LabAnswers))
  | resetFrontends (eventTag : String) (teams getTeams : List (String × LabAnswers))
  | addChallenge (eventTag : String) (req : AddChallengeRequest) (calls : AddCalls)
  | solveChallenge (eventTag teamID challengeTag : String) (now : Time) (db : Option String)
  | updateTeamPassword (eventTag teamID password passwordRepeat : String) (c : PassCalls)
  | deleteTeam (evTag teamId : String) (ans : LabAnswers) (db : Option String)

namespace OwnerRequest

/-- The tag of the event. -/
def eventTag : OwnerRequest → String
  | .restartTeamLab tag .. | .setTeamSuspend tag .. | .suspendEvent tag ..
  | .resetExercise tag .. | .resetFrontends tag .. | .addChallenge tag ..
  | .solveChallenge tag .. | .updateTeamPassword tag .. | .deleteTeam tag .. => tag

/-- The error of `NewTag`, which four handlers call. -/
def newTagErr : OwnerRequest → Option String
  | .restartTeamLab tag .. | .setTeamSuspend tag .. | .resetExercise tag ..
  | .resetFrontends tag .. => validateTag tag
  | _ => none

/-- The error for an unknown event. `SolveChallenge` calls a method of the nil event. -/
def noEvent : OwnerRequest → Option String
  | .solveChallenge .. => none
  | .updateTeamPassword tag .. | .deleteTeam tag .. => some (noEventErr tag)
  | _ => some unknownEventErr

/-- The request on its event. -/
def run (user : User) (ev : TeamEvent) : OwnerRequest → Handled
  | .restartTeamLab _ teamId ans => ev.restartTeamLab teamId ans
  | .setTeamSuspend _ teamId suspend ans => ev.setTeamSuspend teamId suspend ans
  | .suspendEvent _ suspend ans setStatus => ev.suspendEvent user suspend ans setStatus
  | .resetExercise _ exerciseTag teams getTeams => ev.resetExercise exerciseTag teams getTeams
  | .resetFrontends _ teams getTeams => ev.resetFrontends teams getTeams
  | .addChallenge _ req calls => ev.addChallenge req calls
  | .solveChallenge _ teamID challengeTag now db =>
    ev.solveChallenge user teamID challengeTag now db
  | .updateTeamPassword _ teamID password passwordRepeat c =>
    ev.updateTeamPassword user teamID password passwordRepeat c
  | .deleteTeam evTag teamId ans db => ev.deleteTeam user evTag teamId ans db

/-- What a request that passes, or has no test of the owner, must meet in the event of another
user. -/
def HarmlessTo (user : User) (ev : TeamEvent) : OwnerRequest → Prop
  | .restartTeamLab _ teamId ans => ∀ l, ev.state.assigned.get? teamId = some l →
    (ev.lab l).RestartRefused ans
  | .setTeamSuspend _ teamId suspend ans => ∀ l, ev.state.assigned.get? teamId = some l →
    if suspend then (ev.lab l).SuspendRefused ans else (ev.lab l).ResumeRefused ans
  | .resetExercise _ exerciseTag teams getTeams =>
    UpToFirst (ev.ResetStops exerciseTag) (ev.ResetKeeps (!teams.isEmpty) exerciseTag)
      (if teams.isEmpty then getTeams else teams)
  | .resetFrontends _ teams getTeams =>
    UpToFirst ev.FrontendsStop ev.FrontendsKeep (if teams.isEmpty then getTeams else teams)
  | .addChallenge _ req calls => ev.AddHarmless req calls
  | .deleteTeam _ teamId ans _ => user.superUser = true → ∀ l,
    ev.state.assigned.get? teamId = some l → (ev.lab l).RestartRefused ans
  | .suspendEvent .. | .solveChallenge .. | .updateTeamPassword .. => True

end OwnerRequest

/-- The daemon at a request of a user. -/
def handle (events : GoMap String TeamEvent) (user : User) (req : OwnerRequest) :
    Option (GoMap String TeamEvent × Option String) :=
  match req.newTagErr with
  | some err => some (events, some err)
  | none =>
    match events.get? req.eventTag with
    | none => req.noEvent.map fun err => (events, some err)
    | some ev => (req.run user ev).map fun r => (events.set req.eventTag r.1, r.2)

/-- The events that the user did not create are the same. -/
def OthersUnchanged (events events' : GoMap String TeamEvent) (user : User) : Prop :=
  ∀ tag ev, events.get? tag = some ev → ev.createdBy ≠ user.username →
    ∃ ev', events'.get? tag = some ev' ∧ ev.Same ev'

/-- The request finds nothing to change in the event of another user. -/
def Harmless (events : GoMap String TeamEvent) (user : User) (req : OwnerRequest) : Prop :=
  req.newTagErr = none → ∀ ev, events.get? req.eventTag = some ev →
    ev.createdBy ≠ user.username → req.HarmlessTo user ev

/-- No request changes nothing. -/
theorem OthersUnchanged.refl (events : GoMap String TeamEvent) (user : User) :
    OthersUnchanged events events user :=
  fun _ ev hev _ => ⟨ev, hev, .refl ev⟩

/-- One lemma for each request. -/
theorem OwnerRequest.run_same_iff {user : User} {ev ev' : TeamEvent} {req : OwnerRequest}
    {err : Option String} (hnp : user.npUser = true) (hforeign : ev.createdBy ≠ user.username)
    (h : req.run user ev = some (ev', err)) : ev.Same ev' ↔ req.HarmlessTo user ev := by
  cases req with
  | restartTeamLab tag teamId ans => exact TeamEvent.restartTeamLab_same_iff h
  | setTeamSuspend tag teamId suspend ans => exact TeamEvent.setTeamSuspend_same_iff h
  | suspendEvent tag suspend ans setStatus =>
    obtain rfl := TeamEvent.suspendEvent_foreign hnp hforeign h
    exact iff_true_intro (.refl ev')
  | resetExercise tag exerciseTag teams getTeams => exact TeamEvent.resetExercise_same_iff h
  | resetFrontends tag teams getTeams => exact TeamEvent.resetFrontends_same_iff h
  | addChallenge tag req calls => exact TeamEvent.addChallenge_same_iff h
  | solveChallenge tag teamID challengeTag now db =>
    obtain rfl := TeamEvent.solveChallenge_foreign hnp hforeign h
    exact iff_true_intro (.refl ev')
  | updateTeamPassword tag teamID password passwordRepeat c =>
    obtain rfl := TeamEvent.updateTeamPassword_foreign hnp hforeign h
    exact iff_true_intro (.refl ev')
  | deleteTeam evTag teamId ans db => exact TeamEvent.deleteTeam_same_iff hforeign h

/-- A request of an NPUser leaves the events of other users as they are if and only if it finds
nothing to change in its event, where that is the event of another user. -/
theorem handle_others_iff (events events' : GoMap String TeamEvent) (user : User)
    (req : OwnerRequest) (err : Option String) (hnp : user.npUser = true)
    (h : handle events user req = some (events', err)) :
    OthersUnchanged events events' user ↔ Harmless events user req := by
  -- The tag, the event and the call, in the order in which the handlers look at them.
  unfold handle at h
  cases hnewTag : req.newTagErr with
  | some text =>
    simp only [hnewTag] at h
    cases h
    exact iff_of_true (.refl events user) fun hnone => by
      rw [hnewTag] at hnone
      cases hnone
  | none =>
  simp only [hnewTag] at h
  cases hev : events.get? req.eventTag with
  | none =>
    simp only [hev] at h
    obtain ⟨text, -, heq⟩ := Option.map_eq_some_iff.mp h
    cases heq
    exact iff_of_true (.refl events user) fun _ ev hev' => by
      rw [hev] at hev'
      cases hev'
  | some ev =>
    simp only [hev] at h
    obtain ⟨⟨ev', err'⟩, hrun, heq⟩ := Option.map_eq_some_iff.mp h
    cases heq
    constructor
    · intro hothers _ ev₁ hev₁ hforeign
      obtain rfl : ev = ev₁ := Option.some.inj (hev.symm.trans hev₁)
      obtain ⟨ev₂, hev₂, hsame⟩ := hothers req.eventTag ev hev hforeign
      rw [GoMap.get?_set_self] at hev₂
      cases hev₂
      exact (OwnerRequest.run_same_iff hnp hforeign hrun).mp hsame
    · intro hharmless tag ev₁ hev₁ hforeign
      rw [GoMap.get?_set]
      by_cases htag : tag = req.eventTag
      · obtain rfl : ev = ev₁ := Option.some.inj (hev.symm.trans (htag ▸ hev₁))
        rw [if_pos htag]
        refine ⟨ev', rfl, (OwnerRequest.run_same_iff hnp hforeign hrun).mpr ?_⟩
        exact hharmless hnewTag ev hev hforeign
      -- Other events are where they were, whoever owns them.
      · rw [if_neg htag]
        exact ⟨ev₁, hev₁, .refl ev₁⟩

/-- An event of "admin" with one team, whose lab has one exercise and one frontend. -/
def bootEvent (machine frontend : Exercise.InstanceState) : TeamEvent where
  createdBy := "admin"
  status := Guacamole.running
  state := { newEventState [] [] [] [] with
    env := fun _ =>
      { exercises := [{ tag := "sql", containerOpts := [{ challenges := [] }], vboxOpts := []
                        net := true, machines := [machine] }]
        disabledExercises := []
        distinct := List.nodup_singleton _ }
    assigned := GoMap.set ∅ "ab" 0
    teams := GoMap.set ∅ "ab" (Store.newTeamExercises [] ∅ ∅) }
  parts := fun _ =>
    { dhcpServer := { server := some ⟨true, some true⟩, left := [] }
      dnsServer := { server := some ⟨true, some true⟩, left := [] }
      frontends := GoMap.set ∅ 3389
        { vm := ⟨true, true⟩, conf := ⟨"kali", 2048⟩, state := frontend, copies := 1 }
      made := 3 }
  passwords := ∅
  deallocatedLabs := []

/-- An NPUser with no event of its own. -/
def npUser : User where
  username := "teacher"
  name := ""
  surname := ""
  email := ""
  hashedPassword := ""
  superUser := false
  npUser := true
  createdAt := 0

/-- What a lab answers when no call fails but the removal of the file of the DHCP server. -/
def bootAnswers (removeConf : Option String) : LabAnswers where
  machine := fun _ _ _ => none
  dhcp := ⟨removeConf, none, none, none, none, none, none⟩
  dns := ⟨none, none, none, none, none, none, none⟩
  order := []
  frontend := fun _ => ⟨⟨none, none, none, none, none⟩, none, none, none⟩

/-- The events with that of "admin" alone. -/
def bootEvents (machine frontend : Exercise.InstanceState) : GoMap String TeamEvent :=
  GoMap.set ∅ "boot" (bootEvent machine frontend)

/-- A restart ends at the file of the DHCP server, and the machines run on. -/
theorem handle_others_restart :
    ∃ events' err, handle (bootEvents .running .running) npUser
        (.restartTeamLab "boot" "ab" (bootAnswers (some "device busy"))) = some (events', err) ∧
      OthersUnchanged (bootEvents .running .running) events' npUser :=
  ⟨_, _, rfl, (handle_others_iff (bootEvents .running .running) _ npUser
    (.restartTeamLab "boot" "ab" (bootAnswers (some "device busy"))) _ rfl rfl).mpr
      fun _ ev hev _ l hl => by
        cases hev
        cases hl
        exact fun _ => Option.some_ne_none _⟩

/-- An NPUser suspends a lab in an event of "admin". -/
theorem handle_not_others :
    ¬ ∀ (events events' : GoMap String TeamEvent) (user : User) (req : OwnerRequest)
        (err : Option String), user.npUser = true →
      handle events user req = some (events', err) → OthersUnchanged events events' user := by
  intro h
  have hothers := h (bootEvents .running .running) _ npUser
    (.setTeamSuspend "boot" "ab" true (bootAnswers none)) none rfl rfl
  obtain ⟨ev', hev', hsame⟩ := hothers "boot" (bootEvent .running .running) rfl (by decide)
  cases hev'
  have hmachines := congrArg (fun env => env.exercises.map Exercise.LabExercise.machines)
    (hsame.lab 0).env
  revert hmachines
  decide

end Haaukins.Daemon
