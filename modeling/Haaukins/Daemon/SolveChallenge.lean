import Haaukins.Daemon.EventEffects

/-!
# `Haaukins.Daemon.SolveChallenge`: a challenge that the organiser solves (`daemon/team.go`)

`SolveChallenge` looks for the flag in the lab of the team, and verifies it with the team. A
player submits a flag to `handleFlagVerify`, which verifies it with the same table.

* `SolvesReported` says that the request solves what it reports, and that it succeeds when the
  submission of the player would.
* When there is no team, the loop over the teams ends without an error. When the lab does not have
  the challenge, the request verifies the challenge without a tag and a flag. `solvesReported_iff`
  says what the team and its lab must have so that neither of this is reported as solved.

The store service has no error.
-/

set_option autoImplicit false

namespace Haaukins.Daemon

open Store (Challenge TeamChallenge TeamChallenges TeamExercises User VerifyErr)

/-! ### The table of the team -/

section

variable {t : TeamChallenges} {tag f : String} {now : Time}

/-- `VerifyFlag` completes the open challenge of the flag, or fails and changes nothing. -/
theorem verifyFlag_cases (t : TeamChallenges) (tag f : String) (now : Time) :
    (t.challenges.get? f = some ⟨tag, none⟩ ∧ t.verifyFlag tag f now none =
      ({ t with challenges := t.challenges.set f ⟨tag, some now⟩ }, none)) ∨
    (t.challenges.get? f ≠ some ⟨tag, none⟩ ∧
      ∃ err, t.verifyFlag tag f now none = (t, some (.failed err))) := by
  unfold TeamChallenges.verifyFlag
  cases hget : t.challenges.get? f with
  | none => exact .inr ⟨nofun, _, rfl⟩
  | some chal =>
    obtain ⟨tag', completedAt⟩ := chal
    by_cases htag : tag' = tag
    · subst htag
      cases completedAt with
      | none => exact .inl ⟨rfl, by simp⟩
      | some time => exact .inr ⟨by simp, _, by simp; rfl⟩
    · exact .inr ⟨by simp [htag], _, by simp [htag]; rfl⟩

/-- A challenge is solved when one of its flags is. -/
theorem isTeamSolvedChallenge_ne_none_iff :
    t.isTeamSolvedChallenge tag ≠ none ↔
      ∃ f time, t.challenges.get? f = some ⟨tag, some time⟩ := by
  unfold TeamChallenges.isTeamSolvedChallenge
  rw [ne_eq, List.findSome?_eq_none_iff]
  constructor
  · intro h
    simp only [not_forall] at h
    obtain ⟨⟨tag', completedAt⟩, hchal, hsolved⟩ := h
    obtain ⟨f, hf⟩ := GoMap.mem_values.mp hchal
    by_cases htag : tag' = tag
    · rw [if_pos htag] at hsolved
      obtain ⟨time, rfl⟩ := Option.ne_none_iff_exists'.mp hsolved
      exact ⟨f, time, htag ▸ hf⟩
    · rw [if_neg htag] at hsolved
      exact absurd rfl hsolved
  · rintro ⟨f, time, hf⟩ hnone
    have hentry := hnone ⟨tag, some time⟩ (GoMap.mem_values.mpr ⟨f, hf⟩)
    simp at hentry

end

/-- `handleFlagVerify` for the team, with its error. -/
def submitFlag (t : TeamExercises) (tag flag : String) (now : Time) : Option VerifyErr :=
  (t.challenges.verifyFlag tag (GoStrings.trimSpace flag) now none).2

/-- The trimmed flag is that of the challenge, which is open. -/
def Opens (t : TeamExercises) (tag flag : String) : Prop :=
  t.challenges.challenges.get? (GoStrings.trimSpace flag) = some ⟨tag, none⟩

/-- A flag is accepted if and only if it opens the challenge. -/
theorem submitFlag_iff {t : TeamExercises} {tag flag : String} {now : Time} :
    submitFlag t tag flag now = none ↔ Opens t tag flag :=
  TeamChallenges.verifyFlag_eq_none_iff

/-! ### The request -/

/-- The challenge that `SolveChallenge` takes from the lab. It is the zero value when the lab has
none with the tag. -/
def EventState.labChallenge (s : EventState) (l : Nat) (challengeTag : String) : Challenge :=
  ((s.env l).challenges.find? fun ch => ch.tag = challengeTag).getD ⟨"", ""⟩

/-- The team has the challenge under the flag. -/
def TeamEvent.HasChallenge (ev : TeamEvent) (tid f : String) (chal : TeamChallenge) : Prop :=
  ∃ t, ev.state.teams.get? tid = some t ∧ t.challenges.challenges.get? f = some chal

/-- `SolveChallenge` took the event from `ev` to `ev'` and returned `err`. It solves what it
reports. -/
structure SolvesReported (ev : TeamEvent) (teamID challengeTag : String) (now : Time)
    (ev' : TeamEvent) (err : Option String) : Prop where
  solved : err = none →
    (∃ t, ev.state.teams.get? teamID = some t ∧
      t.challenges.isTeamSolvedChallenge challengeTag = none) ∧
    ∃ t, ev'.state.teams.get? teamID = some t ∧
      t.challenges.isTeamSolvedChallenge challengeTag ≠ none
  others : ∀ tid f chal, ¬ (tid = teamID ∧ chal.tag = challengeTag) →
    (ev'.HasChallenge tid f chal ↔ ev.HasChallenge tid f chal)
  succeeds : err = none ↔
    ∃ t, ev.state.teams.get? teamID = some t ∧ teamID ∈ ev.state.assigned ∧
      ∃ f, t.challenges.Registered challengeTag f ∧ submitFlag t challengeTag f now = none

/-- The team and the challenge of its lab agree about what is open. -/
structure FlagsAgree (t : TeamExercises) (challenge : Challenge) (challengeTag : String) :
    Prop where
  found : Opens t challenge.tag challenge.value → challenge.tag = challengeTag
  once : Opens t challenge.tag challenge.value →
    t.challenges.isTeamSolvedChallenge challengeTag = none
  registered : ∀ f, t.challenges.Registered challengeTag f → Opens t challengeTag f →
    Opens t challenge.tag challenge.value

variable {ev : TeamEvent} {user : User} {teamID challengeTag : String} {now : Time}

/-- The request for a team that is there. -/
theorem solveChallenge_team (hauth : ¬ (user.npUser && ev.createdBy != user.username))
    {l : Nat} {t : TeamExercises} (hl : ev.state.assigned.get? teamID = some l)
    (ht : ev.state.teams.get? teamID = some t) :
    let challenge := ev.state.labChallenge l challengeTag
    let flag := GoStrings.trimSpace challenge.value
    let solved : TeamExercises := { t with challenges := { t.challenges with
      challenges := t.challenges.challenges.set flag ⟨challenge.tag, some now⟩ } }
    (Opens t challenge.tag challenge.value ∧
      ev.solveChallenge user teamID challengeTag now none = some ({ ev with state := { ev.state with
        teams := ev.state.teams.set teamID solved } }, none)) ∨
    (¬ Opens t challenge.tag challenge.value ∧
      ∃ err, ev.solveChallenge user teamID challengeTag now none = some (ev, some err)) := by
  intro challenge flag solved
  have hchallenge : ((ev.state.env l).challenges.find? fun ch => ch.tag = challengeTag).getD
      ⟨"", ""⟩ = challenge := rfl
  simp only [TeamEvent.solveChallenge, if_neg hauth, hl, ht, hchallenge]
  rcases verifyFlag_cases t.challenges challenge.tag flag now with ⟨hopen, hv⟩ | ⟨hnot, err, hv⟩
  · exact .inl ⟨hopen, by rw [hv]⟩
  · exact .inr ⟨hnot, err, by rw [hv]⟩

/-- A request that changes nothing and has an error is right when no flag could be submitted. -/
theorem solvesReported_same_iff {err : String} :
    SolvesReported ev teamID challengeTag now ev (some err) ↔
      ¬ ∃ t, ev.state.teams.get? teamID = some t ∧ teamID ∈ ev.state.assigned ∧
        ∃ f, t.challenges.Registered challengeTag f ∧
          submitFlag t challengeTag f now = none := by
  constructor
  · intro h hsubmit
    exact Option.some_ne_none err (h.succeeds.mpr hsubmit)
  · intro hnot
    exact ⟨nofun, fun _ _ _ _ => Iff.rfl, iff_of_false nofun hnot⟩

/-- A flag that is taken is reported as solved if and only if it is the flag of the challenge. -/
theorem solvesReported_opens_iff {l : Nat} {t : TeamExercises} {challenge : Challenge}
    (hl : ev.state.assigned.get? teamID = some l) (ht : ev.state.teams.get? teamID = some t)
    (hopen : Opens t challenge.tag challenge.value) :
    SolvesReported ev teamID challengeTag now { ev with state := { ev.state with
      teams := ev.state.teams.set teamID { t with challenges := { t.challenges with
        challenges := t.challenges.challenges.set (GoStrings.trimSpace challenge.value)
          ⟨challenge.tag, some now⟩ } } } } none ↔
      FlagsAgree t challenge challengeTag := by
  set flag := GoStrings.trimSpace challenge.value with hflag
  constructor
  · intro h
    obtain ⟨⟨t', ht', hbefore⟩, ⟨t'', ht'', hafter⟩⟩ := h.solved rfl
    obtain rfl := Option.some.inj (ht'.symm.trans ht)
    rw [GoMap.get?_set_self] at ht''
    obtain rfl := Option.some.inj ht''
    refine ⟨fun _ => ?_, fun _ => hbefore, fun _ _ _ => hopen⟩
    -- The flag that is solved now is the one that was set.
    obtain ⟨f, time, hf⟩ := isTeamSolvedChallenge_ne_none_iff.mp hafter
    rw [GoMap.get?_set] at hf
    split at hf
    · exact (TeamChallenge.mk.inj (Option.some.inj hf)).1
    · exact absurd hbefore (isTeamSolvedChallenge_ne_none_iff.mpr ⟨f, time, hf⟩)
  · intro h
    have htag := h.found hopen
    have hbefore := h.once hopen
    refine ⟨fun _ => ⟨⟨t, ht, hbefore⟩, _, GoMap.get?_set_self _ _ _, ?_⟩, ?_, ?_⟩
    · refine isTeamSolvedChallenge_ne_none_iff.mpr ⟨flag, now, ?_⟩
      rw [← htag]
      exact GoMap.get?_set_self _ _ _
    · intro tid f chal hother
      unfold TeamEvent.HasChallenge
      by_cases htid : tid = teamID
      · subst htid
        have hne : chal.tag ≠ challengeTag := fun heq => hother ⟨rfl, heq⟩
        simp only [GoMap.get?_set_self, ht, Option.some.injEq, exists_eq_left', GoMap.get?_set]
        split
        · next hf =>
          -- The entry of the flag has the other tag before and after.
          subst hf
          rw [hopen]
          refine iff_of_false (fun heq => hne ?_) fun heq => hne ?_
          · rw [← Option.some.inj heq, htag]
          · rw [← Option.some.inj heq, htag]
        · rfl
      · simp only [GoMap.get?_set, if_neg htid]
    · refine iff_of_true rfl ⟨t, ht, GoMap.mem_iff_get?.mpr ⟨l, hl⟩, flag, ⟨none, ?_⟩, ?_⟩
      · rw [← htag]
        exact hopen
      · rw [submitFlag_iff, Opens, hflag, GoStrings.trimSpace_trimSpace, ← htag]
        exact hopen

/-- `SolveChallenge` solves what it reports if and only if the team has no lab, or there is the
team and it agrees with its lab. -/
theorem solvesReported_iff (ev : TeamEvent) (user : User) (teamID challengeTag : String)
    (now : Time) (hauth : ¬ (user.npUser && ev.createdBy != user.username)) :
    (∃ ev' err, ev.solveChallenge user teamID challengeTag now none = some (ev', err) ∧
      SolvesReported ev teamID challengeTag now ev' err) ↔
    ∀ l, ev.state.assigned.get? teamID = some l → ∃ t, ev.state.teams.get? teamID = some t ∧
      FlagsAgree t (ev.state.labChallenge l challengeTag) challengeTag := by
  have hresult : ∀ {ev₁ err₁}, ev.solveChallenge user teamID challengeTag now none =
      some (ev₁, err₁) → ((∃ ev' err,
        ev.solveChallenge user teamID challengeTag now none = some (ev', err) ∧
          SolvesReported ev teamID challengeTag now ev' err) ↔
        SolvesReported ev teamID challengeTag now ev₁ err₁) := by
    intro ev₁ err₁ h
    constructor
    · rintro ⟨ev', err, h', hsolves⟩
      obtain ⟨rfl, rfl⟩ := Prod.mk.inj (Option.some.inj (h.symm.trans h'))
      exact hsolves
    · exact fun hsolves => ⟨ev₁, err₁, h, hsolves⟩
  cases hl : ev.state.assigned.get? teamID with
  | none =>
    have hcall : ev.solveChallenge user teamID challengeTag now none =
        some (ev, some labIsNotAssignedErr) := by
      simp only [TeamEvent.solveChallenge, if_neg hauth, hl]
    rw [hresult hcall, solvesReported_same_iff]
    refine iff_of_true ?_ nofun
    rintro ⟨t, -, hmem, -⟩
    exact GoMap.get?_eq_none.mp hl hmem
  | some l =>
    simp only [Option.some.injEq, forall_eq']
    cases ht : ev.state.teams.get? teamID with
    | none =>
      -- The loop does not find the team, and the request reports its success.
      have hcall : ev.solveChallenge user teamID challengeTag now none = some (ev, none) := by
        simp only [TeamEvent.solveChallenge, if_neg hauth, hl, ht]
      rw [hresult hcall]
      refine iff_of_false (fun h => ?_) fun ⟨t, ht', _⟩ => nomatch ht'
      obtain ⟨⟨t, ht', -⟩, -⟩ := h.solved rfl
      exact nomatch ht.symm.trans ht'
    | some t =>
      simp only [Option.some.injEq, exists_eq_left']
      rcases solveChallenge_team hauth hl ht with ⟨hopen, hcall⟩ | ⟨hnot, err, hcall⟩
      · rw [hresult hcall]
        exact solvesReported_opens_iff hl ht hopen
      · rw [hresult hcall, solvesReported_same_iff]
        constructor
        · intro hsubmit
          refine ⟨fun h => absurd h hnot, fun h => absurd h hnot, fun f hf hopens => ?_⟩
          exact absurd ⟨t, ht, GoMap.mem_iff_get?.mpr ⟨l, hl⟩, f, hf, submitFlag_iff.mpr hopens⟩
            hsubmit
        · rintro h ⟨t', ht', -, f, hf, hsubmit⟩
          obtain rfl := Option.some.inj (ht'.symm.trans ht)
          exact hnot (h.registered f hf (submitFlag_iff.mp hsubmit))

/-- An event with one lab that is recorded for the team `tid`, and the team `ab`. -/
def labOf (tid : String) : TeamEvent where
  createdBy := "admin"
  status := 0
  state := withLabs [0] (GoMap.set ∅ tid 0)
  parts := fun _ =>
    { dhcpServer := { server := none, left := [] }, dnsServer := { server := none, left := [] }
      frontends := ∅, made := 0 }
  passwords := ∅
  deallocatedLabs := []

/-- The organiser of the event. -/
def organiser : User where
  username := "admin"
  name := ""
  surname := ""
  email := ""
  hashedPassword := ""
  superUser := false
  npUser := true
  createdAt := 0

/-- A lab with the challenge `sql-1`, which its team has not solved. -/
def unsolved : TeamEvent :=
  let ee := (Lab.addChallenge (fun _ _ _ => "") .new [sqlExercise]).1
  { labOf "ab" with state := { (labOf "ab").state with
      env := fun _ => ee
      teams := GoMap.set ∅ "ab"
        ((Store.newTeamExercises [] ∅ ∅).addChallenges ee.challenges) } }

/-- The condition for this lab, whose challenge the request solves. -/
theorem solvesReported_labOf :
    ((∃ ev' err, unsolved.solveChallenge organiser "ab" "sql-1" .zero none = some (ev', err) ∧
        SolvesReported unsolved "ab" "sql-1" .zero ev' err) ↔
      ∀ l, unsolved.state.assigned.get? "ab" = some l →
        ∃ t, unsolved.state.teams.get? "ab" = some t ∧
          FlagsAgree t (unsolved.state.labChallenge l "sql-1") "sql-1") ∧
      (unsolved.solveChallenge organiser "ab" "sql-1" .zero none).map Prod.snd = some none :=
  ⟨solvesReported_iff unsolved organiser "ab" "sql-1" .zero (by decide), by decide⟩

/-- The team `cd` was deleted, and its lab is still recorded. -/
theorem not_solvesReported_labOf :
    ¬ ∃ ev' err, (labOf "cd").solveChallenge organiser "cd" "sql" .zero none = some (ev', err) ∧
      SolvesReported (labOf "cd") "cd" "sql" .zero ev' err := by
  rintro ⟨ev', err, hcall, hsolves⟩
  obtain ⟨rfl, rfl⟩ := Prod.mk.inj (Option.some.inj hcall)
  obtain ⟨⟨t, ht, -⟩, -⟩ := hsolves.solved rfl
  exact nomatch ht

end Haaukins.Daemon
