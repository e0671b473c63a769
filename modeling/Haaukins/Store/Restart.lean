import Haaukins.Store.ScoreTable

/-!
# `Haaukins.Store.Restart`: a team that is built again (`store/team.go`)

A `StoredTeam` is a team together with the solved challenges that the store service has for it.
A successful `VerifyFlag` reports the tag and the text of the time, and the service appends
them. `restart` is what a new process does: `NewTeam` with the answer of the service, and
`AddChallenge` for each challenge, whose flag may be a new one.

* `StoredTeam.Recorded` is the invariant. The challenge table has a score sheet that agrees
  with the service up to the fraction of the second, for each tag that was added.
* `StoredTeam.Recorded.solved` reads `IsTeamSolvedChallenge` off the list of the service
  alone. A restarted team has the same list, so it gives the same answers.
-/

set_option autoImplicit false

namespace Haaukins.Store

/-- `UpdateTeamSolvedChallenges`: what the service has after it took the report. -/
def updateTeamSolvedChallenges (db : List (String × String)) (tag : String)
    (completedAt : Time) : List (String × String) :=
  db ++ [(tag, completedAt.format)]

/-- A team, and the solved challenges that the store service has for it. -/
structure StoredTeam where
  team : TeamChallenges
  db : List (String × String)

/-- A team after `NewTeam` with the list of the service, and the calls on it. -/
def storedTeam : Machine StoredTeam ScoreAction where
  init s := s.team = .new s.db
  step s
    | .addChallenge c => some { s with team := (s.team.addChallenge c).1 }
    | .verifyFlag tag f now =>
      match s.team.verifyFlag tag f now none with
      | (team, none) => some { team := team, db := updateTeamSolvedChallenges s.db tag now }
      | (team, some _) => some { team := team, db := s.db }

/-- The challenges of the `AddChallenge` calls. -/
def added (as : List ScoreAction) : List Challenge :=
  as.filterMap fun
    | .addChallenge c => some c
    | .verifyFlag _ _ _ => none

/-- The team that a new process builds from the list of the service. -/
def restart (db : List (String × String)) (cs : List Challenge) : TeamChallenges :=
  cs.foldl (fun t c => (t.addChallenge c).1) (.new db)

/-- Different challenges have different tags and different flag values. -/
def Distinct (cs : List Challenge) : Prop :=
  ∀ c ∈ cs, ∀ c' ∈ cs, c.tag = c'.tag ∨ c.value = c'.value → c = c'

instance (cs : List Challenge) : Decidable (Distinct cs) := by
  unfold Distinct
  infer_instance

/-- The first of different challenges. -/
theorem Distinct.of_append {cs cs' : List Challenge} (h : Distinct (cs ++ cs')) :
    Distinct cs :=
  fun c hc c' hc' => h c (List.mem_append_left _ hc) c' (List.mem_append_left _ hc')

/-- A challenge is its tag and its flag. -/
theorem mk_eq_iff {tag f : String} {c : Challenge} :
    ⟨tag, f⟩ = c ↔ tag = c.tag ∧ f = c.value := by
  cases c
  simp

/-- The completion time that `AddChallenge` finds for a tag in the list of the service. -/
def dbTime (db : List (String × String)) (tag : String) : Option Time :=
  ((TeamChallenges.new db).solvedOne tag).bind TeamChallenge.completedAt

/-- The last report of a tag counts, and it is read back without the fraction. -/
theorem dbTime_update (db : List (String × String)) (tag tag' : String) (now : Time) :
    dbTime (updateTeamSolvedChallenges db tag now) tag' =
      if tag = tag' then some now.truncate else dbTime db tag' := by
  simp only [dbTime, updateTeamSolvedChallenges, TeamChallenges.solvedOne, TeamChallenges.new,
    parseSolvedChallenges, List.map_append, List.map_cons, List.map_nil, List.foldl_append,
    List.foldl_cons, List.foldl_nil, Time.parse_format, Option.getD_some]
  split <;> rfl

/-- `AddChallenge` and `VerifyFlag` never change `solvedChalsDB`. -/
theorem solvedOne_step {s s' : StoredTeam} {a : ScoreAction}
    (hs : storedTeam.step s a = some s') (tag : String) :
    s'.team.solvedOne tag = s.team.solvedOne tag := by
  have hdb : s'.team.solvedChalsDB = s.team.solvedChalsDB := by
    cases a with
    | addChallenge c =>
      obtain rfl : _ = s' := Option.some.inj hs
      unfold TeamChallenges.addChallenge
      split <;> rfl
    | verifyFlag tag f now =>
      have hteam : s'.team = (s.team.verifyFlag tag f now none).1 := by
        simp only [storedTeam] at hs
        split at hs <;> next hverify => cases hs; rw [hverify]
      rw [hteam, TeamChallenges.verifyFlag_fst]
      split <;> rfl
  rw [TeamChallenges.solvedOne, hdb]
  rfl

namespace StoredTeam

/-- The sheet has an entry for each added challenge, and its completion times are those of the
service. -/
structure Recorded (s : StoredTeam) (sheet : ScoreSheet String String Time)
    (cs : List Challenge) : Prop where
  simulates : ScoreTable.Simulates { team := s.team, sheet := sheet }
  mem_iff : ∀ tag f, ⟨tag, f⟩ ∈ cs ↔ ∃ ct, sheet tag = some (f, ct)
  times : ∀ tag f ct, sheet tag = some (f, ct) →
    ct.map Time.truncate = (dbTime s.db tag).map Time.truncate
  -- Only tags with an entry are reported, so for the others the service still has what it
  -- had when the team was built.
  fresh : ∀ tag, sheet tag = none →
    (s.team.solvedOne tag).bind TeamChallenge.completedAt = dbTime s.db tag

variable {s s' : StoredTeam} {sheet : ScoreSheet String String Time} {cs : List Challenge}

/-- Nothing is recorded at first. -/
theorem recorded_init (hs : storedTeam.init s) : s.Recorded .empty [] where
  simulates := ScoreTable.simulates_init ⟨s.db, by rw [show s.team = .new s.db from hs]⟩
  mem_iff tag f := by simp [ScoreSheet.empty]
  times tag f ct h := by simp [ScoreSheet.empty] at h
  fresh tag _ := by
    rw [show s.team = .new s.db from hs]
    rfl

/-- A new challenge is open, or solved as the database says. -/
theorem Recorded.addChallenge (h : s.Recorded sheet cs) {c : Challenge}
    (hdistinct : Distinct (cs ++ [c]))
    (hs : storedTeam.step s (.addChallenge c) = some s') :
    s'.Recorded (sheet.add c.tag c.value (dbTime s.db c.tag)) (cs ++ [c]) := by
  have hkept := solvedOne_step hs
  obtain rfl : _ = s' := Option.some.inj hs
  have hunique : ∀ c' ∈ cs, c'.tag = c.tag ∨ c'.value = c.value → c' = c := fun c' hc' =>
    hdistinct c' (List.mem_append_left _ hc') c (by simp)
  -- An entry at the new flag would belong to a challenge that was added, and that is `c`.
  have hvalue : ScoreTable.NewValue { team := s.team, sheet := sheet } (.addChallenge c) := by
    intro hnew hmem
    obtain ⟨⟨tag, ct⟩, hold⟩ := GoMap.mem_iff_get?.mp hmem
    have hmem' := (h.mem_iff tag c.value).mpr ⟨ct, (h.simulates c.value tag ct).mp hold⟩
    have htag := congrArg Challenge.tag (hunique _ hmem' (.inr rfl))
    exact hnew _ (GoMap.mem_values.mpr ⟨c.value, hold⟩) htag
  have hsimulates := h.simulates.addChallenge hvalue rfl
  by_cases hsheet : sheet c.tag = none
  · -- The new entry starts with the time of the service.
    rw [h.fresh c.tag hsheet] at hsimulates
    have hentry := ScoreSheet.add_of_none (f := c.value) hsheet (dbTime s.db c.tag)
    refine ⟨hsimulates, fun tag f => ?_, fun tag f ct => ?_, fun tag => ?_⟩
    · rw [hentry, List.mem_append, List.mem_singleton, h.mem_iff]
      split
      · next heq =>
        subst heq
        rw [mk_eq_iff, hsheet]
        simp [eq_comm]
      · next hne => simp [mk_eq_iff, hne]
    · rw [hentry]
      split
      · next heq =>
        rintro heq'
        obtain ⟨-, rfl⟩ := Prod.mk.inj (Option.some.inj heq')
        rw [heq]
      · exact h.times tag f ct
    · rw [hentry]
      split
      · simp
      · intro hnone
        rw [hkept]
        exact h.fresh tag hnone
  · -- The tag is there already, with the same flag, since the challenges are distinct.
    obtain ⟨⟨f', ct'⟩, hold⟩ := Option.ne_none_iff_exists'.mp hsheet
    have hc : c ∈ cs := by
      have hmem := (h.mem_iff c.tag f').mpr ⟨ct', hold⟩
      rwa [hunique _ hmem (.inl rfl)] at hmem
    rw [ScoreSheet.add_of_some hsheet] at hsimulates ⊢
    refine ⟨hsimulates, fun tag f => ?_, h.times, fun tag hnone => ?_⟩
    · rw [← h.mem_iff, List.mem_append, List.mem_singleton, or_iff_left_of_imp]
      rintro rfl
      exact hc
    · rw [hkept]
      exact h.fresh tag hnone

/-- A right flag is written to both. -/
theorem Recorded.verifyFlag (h : s.Recorded sheet cs) {tag f : String} {now : Time}
    (hs : storedTeam.step s (.verifyFlag tag f now) = some s') :
    s'.Recorded (sheet.verify tag f now) cs := by
  have hkept := solvedOne_step hs
  have hverified : scoreTable.step ⟨s.team, sheet⟩ (.verifyFlag tag f now) =
      some ⟨(s.team.verifyFlag tag f now none).1, sheet.verify tag f now⟩ := rfl
  have hsimulates := h.simulates.verifyFlag hverified
  by_cases hopen : s.team.challenges.get? f = some ⟨tag, none⟩
  · -- The flag is accepted, and the team reports the tag with the time.
    have hs' : s' = { team := (s.team.verifyFlag tag f now none).1
                      db := updateTeamSolvedChallenges s.db tag now } := by
      simp only [storedTeam] at hs
      split at hs
      · next hverify => cases hs; rw [hverify]
      · next hverify =>
        have hok : (s.team.verifyFlag tag f now none).2 = none :=
          TeamChallenges.verifyFlag_eq_none_iff.mpr hopen
        rw [hverify] at hok
        cases hok
    subst hs'
    have hsheet := (h.simulates f tag none).mp hopen
    have hentry := ScoreSheet.verify_of_open hsheet now
    refine ⟨hsimulates, fun tag' f' => ?_, fun tag' f' ct => ?_, fun tag' => ?_⟩
    · rw [h.mem_iff, hentry]
      split
      · next heq =>
        subst heq
        have hold : sheet tag' = some (f, none) := hsheet
        simp [hold]
      · rfl
    · rw [hentry, dbTime_update]
      split
      · next heq =>
        -- The time on the sheet and the one of the service differ in the fraction only.
        intro hnow
        obtain ⟨-, rfl⟩ := Prod.mk.inj (Option.some.inj hnow)
        rw [if_pos heq.symm]
        simp
      · next hne =>
        rw [if_neg (Ne.symm hne)]
        exact h.times tag' f' ct
    · rw [hentry, dbTime_update]
      split
      · simp
      · next hne =>
        intro hnone
        rw [hkept, if_neg (Ne.symm hne)]
        exact h.fresh tag' hnone
  · -- The flag is refused, and nothing is reported.
    have hs' : s' = { team := (s.team.verifyFlag tag f now none).1, db := s.db } := by
      simp only [storedTeam] at hs
      split at hs
      · next hverify =>
        have hok := congrArg Prod.snd hverify
        exact absurd (TeamChallenges.verifyFlag_eq_none_iff.mp hok) hopen
      · next hverify => cases hs; rw [hverify]
    subst hs'
    have hsheet : sheet tag ≠ some (f, none) :=
      (not_congr (h.simulates f tag none)).mp hopen
    rw [ScoreSheet.verify_of_not_open hsheet] at hsimulates ⊢
    refine ⟨hsimulates, h.mem_iff, h.times, fun tag' hnone => ?_⟩
    rw [hkept]
    exact h.fresh tag' hnone

/-- Each step is one on the score sheet. -/
theorem Recorded.step (h : s.Recorded sheet cs) {a : ScoreAction}
    (hdistinct : Distinct (cs ++ added [a])) (hs : storedTeam.step s a = some s') :
    ∃ sheet', s'.Recorded sheet' (cs ++ added [a]) := by
  cases a with
  | addChallenge c => exact ⟨_, h.addChallenge hdistinct hs⟩
  | verifyFlag tag f now =>
    rw [show added [.verifyFlag tag f now] = [] from rfl, List.append_nil]
    exact ⟨_, h.verifyFlag hs⟩

/-- What a run adds, step by step. -/
theorem added_cons (a : ScoreAction) (as : List ScoreAction) :
    added (a :: as) = added [a] ++ added as := by
  rw [added, added, added, ← List.filterMap_append]
  rfl

/-- The invariant along a run of any length. -/
theorem Recorded.run {as : List ScoreAction} :
    ∀ {s t : StoredTeam} {sheet : ScoreSheet String String Time} {cs : List Challenge},
      s.Recorded sheet cs → Distinct (cs ++ added as) → storedTeam.run s as = some t →
        ∃ sheet', t.Recorded sheet' (cs ++ added as) := by
  induction as with
  | nil =>
    intro s t sheet cs h _ hrun
    cases hrun
    exact ⟨sheet, by simpa [added] using h⟩
  | cons a as ih =>
    intro s t sheet cs h hdistinct hrun
    obtain ⟨u, hu, hrun⟩ := Option.bind_eq_some_iff.mp hrun
    rw [added_cons, ← List.append_assoc] at hdistinct ⊢
    obtain ⟨sheet', h'⟩ := h.step hdistinct.of_append hu
    exact ih h' hdistinct hrun

/-- For an added tag, `IsTeamSolvedChallenge` gives the time of the service. -/
theorem Recorded.solved (h : s.Recorded sheet cs) (tag : String) :
    (s.team.isTeamSolvedChallenge tag).map Time.truncate =
      if ∃ c ∈ cs, c.tag = tag then (dbTime s.db tag).map Time.truncate else none := by
  rw [show s.team.isTeamSolvedChallenge tag = sheet.completed tag from
    h.simulates.implements.solved tag, ScoreSheet.completed]
  cases hsheet : sheet tag with
  | none =>
    -- Without an entry the tag was not added.
    rw [if_neg]
    · rfl
    rintro ⟨⟨tag', f⟩, hc, rfl⟩
    obtain ⟨ct, hentry⟩ := (h.mem_iff tag' f).mp hc
    cases hsheet.symm.trans hentry
  | some entry =>
    obtain ⟨f, ct⟩ := entry
    rw [if_pos ⟨⟨tag, f⟩, (h.mem_iff tag f).mpr ⟨ct, hsheet⟩, rfl⟩]
    exact h.times tag f ct hsheet

end StoredTeam

/-- A restart is a run of `AddChallenge` calls on the new team. -/
theorem run_restart (db : List (String × String)) (cs : List Challenge) :
    storedTeam.run { team := .new db, db := db } (cs.map .addChallenge) =
      some { team := restart db cs, db := db } := by
  have hfold : ∀ t : TeamChallenges,
      storedTeam.run { team := t, db := db } (cs.map .addChallenge) =
        some { team := cs.foldl (fun t c => (t.addChallenge c).1) t, db := db } := by
    induction cs with
    | nil => exact fun t => rfl
    | cons c cs ih => exact fun t => ih (t.addChallenge c).1
  exact hfold _

/-- A run of additions adds all of them. -/
theorem added_map_addChallenge (cs : List Challenge) : added (cs.map .addChallenge) = cs := by
  induction cs with
  | nil => rfl
  | cons c cs ih => rw [List.map_cons, StoredTeam.added_cons, ih]; rfl

/-- A restarted team with the same tags has the same solved challenges, up to the fraction of
the second. -/
theorem restart_isTeamSolvedChallenge {s t : StoredTeam} {as : List ScoreAction}
    {cs : List Challenge} (hs : storedTeam.init s) (hrun : storedTeam.run s as = some t)
    (hdistinct : Distinct (added as)) (hdistinct' : Distinct cs)
    (htags : ∀ tag, (∃ c ∈ cs, c.tag = tag) ↔ ∃ c ∈ added as, c.tag = tag) (tag : String) :
    ((restart t.db cs).isTeamSolvedChallenge tag).map Time.truncate =
      (t.team.isTeamSolvedChallenge tag).map Time.truncate := by
  obtain ⟨sheet, hbefore⟩ := (StoredTeam.recorded_init hs).run (by simpa using hdistinct) hrun
  obtain ⟨sheet', hafter⟩ := (StoredTeam.recorded_init (s := { team := .new t.db, db := t.db })
    rfl).run (by simpa [added_map_addChallenge] using hdistinct') (run_restart t.db cs)
  rw [List.nil_append] at hbefore
  rw [List.nil_append, added_map_addChallenge] at hafter
  calc ((restart t.db cs).isTeamSolvedChallenge tag).map Time.truncate
      = if ∃ c ∈ cs, c.tag = tag then (dbTime t.db tag).map Time.truncate else none :=
        hafter.solved tag
    _ = if ∃ c ∈ added as, c.tag = tag then (dbTime t.db tag).map Time.truncate else none := by
        simp only [htags tag]
    _ = (t.team.isTeamSolvedChallenge tag).map Time.truncate := (hbefore.solved tag).symm

end Haaukins.Store
