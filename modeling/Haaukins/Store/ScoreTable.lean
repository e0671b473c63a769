import Haaukins.Lib.Machine
import Haaukins.Lib.ScoreSheet
import Haaukins.Store.Challenges

/-!
# `Haaukins.Store.ScoreTable`: the challenge table as a score sheet (`store/team.go`)

The calls of `AddChallenge` and `VerifyFlag` run on the challenge table of a team and on a
`ScoreSheet`, which has one entry for each tag. `ScoreTable.Implements` says that the table
answers like the sheet, and `ScoreTable.Keeps` that a call forgets no registration and no
completion time.

The table is a map with the flag values as its keys. So an `AddChallenge` with the flag value
of another tag overwrites the registration of that tag. Without such a call (`NewValue`) each
entry of the table is an entry of the sheet (`ScoreTable.Simulates`).
-/

set_option autoImplicit false

namespace Haaukins.Store

/-- The challenges of a team, and the score sheet that they stand for. -/
structure ScoreTable where
  team : TeamChallenges
  sheet : ScoreSheet String String Time

/-- A call on the team. The service answers without an error. -/
inductive ScoreAction where
  | addChallenge (c : Challenge)
  | verifyFlag (tag f : String) (now : Time)

/-- A team after `NewTeam`, and the calls on it. A challenge that the service knew as solved
comes with its time. -/
def scoreTable : Machine ScoreTable ScoreAction where
  init s := ∃ solved, s = { team := .new solved, sheet := .empty }
  step s
    | .addChallenge c =>
      some
        { team := (s.team.addChallenge c).1
          sheet := s.sheet.add c.tag c.value
            ((s.team.solvedOne c.tag).bind TeamChallenge.completedAt) }
    | .verifyFlag tag f now =>
      some
        { team := (s.team.verifyFlag tag f now none).1
          sheet := s.sheet.verify tag f now }

namespace ScoreTable

/-- The table answers like the sheet. `VerifyFlag` takes the flag of an entry that is not
completed, and no other, and `IsTeamSolvedChallenge` returns the completion time of the
entry. -/
structure Implements (s : ScoreTable) : Prop where
  accepted : ∀ tag f now, (s.team.verifyFlag tag f now none).2 = none ↔
    s.sheet tag = some (f, none)
  solved : ∀ tag, s.team.isTeamSolvedChallenge tag = s.sheet.completed tag

/-- After the call, the registered tags are still registered with their flags, the completion
times are the same, and a challenge that was added is registered with its value. -/
def Keeps (s : ScoreTable) (a : ScoreAction) : Prop :=
  ∀ s', scoreTable.step s a = some s' →
    (∀ tag f, s.team.Registered tag f → s'.team.Registered tag f) ∧
    (∀ tag time, s.team.isTeamSolvedChallenge tag = some time →
      s'.team.isTeamSolvedChallenge tag = some time) ∧
    ∀ c, a = .addChallenge c → (s.team.addChallenge c).2 = .ok c.value →
      s'.team.Registered c.tag c.value

/-- A challenge with a new tag has a new flag value. -/
def NewValue (s : ScoreTable) : ScoreAction → Prop
  | .addChallenge c =>
    (∀ chal ∈ s.team.challenges.values, chal.tag ≠ c.tag) → c.value ∉ s.team.challenges
  | .verifyFlag _ _ _ => True

instance (s : ScoreTable) : ∀ a, Decidable (s.NewValue a) := by
  intro a
  cases a <;> dsimp only [NewValue] <;> infer_instance

/-- The simulation relation: the table and the sheet have the same entries. -/
def Simulates (s : ScoreTable) : Prop :=
  ∀ f tag ct, s.team.challenges.get? f = some ⟨tag, ct⟩ ↔ s.sheet tag = some (f, ct)

variable {s s' : ScoreTable} {a : ScoreAction}

/-- A flag is registered in the table if and only if it is on the sheet. -/
theorem Simulates.registered_iff (h : s.Simulates) {tag f : String} :
    s.team.Registered tag f ↔ ∃ ct, s.sheet tag = some (f, ct) :=
  exists_congr fun ct => h f tag ct

/-- A tag is in the table if and only if it is on the sheet. -/
theorem Simulates.exists_tag_iff (h : s.Simulates) {tag : String} :
    (∃ chal ∈ s.team.challenges.values, chal.tag = tag) ↔ s.sheet tag ≠ none := by
  rw [TeamChallenges.exists_tag_iff, Option.ne_none_iff_exists']
  constructor
  · rintro ⟨f, ct, hf⟩
    exact ⟨(f, ct), (h f tag ct).mp hf⟩
  · rintro ⟨⟨f, ct⟩, hf⟩
    exact ⟨f, ct, (h f tag ct).mpr hf⟩

/-- `AddChallenge` takes exactly the tags without an entry. -/
theorem Simulates.added_iff (h : s.Simulates) {c : Challenge} :
    (s.team.addChallenge c).2 = .ok c.value ↔ s.sheet c.tag = none := by
  unfold TeamChallenges.addChallenge
  split
  · next hmem => simpa using h.exists_tag_iff.mp hmem
  · next hmem => simpa using (not_congr h.exists_tag_iff).mp hmem

/-- What the sheet says of the challenges the table says. -/
theorem Simulates.implements (h : s.Simulates) : s.Implements where
  accepted tag f now := by rw [TeamChallenges.verifyFlag_eq_none_iff, h f tag none]
  solved tag := by
    have hunique : ∀ f f' ct ct', s.team.challenges.get? f = some ⟨tag, ct⟩ →
        s.team.challenges.get? f' = some ⟨tag, ct'⟩ → ct = ct' := by
      intro f f' ct ct' hf hf'
      have := ((h f tag ct).mp hf).symm.trans ((h f' tag ct').mp hf')
      simp_all
    refine Option.ext fun time => ?_
    rw [TeamChallenges.isTeamSolvedChallenge_eq_some_iff hunique, ScoreSheet.completed,
      Option.bind_eq_some_iff]
    constructor
    · rintro ⟨f, hf⟩
      exact ⟨(f, some time), (h f tag _).mp hf, rfl⟩
    · rintro ⟨⟨f, ct⟩, hentry, rfl⟩
      exact ⟨f, (h f tag _).mpr hentry⟩

/-- The empty table simulates the empty sheet. -/
theorem simulates_init (hs : scoreTable.init s) : s.Simulates := by
  obtain ⟨solved, rfl⟩ := hs
  intro f tag ct
  simp [TeamChallenges.new, ScoreSheet.empty]

/-- A challenge with a new tag and a new value gets an entry in both. -/
theorem Simulates.addChallenge (h : s.Simulates) {c : Challenge}
    (hvalue : s.NewValue (.addChallenge c))
    (hs : scoreTable.step s (.addChallenge c) = some s') : s'.Simulates := by
  obtain rfl : _ = s' := Option.some.inj hs
  by_cases hmem : ∃ chal ∈ s.team.challenges.values, chal.tag = c.tag
  · -- `AddChallenge` refuses the tag, and the sheet has its entry.
    have hsheet := h.exists_tag_iff.mp hmem
    simpa only [TeamChallenges.addChallenge, if_pos hmem, ScoreSheet.add_of_some hsheet] using h
  · have hsheet : s.sheet c.tag = none := not_not.mp ((not_congr h.exists_tag_iff).mp hmem)
    have hnew : s.team.challenges.get? c.value = none :=
      GoMap.get?_eq_none.mpr (hvalue fun chal hchal heq => hmem ⟨chal, hchal, heq⟩)
    intro f tag ct
    simp only [TeamChallenges.addChallenge, if_neg hmem, GoMap.get?_set,
      ScoreSheet.add_of_none hsheet]
    -- The new entry is the only one with its flag, and the only one with its tag.
    by_cases hf : f = c.value <;> by_cases htag : tag = c.tag
    · simp [hf, htag]
    · -- The flag is new, so no other tag has it on the sheet.
      have hold := h c.value tag ct
      rw [hnew] at hold
      simp only [hf, if_true, htag, if_false, ← hold]
      simp [Ne.symm htag]
    · -- The tag is new, so it has no other flag in the table.
      have hold := h f c.tag ct
      rw [hsheet] at hold
      simp only [hf, if_false, htag, if_true, hold]
      simp [Ne.symm hf]
    · simpa only [if_neg hf, if_neg htag] using h f tag ct

/-- The flag of an entry that is not completed completes it in both. -/
theorem Simulates.verifyFlag (h : s.Simulates) {tag f : String} {now : Time}
    (hs : scoreTable.step s (.verifyFlag tag f now) = some s') : s'.Simulates := by
  obtain rfl : _ = s' := Option.some.inj hs
  simp only [Simulates, TeamChallenges.verifyFlag_fst]
  by_cases hopen : s.team.challenges.get? f = some ⟨tag, none⟩
  · have hsheet := (h f tag none).mp hopen
    intro f' tag' ct
    rw [if_pos hopen, ScoreSheet.verify_of_open hsheet, GoMap.get?_set]
    by_cases hf : f' = f <;> by_cases htag : tag' = tag
    · simp [hf, htag]
    · -- The flag belongs to one tag, on the sheet as well.
      have hold := h f tag' ct
      rw [hopen] at hold
      simp only [hf, if_true, htag, if_false, ← hold]
      simp [Ne.symm htag]
    · have hold := h f' tag ct
      rw [hsheet] at hold
      simp only [hf, if_false, htag, if_true, hold]
      simp [Ne.symm hf]
    · simpa only [if_neg hf, if_neg htag] using h f' tag' ct
  · -- The table refuses the flag, and so does the sheet.
    have hsheet := (not_congr (h f tag none)).mp hopen
    intro f' tag' ct
    simpa only [if_neg hopen, ScoreSheet.verify_of_not_open hsheet] using h f' tag' ct

/-- A step of the table is a step of the sheet. -/
theorem Simulates.step (h : s.Simulates) (hvalue : s.NewValue a)
    (hs : scoreTable.step s a = some s') : s'.Simulates := by
  cases a with
  | addChallenge c => exact h.addChallenge hvalue hs
  | verifyFlag tag f now => exact h.verifyFlag hs

/-- Each call extends the sheet. -/
theorem sheet_extends (hs : scoreTable.step s a = some s') : s'.sheet.Extends s.sheet := by
  cases a with
  | addChallenge c =>
    obtain rfl : _ = s' := Option.some.inj hs
    exact ScoreSheet.add_extends _
  | verifyFlag tag f now =>
    obtain rfl : _ = s' := Option.some.inj hs
    exact ScoreSheet.verify_extends _

/-- The table forgets nothing while it simulates the sheet, because the sheet forgets
nothing. -/
theorem Simulates.keeps (h : s.Simulates) (hvalue : s.NewValue a) : s.Keeps a := by
  intro s' hs
  have h' := h.step hvalue hs
  have hextends := sheet_extends hs
  refine ⟨fun tag f => ?_, fun tag time => ?_, ?_⟩
  · rw [h.registered_iff, h'.registered_iff]
    rintro ⟨ct, hentry⟩
    obtain ⟨ct', hentry', -⟩ := hextends tag f ct hentry
    exact ⟨ct', hentry'⟩
  · rw [h.implements.solved, h'.implements.solved]
    exact hextends.completed
  · rintro c rfl hok
    have hsheet := h.added_iff.mp hok
    obtain rfl : _ = s' := Option.some.inj hs
    exact h'.registered_iff.mpr ⟨_, (ScoreSheet.add_of_none hsheet _ _).trans (if_pos rfl)⟩

/-- A colliding flag value takes the entry of another tag away. -/
theorem not_implements_step (h : s.Simulates) (hnot : ¬ s.NewValue a)
    (hs : scoreTable.step s a = some s') : ¬ s'.Implements := by
  cases a with
  | verifyFlag tag f now => exact absurd trivial hnot
  | addChallenge c =>
    simp only [NewValue, not_forall, not_not] at hnot
    obtain ⟨htags, hvalue⟩ := hnot
    -- The new tag has no entry, and its value is the key of another tag.
    obtain ⟨⟨tag, ct⟩, hold⟩ := GoMap.mem_iff_get?.mp hvalue
    have hnone : ¬ ∃ chal ∈ s.team.challenges.values, chal.tag = c.tag :=
      fun ⟨chal, hchal, heq⟩ => htags chal hchal heq
    have hne : tag ≠ c.tag := htags _ (GoMap.mem_values.mpr ⟨c.value, hold⟩)
    have hsheet : s.sheet c.tag = none := not_not.mp ((not_congr h.exists_tag_iff).mp hnone)
    obtain rfl : _ = s' := Option.some.inj hs
    intro himp
    have hentry := (h c.value tag ct).mp hold
    have hkept : s.sheet.add c.tag c.value ((s.team.solvedOne c.tag).bind
        TeamChallenge.completedAt) tag = some (c.value, ct) := by
      rw [ScoreSheet.add_of_none hsheet, if_neg hne, hentry]
    -- The entry of the old tag had this key only, and it is overwritten.
    have hlost : ∀ f ct', (s.team.addChallenge c).1.challenges.get? f ≠ some ⟨tag, ct'⟩ := by
      intro f ct' hf
      simp only [TeamChallenges.addChallenge, if_neg hnone, GoMap.get?_set] at hf
      split at hf
      · cases hf
        exact hne rfl
      · next hf' =>
        have := ((h f tag ct').mp hf).symm.trans hentry
        simp_all
    -- The sheet still has the old tag, and the table refuses its flag or its completion.
    cases ct with
    | none =>
      have haccepted := (himp.accepted tag c.value .zero).mpr hkept
      exact hlost c.value none (TeamChallenges.verifyFlag_eq_none_iff.mp haccepted)
    | some time =>
      have hsolved : (s.team.addChallenge c).1.isTeamSolvedChallenge tag = some time :=
        (himp.solved tag).trans (by simp [ScoreSheet.completed, hkept])
      rw [TeamChallenges.isTeamSolvedChallenge_eq_some_iff
          (fun f _ ct' _ hf => absurd hf (hlost f ct'))] at hsolved
      obtain ⟨f, hf⟩ := hsolved
      exact hlost f (some time) hf

end ScoreTable

/-- Along a run, the table answers like the sheet and forgets nothing if and only if each
challenge that is added has a new flag value. -/
theorem scoreTable_implements_iff (s : ScoreTable) (hs : scoreTable.init s)
    (as : List ScoreAction) :
    (scoreTable.AllStates ScoreTable.Implements s as ∧
        scoreTable.AllSteps ScoreTable.Keeps s as) ↔
      scoreTable.AllSteps ScoreTable.NewValue s as := by
  have hsimulates := ScoreTable.simulates_init hs
  rw [Machine.allStates_iff_allSteps (A := fun _ _ => True) (fun _ h => h.implements)
    (fun _ _ _ h _ hvalue hs => h.step hvalue hs)
    (fun _ _ _ h _ hnot hs => ScoreTable.not_implements_step h hnot hs) hsimulates
    Machine.allSteps_true, and_iff_left_of_imp]
  exact Machine.AllSteps.strengthen (fun _ _ _ h hvalue hs => h.step hvalue hs)
    (fun _ _ h hvalue => h.keeps hvalue) hsimulates

/-- Two challenges with different flags, and the flag of the first one. -/
theorem scoreTable_implements_distinct :
    scoreTable.AllStates ScoreTable.Implements { team := .new [], sheet := .empty }
        [.addChallenge ⟨"sql", "HKN-1"⟩, .addChallenge ⟨"xss", "HKN-2"⟩,
          .verifyFlag "sql" "HKN-1" .zero] ∧
      scoreTable.AllSteps ScoreTable.Keeps { team := .new [], sheet := .empty }
        [.addChallenge ⟨"sql", "HKN-1"⟩, .addChallenge ⟨"xss", "HKN-2"⟩,
          .verifyFlag "sql" "HKN-1" .zero] :=
  (scoreTable_implements_iff _ ⟨[], rfl⟩ _).mpr (by decide)

/-- Two challenges with one static flag: the second one overwrites the first. -/
theorem scoreTable_not_implements :
    ¬ ∀ (s : ScoreTable) (as : List ScoreAction), scoreTable.init s →
      scoreTable.AllStates ScoreTable.Implements s as ∧
        scoreTable.AllSteps ScoreTable.Keeps s as := by
  intro h
  have hall := (h { team := .new [], sheet := .empty }
    [.addChallenge ⟨"sql", "HKN-1"⟩, .addChallenge ⟨"xss", "HKN-1"⟩] ⟨[], rfl⟩).2
  have hkept := ((hall _ rfl).2 _ rfl).1 _ rfl
  obtain ⟨ct, hct⟩ := hkept.1 "sql" "HKN-1" ⟨none, by decide⟩
  have hnow : (((TeamChallenges.new []).addChallenge ⟨"sql", "HKN-1"⟩).1.addChallenge
      ⟨"xss", "HKN-1"⟩).1.challenges.get? "HKN-1" = some ⟨"xss", none⟩ := by decide
  simpa using hnow.symm.trans hct

end Haaukins.Store
