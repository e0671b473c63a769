import Haaukins.Lib.GoMap
import Haaukins.Lib.GoTime

/-!
# `Haaukins.Store.Challenges`: the challenges of a team (`store/team.go`)

A team keeps its challenges in a map whose keys are the flag values, while `AddChallenge` looks
for a duplicate by the tag. `solvedChalsDB` has the challenges that the store service knew as
solved when the team was built.

* The answer of `UpdateTeamSolvedChallenge` is an argument of `verifyFlag`. After its error the
  lock of the team is given back twice, which ends the process.
* `ParseSolvedChallenges` starts here at the decoded JSON list, whose entries are the texts
  `tag` and `completed-at`.
-/

set_option autoImplicit false

namespace Haaukins.Store

/-- `ErrUnknownFlag`. -/
def errUnknownFlag : String := "Unknown flag"

/-- `ErrChallengeDuplicate`. -/
def errChallengeDuplicate : String := "Challenge duplication"

/-- `Challenge`, without the name, which no function reads. -/
structure Challenge where
  tag : String
  value : String
  deriving DecidableEq, Repr

/-- `TeamChallenge`. -/
structure TeamChallenge where
  tag : String
  completedAt : Option Time
  deriving DecidableEq

/-- The fields `challenges` and `solvedChalsDB` of a `Team`. -/
structure TeamChallenges where
  challenges : GoMap String TeamChallenge
  solvedChalsDB : List TeamChallenge

/-- `ParseSolvedChallenges` after `json.Unmarshal`. The error of `time.Parse` is dropped, and
its result is then the zero time. -/
def parseSolvedChallenges (solvedChallengesDB : List (String × String)) : List TeamChallenge :=
  solvedChallengesDB.map fun chal =>
    { tag := chal.1, completedAt := some ((Time.parse chal.2).getD .zero) }

/-- How `VerifyFlag` ends without success. -/
inductive VerifyErr where
  | failed (err : String)
  /-- The second `t.m.Unlock()` after an error of the service ends the process. -/
  | fatal
  deriving DecidableEq, Repr

namespace TeamChallenges

variable (t : TeamChallenges)

/-- The challenges of `NewTeam`. -/
def new (solvedChalsDB : List (String × String)) : TeamChallenges where
  challenges := ∅
  solvedChalsDB := parseSolvedChallenges solvedChalsDB

/-- `solvedOne`, the last entry of `solvedChalsDB` with the tag. -/
def solvedOne (tag : String) : Option TeamChallenge :=
  t.solvedChalsDB.foldl (fun one chal => if chal.tag = tag then some chal else one) none

/-- `AddChallenge`. -/
def addChallenge (c : Challenge) : TeamChallenges × Except String String :=
  if ∃ chal ∈ t.challenges.values, chal.tag = c.tag then (t, .error errChallengeDuplicate)
  else
    let chal : TeamChallenge :=
      { tag := c.tag, completedAt := (t.solvedOne c.tag).bind TeamChallenge.completedAt }
    ({ t with challenges := t.challenges.set c.value chal }, .ok c.value)

/-- `VerifyFlag` at the time `now`, where `db` is the error of `UpdateTeamSolvedChallenge`. -/
def verifyFlag (tag f : String) (now : Time) (db : Option String) :
    TeamChallenges × Option VerifyErr :=
  match t.challenges.get? f with
  | none => (t, some (.failed errUnknownFlag))
  | some chal =>
    if chal.tag ≠ tag then (t, some (.failed errUnknownFlag))
    else if chal.completedAt ≠ none then
      (t, some (.failed ("Flag for challenge [ " ++ chal.tag ++ " ] is already completed!")))
    else
      ({ t with challenges := t.challenges.set f { chal with completedAt := some now } },
        db.map fun _ => .fatal)

/-- `IsTeamSolvedChallenge`. -/
def isTeamSolvedChallenge (tag : String) : Option Time :=
  t.challenges.values.findSome? fun chal => if chal.tag = tag then chal.completedAt else none

/-- The tag is registered with the flag. -/
def Registered (tag f : String) : Prop := ∃ ct, t.challenges.get? f = some ⟨tag, ct⟩

variable {t} {tag f : String}

/-- `AddChallenge` fails exactly for a tag that some flag is registered for. -/
theorem exists_tag_iff :
    (∃ chal ∈ t.challenges.values, chal.tag = tag) ↔ ∃ f, t.Registered tag f := by
  constructor
  · rintro ⟨⟨_, ct⟩, hchal, rfl⟩
    obtain ⟨f, hf⟩ := GoMap.mem_values.mp hchal
    exact ⟨f, ct, hf⟩
  · rintro ⟨f, ct, hf⟩
    exact ⟨⟨tag, ct⟩, GoMap.mem_values.mpr ⟨f, hf⟩, rfl⟩

/-- `VerifyFlag` with an answer of the service succeeds exactly for the flag of a challenge that
is not completed. -/
theorem verifyFlag_eq_none_iff {now : Time} :
    (t.verifyFlag tag f now none).2 = none ↔ t.challenges.get? f = some ⟨tag, none⟩ := by
  unfold verifyFlag
  split
  · next h => simp [h]
  · next chal h =>
    obtain ⟨tag', ct⟩ := chal
    rw [h]
    split
    · next hne => simpa using fun heq => absurd heq hne
    split
    · next hct => simpa using fun _ heq => absurd heq hct
    · next heq hct => simpa using ⟨not_not.mp heq, not_not.mp hct⟩

/-- A successful `VerifyFlag` completes the challenge, any other one changes nothing. -/
theorem verifyFlag_fst {now : Time} {db : Option String} :
    (t.verifyFlag tag f now db).1 =
      if t.challenges.get? f = some ⟨tag, none⟩ then
        { t with challenges := t.challenges.set f ⟨tag, some now⟩ }
      else t := by
  unfold verifyFlag
  split
  · next h => simp [h]
  · next chal h =>
    obtain ⟨tag', ct⟩ := chal
    rw [h]
    split
    · next hne => rw [if_neg (by simpa using fun heq => absurd heq hne)]
    split
    · next hct => rw [if_neg (by simpa using fun _ heq => absurd heq hct)]
    · next heq hct =>
      obtain rfl := not_not.mp heq
      obtain rfl := not_not.mp hct
      rw [if_pos rfl]

/-- When each tag has one flag, the loop of `IsTeamSolvedChallenge` finds the time of the one
challenge with the tag. -/
theorem isTeamSolvedChallenge_eq_some_iff
    (hunique : ∀ f f' ct ct', t.challenges.get? f = some ⟨tag, ct⟩ →
      t.challenges.get? f' = some ⟨tag, ct'⟩ → ct = ct') {time : Time} :
    t.isTeamSolvedChallenge tag = some time ↔
      ∃ f, t.challenges.get? f = some ⟨tag, some time⟩ := by
  unfold isTeamSolvedChallenge
  constructor
  · intro h
    obtain ⟨⟨tag', ct⟩, hchal, htime⟩ := List.exists_of_findSome?_eq_some h
    obtain ⟨f, hf⟩ := GoMap.mem_values.mp hchal
    split at htime
    · next heq => exact ⟨f, by rw [hf]; simp_all⟩
    · cases htime
  · rintro ⟨f, hf⟩
    cases hfound : t.challenges.values.findSome? fun chal =>
        if chal.tag = tag then chal.completedAt else none with
    | none =>
      rw [List.findSome?_eq_none_iff] at hfound
      have := hfound ⟨tag, some time⟩ (GoMap.mem_values.mpr ⟨f, hf⟩)
      simp at this
    | some time' =>
      obtain ⟨⟨tag', ct⟩, hchal, htime⟩ := List.exists_of_findSome?_eq_some hfound
      obtain ⟨f', hf'⟩ := GoMap.mem_values.mp hchal
      split at htime
      · next heq =>
        obtain rfl : tag' = tag := heq
        have := hunique f f' _ _ hf hf'
        simp_all
      · cases htime

end TeamChallenges

end Haaukins.Store
