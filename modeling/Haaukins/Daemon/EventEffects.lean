import Haaukins.Daemon.AbsentObjects
import Haaukins.Guacamole.EventSuspension
import Haaukins.Lab.FrontendLab
import Haaukins.Lib.Rounds
import Haaukins.Store.User

/-!
# `Haaukins.Daemon.EventEffects`: what the requests do to an event (`daemon/team.go`,
`daemon/exercise.go`, `daemon/instance.go`, `daemon/event.go`)

A `TeamEvent` is an event with its labs and teams: the state of `Haaukins.Daemon.Exercise`, the
servers, the frontends and the count of the machines of each lab, the passwords of the teams, the
status and the creator. Each request on teams and labs is a function on it.

`Same` compares an event before and after a request, its maps by their entries. A lab is the same
when it has the same machines in the same states (`FrontendLab.Same`).

* What Docker, VirtualBox and the services answer is part of a request. A request that comes to a
  lab several times gets an answer each time.
* A nil pointer, or a lock that is given back twice, ends the process. The result is `none`.
-/

set_option autoImplicit false

namespace Haaukins.Daemon

open Amigo.TeamLab (unmark)
open Exercise (Failure)
open Lab (FrontendLab LabAnswers LabParts)
open Store (TeamExercises TeamChallenge User VerifyErr)

/-! ### Events -/

/-- `event`, with its labs and its teams. -/
structure TeamEvent where
  createdBy : String
  status : Int
  state : EventState
  /-- The servers, the frontends and the count of the machines of each lab. -/
  parts : Nat → LabParts
  /-- `hashedPassword` of each team. -/
  passwords : GoMap String String
  /-- The labs that were given back to the hub. -/
  deallocatedLabs : List Nat

/-- The answers to the calls of `UpdatePass`. -/
structure PassCalls where
  hPass : String
  getEventID : Option String
  updateTeamPassword : Option String

/-- The answers in the loops of `AddChallenge`: those at each place of `hub.Labs()`, and those for
the lab of each team. -/
structure AddCalls where
  hub : Nat → LabAnswers
  team : String → LabAnswers

/-- An event after a request, with the error of the request. -/
abbrev Handled := Option (TeamEvent × Option String)

namespace TeamEvent

variable (ev : TeamEvent) (user : User)

/-- A lab of the event. -/
def lab (l : Nat) : FrontendLab := { toLabParts := ev.parts l, env := ev.state.env l }

/-- The event with another state of a lab. -/
def setLab (l : Nat) (lab : FrontendLab) : TeamEvent :=
  { ev with
    state := ev.state.setEnv l lab.env
    parts := Function.update ev.parts l lab.toLabParts }

/-- The event after an operation on one of its labs. -/
def afterLab (l : Nat) (r : FrontendLab × Option Failure) : Handled :=
  match r.2 with
  | some .panic => none
  | some (.error err) => some (ev.setLab l r.1, some err)
  | none => some (ev.setLab l r.1, none)

/-- `SetTeamSuspend`. -/
def setTeamSuspend (teamId : String) (suspend : Bool) (ans : LabAnswers) : Handled :=
  match ev.state.assigned.get? teamId with
  | none => some (ev, some unknownTeamErr)
  | some l => ev.afterLab l (if suspend then (ev.lab l).suspend ans else (ev.lab l).resume ans)

/-- `RestartTeamLab`. -/
def restartTeamLab (teamId : String) (ans : LabAnswers) : Handled :=
  match ev.state.assigned.get? teamId with
  | none => some (ev, some noLabByTeamIdErr)
  | some l => ev.afterLab l ((ev.lab l).restart ans)

/-- `SuspendEvent`, where `setStatus` is the error of the store service. -/
def suspendEvent (suspend : Bool) (ans : Nat → LabAnswers) (setStatus : Option String) :
    Handled :=
  if !user.npUser || user.username == ev.createdBy then
    -- The hub returns nil, whatever happens to its labs.
    let ev := ev.state.labs.foldl (fun ev l =>
      ev.setLab l (if suspend then (ev.lab l).suspend (ans l) else (ev.lab l).resume (ans l)).1) ev
    match setStatus with
    | some err => some (ev, some err)
    | none =>
      let status := if suspend then Guacamole.suspended else Guacamole.running
      some ({ ev with status := status }, none)
  else some (ev, none)

/-- The exercise is taken out of the disabled challenges of the team. -/
def unmarkTeam (tid : String) (t : TeamExercises) (exerciseTag : String) : TeamEvent :=
  if exerciseTag ∈ t.disabledChallenges then
    { ev with state := { ev.state with teams := ev.state.teams.set tid (unmark t exerciseTag) } }
  else ev

/-- The body of the loops of `ResetExercise`. The one over `req.Teams` goes on to the disabled
challenges. -/
def resetRound (listed : Bool) (exerciseTag : String) (ev : TeamEvent)
    (x : String × LabAnswers) : Handled :=
  match ev.state.assigned.get? x.1 with
  -- A team without a lab is passed by.
  | none => some (ev, none)
  | some l =>
    match ev.afterLab l ((ev.lab l).resetByTag x.2 exerciseTag) with
    | none => none
    | some (ev, some err) => some (ev, some err)
    | some (ev, none) =>
      if listed then
        -- `t.GetDisabledChalMap()` comes before the test of the error.
        (ev.state.teams.get? x.1).map fun t => (ev.unmarkTeam x.1 t exerciseTag, none)
      else some (ev, none)

/-- `ResetExercise`. An empty `req.Teams` is nil. -/
def resetExercise (exerciseTag : String) (teams getTeams : List (String × LabAnswers)) : Handled :=
  if teams.isEmpty then untilReturn (resetRound false exerciseTag) ev getTeams
  else untilReturn (resetRound true exerciseTag) ev teams

/-- The body of the loops of `ResetFrontends`. -/
def resetFrontendsRound (ev : TeamEvent) (x : String × LabAnswers) : Handled :=
  match ev.state.assigned.get? x.1 with
  | none => some (ev, none)
  | some l => ev.afterLab l ((ev.lab l).resetFrontends x.2)

/-- `ResetFrontends`. An empty `req.Teams` is nil. -/
def resetFrontends (teams getTeams : List (String × LabAnswers)) : Handled :=
  untilReturn resetFrontendsRound ev (if teams.isEmpty then getTeams else teams)

/-- The body of the loop over `ev.GetHub().Labs()` in `AddChallenge`, with `addChalError`. -/
def addRound (newFlag : Nat → String → Nat → Nat → String) (exers : List Store.Exercise)
    (s : TeamEvent × Option String) (x : Nat × LabAnswers) :
    Option ((TeamEvent × Option String) × Option String) :=
  (s.1.afterLab x.1 ((s.1.lab x.1).addChallenge x.2 (newFlag x.1) exers)).map fun r =>
    -- `addChalError` keeps the last error, and the loop goes on.
    ((r.1, r.2 <|> s.2), none)

/-- The body of the loop over `ev.GetAssignedLabs()`. -/
def addTeamRound (newFlag : Nat → String → Nat → Nat → String) (exers : List Store.Exercise)
    (childrenChalTags : GoMap String (List String)) (s : TeamEvent × Option String)
    (x : (String × Nat) × LabAnswers) : Option ((TeamEvent × Option String) × Option String) :=
  (addRound newFlag exers s (x.1.2, x.2)).bind fun r =>
    let ev := r.1.1
    -- A team that is not there is nil, and the error of `GetTeamById` does not stop the round.
    (ev.state.teams.get? x.1.1).map fun t =>
      let t := (t.addChallenges (ev.state.env x.1.2).challenges).updateAllChallenges
        childrenChalTags
      (({ ev with state := { ev.state with teams := ev.state.teams.set x.1.1 t } }, r.1.2), none)

/-- The labs of `hub.Labs()`, each with the answers to its calls. -/
def hubVisits (calls : AddCalls) : List (Nat × LabAnswers) :=
  ev.state.labs.zipIdx.map fun x => (x.1, calls.hub x.2)

/-- The labs of the teams, each with the answers to its calls. -/
def teamVisits (calls : AddCalls) : List ((String × Nat) × LabAnswers) :=
  ev.state.assigned.pairs.map fun e => (e, calls.team e.1)

/-- The end of `AddChallenge`, after its loops. -/
def finishAdd (req : AddChallengeRequest) (exers : List Store.Exercise)
    (addChalError : Option String) : TeamEvent × Option String :=
  match req.updateErr with
  -- The labs and the teams keep what the loops added.
  | some err => (ev, some err)
  | none =>
    ({ ev with
        state := { ev.state with
          exercises := ev.state.exercises ++ ("," ++ ",".intercalate req.challengeTag)
          labHost := ev.state.labHost.updateExercises exers
          frontends := ev.state.frontends.modify (ev.state.frontends.length - 1) fun fd =>
            exers.foldl (fun fd fl => fd.updateChallenges fl.flags) fd } },
      addChalError)

/-- `AddChallenge`. -/
def addChallenge (req : AddChallengeRequest) (calls : AddCalls) : Handled :=
  if ∃ i ∈ req.challengeTag, i ∈ ev.state.allChallenges then
    some (ev, some (alreadyExistsErr req.challengeTag))
  else
    match req.getExerciseByTags with
    | .error err => some (ev, some ("[exercises-service] error " ++ err))
    | .ok exers =>
      (untilReturn (addRound req.newFlag exers) (ev, none) (ev.hubVisits calls)).bind fun r =>
        let children := childrenChalTags req.challengeTag exers
        (untilReturn (addTeamRound req.newFlag exers children) r.1 (ev.teamVisits calls)).map
          fun r => r.1.1.finishAdd req exers r.1.2

/-- `SolveChallenge` at the time `now`, where `db` is the error of the store service. -/
def solveChallenge (teamID challengeTag : String) (now : Time) (db : Option String) : Handled :=
  if user.npUser && ev.createdBy != user.username then some (ev, some noFlagMngtPrivErr)
  else
    match ev.state.assigned.get? teamID with
    | none => some (ev, some labIsNotAssignedErr)
    | some l =>
      let chals := (ev.state.env l).challenges
      let challenge := (chals.find? fun ch => ch.tag = challengeTag).getD ⟨"", ""⟩
      match ev.state.teams.get? teamID with
      | none => some (ev, none)
      | some t =>
        let flag := GoStrings.trimSpace challenge.value
        match t.challenges.verifyFlag challenge.tag flag now db with
        | (_, some .fatal) => none
        | (_, some (.failed err)) => some (ev, some err)
        | (challenges, none) =>
          some ({ ev with state := { ev.state with
            teams := ev.state.teams.set teamID { t with challenges := challenges } } }, none)

/-- `UpdateTeamPassword`. -/
def updateTeamPassword (teamID password passwordRepeat : String) (c : PassCalls) : Handled :=
  if user.npUser && ev.createdBy != user.username then some (ev, some noFlagMngtPrivErr)
  else if teamID ∉ ev.state.teams then some (ev, some getTeamByIdErr)
  else if password ≠ passwordRepeat then some (ev, some "Passwords DOES NOT match !")
  else
    match c.getEventID with
    | some err => some (ev, some err)
    | none =>
      some ({ ev with passwords := ev.passwords.set teamID c.hPass }, c.updateTeamPassword)

/-- `DeleteTeam`, where `db` is the error of the store service. -/
def deleteTeam (evTag teamId : String) (ans : LabAnswers) (db : Option String) : Handled :=
  if !user.superUser && ev.createdBy != user.username then
    some (ev, some "No privileges to delete team ")
  else
    match ev.state.assigned.get? teamId with
    | none => some (ev, some ("lab could not be found for team: [ " ++ teamId ++
        " ] on event [ " ++ evTag ++ " ]"))
    | some l =>
      match ev.afterLab l ((ev.lab l).restart ans) with
      | none => none
      -- The lab is not given back.
      | some (ev, some err) => some (ev, some err)
      | some (ev, none) =>
        let ev := { ev with deallocatedLabs := ev.deallocatedLabs ++ [l] }
        if teamId ∈ ev.state.teams then
          some ({ ev with
            state := { ev.state with teams := ev.state.teams.delete teamId }
            passwords := ev.passwords.delete teamId }, db)
        else some (ev, some getTeamByIdErr)

end TeamEvent

/-! ### The same event -/

/-- The entries of the maps of a team. -/
def teamView (t : TeamExercises) : (String → Option TeamChallenge) × List TeamChallenge ×
    (String → Option (List String)) × (String → Option (List String)) :=
  (t.challenges.challenges.get?, t.challenges.solvedChalsDB, t.allChallenges.get?,
    t.disabledChallenges.get?)

/-- The two events have the same labs and teams, apart from what is in them. -/
structure TeamEvent.SameFrame (ev ev' : TeamEvent) : Prop where
  createdBy : ev'.createdBy = ev.createdBy
  status : ev'.status = ev.status
  labs : ev'.state.labs = ev.state.labs
  assigned : ev'.state.assigned = ev.state.assigned
  allChallenges : ev'.state.allChallenges = ev.state.allChallenges
  disabledChallenges : ev'.state.disabledChallenges = ev.state.disabledChallenges
  labHost : ev'.state.labHost = ev.state.labHost
  exercises : ev'.state.exercises = ev.state.exercises
  challenges : ev'.state.challenges = ev.state.challenges
  frontends : ev'.state.frontends = ev.state.frontends
  passwords : ∀ tid, ev'.passwords.get? tid = ev.passwords.get? tid
  deallocatedLabs : ev'.deallocatedLabs = ev.deallocatedLabs

/-- The two events have the same labs with their machines, teams with their passwords and
challenges, lists and status. -/
structure TeamEvent.Same (ev ev' : TeamEvent) : Prop extends TeamEvent.SameFrame ev ev' where
  lab : ∀ l, (ev.lab l).Same (ev'.lab l)
  teams : ∀ tid, (ev'.state.teams.get? tid).map teamView = (ev.state.teams.get? tid).map teamView

/-! ### When a request changes nothing -/

namespace TeamEvent

variable (ev : TeamEvent)

/-- A round of `ResetExercise` returns: the team has a lab whose reset reports an error. -/
def ResetStops (exerciseTag : String) (x : String × LabAnswers) : Prop :=
  ∃ l, ev.state.assigned.get? x.1 = some l ∧ (ev.lab l).ResetStops exerciseTag

/-- A round of `ResetExercise` changes nothing: the lab of the team refuses it, and when the round
goes on with the team, that has not disabled the exercise. -/
def ResetKeeps (listed : Bool) (exerciseTag : String) (x : String × LabAnswers) : Prop :=
  (∀ l, ev.state.assigned.get? x.1 = some l → (ev.lab l).ResetRefused x.2 exerciseTag) ∧
    (listed = true → x.1 ∈ ev.state.assigned → ¬ ev.ResetStops exerciseTag x →
      ∀ t, ev.state.teams.get? x.1 = some t → exerciseTag ∉ t.disabledChallenges)

/-- A round of `ResetFrontends` returns, if it changes nothing: there are frontends. -/
def FrontendsStop (x : String × LabAnswers) : Prop :=
  ∃ l, ev.state.assigned.get? x.1 = some l ∧ ∃ p, p ∈ (ev.lab l).frontends

/-- A round of `ResetFrontends` changes nothing: the frontends refuse it. -/
def FrontendsKeep (x : String × LabAnswers) : Prop :=
  ∀ l, ev.state.assigned.get? x.1 = some l → (ev.lab l).FrontendsRefuse x.2

/-- Each visit of a lab refuses the exercises. -/
def LabsRefuse (newFlag : Nat → String → Nat → Nat → String) (exers : List Store.Exercise)
    (calls : AddCalls) : Prop :=
  (∀ x ∈ ev.hubVisits calls, (ev.lab x.1).env.AddRefused x.2.answers (newFlag x.1) exers) ∧
    ∀ x ∈ ev.teamVisits calls,
      (ev.lab x.1.2).env.AddRefused x.2.answers (newFlag x.1.2) exers

/-- The teams with a lab have its challenges, and know the children of the exercises. -/
def TeamsKnow (challengeTag : List String) (exers : List Store.Exercise) : Prop :=
  ∀ tid l t, ev.state.assigned.get? tid = some l → ev.state.teams.get? tid = some t →
    (t.addChallenges (ev.state.env l).challenges).challenges.challenges.get? =
      t.challenges.challenges.get? ∧
    ∀ tag ch, (childrenChalTags challengeTag exers).get? tag = some ch →
      t.allChallenges.get? tag = some ch

/-- `AddChallenge` returns before its loops, or the store service has an error and the labs and
teams have nothing to take. -/
def AddHarmless (req : AddChallengeRequest) (calls : AddCalls) : Prop :=
  (∃ i ∈ req.challengeTag, i ∈ ev.state.allChallenges) ∨
    (∃ err, req.getExerciseByTags = .error err) ∨
    ∃ exers, req.getExerciseByTags = .ok exers ∧ req.updateErr ≠ none ∧
      ev.LabsRefuse req.newFlag exers calls ∧ ev.TeamsKnow req.challengeTag exers

end TeamEvent

/-! ### Requests to one lab -/

namespace TeamEvent

variable {ev ev' : TeamEvent} {user : User} {err : Option String} {l : Nat}

/-- An event has the frame of itself. -/
theorem SameFrame.refl (ev : TeamEvent) : ev.SameFrame ev :=
  ⟨rfl, rfl, rfl, rfl, rfl, rfl, rfl, rfl, rfl, rfl, fun _ => rfl, rfl⟩

/-- An event is the same as itself. -/
theorem Same.refl (ev : TeamEvent) : ev.Same ev :=
  { SameFrame.refl ev with
    lab := fun l => .refl (ev.lab l)
    teams := fun _ => rfl }

/-- The lab that is set, and the others. -/
theorem lab_setLab (ev : TeamEvent) (l : Nat) (st : FrontendLab) (l' : Nat) :
    (ev.setLab l st).lab l' = if l' = l then st else ev.lab l' := by
  simp only [lab, setLab, EventState.setEnv]
  split
  · next heq =>
    subst heq
    simp only [Function.update_self]
  · next hne => simp only [Function.update_of_ne hne]

/-- Setting a lab to itself changes nothing. -/
theorem setLab_lab (ev : TeamEvent) (l : Nat) : ev.setLab l (ev.lab l) = ev := by
  simp only [setLab, EventState.setEnv, lab, Function.update_eq_self]

/-- An event stays the same if and only if the lab that is set does. -/
theorem setLab_same_iff {st : FrontendLab} :
    ev.Same (ev.setLab l st) ↔ (ev.lab l).Same st := by
  constructor
  · intro h
    have hlab := h.lab l
    rwa [lab_setLab, if_pos rfl] at hlab
  · intro hlab
    refine { SameFrame.refl ev with lab := fun l' => ?_, teams := fun _ => rfl }
    rw [lab_setLab]
    split
    · next heq => exact heq ▸ hlab
    · exact .refl _

/-- An operation on a lab puts its result there. -/
theorem afterLab_eq_some {r : FrontendLab × Option Failure}
    (h : ev.afterLab l r = some (ev', err)) :
    ev' = ev.setLab l r.1 ∧ r.2 ≠ some .panic ∧ (err = none ↔ r.2 = none) := by
  obtain ⟨lab, failure⟩ := r
  cases failure with
  | none =>
    cases h
    exact ⟨rfl, nofun, iff_of_true rfl rfl⟩
  | some failure =>
    cases failure with
    | panic => cases h
    | error text =>
      cases h
      exact ⟨rfl, nofun, iff_of_false nofun nofun⟩

/-- The suspension leaves the event as it was if and only if the lab of the team has nothing to do,
or refuses. -/
theorem setTeamSuspend_same_iff {teamId : String} {suspend : Bool} {ans : LabAnswers}
    (h : ev.setTeamSuspend teamId suspend ans = some (ev', err)) :
    ev.Same ev' ↔ ∀ l, ev.state.assigned.get? teamId = some l →
      if suspend then (ev.lab l).SuspendRefused ans else (ev.lab l).ResumeRefused ans := by
  unfold setTeamSuspend at h
  cases hl : ev.state.assigned.get? teamId with
  | none =>
    simp only [hl] at h
    cases h
    exact iff_of_true (.refl ev) fun l hl' => by cases hl'
  | some l =>
    simp only [hl] at h
    obtain ⟨rfl, -, -⟩ := afterLab_eq_some h
    rw [setLab_same_iff]
    simp only [Option.some.injEq, forall_eq']
    cases suspend with
    | true => exact FrontendLab.suspend_same_iff
    | false => exact FrontendLab.resume_same_iff

/-- So does the restart of the lab of a team. -/
theorem restartTeamLab_same_iff {teamId : String} {ans : LabAnswers}
    (h : ev.restartTeamLab teamId ans = some (ev', err)) :
    ev.Same ev' ↔ ∀ l, ev.state.assigned.get? teamId = some l →
      (ev.lab l).RestartRefused ans := by
  unfold restartTeamLab at h
  cases hl : ev.state.assigned.get? teamId with
  | none =>
    simp only [hl] at h
    cases h
    exact iff_of_true (.refl ev) fun l hl' => by cases hl'
  | some l =>
    simp only [hl] at h
    obtain ⟨rfl, -, -⟩ := afterLab_eq_some h
    rw [setLab_same_iff]
    simp only [Option.some.injEq, forall_eq']
    exact FrontendLab.restart_same_iff

end TeamEvent

end Haaukins.Daemon
