import Haaukins.Lib.Lookups
import Haaukins.Lib.Machine
import Haaukins.Daemon.Event
import Haaukins.Daemon.ResetExercise
import Haaukins.Daemon.Team

/-!
# `Haaukins.Daemon.AbsentObjects`: the lookups of the requests on teams (`daemon/team.go`,
`daemon/exercise.go`)

The nine requests that look an event, a lab or a team up. The pool of events, the lab map of an
event and its team store can disagree: `DeleteTeam` takes a team from the store and leaves its
entry in the lab map.

`daemonRequests_safe_iff` says at which requests of a run no method is called on an object that
was not found. `SolveChallenge` and `GetTeamChals` do not test whether the event is there.
`ResetExercise` for a list of teams and `AddChallenge` look the team of a lab up, and use it
before or without a test of the error.

* What the methods of the labs and of the teams, and the services, answer is part of the request.
  A lab is a number, as a pointer is.
* `ResetExercise` answers a team without a lab with the status "?" on its stream, and goes on.
-/

set_option autoImplicit false

namespace Haaukins.Daemon

open Guacamole (AssignCalls newEvent)
open Store (Team TeamStore newTag)

/-- `NoFlagMngtPrivErr`. -/
def noFlagMngtPrivErr : String :=
  "No privilege to see/solve challenges on an event created by others !"

/-- `LabIsNotAssignedErr`. -/
def labIsNotAssignedErr : String := "Lab is not assigned yet ! "

/-- `UnknownTeamErr`. -/
def unknownTeamErr : String := "Unable to find team by that id"

/-- An object that a request looks up. -/
inductive Looked where
  | event (tag : String)
  | lab (team : String)
  | team (id : String)
  deriving DecidableEq

/-- What a request sends on its stream. -/
inductive Sent where
  | resetTeamStatus (teamId status : String)
  | message (text : String)
  deriving DecidableEq

/-- A message that reports a missing object. -/
def Reports : Looked → Sent → Prop
  | .lab t, .resetTeamStatus t' status => t' = t ∧ status = "?"
  | _, _ => False

/-- What a request does. -/
abbrev Reply (α : Type) : Type := Lookups Looked Sent α

/-- An event of the pool, with the part of its configuration that `AddChallenge` reads. -/
structure PooledEvent extends Guacamole.Event where
  /-- The keys of `EventConfig.AllChallenges`. -/
  allChallenges : List String

/-- `virtual.InstanceInfo`. -/
structure InstanceInfo where
  image : String
  type : String
  id : String
  state : Nat

/-- `store.Challenge`. -/
structure LabChallenge where
  name : String
  tag : String
  value : String

namespace PooledEvent

variable (ev : PooledEvent)

/-- `GetTeamById`. -/
def getTeamById (teamid : String) : Option Team := ev.store.teams.get? teamid

end PooledEvent

open Lookups

section Handlers

variable (events : GoMap String PooledEvent)

/-- The event and the lab of `GetTeamInfo`, `SetTeamSuspend` and `RestartTeamLab`. -/
def findLab (eventTag teamId noLabErr : String) : Reply Nat := do
  let t ← checked (newTag eventTag)
  let ev ← findOr (.event t) (events.get? t) unknownEventErr
  findOr (.lab teamId) (ev.getLabByTeam teamId) noLabErr

/-- `GetTeamInfo`. -/
def getTeamInfo (eventTag teamId : String) (instanceInfo : Nat → List InstanceInfo) :
    Reply (List InstanceInfo) := do
  let lab ← findLab events eventTag teamId unknownTeamErr
  pure (instanceInfo lab)

/-- `SetTeamSuspend`, where `suspend` and `resume` are the errors of the lab. -/
def setTeamSuspend (eventTag teamId : String) (isSuspend : Bool)
    (suspend resume : Nat → Option String) : Reply Unit := do
  let lab ← findLab events eventTag teamId unknownTeamErr
  check (if isSuspend then suspend lab else resume lab)

/-- `RestartTeamLab`. -/
def restartTeamLab (eventTag teamId : String) (restart : Nat → Option String) : Reply Unit := do
  let lab ← findLab events eventTag teamId noLabByTeamIdErr
  send (.message ("Lab restarting for team [ " ++ teamId ++ " ] is under process... "))
  check (restart lab)

/-- The error of `SolveChallenge` and `GetTeamChals` without a user. -/
def noUserErr (err : String) : String := "user credentials could not found on context " ++ err

/-- `if user.NPUser && event.GetConfig().CreatedBy != user.Username`. -/
def refuseNPUser (user : Requester) (event : Option PooledEvent) : Reply Unit :=
  if user.npUser then do
    -- A privileged user passes without a look at the event.
    let ev ← deref event
    refuse (ev.createdBy ≠ user.username) noFlagMngtPrivErr
  else pure ()

/-- The lab of `SolveChallenge` and `GetTeamChals`. The event is not tested. -/
def challengesLab (user : Requester) (event : Option PooledEvent) (teamId : String) :
    Reply (PooledEvent × Nat) := do
  refuseNPUser user event
  let ev ← deref event
  let lab ← findOr (.lab teamId) (ev.getLabByTeam teamId) labIsNotAssignedErr
  pure (ev, lab)

/-- `SolveChallenge`, where `verifyFlag` is the error of the team for the challenge and the
flag. -/
def solveChallenge (user : Except String Requester) (eventTag teamID challengeTag : String)
    (challenges : Nat → List LabChallenge)
    (verifyFlag : LabChallenge → String → Option String) : Reply String := do
  let user ← checked (user.mapError noUserErr)
  -- The map is read without its second result, so the event may be nil.
  let event ← find (.event eventTag) (events.get? eventTag)
  let (ev, lab) ← challengesLab user event teamID
  -- Without a challenge of this tag the empty one goes on.
  let challenge := ((challenges lab).find? fun ch => ch.tag = challengeTag).getD ⟨"", "", ""⟩
  let flag := GoStrings.trimSpace challenge.value
  check (if teamID ∈ ev.store.teams then verifyFlag challenge flag else none)
  pure ("Challenge [ " ++ challenge.name ++ " ] solved on event [ " ++ eventTag ++
    " ] for team [ " ++ teamID ++ " ] !")

/-- `GetTeamChals`. -/
def getTeamChals (user : Except String Requester) (eventTag teamId : String)
    (challenges : Nat → List LabChallenge) : Reply (List LabChallenge) := do
  -- Here the event is read before the user, and used after him.
  let event ← find (.event eventTag) (events.get? eventTag)
  let user ← checked (user.mapError noUserErr)
  let (_, lab) ← challengesLab user event teamId
  pure (challenges lab)

/-- The error of `UpdateTeamPassword` and `DeleteTeam` for an event that is not in the pool. -/
def noEventErr (eventTag : String) : String := "Event [ " ++ eventTag ++ " ] could not be found "

/-- The error of `GetTeamById`. -/
def getTeamByIdErr : String := "GetTeamByID function error " ++ Store.unknownTeamErr

/-- `UpdateTeamPassword`, where `updatePass` is the error of the team. -/
def updateTeamPassword (usr : Except String Requester) (eventTag teamID : String)
    (updatePass : Option String) : Reply String := do
  let usr ← checked usr
  let ev ← findOr (.event eventTag) (events.get? eventTag) (noEventErr eventTag)
  refuseNPUser usr (some ev)
  let _ ← findOr (.team teamID) (ev.getTeamById teamID) getTeamByIdErr
  check updatePass
  pure ("Password for team [ " ++ teamID ++ " ] is updated ! ")

/-- `DeleteTeam`, where `restart` and `db` are the errors of the lab and of the store service. -/
def deleteTeamReply (usr : Except String DeletingUser) (req : DeleteTeamRequest)
    (restart db : Option String) : Reply Unit := do
  let usr ← checked usr
  let ev ← findOr (.event req.evTag) (events.get? req.evTag) (noEventErr req.evTag)
  refuse (usr.mayDelete ev.toEvent = false) "No privileges to delete team "
  send (.message ("Team deletion / Lab release and restart for team [ " ++ req.teamId ++
    " ] is under process... "))
  let _ ← findOr (.lab req.teamId) (ev.getLabByTeam req.teamId)
    ("lab could not be found for team: [ " ++ req.teamId ++ " ] on event [ " ++ req.evTag ++ " ]")
  check restart
  -- The lab is on its way back to the hub when the team is looked up.
  let _ ← findOr (.team req.teamId) (ev.getTeamById req.teamId) getTeamByIdErr
  check db

/-- The loop of `ResetExercise` over `req.Teams`, where `resetByTag` has the errors of the
labs. -/
def resetTeams (ev : PooledEvent) (resetByTag : Nat → Option String) :
    List String → Reply Unit
  | [] => pure ()
  | id :: teams => do
    match ← find (.lab id) (ev.getLabByTeam id) with
    | none => do
      send (.resetTeamStatus id "?")
      resetTeams ev resetByTag teams
    | some lab => do
      check (resetByTag lab)
      send (.resetTeamStatus id "ok")
      let t ← find (.team id) (ev.getTeamById id)
      -- `t.GetDisabledChalMap()` comes before the test of the error.
      let _ ← deref t
      resetTeams ev resetByTag teams

/-- The loop of `ResetExercise` over `ev.GetTeams()`. -/
def resetLabs (ev : PooledEvent) (resetByTag : Nat → Option String) :
    List Team → Reply Unit
  | [] => pure ()
  | t :: teams => do
    match ← find (.lab t.id) (ev.getLabByTeam t.id) with
    | none => do
      send (.resetTeamStatus t.id "?")
      resetLabs ev resetByTag teams
    | some lab => do
      check (resetByTag lab)
      send (.resetTeamStatus t.id "ok")
      resetLabs ev resetByTag teams

/-- `ResetExercise`. An empty `req.Teams` is nil. -/
def resetExercise (eventTag : String) (teams : List String)
    (resetByTag : Nat → Option String) : Reply Unit := do
  let evtag ← checked (newTag eventTag)
  let ev ← findOr (.event evtag) (events.get? evtag) unknownEventErr
  if teams = [] then resetLabs ev resetByTag ev.store.teams.values
  else resetTeams ev resetByTag teams

/-- What the hub, the labs and the services answer to `AddChallenge`. -/
structure AddChallengeAnswers where
  /-- `hub.Labs()`. -/
  labs : List Nat
  getExerciseByTags : Option String
  protobufToJson : Option String
  addChallenge : Nat → Option String
  updateExercises : Option String

/-- The loop of `AddChallenge` over the assigned labs, with the error from before. -/
def addToTeams (ev : PooledEvent) (addChallenge : Nat → Option String) :
    Option String → List (String × Nat) → Reply (Option String)
  | addChalError, [] => pure addChalError
  | addChalError, (tid, l) :: labs => do
    let addChalError := addChallenge l <|> addChalError
    let t ← find (.team tid) (ev.getTeamById tid)
    let addChalError := if t.isNone then some getTeamByIdErr else addChalError
    -- The error does not end the round, and `t.UpdateAllChallenges` comes in each of them.
    let _ ← deref t
    addToTeams ev addChallenge addChalError labs

/-- `AddChallenge`. -/
def addChallenge (eventTag : String) (challengeTags : List String) (c : AddChallengeAnswers) :
    Reply Unit := do
  let ev ← findOr (.event eventTag) (events.get? eventTag) unknownEventErr
  refuse (∃ i ∈ challengeTags, i ∈ ev.allChallenges) (alreadyExistsErr challengeTags)
  check (c.getExerciseByTags.map ("[exercises-service] error " ++ ·))
  check c.protobufToJson
  -- The labs of the hub go on after an error, and the last error is kept.
  let addChalError := c.labs.foldl (fun err lb => c.addChallenge lb <|> err) none
  let addChalError ← addToTeams ev c.addChallenge addChalError ev.labs.pairs
  send (.message "Assigned labs are processing to add challenge(s) ...")
  check c.updateExercises
  check addChalError
  send (.message ("Challenge(s) [" ++ " ".intercalate challengeTags ++
    "] is/(are) processing for event " ++ eventTag ++ " "))

end Handlers

/-- A request, with the answers to its calls. -/
inductive TeamRequest where
  | getTeamInfo (eventTag teamId : String) (instanceInfo : Nat → List InstanceInfo)
  | setTeamSuspend (eventTag teamId : String) (isSuspend : Bool)
    (suspend resume : Nat → Option String)
  | restartTeamLab (eventTag teamId : String) (restart : Nat → Option String)
  | solveChallenge (user : Except String Requester) (eventTag teamID challengeTag : String)
    (challenges : Nat → List LabChallenge) (verifyFlag : LabChallenge → String → Option String)
  | getTeamChals (user : Except String Requester) (eventTag teamId : String)
    (challenges : Nat → List LabChallenge)
  | updateTeamPassword (usr : Except String Requester) (eventTag teamID : String)
    (updatePass : Option String)
  | deleteTeam (usr : Except String DeletingUser) (req : DeleteTeamRequest)
    (restart db : Option String)
  | resetExercise (eventTag : String) (teams : List String) (resetByTag : Nat → Option String)
  | addChallenge (eventTag : String) (challengeTags : List String) (c : AddChallengeAnswers)

namespace TeamRequest

/-- What the request does, without its value. -/
def handle (events : GoMap String PooledEvent) : TeamRequest → Reply Unit
  | getTeamInfo eventTag teamId instanceInfo =>
    (Daemon.getTeamInfo events eventTag teamId instanceInfo).void
  | setTeamSuspend eventTag teamId isSuspend suspend resume =>
    Daemon.setTeamSuspend events eventTag teamId isSuspend suspend resume
  | restartTeamLab eventTag teamId restart => Daemon.restartTeamLab events eventTag teamId restart
  | solveChallenge user eventTag teamID challengeTag challenges verifyFlag =>
    (Daemon.solveChallenge events user eventTag teamID challengeTag challenges verifyFlag).void
  | getTeamChals user eventTag teamId challenges =>
    (Daemon.getTeamChals events user eventTag teamId challenges).void
  | updateTeamPassword usr eventTag teamID updatePass =>
    (Daemon.updateTeamPassword events usr eventTag teamID updatePass).void
  | deleteTeam usr req restart db => deleteTeamReply events usr req restart db
  | resetExercise eventTag teams resetByTag =>
    Daemon.resetExercise events eventTag teams resetByTag
  | addChallenge eventTag challengeTags c => Daemon.addChallenge events eventTag challengeTags c

/-- The events after the request. Only `DeleteTeam` changes what the lookups find. -/
def effect (events : GoMap String PooledEvent) : TeamRequest → GoMap String PooledEvent
  | deleteTeam (.ok usr) req restart db =>
    match events.get? req.evTag with
    | none => events
    | some ev =>
      events.set req.evTag
        { ev with toEvent := (Daemon.deleteTeam ev.toEvent usr req restart db).2.1 }
  | _ => events

end TeamRequest

/-- The pool of a daemon, and whether the daemon has crashed. -/
structure RequestState where
  events : GoMap String PooledEvent
  crashed : Bool

/-- What happens in a daemon: events come and go, teams sign up, get labs and are asked for. -/
inductive DaemonStep where
  /-- `NewEvent`, for a team store from the database. -/
  | addEvent (tag createdBy : String) (onlyVPN capacity : Int) (vpnAddress : String)
    (store : TeamStore) (allChallenges : List String)
  | removeEvent (tag : String)
  | signup (tag : String) (t : Team) (db : Option String)
  | assignLab (tag teamID : String) (lab : Nat) (subnet : String) (calls : AssignCalls)
  | request (r : TeamRequest)

namespace RequestState

variable (s : RequestState)

/-- A change of one event. -/
def update (tag : String) (f : Guacamole.Event → Guacamole.Event) : RequestState :=
  match s.events.get? tag with
  | none => s
  | some ev => { s with events := s.events.set tag { ev with toEvent := f ev.toEvent } }

end RequestState

/-- The requests on teams. -/
def daemonRequests : Machine RequestState DaemonStep where
  init s := s.events = ∅ ∧ s.crashed = false
  step s a :=
    if s.crashed then none
    else
      match a with
      | .addEvent tag createdBy onlyVPN capacity vpnAddress store allChallenges =>
        some { s with
          events := s.events.set tag
            { toEvent := newEvent createdBy onlyVPN capacity vpnAddress store
              allChallenges := allChallenges } }
      | .removeEvent tag => some { s with events := s.events.delete tag }
      | .signup tag t db => some (s.update tag fun ev => (ev.signup t db).1)
      | .assignLab tag teamID lab subnet calls =>
        some (s.update tag fun ev => (ev.assignLab teamID lab subnet calls).1)
      | .request r =>
        -- Nothing recovers the panic of a handler, so the daemon ends.
        some { events := r.effect s.events, crashed := (r.handle s.events).crashes }

/-! ### Which lookups find their object -/

/-- The loop of `ResetExercise` finds the team of each lab that it resets. -/
def ResetsKnown (ev : PooledEvent) (resetByTag : Nat → Option String) : List String → Prop
  | [] => True
  | id :: teams =>
    (∀ lab, ev.labs.get? id = some lab → resetByTag lab = none →
      id ∈ ev.store.teams) ∧
    ((∀ lab, ev.labs.get? id = some lab → resetByTag lab = none) →
      ResetsKnown ev resetByTag teams)

/-- Each team of the lab map is in the store. -/
def LabsKnown (ev : Guacamole.Event) : Prop := ∀ id ∈ ev.labs, id ∈ ev.store.teams

/-- The lab maps and the team stores of all events agree. -/
def AllKnown (events : GoMap String PooledEvent) : Prop :=
  ∀ tag ev, events.get? tag = some ev → LabsKnown ev.toEvent

/-- A lab is assigned to a team of the store only, and no team that has a lab is deleted. -/
def KeepsKnown (s : RequestState) : DaemonStep → Prop
  | .assignLab tag teamID _ subnet calls => ∀ ev, s.events.get? tag = some ev →
      (ev.connect teamID subnet calls).2 = none → teamID ∈ ev.store.teams
  | .request (.deleteTeam (.ok usr) req restart _) => ∀ ev, s.events.get? req.evTag = some ev →
      ∀ l, ¬ Releases ev.toEvent usr req restart l
  | _ => True

/-- The lookups that the request does not test find their objects: the event of `SolveChallenge`
and `GetTeamChals`, the teams of the labs that `ResetExercise` resets, and the teams of all
assigned labs when `AddChallenge` comes to them. -/
def TeamRequest.Finds (events : GoMap String PooledEvent) : TeamRequest → Prop
  | solveChallenge user eventTag _ _ _ _ => (∃ u, user = .ok u) → eventTag ∈ events
  | getTeamChals user eventTag _ _ => (∃ u, user = .ok u) → eventTag ∈ events
  | resetExercise eventTag teams resetByTag => ∀ t ev, newTag eventTag = .ok t →
      events.get? t = some ev → ResetsKnown ev resetByTag teams
  | addChallenge eventTag challengeTags c => ∀ ev, events.get? eventTag = some ev →
      (∀ i ∈ challengeTags, i ∉ ev.allChallenges) → c.getExerciseByTags = none →
      c.protobufToJson = none → LabsKnown ev.toEvent
  | _ => True

/-- A request calls no method on an object that it has not found, and reports it. -/
def Served (s : RequestState) : DaemonStep → Prop
  | .request r => (r.handle s.events).Safe Reports
  | _ => True

/-- The untested lookups of a request find their objects. -/
def Finds (s : RequestState) : DaemonStep → Prop
  | .request r => r.Finds s.events
  | _ => True

/-! ### The single requests -/

variable {events : GoMap String PooledEvent}

/-- `GetTeamInfo` checks the event and the team. -/
theorem getTeamInfo_safe (eventTag teamId : String) (instanceInfo : Nat → List InstanceInfo) :
    (getTeamInfo events eventTag teamId instanceInfo).Safe Reports := by
  simp [getTeamInfo, findLab, Lookups.bind_assoc]

/-- `SetTeamSuspend` checks them, and the lab. -/
theorem setTeamSuspend_safe (eventTag teamId : String) (isSuspend : Bool)
    (suspend resume : Nat → Option String) :
    (setTeamSuspend events eventTag teamId isSuspend suspend resume).Safe Reports := by
  simp [setTeamSuspend, findLab, Lookups.bind_assoc]

/-- `RestartTeamLab` checks them, and the lab. -/
theorem restartTeamLab_safe (eventTag teamId : String) (restart : Nat → Option String) :
    (restartTeamLab events eventTag teamId restart).Safe Reports := by
  simp only [restartTeamLab, findLab, Lookups.bind_assoc, safe_checked_bind, safe_findOr_bind]
  intro t _ ev _ lab _
  exact (safe_send _).bind fun _ _ => safe_check _

/-- With the event at hand the test of the user reads its creator. -/
theorem refuseNPUser_some (user : Requester) (ev : PooledEvent) :
    refuseNPUser user (some ev) =
      refuse (user.npUser = true ∧ ev.createdBy ≠ user.username) noFlagMngtPrivErr := by
  unfold refuseNPUser
  split
  · next h => simp [deref, h]
  · next h => simp [refuse, h]

/-- `UpdateTeamPassword` checks the user, the event and the team. -/
theorem updateTeamPassword_safe (usr : Except String Requester) (eventTag teamID : String)
    (updatePass : Option String) :
    (updateTeamPassword events usr eventTag teamID updatePass).Safe Reports := by
  simp [updateTeamPassword, refuseNPUser_some]

/-- `DeleteTeam` checks the user, the event and the team. -/
theorem deleteTeamReply_safe (usr : Except String DeletingUser) (req : DeleteTeamRequest)
    (restart db : Option String) :
    (deleteTeamReply events usr req restart db).Safe Reports := by
  simp only [deleteTeamReply, safe_checked_bind, safe_findOr_bind, safe_refuse_bind]
  intro usr _ ev _ _
  refine (safe_send _).bind fun _ _ => ?_
  simp

/-- On an event that was not found a method is called in any case. -/
theorem not_nilFree_challengesLab (user : Requester) (teamId : String) :
    ¬ (challengesLab user none teamId).NilFree := by
  unfold challengesLab refuseNPUser
  split
  · exact fun h => h rfl
  · exact fun h => h rfl

/-- With the event at hand the rest of the two handlers is safe. -/
theorem challengesLab_some_safe (user : Requester) (ev : PooledEvent) (teamId : String) :
    (challengesLab user (some ev) teamId).Safe Reports := by
  simp [challengesLab, refuseNPUser_some, deref]

/-- `SolveChallenge` goes on with a nil event, so it is safe only for an event that is there. -/
theorem solveChallenge_safe_iff (user : Except String Requester)
    (eventTag teamID challengeTag : String) (challenges : Nat → List LabChallenge)
    (verifyFlag : LabChallenge → String → Option String) :
    (solveChallenge events user eventTag teamID challengeTag challenges verifyFlag).Safe Reports ↔
      ((∃ u, user = .ok u) → eventTag ∈ events) := by
  cases user with
  | error err => simp [solveChallenge, Except.mapError]
  | ok u =>
    simp only [solveChallenge, Except.mapError, safe_checked_bind, Except.ok.injEq, exists_eq',
      forall_const, forall_eq']
    cases hfind : events.get? eventTag with
    | none =>
      -- The user is known, and the event is nil.
      refine iff_of_false (fun h => ?_) (GoMap.get?_eq_none.mp hfind)
      exact not_nilFree_challengesLab u teamID (nilFree_bind.mp (nilFree_find_bind.mp h.nilFree)).1
    | some ev =>
      refine iff_of_true ?_ (GoMap.mem_iff_get?.mpr ⟨ev, hfind⟩)
      refine (challengesLab_some_safe u ev teamID).bind fun _ _ => ?_
      exact safe_check_bind.mpr fun _ => safe_pure _

/-- So does `GetTeamChals`. -/
theorem getTeamChals_safe_iff (user : Except String Requester) (eventTag teamId : String)
    (challenges : Nat → List LabChallenge) :
    (getTeamChals events user eventTag teamId challenges).Safe Reports ↔
      ((∃ u, user = .ok u) → eventTag ∈ events) := by
  unfold getTeamChals
  cases hfind : events.get? eventTag with
  | none =>
    have habsent : eventTag ∉ events := GoMap.get?_eq_none.mp hfind
    cases user with
    | error err => exact iff_of_true ⟨nofun, fun _ _ => .inl ⟨_, rfl⟩⟩ fun ⟨_, h⟩ => nomatch h
    | ok u =>
      refine iff_of_false (fun h => ?_) fun h => habsent (h ⟨u, rfl⟩)
      have hnil : (challengesLab u none teamId >>= fun p => pure (challenges p.2)).NilFree :=
        nilFree_find_bind.mp h.nilFree
      exact not_nilFree_challengesLab u teamId (nilFree_bind.mp hnil).1
  | some ev =>
    refine iff_of_true ?_ fun _ => GoMap.mem_iff_get?.mpr ⟨ev, hfind⟩
    simp only [find_some_bind, safe_checked_bind]
    exact fun u _ => (challengesLab_some_safe u ev teamId).bind fun _ _ => safe_pure _

/-- The loop over `req.Teams` calls a method on nil exactly when it gets to a reset lab whose team
is not in the store. -/
theorem resetTeams_spec (ev : PooledEvent) (resetByTag : Nat → Option String)
    (teams : List String) :
    (ResetsKnown ev resetByTag teams → (resetTeams ev resetByTag teams).Safe Reports) ∧
      ((resetTeams ev resetByTag teams).NilFree → ResetsKnown ev resetByTag teams) := by
  induction teams with
  | nil => exact ⟨fun _ => safe_pure (), fun _ => trivial⟩
  | cons id teams ih =>
    obtain ⟨hsafe, hknown⟩ := ih
    have hgetLab : ev.getLabByTeam id = ev.labs.get? id := rfl
    rw [resetTeams, ResetsKnown, hgetLab]
    cases hlab : ev.labs.get? id with
    | none =>
      -- The missing lab is reported by the message right behind it.
      simp only [reduceCtorEq, false_implies, implies_true, true_and, forall_const]
      constructor
      · intro h
        exact ⟨(hsafe h).nilFree, reported_miss ⟨rfl, rfl⟩ (hsafe h).reported⟩
      · exact hknown
    | some lab =>
      simp only [find_some_bind, Option.some.injEq, forall_eq']
      cases hreset : resetByTag lab with
      -- A failed reset ends the request before the team is looked up.
      | some err => exact ⟨fun _ => safe_check_bind.mpr nofun, fun _ => ⟨nofun, nofun⟩⟩
      | none =>
        simp only [check, Lookups.pure_bind, nilFree_send_bind, forall_const, nilFree_find_bind,
          nilFree_deref_bind]
        constructor
        · rintro ⟨hteam, hrest⟩
          obtain ⟨t, ht⟩ := GoMap.mem_iff_get?.mp hteam
          have hget : ev.getTeamById id = some t := ht
          rw [hget]
          exact (safe_send _).bind fun _ _ => hsafe hrest
        · rintro ⟨t, ht, hrest⟩
          exact ⟨GoMap.mem_iff_get?.mpr ⟨t, ht⟩, hknown hrest⟩

/-- The loop over `ev.GetTeams()` uses no team that it looks up. -/
theorem resetLabs_safe (ev : PooledEvent) (resetByTag : Nat → Option String)
    (teams : List Team) : (resetLabs ev resetByTag teams).Safe Reports := by
  induction teams with
  | nil => exact safe_pure ()
  | cons t teams ih =>
    rw [resetLabs]
    cases hlab : ev.getLabByTeam t.id with
    | none => exact ⟨ih.nilFree, reported_miss ⟨rfl, rfl⟩ ih.reported⟩
    | some lab =>
      simp only [find_some_bind, safe_check_bind]
      exact fun _ => (safe_send _).bind fun _ _ => ih

/-- `ResetExercise` passes over unknown teams, which is no report. -/
theorem resetExercise_safe_iff (eventTag : String) (teams : List String)
    (resetByTag : Nat → Option String) :
    (resetExercise events eventTag teams resetByTag).Safe Reports ↔
      ∀ t ev, newTag eventTag = .ok t → events.get? t = some ev →
        ResetsKnown ev resetByTag teams := by
  simp only [resetExercise, safe_checked_bind, safe_findOr_bind]
  -- The tag is valid and the pool has the event. What is left is one of the two loops.
  refine forall_congr' fun t => forall_comm.trans (forall₃_congr fun ev _ _ => ?_)
  split
  · next hnil =>
    subst hnil
    exact iff_of_true (resetLabs_safe _ _ _) trivial
  · have hloop := resetTeams_spec ev resetByTag teams
    exact ⟨fun h => hloop.2 h.nilFree, hloop.1⟩

/-- The loop over the assigned labs uses each of their teams. -/
theorem addToTeams_spec (ev : PooledEvent) (addChallenge : Nat → Option String)
    (labs : List (String × Nat)) (err : Option String) :
    ((∀ l ∈ labs, l.1 ∈ ev.store.teams) → (addToTeams ev addChallenge err labs).Safe Reports) ∧
      ((addToTeams ev addChallenge err labs).NilFree → ∀ l ∈ labs, l.1 ∈ ev.store.teams) := by
  induction labs generalizing err with
  | nil => exact ⟨fun _ => safe_pure _, fun _ => by simp⟩
  | cons l labs ih =>
    obtain ⟨tid, lab⟩ := l
    rw [addToTeams]
    simp only [List.forall_mem_cons, nilFree_find_bind, nilFree_deref_bind]
    constructor
    · rintro ⟨hteam, hrest⟩
      obtain ⟨t, ht⟩ := GoMap.mem_iff_get?.mp hteam
      have hget : ev.getTeamById tid = some t := ht
      rw [hget]
      exact (ih _).1 hrest
    · rintro ⟨t, ht, hrest⟩
      exact ⟨GoMap.mem_iff_get?.mpr ⟨t, ht⟩, (ih _).2 hrest⟩

/-- The teams with a lab are in the store. -/
theorem labsKnown_iff (ev : Guacamole.Event) :
    LabsKnown ev ↔ ∀ l ∈ ev.labs.pairs, l.1 ∈ ev.store.teams := by
  constructor
  · rintro h ⟨id, lab⟩ hl
    exact h id (GoMap.mem_iff_get?.mpr ⟨lab, GoMap.mem_pairs.mp hl⟩)
  · intro h id hid
    obtain ⟨lab, hlab⟩ := GoMap.mem_iff_get?.mp hid
    exact h (id, lab) (GoMap.mem_pairs.mpr hlab)

/-- `AddChallenge` takes the teams of the labs from the store. -/
theorem addChallenge_safe_iff (eventTag : String) (challengeTags : List String)
    (c : AddChallengeAnswers) :
    (addChallenge events eventTag challengeTags c).Safe Reports ↔
      ∀ ev, events.get? eventTag = some ev → (∀ i ∈ challengeTags, i ∉ ev.allChallenges) →
        c.getExerciseByTags = none → c.protobufToJson = none → LabsKnown ev.toEvent := by
  simp only [addChallenge, safe_findOr_bind, safe_refuse_bind, safe_check_bind, not_exists,
    not_and, Option.map_eq_none_iff]
  refine forall_congr' fun ev => imp_congr_right fun _ => imp_congr_right fun _ =>
    imp_congr_right fun _ => imp_congr_right fun _ => ?_
  rw [labsKnown_iff]
  have hloop := addToTeams_spec ev c.addChallenge ev.labs.pairs
    (c.labs.foldl (fun err lb => c.addChallenge lb <|> err) none)
  constructor
  · exact fun h => hloop.2 (nilFree_bind.mp h.nilFree).1
  · intro h
    refine (hloop.1 h).bind fun _ _ => (safe_send _).bind fun _ _ => ?_
    simp only [safe_check_bind]
    exact fun _ _ => safe_send _

/-- A request is safe exactly when the lookups that it does not test find their objects. -/
theorem TeamRequest.safe_iff (events : GoMap String PooledEvent) (r : TeamRequest) :
    (r.handle events).Safe Reports ↔ r.Finds events := by
  cases r with
  | getTeamInfo eventTag teamId instanceInfo =>
    exact iff_of_true (safe_void_iff.mpr (getTeamInfo_safe eventTag teamId instanceInfo)) trivial
  | setTeamSuspend eventTag teamId isSuspend suspend resume =>
    exact iff_of_true (setTeamSuspend_safe eventTag teamId isSuspend suspend resume) trivial
  | restartTeamLab eventTag teamId restart =>
    exact iff_of_true (restartTeamLab_safe eventTag teamId restart) trivial
  | solveChallenge user eventTag teamID challengeTag challenges verifyFlag =>
    exact safe_void_iff.trans
      (solveChallenge_safe_iff user eventTag teamID challengeTag challenges verifyFlag)
  | getTeamChals user eventTag teamId challenges =>
    exact safe_void_iff.trans (getTeamChals_safe_iff user eventTag teamId challenges)
  | updateTeamPassword usr eventTag teamID updatePass =>
    exact iff_of_true
      (safe_void_iff.mpr (updateTeamPassword_safe usr eventTag teamID updatePass)) trivial
  | deleteTeam usr req restart db =>
    exact iff_of_true (deleteTeamReply_safe usr req restart db) trivial
  | resetExercise eventTag teams resetByTag =>
    exact resetExercise_safe_iff eventTag teams resetByTag
  | addChallenge eventTag challengeTags c => exact addChallenge_safe_iff eventTag challengeTags c

/-- The reply of `DeleteTeam` ends with the error of `Daemon.deleteTeam`. -/
theorem deleteTeamReply_ending (ev : PooledEvent) (usr : DeletingUser) (req : DeleteTeamRequest)
    (restart db : Option String) (hev : events.get? req.evTag = some ev) :
    (deleteTeamReply events (.ok usr) req restart db).ending =
      (deleteTeam ev.toEvent usr req restart db).2.2.elim (.value ()) .failed := by
  unfold deleteTeamReply deleteTeam
  rw [hev]
  simp only [checked, Lookups.pure_bind, findOr, find_some_bind]
  cases usr.mayDelete ev.toEvent with
  | false => rfl
  | true =>
    cases ev.getLabByTeam req.teamId with
    | none => rfl
    | some l =>
      cases restart with
      | some err => rfl
      | none =>
        have hget : ev.getTeamById req.teamId = ev.store.teams.get? req.teamId := rfl
        rw [hget]
        dsimp only
        unfold Guacamole.Event.deleteTeam TeamStore.getTeamByID
        cases hteam : ev.store.teams.get? req.teamId with
        | none => rfl
        | some t =>
          rw [TeamStore.deleteTeam_snd]
          cases db with
          | none => rfl
          | some err => rfl

/-! ### When the lab map and the store agree -/

/-- A new team has no lab yet. -/
theorem LabsKnown.signup {ev : Guacamole.Event} (h : LabsKnown ev) (t : Team)
    (db : Option String) : LabsKnown (ev.signup t db).1 := by
  obtain ⟨es, hes, hteams⟩ := Guacamole.Event.signup_eq ev t db
  rw [hes]
  intro id hid
  rcases hteams id with hsame | ⟨-, hnew⟩
  · exact GoMap.mem_iff_get?.mpr (hsame ▸ GoMap.mem_iff_get?.mp (h id hid))
  · exact hnew

/-- The entry of an `AssignLab` that succeeds has its team in the store, or not. -/
theorem LabsKnown.assignLab_iff {ev : Guacamole.Event} (h : LabsKnown ev) (teamID : String)
    (lab : Nat) (subnet : String) (calls : AssignCalls) :
    LabsKnown (ev.assignLab teamID lab subnet calls).1 ↔
      ((ev.connect teamID subnet calls).2 = none → teamID ∈ ev.store.teams) := by
  have hstore := Guacamole.Event.connect_store ev teamID subnet calls
  have hlabs := Guacamole.Event.connect_labs ev teamID subnet calls
  unfold Guacamole.Event.assignLab
  generalize ev.connect teamID subnet calls = r at hstore hlabs ⊢
  obtain ⟨ev', err⟩ := r
  cases err with
  | some err =>
    refine iff_of_true (fun id hid => ?_) nofun
    rw [hlabs] at hid
    rw [hstore]
    exact h id hid
  | none =>
    constructor
    · intro h' _
      have hteam := h' teamID (GoMap.mem_set.mpr (.inl rfl))
      rw [← hstore]
      exact TeamStore.mem_correctedAssignedLab.mp hteam
    · intro hteam id hid
      refine TeamStore.mem_correctedAssignedLab.mpr ?_
      rcases GoMap.mem_set.mp hid with rfl | hid
      · exact hstore ▸ hteam rfl
      · exact hstore ▸ h id (hlabs ▸ hid)

/-- The team of a lab that `DeleteTeam` releases has gone, and its entry stays. -/
theorem LabsKnown.deleteTeam_iff {ev : Guacamole.Event} (h : LabsKnown ev) (usr : DeletingUser)
    (req : DeleteTeamRequest) (restart db : Option String) :
    LabsKnown (deleteTeam ev usr req restart db).2.1 ↔ ∀ l, ¬ Releases ev usr req restart l := by
  rcases deleteTeam_cases ev usr req restart db with ⟨hnot, err, heq⟩ | ⟨l, err, hreleases, heq⟩
  · rw [heq]
    exact iff_of_true h hnot
  · rw [heq]
    refine iff_of_false (fun h' => ?_) fun hnot => hnot l hreleases
    have hteam := h' req.teamId (GoMap.mem_iff_get?.mpr ⟨l, hreleases.2.2⟩)
    exact (TeamStore.mem_deleteTeam.mp hteam).1 rfl

/-- There is one event with the tag. -/
theorem forall_get?_iff {tag : String} {ev : PooledEvent} (hev : events.get? tag = some ev)
    {p : PooledEvent → Prop} : (∀ ev', events.get? tag = some ev' → p ev') ↔ p ev := by
  rw [hev]
  simp

/-- A replaced event is the only one to look at. -/
theorem AllKnown.set_iff (h : AllKnown events) {tag : String} {ev : PooledEvent} :
    AllKnown (events.set tag ev) ↔ LabsKnown ev.toEvent := by
  constructor
  · exact fun h' => h' tag ev (GoMap.get?_set_self _ _ _)
  · intro hev tag' ev' hget
    rw [GoMap.get?_set] at hget
    split at hget
    · cases hget
      exact hev
    · exact h tag' ev' hget

/-- In a state where they agree, a step keeps this exactly under its condition. -/
theorem allKnown_step_iff {s t : RequestState} {a : DaemonStep} (h : AllKnown s.events)
    (hs : daemonRequests.step s a = some t) : AllKnown t.events ↔ KeepsKnown s a := by
  obtain ⟨events, crashed⟩ := s
  cases crashed with
  | true => cases hs
  | false =>
    cases a with
    | addEvent tag createdBy onlyVPN capacity vpnAddress store allChallenges =>
      cases hs
      -- The new event has no ids in any map.
      exact iff_of_true (h.set_iff.mpr fun id hid => absurd hid (by simp [newEvent])) trivial
    | removeEvent tag =>
      cases hs
      refine iff_of_true (fun tag' ev hget => ?_) trivial
      rw [GoMap.get?_delete] at hget
      split at hget
      · cases hget
      · exact h tag' ev hget
    | signup tag team db =>
      -- A team that signs up enters the store before the maps.
      cases hs
      refine iff_of_true ?_ trivial
      unfold RequestState.update
      cases hev : events.get? tag with
      | none => exact h
      | some ev => exact h.set_iff.mpr ((h tag ev hev).signup team db)
    | assignLab tag teamID lab subnet calls =>
      cases hs
      unfold RequestState.update KeepsKnown
      cases hev : events.get? tag with
      | none => exact iff_of_true h fun ev hget => nomatch hev.symm.trans hget
      | some ev =>
        -- `AssignLab` writes under the id that it is given, whether the store knows it or not.
        refine h.set_iff.trans (((h tag ev hev).assignLab_iff teamID lab subnet calls).trans ?_)
        exact (forall_get?_iff hev (p := fun ev =>
          (ev.connect teamID subnet calls).2 = none → teamID ∈ ev.store.teams)).symm
    | request r =>
      cases hs
      -- Only `DeleteTeam` writes; the other requests read.
      cases r with
      | deleteTeam usr req restart db =>
        cases usr with
        | error err => exact iff_of_true h trivial
        | ok usr =>
          unfold TeamRequest.effect KeepsKnown
          cases hev : events.get? req.evTag with
          | none =>
            simp only [hev]
            exact iff_of_true h fun ev hget => nomatch hget
          | some ev =>
            simp only [hev, Option.some.injEq, forall_eq']
            exact h.set_iff.trans ((h req.evTag ev hev).deleteTeam_iff usr req restart db)
      | _ => exact iff_of_true h trivial

/-- Along a run the lab maps and the team stores agree if and only if labs are assigned to teams
of the store, and no team that has a lab is deleted. -/
theorem daemonRequests_known_iff {s : RequestState} (hs : daemonRequests.init s)
    (as : List DaemonStep) :
    daemonRequests.AllStates (fun s => AllKnown s.events) s as ↔
      daemonRequests.AllSteps KeepsKnown s as := by
  have hinit : AllKnown s.events := by
    intro tag ev hget
    rw [hs.1, GoMap.get?_empty] at hget
    cases hget
  exact Machine.allStates_iff_allSteps (I := fun s => AllKnown s.events) (A := fun _ _ => True)
    (fun _ h => h) (fun _ _ _ h _ hok hstep => (allKnown_step_iff h hstep).mpr hok)
    (fun _ _ _ h _ hnot hstep => fun h' => hnot ((allKnown_step_iff h hstep).mp h')) hinit
    Machine.allSteps_true

/-- Along a run all requests are safe if and only if the lookups that they do not test find their
objects. -/
theorem daemonRequests_served_iff (s : RequestState) (as : List DaemonStep) :
    daemonRequests.AllSteps Served s as ↔ daemonRequests.AllSteps Finds s as := by
  refine Machine.allSteps_congr fun s a => ?_
  cases a with
  | request r => exact r.safe_iff s.events
  | _ => exact Iff.rfl

/-- A daemon without events is asked for the flags of a team. -/
theorem getTeamChals_nilCall :
    ¬ ∀ (s : RequestState) (as : List DaemonStep), daemonRequests.init s →
      daemonRequests.AllSteps Served s as := by
  intro h
  have hserved := h ⟨∅, false⟩
    [.request (.getTeamChals (.ok ⟨"tkp", false⟩) "demo" "team" fun _ => [])] ⟨rfl, rfl⟩
  exact (hserved _ rfl).1.nilFree rfl

end Haaukins.Daemon
