import Haaukins.Lib.Locks
import Haaukins.Store.Team
import Haaukins.Store.TeamExercises
import Haaukins.Store.TeamIndexes

/-!
# `Haaukins.Store.TeamLocks`: the mutexes of teams and team stores (`store/team.go`)

Each method of `Team` and `teamstore` with the mutexes that it locks: that of the store and those
of the teams. The teams are pointers, so that the map of the store and its caller speak about the
same team. The answers of the store service are arguments.

`disciplined_iff` says for each method when it releases what it locked, once, and takes no
mutex that it holds. Four of them do not: one keeps its lock, one unlocks twice, and two lock
again for `t.ID()`.

The client of the store service is not nil in the methods that call it.
-/

set_option autoImplicit false

namespace Haaukins.Store

open Locking (acquire release access read write deferring)

/-- `Team`. -/
structure TeamObject where
  dbc : Bool
  id : String
  email : String
  name : String
  hashedPassword : String
  lastAccess : Time
  exercises : TeamExercises
  vpnKeys : GoMap Nat String
  vpnConf : List String
  labSubnet : String
  isLabAssigned : Bool
  hostsInfo : List String

/-- A `*Team` that is not nil. -/
abbrev TeamPtr := Nat

/-- `teamstore`, and the teams behind the pointers. -/
structure TeamHeap where
  teams : GoMap String TeamPtr
  tokens : GoMap String String
  names : GoMap String String
  deref : TeamPtr → TeamObject

/-- The mutexes. -/
inductive TeamMutex where
  | store
  | team (t : TeamPtr)
  deriving DecidableEq, Repr

/-- A method of `Team` or `teamstore`. -/
abbrev Method := Locking TeamMutex TeamHeap

/-! ### `Team` -/

namespace TeamPtr

variable (t : TeamPtr)

/-- Code that uses the fields of the team. -/
def fields {α : Type} (f : TeamObject → α × TeamObject) : Method α :=
  access fun s =>
    let (a, team) := f (s.deref t)
    (a, { s with deref := Function.update s.deref t team })

/-- Code that reads the fields of the team. -/
def get {α : Type} (f : TeamObject → α) : Method α := read fun s => f (s.deref t)

/-- Code that sets fields of the team. -/
def set (f : TeamObject → TeamObject) : Method Unit := t.fields fun team => ((), f team)

/-- `IsTeamSolvedChallenge`. -/
def isTeamSolvedChallenge (tag : String) : Method (Option Time) :=
  deferring .write (.team t) (t.get fun team => team.exercises.challenges.isTeamSolvedChallenge tag)

/-- `GetDisabledChals`. -/
def getDisabledChals : Method (List String) :=
  deferring .write (.team t) (t.get fun team => team.exercises.getDisabledChals)

/-- `GetChildChallenges`. -/
def getChildChallenges (parentTag : String) : Method (List String) :=
  t.get fun team => team.exercises.getChildChallenges parentTag

/-- `GetDisabledChalMap`. -/
def getDisabledChalMap : Method (GoMap String (List String)) :=
  deferring .write (.team t) (t.get fun team => team.exercises.disabledChallenges)

/-- `UpdateAllChallenges`. -/
def updateAllChallenges (challenges : GoMap String (List String)) : Method Unit :=
  deferring .write (.team t) (t.set fun team =>
    { team with exercises := team.exercises.updateAllChallenges challenges })

/-- `ManageDisabledChals`. -/
def manageDisabledChals (parentTag : String) : Method Bool :=
  deferring .write (.team t) (t.fields fun team =>
    let (exercises, removed) := team.exercises.manageDisabledChals parentTag
    (removed, { team with exercises := exercises }))

/-- `AddDisabledChal`. -/
def addDisabledChal (parentTag : String) : Method Unit :=
  deferring .write (.team t) (t.set fun team =>
    { team with exercises := team.exercises.addDisabledChal parentTag })

/-- `SetVPNConn`. -/
def setVPNConn (clientConfig : List String) : Method Unit := do
  acquire .write (.team t)
  t.set fun team => { team with vpnConf := clientConfig }
  release .write (.team t)

/-- `SetVPNKeys`. -/
def setVPNKeys (id : Nat) (key : String) : Method Unit :=
  deferring .write (.team t) (t.set fun team => { team with vpnKeys := team.vpnKeys.set id key })

/-- `GetVPNKeys`. -/
def getVPNKeys : Method (GoMap Nat String) := deferring .read (.team t) (t.get TeamObject.vpnKeys)

/-- `GetVPNConn`. -/
def getVPNConn : Method (List String) := deferring .read (.team t) (t.get TeamObject.vpnConf)

/-- `SetLabInfo`. -/
def setLabInfo (labSubnet : String) : Method Unit := do
  acquire .write (.team t)
  t.set fun team => { team with labSubnet := labSubnet }
  release .write (.team t)

/-- `SetHostsInfo`. -/
def setHostsInfo (hostInfo : List String) : Method Unit :=
  deferring .write (.team t) (t.set fun team => { team with hostsInfo := hostInfo })

/-- `GetHostsInfo`. -/
def getHostsInfo : Method (List String) := deferring .read (.team t) (t.get TeamObject.hostsInfo)

/-- `GetLabInfo`. -/
def getLabInfo : Method String := deferring .read (.team t) (t.get TeamObject.labSubnet)

/-- `IsPasswordEqual`, where `compare` is `bcrypt.CompareHashAndPassword`. -/
def isPasswordEqual (compare : String → String → Bool) (pass : String) : Method Bool := do
  acquire .read (.team t)
  let equal ← t.get fun team => compare team.hashedPassword pass
  release .read (.team t)
  return equal

/-- `AddChallenge`. -/
def addChallenge (c : Challenge) : Method (Except String String) := do
  acquire .write (.team t)
  let result ← t.fields fun team =>
    let (challenges, result) := team.exercises.challenges.addChallenge c
    (result, { team with exercises := { team.exercises with challenges := challenges } })
  -- The duplicate and the new challenge have an unlock of their own.
  match result with
  | .error err =>
    release .write (.team t)
    return .error err
  | .ok f =>
    release .write (.team t)
    return .ok f

/-- `UpdateTeamSolvedChallenges`. -/
def updateTeamSolvedChallenges (db : Option String) : Method (Option String) := do
  let _ ← t.get TeamObject.id
  return db

/-- `VerifyFlag` at the time `now`. -/
def verifyFlag (tag f : String) (now : Time) (db : Option String) : Method (Option String) := do
  acquire .write (.team t)
  let chal ← t.get fun team => team.exercises.challenges.challenges.get? f
  match chal with
  | none =>
    release .write (.team t)
    return some errUnknownFlag
  | some chal =>
    if chal.tag ≠ tag then
      release .write (.team t)
      return some errUnknownFlag
    else if chal.completedAt ≠ none then
      release .write (.team t)
      return some ("Flag for challenge [ " ++ chal.tag ++ " ] is already completed!")
    else
      t.set fun team =>
        let challenges := team.exercises.challenges
        { team with exercises := { team.exercises with challenges :=
          { challenges with
            challenges := challenges.challenges.set f { chal with completedAt := some now } } } }
      let err ← t.updateTeamSolvedChallenges db
      -- There is no `return` after the error.
      if err.isSome then release .write (.team t)
      release .write (.team t)
      return none

/-- `ID`. -/
def id : Method String := do
  acquire .read (.team t)
  let id ← t.get TeamObject.id
  release .read (.team t)
  return id

/-- `LastAccessTime`. -/
def lastAccessTime : Method Time := deferring .read (.team t) (t.get TeamObject.lastAccess)

/-- `Email`. -/
def email : Method String := do
  acquire .read (.team t)
  let email ← t.get TeamObject.email
  release .read (.team t)
  return email

/-- `GetHashedPassword`. -/
def getHashedPassword : Method String :=
  deferring .read (.team t) (t.get TeamObject.hashedPassword)

/-- `Name`. -/
def name : Method String := deferring .read (.team t) (t.get TeamObject.name)

/-- `IsLabAssigned`. -/
def isLabAssigned : Method Bool := deferring .read (.team t) (t.get TeamObject.isLabAssigned)

/-- `CorrectedAssignedLab`. -/
def correctedAssignedLab : Method Unit :=
  deferring .write (.team t) (t.set fun team => { team with isLabAssigned := true })

/-- `UpdateTeamAccessed`. -/
def updateTeamAccessed (tm : Time) (db : Option String) : Method (Option String) := do
  acquire .read (.team t)
  -- The id of the request.
  let _ ← t.id
  t.set fun team => { team with lastAccess := tm }
  match db with
  | some err =>
    release .read (.team t)
    return some err
  | none =>
    release .read (.team t)
    return none

/-- `UpdatePass`, for the hash of the new password and the two answers of the service. -/
def updatePass (pass passRepeat hPass : String) (getEventID db : Option String) :
    Method (Option String) := do
  acquire .read (.team t)
  if pass ≠ passRepeat then
    release .read (.team t)
    return some "Passwords DOES NOT match !"
  else
    match getEventID with
    | some err =>
      release .read (.team t)
      return some err
    | none =>
      t.set fun team => { team with hashedPassword := hPass }
      let _ ← t.id
      match db with
      | some err =>
        release .read (.team t)
        return some err
      | none =>
        release .read (.team t)
        return none

end TeamPtr

/-! ### `teamstore` -/

namespace TeamHeap

/-- `GetTeamByToken`. -/
def getTeamByToken (token : String) : Method (Except String TeamPtr) :=
  deferring .read .store (read fun es =>
    match es.tokens.get? token with
    | none => .error unknownTokenErr
    | some id =>
      match es.teams.get? id with
      | none => .error ("GetTeamByToken function error " ++ unknownTeamErr)
      | some t => .ok t)

/-- `SaveTeam`. -/
def saveTeam (t : TeamPtr) (db : Option String) : Method (Option String) := do
  acquire .write .store
  let username ← t.name
  let ok ← read fun es => decide (username ∈ es.names)
  if ok then
    release .write .store
    return some errTeamAlreadyExist
  else
    let tid ← t.id
    write fun es => { es with names := es.names.set username tid }
    let tid ← t.id
    write fun es => { es with teams := es.teams.set tid t }
    -- The fields of the request.
    let _ ← t.id
    let _ ← t.name
    let _ ← t.getHashedPassword
    match db with
    | some err =>
      release .write .store
      return some err
    | none =>
      t.set fun team => { team with dbc := true }
      release .write .store
      return none

/-- `SaveTokenForTeam`. -/
def saveTokenForTeam (token : String) (t : TeamPtr) : Method (Option String) :=
  deferring .write .store do
    if token = "" then return some emptyTokenErr
    else
      let tid ← t.id
      if tid = "" then return some ("SaveTokenForTeam function error " ++ unknownTeamErr)
      else
        let tid ← t.id
        write fun es => { es with tokens := es.tokens.set token tid }
        return none

/-- `DeleteTeam`. -/
def deleteTeam (tId : String) (db : Option String) : Method (Option String) :=
  deferring .write .store do
    let team ← read fun es => es.teams.get? tId
    match team with
    -- `team.Name()` is called on nil.
    | none => Locking.panic
    | some team =>
      let username ← team.name
      let oki ← read fun es => decide (username ∈ es.names)
      if oki then
        let username ← team.name
        write fun es => { es with names := es.names.delete username }
      write fun es => { es with teams := es.teams.delete tId }
      return db

/-- `GetTeamByID`. -/
def getTeamByID (id : String) : Method (Except String TeamPtr) := do
  acquire .read .store
  let t ← read fun es => es.teams.get? id
  match t with
  | none =>
    release .read .store
    return .error ("GetTeamByID function error " ++ unknownTeamErr)
  | some t =>
    release .read .store
    return .ok t

/-- `GetVPNConn`. -/
def getVPNConn (teamid : String) : Method (List String) := do
  acquire .read .store
  let t ← read fun es => es.teams.get? teamid
  match t with
  | none =>
    release .read .store
    return []
  | some t => t.get TeamObject.vpnConf

/-- `GetTeamByUsername`. -/
def getTeamByUsername (username : String) : Method (Except String TeamPtr) := do
  acquire .read .store
  let tid ← read fun es => es.names.get? username
  match tid with
  | none =>
    release .read .store
    return .error ("GetTeamByUsername function error " ++ unknownTeamErr)
  | some tid =>
    let t ← read fun es => es.teams.get? tid
    match t with
    | none =>
      release .read .store
      return .error ("GetTeamByUsername function error " ++ unknownTeamErr)
    | some t =>
      release .read .store
      return .ok t

/-- `GetTeams`. -/
def getTeams : Method (List TeamPtr) := do
  acquire .read .store
  let teams ← read fun es => es.teams.values
  release .read .store
  return teams

end TeamHeap

/-! ### The mutexes of each method -/

section

variable {s : TeamHeap} {t : TeamPtr} {held : List (TeamMutex × LockMode)}

/-- `ID` takes the lock of the team for a moment. -/
theorem leads_id (h : .team t ∉ held.map Prod.fst) : Leads held held t.id s :=
  leads_section h _ _

/-- So does `Name`. -/
theorem leads_name (h : .team t ∉ held.map Prod.fst) : Leads held held t.name s :=
  leads_deferring h (leads_read _)

/-- So does `GetHashedPassword`. -/
theorem leads_getHashedPassword (h : .team t ∉ held.map Prod.fst) :
    Leads held held t.getHashedPassword s :=
  leads_deferring h (leads_read _)

/-- `AddChallenge` takes the lock of the team, and returns it at its end. -/
theorem disciplined_addChallenge (c : Challenge) : Disciplined (t.addChallenge c) s := by
  refine leads_bind (leads_acquire List.not_mem_nil) rfl ?_
  refine leads_bind (leads_access _) rfl ?_
  split
  · exact leads_release_return _
  · exact leads_release_return _

/-- `SaveTeam` takes the lock of the store, and then those of the team. -/
theorem disciplined_saveTeam (db : Option String) : Disciplined (TeamHeap.saveTeam t db) s := by
  refine leads_bind (leads_acquire List.not_mem_nil) rfl ?_
  refine leads_bind (leads_name (by simp)) rfl ?_
  refine leads_bind (leads_read _) rfl ?_
  split
  · exact leads_release_return _
  · refine leads_bind (leads_id (by simp)) rfl ?_
    refine leads_bind (leads_write _) rfl ?_
    refine leads_bind (leads_id (by simp)) rfl ?_
    refine leads_bind (leads_write _) rfl ?_
    refine leads_bind (leads_id (by simp)) rfl ?_
    refine leads_bind (leads_name (by simp)) rfl ?_
    refine leads_bind (leads_getHashedPassword (by simp)) rfl ?_
    split
    · exact leads_release_return _
    · refine leads_bind (leads_access _) rfl ?_
      exact leads_release_return _

/-- `SaveTokenForTeam` does the same. -/
theorem disciplined_saveTokenForTeam (token : String) :
    Disciplined (TeamHeap.saveTokenForTeam token t) s := by
  refine leads_deferring List.not_mem_nil ?_
  split
  · exact leads_pure _
  · refine leads_bind (leads_id (by simp)) rfl ?_
    split
    · exact leads_pure _
    · refine leads_bind (leads_id (by simp)) rfl ?_
      exact leads_bind (leads_write _) rfl (leads_pure _)

/-- `DeleteTeam` does the same. -/
theorem disciplined_deleteTeam (tId : String) (db : Option String) :
    Disciplined (TeamHeap.deleteTeam tId db) s := by
  refine leads_deferring List.not_mem_nil ?_
  refine leads_bind (leads_read _) rfl ?_
  split
  · exact leads_panic
  · refine leads_bind (leads_name (by simp)) rfl ?_
    refine leads_bind (leads_read _) rfl ?_
    split
    · refine leads_bind (leads_name (by simp)) rfl ?_
      refine leads_bind (leads_write _) rfl ?_
      exact leads_bind (leads_write _) rfl (leads_pure _)
    · exact leads_bind (leads_write _) rfl (leads_pure _)

/-- `GetTeamByID` only reads. -/
theorem disciplined_getTeamByID (id : String) : Disciplined (TeamHeap.getTeamByID id) s := by
  refine leads_bind (leads_acquire List.not_mem_nil) rfl ?_
  refine leads_bind (leads_read _) rfl ?_
  split
  · exact leads_release_return _
  · exact leads_release_return _

/-- `GetTeamByUsername` only reads. -/
theorem disciplined_getTeamByUsername (username : String) :
    Disciplined (TeamHeap.getTeamByUsername username) s := by
  refine leads_bind (leads_acquire List.not_mem_nil) rfl ?_
  refine leads_bind (leads_read _) rfl ?_
  split
  · exact leads_release_return _
  · refine leads_bind (leads_read _) rfl ?_
    split
    · exact leads_release_return _
    · exact leads_release_return _

/-- The lock is kept for a team that is in the store. -/
theorem disciplined_getVPNConn_iff (teamid : String) :
    Disciplined (TeamHeap.getVPNConn teamid) s ↔ teamid ∉ s.teams := by
  rw [← GoMap.get?_eq_none]
  cases hteam : s.teams.get? teamid with
  | none =>
    refine iff_of_true ?_ rfl
    refine leads_bind (leads_acquire List.not_mem_nil) rfl ?_
    refine leads_bind (leads_read _) (congrArg some hteam) ?_
    exact leads_release_return _
  | some t =>
    refine iff_of_false (fun h => ?_) (Option.some_ne_none t)
    have hkept : Leads [] [(.store, .read)] (TeamHeap.getVPNConn teamid) s := by
      refine leads_bind (leads_acquire List.not_mem_nil) rfl ?_
      refine leads_bind (leads_read _) (congrArg some hteam) ?_
      exact leads_read _
    exact List.cons_ne_nil _ _ (hkept.unique h)

/-- `VerifyFlag` leaves the table of `TeamChallenges.verifyFlag`. -/
theorem verifyFlag_challenges (tag f : String) (now : Time) (db : Option String) :
    ((t.verifyFlag tag f now db s).state.deref t).exercises.challenges =
      ((s.deref t).exercises.challenges.verifyFlag tag f now db).1 := by
  have hupdate : ∀ team, (Function.update s.deref t team t).exercises.challenges =
      team.exercises.challenges := fun team =>
    congrArg (fun team => team.exercises.challenges) (Function.update_self t team s.deref)
  unfold TeamPtr.verifyFlag TeamChallenges.verifyFlag TeamPtr.get Locking.read
  rw [state_acquire_bind, state_access_bind]
  cases hchal : (s.deref t).exercises.challenges.challenges.get? f with
  | none =>
    simp only [hchal]
    rfl
  | some chal =>
    simp only [hchal]
    split
    · rfl
    · split
      · rfl
      · cases db <;> exact hupdate _

/-- The flag of an open challenge is unlocked twice when the service fails. -/
theorem disciplined_verifyFlag_iff (tag f : String) (now : Time) (db : Option String) :
    Disciplined (t.verifyFlag tag f now db) s ↔
      ((s.deref t).exercises.challenges.challenges.get? f = some ⟨tag, none⟩ → db = none) := by
  have hlock : Leads [] [(TeamMutex.team t, .write)] (acquire .write (.team t)) s :=
    leads_acquire List.not_mem_nil
  cases hchal : (s.deref t).exercises.challenges.challenges.get? f with
  | none =>
    -- The flag is unknown: the lock is taken, read under and released.
    refine iff_of_true ?_ fun h => nomatch h
    refine leads_bind hlock rfl ?_
    refine leads_bind (leads_read _) (congrArg some hchal) ?_
    exact leads_release_return _
  | some chal =>
    obtain ⟨chalTag, completedAt⟩ := chal
    by_cases hopen : chalTag = tag ∧ completedAt = none
    · obtain ⟨rfl, rfl⟩ := hopen
      cases db with
      | none =>
        -- The time is entered under the lock, which is released once.
        refine iff_of_true ?_ fun _ => rfl
        refine leads_bind hlock rfl ?_
        refine leads_bind (leads_read _) (congrArg some hchal) ?_
        simp only [ne_eq, not_true_eq_false, if_false]
        refine leads_bind (leads_access _) rfl ?_
        refine leads_bind (leads_bind (leads_read _) rfl (leads_pure _)) rfl ?_
        exact leads_release_return _
      | some err =>
        -- The branch of the failing service releases the lock, and the deferred call releases it
        -- again.
        refine iff_of_false ?_ fun h => nomatch h rfl
        refine Fails.not_leads ?_
        refine fails_bind_right hlock rfl ?_
        refine fails_bind_right (leads_read _) (congrArg some hchal) ?_
        simp only [ne_eq, not_true_eq_false, if_false]
        refine fails_bind_right (leads_access _) rfl ?_
        refine fails_bind_right (leads_bind (leads_read _) rfl (leads_pure _)) rfl ?_
        refine fails_bind_right leads_release rfl ?_
        exact fails_bind_left (fails_release List.not_mem_nil)
    · refine iff_of_true ?_ fun h => ?_
      -- A challenge that is not open is left as it is, under the lock.
      · refine leads_bind hlock rfl ?_
        refine leads_bind (leads_read _) (congrArg some hchal) ?_
        simp only
        split
        · exact leads_release_return _
        · split
          · exact leads_release_return _
          · next htag hdone => exact absurd ⟨not_not.mp htag, not_not.mp hdone⟩ hopen
      · obtain ⟨rfl, rfl⟩ := TeamChallenge.mk.inj (Option.some.inj h)
        exact absurd ⟨rfl, rfl⟩ hopen

/-- `t.ID()` locks the mutex of the team, so it must not be held. -/
theorem fails_id (h : .team t ∈ held.map Prod.fst) : Fails held t.id s :=
  fails_bind_left (fails_acquire h)

/-- `UpdateTeamAccessed` calls `ID` while it holds the lock of the team. -/
theorem not_disciplined_updateTeamAccessed (tm : Time) (db : Option String) :
    ¬ Disciplined (t.updateTeamAccessed tm db) s := by
  refine Fails.not_leads ?_
  refine fails_bind_right (leads_acquire List.not_mem_nil) rfl ?_
  exact fails_bind_left (fails_id (by simp))

/-- `UpdatePass` returns its lock, except at the error of `getEventID`. -/
theorem disciplined_updatePass_iff (pass passRepeat hPass : String)
    (getEventID db : Option String) :
    Disciplined (t.updatePass pass passRepeat hPass getEventID db) s ↔
      (pass = passRepeat → getEventID ≠ none) := by
  have hlock : Leads [] [(TeamMutex.team t, .read)] (acquire .read (.team t)) s :=
    leads_acquire List.not_mem_nil
  by_cases hpass : pass = passRepeat
  · cases getEventID with
    | some err =>
      refine iff_of_true ?_ fun _ h => nomatch h
      refine leads_bind hlock rfl ?_
      simp only [hpass, ne_eq, not_true_eq_false, if_false]
      exact leads_release_return _
    | none =>
      refine iff_of_false ?_ fun h => h hpass rfl
      refine Fails.not_leads ?_
      refine fails_bind_right hlock rfl ?_
      simp only [hpass, ne_eq, not_true_eq_false, if_false]
      refine fails_bind_right (leads_access _) rfl ?_
      exact fails_bind_left (fails_id (by simp))
  · refine iff_of_true ?_ fun h => absurd h hpass
    refine leads_bind hlock rfl ?_
    simp only [ne_eq, hpass, not_false_eq_true, if_true]
    exact leads_release_return _

end

/-! ### All methods -/

/-- The methods, with their arguments and the answers of the store service. -/
inductive TeamMethod where
  | isTeamSolvedChallenge (t : TeamPtr) (tag : String)
  | getDisabledChals (t : TeamPtr)
  | getChildChallenges (t : TeamPtr) (parentTag : String)
  | getDisabledChalMap (t : TeamPtr)
  | updateAllChallenges (t : TeamPtr) (challenges : GoMap String (List String))
  | manageDisabledChals (t : TeamPtr) (parentTag : String)
  | addDisabledChal (t : TeamPtr) (parentTag : String)
  | setVPNConn (t : TeamPtr) (clientConfig : List String)
  | setVPNKeys (t : TeamPtr) (id : Nat) (key : String)
  | getVPNKeys (t : TeamPtr)
  | getTeamVPNConn (t : TeamPtr)
  | setLabInfo (t : TeamPtr) (labSubnet : String)
  | setHostsInfo (t : TeamPtr) (hostInfo : List String)
  | getHostsInfo (t : TeamPtr)
  | getLabInfo (t : TeamPtr)
  | isPasswordEqual (t : TeamPtr) (compare : String → String → Bool) (pass : String)
  | addChallenge (t : TeamPtr) (c : Challenge)
  | verifyFlag (t : TeamPtr) (tag f : String) (now : Time) (db : Option String)
  | updateTeamAccessed (t : TeamPtr) (tm : Time) (db : Option String)
  | updatePass (t : TeamPtr) (pass passRepeat hPass : String) (getEventID db : Option String)
  | updateTeamSolvedChallenges (t : TeamPtr) (db : Option String)
  | id (t : TeamPtr)
  | lastAccessTime (t : TeamPtr)
  | email (t : TeamPtr)
  | getHashedPassword (t : TeamPtr)
  | name (t : TeamPtr)
  | isLabAssigned (t : TeamPtr)
  | correctedAssignedLab (t : TeamPtr)
  | getTeamByToken (token : String)
  | saveTeam (t : TeamPtr) (db : Option String)
  | saveTokenForTeam (token : String) (t : TeamPtr)
  | deleteTeam (tId : String) (db : Option String)
  | getTeamByID (id : String)
  | getVPNConn (teamid : String)
  | getTeamByUsername (username : String)
  | getTeams

/-- A call of the method keeps the lock discipline. -/
def TeamMethod.KeepsDiscipline (s : TeamHeap) : TeamMethod → Prop
  | .isTeamSolvedChallenge t tag => Disciplined (t.isTeamSolvedChallenge tag) s
  | .getDisabledChals t => Disciplined t.getDisabledChals s
  | .getChildChallenges t parentTag => Disciplined (t.getChildChallenges parentTag) s
  | .getDisabledChalMap t => Disciplined t.getDisabledChalMap s
  | .updateAllChallenges t challenges => Disciplined (t.updateAllChallenges challenges) s
  | .manageDisabledChals t parentTag => Disciplined (t.manageDisabledChals parentTag) s
  | .addDisabledChal t parentTag => Disciplined (t.addDisabledChal parentTag) s
  | .setVPNConn t clientConfig => Disciplined (t.setVPNConn clientConfig) s
  | .setVPNKeys t i key => Disciplined (t.setVPNKeys i key) s
  | .getVPNKeys t => Disciplined t.getVPNKeys s
  | .getTeamVPNConn t => Disciplined t.getVPNConn s
  | .setLabInfo t labSubnet => Disciplined (t.setLabInfo labSubnet) s
  | .setHostsInfo t hostInfo => Disciplined (t.setHostsInfo hostInfo) s
  | .getHostsInfo t => Disciplined t.getHostsInfo s
  | .getLabInfo t => Disciplined t.getLabInfo s
  | .isPasswordEqual t compare pass => Disciplined (t.isPasswordEqual compare pass) s
  | .addChallenge t c => Disciplined (t.addChallenge c) s
  | .verifyFlag t tag f now db => Disciplined (t.verifyFlag tag f now db) s
  | .updateTeamAccessed t tm db => Disciplined (t.updateTeamAccessed tm db) s
  | .updatePass t pass passRepeat hPass getEventID db =>
    Disciplined (t.updatePass pass passRepeat hPass getEventID db) s
  | .updateTeamSolvedChallenges t db => Disciplined (t.updateTeamSolvedChallenges db) s
  | .id t => Disciplined t.id s
  | .lastAccessTime t => Disciplined t.lastAccessTime s
  | .email t => Disciplined t.email s
  | .getHashedPassword t => Disciplined t.getHashedPassword s
  | .name t => Disciplined t.name s
  | .isLabAssigned t => Disciplined t.isLabAssigned s
  | .correctedAssignedLab t => Disciplined t.correctedAssignedLab s
  | .getTeamByToken token => Disciplined (TeamHeap.getTeamByToken token) s
  | .saveTeam t db => Disciplined (TeamHeap.saveTeam t db) s
  | .saveTokenForTeam token t => Disciplined (TeamHeap.saveTokenForTeam token t) s
  | .deleteTeam tId db => Disciplined (TeamHeap.deleteTeam tId db) s
  | .getTeamByID tid => Disciplined (TeamHeap.getTeamByID tid) s
  | .getVPNConn teamid => Disciplined (TeamHeap.getVPNConn teamid) s
  | .getTeamByUsername username => Disciplined (TeamHeap.getTeamByUsername username) s
  | .getTeams => Disciplined TeamHeap.getTeams s

/-- The call does not come to one of the four places. -/
def TeamMethod.Avoids (s : TeamHeap) : TeamMethod → Prop
  | .verifyFlag t tag f _ db =>
    (s.deref t).exercises.challenges.challenges.get? f = some ⟨tag, none⟩ → db = none
  | .updateTeamAccessed _ _ _ => False
  | .updatePass _ pass passRepeat _ getEventID _ => pass = passRepeat → getEventID ≠ none
  | .getVPNConn teamid => teamid ∉ s.teams
  | _ => True

/-- Each method keeps the lock discipline, but for `GetVPNConn` of a known team, `VerifyFlag` with
an open flag and an error of the service, `UpdateTeamAccessed`, and `UpdatePass` when it comes
to the request with the new password. -/
theorem keepsDiscipline_iff (s : TeamHeap) (method : TeamMethod) :
    method.KeepsDiscipline s ↔ method.Avoids s := by
  cases method with
  | getChildChallenges t parentTag => exact iff_of_true (leads_read _) trivial
  | setVPNConn t clientConfig => exact iff_of_true (disciplined_set _ _ _) trivial
  | setLabInfo t labSubnet => exact iff_of_true (disciplined_set _ _ _) trivial
  | isPasswordEqual t compare pass => exact iff_of_true (disciplined_section _ _ _ _) trivial
  | addChallenge t c => exact iff_of_true (disciplined_addChallenge c) trivial
  | verifyFlag t tag f now db => exact disciplined_verifyFlag_iff tag f now db
  | updateTeamAccessed t tm db =>
    exact iff_of_false (not_disciplined_updateTeamAccessed tm db) not_false
  | updatePass t pass passRepeat hPass getEventID db =>
    exact disciplined_updatePass_iff pass passRepeat hPass getEventID db
  | updateTeamSolvedChallenges t db =>
    exact iff_of_true (leads_bind (leads_read _) rfl (leads_pure _)) trivial
  | id t => exact iff_of_true (disciplined_section _ _ _ _) trivial
  | email t => exact iff_of_true (disciplined_section _ _ _ _) trivial
  | saveTeam t db => exact iff_of_true (disciplined_saveTeam db) trivial
  | saveTokenForTeam token t => exact iff_of_true (disciplined_saveTokenForTeam token) trivial
  | deleteTeam tId db => exact iff_of_true (disciplined_deleteTeam tId db) trivial
  | getTeamByID tid => exact iff_of_true (disciplined_getTeamByID tid) trivial
  | getVPNConn teamid => exact disciplined_getVPNConn_iff teamid
  | getTeamByUsername username => exact iff_of_true (disciplined_getTeamByUsername username) trivial
  | getTeams => exact iff_of_true (disciplined_section _ _ _ _) trivial
  | _ => exact iff_of_true (disciplined_deferring _ _ _) trivial

/-- A store with one team. -/
def oneTeam : TeamHeap where
  teams := GoMap.set ∅ "ab12cd34" 0
  tokens := ∅
  names := GoMap.set ∅ "team" "ab12cd34"
  deref := fun _ =>
    { dbc := true, id := "ab12cd34", email := "", name := "team", hashedPassword := ""
      lastAccess := .zero, exercises := newTeamExercises [] ∅ ∅, vpnKeys := ∅, vpnConf := []
      labSubnet := "", isLabAssigned := false, hostsInfo := [] }

/-- `GetVPNConn` of its team does not unlock the store. -/
theorem not_keepsDiscipline_oneTeam :
    ¬ ∀ (s : TeamHeap) (method : TeamMethod), method.KeepsDiscipline s := by
  intro h
  have hkept : Disciplined (TeamHeap.getVPNConn "ab12cd34") oneTeam :=
    h oneTeam (.getVPNConn "ab12cd34")
  revert hkept
  decide

end Haaukins.Store
