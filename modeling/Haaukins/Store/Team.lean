import Haaukins.Lib.GoMap

/-!
# `Haaukins.Store.Team`: the teams of an event (`store/team.go`)

The team store of an event keeps the teams by their ids, and the ids by the names of the
teams. The answers of the store service, `dbc.AddTeam` and `dbc.DeleteTeam`, are arguments:
both functions change the maps before they ask the service, and its error does not undo this.

* A team keeps the fields that the assignment of labs and the login read. The challenges of
  a team have a module of their own.
* The tokens of the teams are in `Haaukins.Store.TeamIndexes`. The requests of the event find
  their team by the id in their token and never by `GetTeamByToken`.
-/

set_option autoImplicit false

namespace Haaukins.Store

/-- `UnknownTeamErr`. -/
def unknownTeamErr : String := "Unknown team"

/-- `ErrTeamAlreadyExist`. -/
def errTeamAlreadyExist : String := "Team is already exists"

/-- `Team`. -/
structure Team where
  id : String
  name : String
  isLabAssigned : Bool
  /-- `dbc` is not nil. -/
  dbc : Bool
  deriving DecidableEq, Repr

/-- `NewTeam`, for the trimmed name and the id that it chooses, as a signup calls it: `dbc` is
nil. -/
def newTeam (id name : String) : Team where
  id := id
  name := name
  isLabAssigned := false
  dbc := false

/-- `teamstore`. Each team stands under its own id. -/
structure TeamStore where
  teams : GoMap String Team
  names : GoMap String String
  keyed : GoMap.Keyed Team.id teams

namespace TeamStore

variable (es : TeamStore)

/-- `NewTeamStore`. -/
def new : TeamStore := { teams := ∅, names := ∅, keyed := GoMap.keyed_empty }

/-- `SaveTeam`, where `db` is the error of `AddTeam`. -/
def saveTeam (t : Team) (db : Option String) : TeamStore × Option String :=
  if t.name ∈ es.names then (es, some errTeamAlreadyExist)
  else
    match db with
    | some err =>
      ({ teams := es.teams.set t.id t
         names := es.names.set t.name t.id
         keyed := es.keyed.set rfl }, some err)
    | none =>
      -- `t.dbc = es.dbc` comes after the call. It changes the team that the map points to.
      ({ teams := es.teams.set t.id { t with dbc := true }
         names := es.names.set t.name t.id
         keyed := es.keyed.set rfl }, none)

/-- `GetTeamByID`. -/
def getTeamByID (id : String) : Except String Team :=
  match es.teams.get? id with
  | none => .error ("GetTeamByID function error " ++ unknownTeamErr)
  | some t => .ok t

/-- `GetTeamByUsername`. -/
def getTeamByUsername (username : String) : Except String Team :=
  match (es.names.get? username).bind es.teams.get? with
  | none => .error ("GetTeamByUsername function error " ++ unknownTeamErr)
  | some t => .ok t

/-- `DeleteTeam`, where `db` is the error of `DeleteTeam` of the service. For an unknown id it
panics. Its caller, `event.DeleteTeam`, has found the team with `GetTeamByID`. -/
def deleteTeam (tId : String) (db : Option String) : TeamStore × Option String :=
  match es.teams.get? tId with
  -- `team.Name()` is called on nil here.
  | none => (es, db)
  | some team =>
    ({ teams := es.teams.delete tId
       names := es.names.delete team.name
       keyed := es.keyed.delete tId }, db)

/-- `CorrectedAssignedLab` on the team with this id. A team that has left the store keeps
its flag to itself. -/
def correctedAssignedLab (id : String) : TeamStore :=
  match h : es.teams.get? id with
  | none => es
  | some t =>
    { es with
        teams := es.teams.set id { t with isLabAssigned := true }
        keyed := es.keyed.set (v := { t with isLabAssigned := true }) (es.keyed id t h) }

variable {es} {id tId : String} {t : Team} {db : Option String}

/-- `SaveTeam` takes a team with a new name, also when its id is taken. -/
theorem get?_saveTeam :
    (es.saveTeam t db).1.teams.get? id =
      if t.name ∉ es.names ∧ id = t.id then some { t with dbc := t.dbc || db.isNone }
      else es.teams.get? id := by
  unfold saveTeam
  split
  · next h => simp [h]
  · next h => cases db <;> simp [h, GoMap.get?_set]

/-- A name that is taken keeps its team. -/
theorem names_saveTeam :
    (es.saveTeam t db).1.names =
      if t.name ∈ es.names then es.names else es.names.set t.name t.id := by
  unfold saveTeam
  split
  · rfl
  · cases db <;> rfl

/-- `SaveTeam` adds a team exactly when both its name and its id are new. -/
theorem size_saveTeam :
    (es.saveTeam t db).1.teams.size =
      if t.name ∉ es.names ∧ t.id ∉ es.teams then es.teams.size + 1 else es.teams.size := by
  have hset : ∀ t' : Team, (es.teams.set t.id t').size =
      if t.id ∉ es.teams then es.teams.size + 1 else es.teams.size := by
    intro t'
    split
    · next hid => exact GoMap.size_set_of_notMem hid t'
    · next hid => exact GoMap.size_set_of_mem (not_not.mp hid) t'
  unfold saveTeam
  split
  · next hname => simp [hname]
  · next hname => cases db <;> simp [hname, hset]

/-- No team is added by a deletion. -/
theorem size_deleteTeam_le : (es.deleteTeam tId db).1.teams.size ≤ es.teams.size := by
  unfold deleteTeam
  split
  · exact le_rfl
  · exact GoMap.size_delete_le _ _

/-- Only the team of the id is gone. -/
theorem get?_deleteTeam :
    (es.deleteTeam tId db).1.teams.get? id = if id = tId then none else es.teams.get? id := by
  unfold deleteTeam
  split
  · next h =>
    split
    · next heq => exact heq ▸ h
    · rfl
  · exact GoMap.get?_delete _ _ _

/-- The error of the service is the one of `DeleteTeam`. -/
theorem deleteTeam_snd : (es.deleteTeam tId db).2 = db := by
  unfold deleteTeam
  split
  · rfl
  · rfl

/-- The ids that are left. -/
theorem mem_deleteTeam : id ∈ (es.deleteTeam tId db).1.teams ↔ id ≠ tId ∧ id ∈ es.teams := by
  rw [← not_iff_not, ← GoMap.get?_eq_none, get?_deleteTeam]
  split
  · next h => simp [h]
  · next h => simp [h, GoMap.get?_eq_none]

/-- Only the mark of the one team is changed. -/
theorem get?_correctedAssignedLab :
    (es.correctedAssignedLab tId).teams.get? id =
      if id = tId then (es.teams.get? id).map fun t => { t with isLabAssigned := true }
      else es.teams.get? id := by
  unfold correctedAssignedLab
  split
  · next h =>
    split
    · next heq => simp [heq, h]
    · rfl
  · next t h =>
    simp only [GoMap.get?_set]
    split
    · next heq => simp [heq, h]
    · rfl

/-- No team comes or goes. -/
theorem mem_correctedAssignedLab :
    id ∈ (es.correctedAssignedLab tId).teams ↔ id ∈ es.teams := by
  rw [← not_iff_not, ← GoMap.get?_eq_none, get?_correctedAssignedLab, ← GoMap.get?_eq_none]
  split
  · exact Option.map_eq_none_iff
  · rfl

end TeamStore

end Haaukins.Store
