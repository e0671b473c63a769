import Haaukins.Guacamole.Event

/-!
# `Haaukins.Daemon.Team`: the deletion of a team (`daemon/team.go`)

`DeleteTeam` looks up the lab of the team, restarts it, starts two goroutines that hand it to
`hub.Update`, and only then deletes the team from its event. The lab map of the event keeps
its entry. The function returns the lab that goes to `hub.Update`.
-/

set_option autoImplicit false

namespace Haaukins.Daemon

open Guacamole

/-- The user of a `DeleteTeam` request. -/
structure DeletingUser where
  username : String
  superUser : Bool

/-- `DeleteTeamRequest`. -/
structure DeleteTeamRequest where
  evTag : String
  teamId : String

/-- `usr.SuperUser || ev.GetConfig().CreatedBy == usr.Username`. -/
def DeletingUser.mayDelete (usr : DeletingUser) (ev : Event) : Bool :=
  usr.superUser || ev.createdBy == usr.username

/-- `DeleteTeam`, where `restart` is the error of `tLab.Restart` and `db` the one of the store
service. -/
def deleteTeam (ev : Event) (usr : DeletingUser) (req : DeleteTeamRequest)
    (restart db : Option String) : Option Nat × Event × Option String :=
  if !usr.mayDelete ev then (none, ev, some "No privileges to delete team ")
  else
    match ev.getLabByTeam req.teamId with
    | none =>
      (none, ev, some ("lab could not be found for team: [ " ++ req.teamId ++ " ] on event [ " ++
        req.evTag ++ " ]"))
    | some tLab =>
      match restart with
      | some err => (none, ev, some err)
      | none =>
        let (ev, err) := ev.deleteTeam req.teamId db
        (some tLab, ev, err)

/-- The request comes to the release of the lab `l`. -/
def Releases (ev : Event) (usr : DeletingUser) (req : DeleteTeamRequest)
    (restart : Option String) (l : Nat) : Prop :=
  usr.mayDelete ev = true ∧ restart = none ∧ ev.labs.get? req.teamId = some l

/-- `DeleteTeam` either changes nothing, or releases the lab of the team and deletes the
team. -/
theorem deleteTeam_cases (ev : Event) (usr : DeletingUser) (req : DeleteTeamRequest)
    (restart db : Option String) :
    ((∀ l, ¬ Releases ev usr req restart l) ∧
      ∃ err, deleteTeam ev usr req restart db = (none, ev, err)) ∨
    ∃ l err, Releases ev usr req restart l ∧ deleteTeam ev usr req restart db =
      (some l, { ev with store := (ev.store.deleteTeam req.teamId db).1 }, err) := by
  unfold deleteTeam Releases Event.getLabByTeam
  split
  · next hnot => exact .inl ⟨by simp_all, _, rfl⟩
  split
  · next hnone => exact .inl ⟨by simp [hnone], _, rfl⟩
  · next l hl =>
    split
    · next err => exact .inl ⟨by simp, _, rfl⟩
    · refine .inr ⟨l, (ev.deleteTeam req.teamId db).2, ⟨by simp_all, rfl, hl⟩, ?_⟩
      rw [← Event.deleteTeam_eq]

end Haaukins.Daemon
