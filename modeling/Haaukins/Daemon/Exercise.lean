import Haaukins.Amigo.FrontendData
import Haaukins.Lab.Lab
import Haaukins.Store.TeamExercises

/-!
# `Haaukins.Daemon.Exercise`: `AddChallenge` on a running event (`daemon/exercise.go`)

`EventState` has what `daemon.AddChallenge` reads and writes. A lab is a number, as a pointer
is, and `env` gives its environment. So a lab that is in `hub.Labs()` and assigned to a team is
one lab, and both loops of the request work on the same environment.

* `beginAddChallenge` is the request up to `GetFrontendData`, with the loop over `hub.Labs()`.
  `finishAddChallenge` is the rest, with the loop over the assigned labs and the updates of the
  store service, of the lab host and of the frontend.
* The answers of the services and the flags that are drawn are part of the request.
* A team that the team store does not have is a nil pointer, and the request panics: the
  result is `none`.
-/

set_option autoImplicit false

namespace Haaukins.Daemon

open Amigo (FrontendData newFrontendData)
open Exercise (Environment)
open Lab (LabHost)
open Store (ChildrenChalConfig LabConfig TeamExercises)

/-- The state of one event. -/
structure EventState where
  /-- `hub.Labs()`. -/
  labs : List Nat
  env : Nat → Environment
  /-- `ev.labs`, the labs of the teams. -/
  assigned : GoMap String Nat
  teams : GoMap String TeamExercises
  /-- `EventConfig.AllChallenges`. -/
  allChallenges : GoMap String (List String)
  /-- `EventConfig.DisabledChallenges`. -/
  disabledChallenges : GoMap String (List String)
  labHost : LabHost
  /-- The exercises of the event in the store service. -/
  exercises : String
  /-- `am.challenges`. -/
  challenges : List ChildrenChalConfig
  /-- The `FrontendData` of each call of `Handler`. The last one is `am.FrontEndData`. -/
  frontends : List FrontendData

/-- `pb.AddChallengeRequest`, with the answers of the services that it asks. -/
structure AddChallengeRequest where
  challengeTag : List String
  /-- The answer of `GetExerciseByTags`. -/
  getExerciseByTags : Except String (List Store.Exercise)
  /-- The error of `UpdateExercises`. -/
  updateErr : Option String
  /-- The flag that is drawn in a lab for a child of an exercise. -/
  newFlag : Nat → String → Nat → Nat → String

/-- What the request has found when it has `frontendData`. -/
structure AddChallengeCall where
  exers : List Store.Exercise
  childrenChalTags : GoMap String (List String)
  addChalError : Option String
  /-- The number of the `FrontendData`. -/
  frontendData : Nat

/-- The event of `CreateEventFromConfig`, after its first `Handler`. `exers` is the answer of the
exercise service, and `teamsDB` has the ids of the stored teams with their solved challenges. -/
def newEventState (exercises disabledExercises : List String) (exers : List Store.Exercise)
    (teamsDB : List (String × List (String × String))) : EventState :=
  let labConf : LabConfig := { exercises := exers, disabledExercises := disabledExercises }
  let children (tags : List String) : GoMap String (List String) :=
    tags.foldl (fun m e => m.set e (labConf.getChildrenChallenges e)) ∅
  { labs := []
    env := fun _ => .new
    assigned := ∅
    teams := teamsDB.foldl (fun m team => m.set team.1
      (Store.newTeamExercises team.2 (children disabledExercises) (children exercises))) ∅
    allChallenges := children exercises
    disabledChallenges := children disabledExercises
    labHost := { conf := labConf }
    exercises := ",".intercalate exercises
    challenges := labConf.flags
    frontends := [newFrontendData labConf.flags] }

/-- The text of the error for a challenge that the event has. -/
def alreadyExistsErr (challengeTags : List String) : String :=
  "Requested challenge(s) [" ++ " ".intercalate challengeTags ++
    "] is/are already exists on event"

/-- The map `childrenChalTags`. -/
def childrenChalTags (challengeTags : List String) (exers : List Store.Exercise) :
    GoMap String (List String) :=
  exers.foldl (fun m i => if i.tag ∈ challengeTags then m.set i.tag i.childTags else m) ∅

/-- The loop over `ev.GetHub().Labs()`. -/
def addToLabs (newFlag : Nat → String → Nat → Nat → String) (exers : List Store.Exercise) :
    (Nat → Environment) → Option String → List Nat → (Nat → Environment) × Option String
  | env, addChalError, [] => (env, addChalError)
  | env, addChalError, lb :: labs =>
    match Lab.addChallenge (newFlag lb) (env lb) exers with
    -- `addChalError` keeps the last error, and the loop goes on.
    | (ee, err) => addToLabs newFlag exers (Function.update env lb ee) (err <|> addChalError) labs

/-- The loop over `ev.GetAssignedLabs()`. -/
def addToAssigned (newFlag : Nat → String → Nat → Nat → String) (exers : List Store.Exercise)
    (childrenChalTags : GoMap String (List String)) :
    EventState → Option String → List (String × Nat) → Option (EventState × Option String)
  | s, addChalError, [] => some (s, addChalError)
  | s, addChalError, (tid, l) :: rest =>
    match Lab.addChallenge (newFlag l) (s.env l) exers, s.teams.get? tid with
    | (ee, err), some t =>
      let t := (t.addChallenges ee.challenges).updateAllChallenges childrenChalTags
      addToAssigned newFlag exers childrenChalTags
        { s with env := Function.update s.env l ee, teams := s.teams.set tid t }
        (err <|> addChalError) rest
    -- `t` is nil, and the error of `GetTeamById` does not stop the round.
    | _, none => none

namespace EventState

variable (s : EventState)

/-- `AddChallenge` up to `ev.GetFrontendData()`. -/
def beginAddChallenge (req : AddChallengeRequest) :
    Except String (EventState × AddChallengeCall) :=
  -- The guard knows the exercises of the event's creation only.
  if ∃ i ∈ req.challengeTag, i ∈ s.allChallenges then
    .error (alreadyExistsErr req.challengeTag)
  else
    match req.getExerciseByTags with
    | .error err => .error ("[exercises-service] error " ++ err)
    | .ok exers =>
      let (env, addChalError) := addToLabs req.newFlag exers s.env none s.labs
      .ok ({ s with env := env },
        { exers := exers
          childrenChalTags := Daemon.childrenChalTags req.challengeTag exers
          addChalError := addChalError
          frontendData := s.frontends.length - 1 })

/-- `AddChallenge` from `ev.GetFrontendData()` on. -/
def finishAddChallenge (req : AddChallengeRequest) (call : AddChallengeCall) :
    Option (EventState × Option String) :=
  (addToAssigned req.newFlag call.exers call.childrenChalTags s call.addChalError
    s.assigned.pairs).map fun (s, addChalError) =>
      match req.updateErr with
      -- The labs and the teams keep what the loops added.
      | some err => (s, some err)
      | none =>
        -- The error of a lab is returned at the end, after all updates.
        ({ s with
            exercises := s.exercises ++ ("," ++ ",".intercalate req.challengeTag)
            labHost := s.labHost.updateExercises call.exers
            frontends := s.frontends.modify call.frontendData fun fd =>
              call.exers.foldl (fun fd fl => fd.updateChallenges fl.flags) fd },
          addChalError)

/-- `daemon.AddChallenge`. -/
def addChallenge (req : AddChallengeRequest) : Option (EventState × Option String) :=
  match s.beginAddChallenge req with
  | .error err => some (s, some err)
  | .ok (s, call) => s.finishAddChallenge req call

/-! ### What a request changes -/

/-- The exercises with which the request updates the store service, the lab host and the
frontend. -/
def updates (req : AddChallengeRequest) : Option (List Store.Exercise) :=
  if ∃ i ∈ req.challengeTag, i ∈ s.allChallenges then none
  else
    match req.getExerciseByTags, req.updateErr with
    | .ok exers, none => some exers
    | _, _ => none

end EventState

/-- The loop over the assigned labs changes environments and teams only. -/
theorem addToAssigned_frame {newFlag : Nat → String → Nat → Nat → String}
    {exers : List Store.Exercise} {childrenChalTags : GoMap String (List String)}
    {rest : List (String × Nat)} {s s' : EventState} {addChalError err : Option String}
    (h : addToAssigned newFlag exers childrenChalTags s addChalError rest = some (s', err)) :
    s' = { s with env := s'.env, teams := s'.teams } := by
  induction rest generalizing s addChalError with
  | nil =>
    obtain ⟨rfl, -⟩ := Prod.mk.inj (Option.some.inj h)
    rfl
  | cons entry rest ih =>
    obtain ⟨tid, l⟩ := entry
    rw [addToAssigned] at h
    split at h
    · have hrest := ih h
      exact hrest
    · -- The request ended with a nil team.
      cases h

namespace EventState

variable {s s' : EventState} {req : AddChallengeRequest} {call : AddChallengeCall}
  {err : Option String}

/-- The request returns before its first loop, or it has run it. -/
theorem beginAddChallenge_cases (s : EventState) (req : AddChallengeRequest) :
    (∃ text, s.beginAddChallenge req = .error text ∧
      ((∃ i ∈ req.challengeTag, i ∈ s.allChallenges) ∨
        ∃ err, req.getExerciseByTags = .error err)) ∨
    ∃ exers, (¬ ∃ i ∈ req.challengeTag, i ∈ s.allChallenges) ∧
      req.getExerciseByTags = .ok exers ∧
      s.beginAddChallenge req = .ok
        ({ s with env := (addToLabs req.newFlag exers s.env none s.labs).1 },
          { exers := exers
            childrenChalTags := Daemon.childrenChalTags req.challengeTag exers
            addChalError := (addToLabs req.newFlag exers s.env none s.labs).2
            frontendData := s.frontends.length - 1 }) := by
  unfold beginAddChallenge
  by_cases hguard : ∃ i ∈ req.challengeTag, i ∈ s.allChallenges
  · exact .inl ⟨_, by rw [if_pos hguard], .inl hguard⟩
  · cases hexers : req.getExerciseByTags with
    | error text => exact .inl ⟨_, by rw [if_neg hguard], .inr ⟨text, rfl⟩⟩
    | ok exers => exact .inr ⟨exers, hguard, rfl, by rw [if_neg hguard]⟩

/-- What a request that begins has met. -/
theorem beginAddChallenge_eq_ok (h : s.beginAddChallenge req = .ok (s', call)) :
    (∀ i ∈ req.challengeTag, i ∉ s.allChallenges) ∧
      req.getExerciseByTags = .ok call.exers ∧
      call.frontendData = s.frontends.length - 1 ∧
      s' = { s with env := s'.env } := by
  unfold beginAddChallenge at h
  split at h
  · cases h
  · next hguard =>
    split at h
    · cases h
    · next exers hexers =>
      obtain ⟨rfl, rfl⟩ := Prod.mk.inj (Except.ok.inj h)
      exact ⟨by simpa using hguard, hexers, rfl, rfl⟩

/-- The end of a request stops after its loop, or it updates what the loop has left. -/
theorem finishAddChallenge_cases (h : s.finishAddChallenge req call = some (s', err)) :
    ∃ s₁ err₁, addToAssigned req.newFlag call.exers call.childrenChalTags s call.addChalError
        s.assigned.pairs = some (s₁, err₁) ∧
      ((∃ text, req.updateErr = some text ∧ s' = s₁ ∧ err = some text) ∨
        (req.updateErr = none ∧ err = err₁ ∧
          s' = { s₁ with
            exercises := s₁.exercises ++ ("," ++ ",".intercalate req.challengeTag)
            labHost := s₁.labHost.updateExercises call.exers
            frontends := s₁.frontends.modify call.frontendData fun fd =>
              call.exers.foldl (fun fd fl => fd.updateChallenges fl.flags) fd })) := by
  obtain ⟨⟨s₁, err₁⟩, hrun, hs'⟩ := Option.map_eq_some_iff.mp h
  refine ⟨s₁, err₁, hrun, ?_⟩
  cases hupdate : req.updateErr with
  | some text =>
    simp only [hupdate] at hs'
    obtain ⟨rfl, rfl⟩ := Prod.mk.inj hs'
    exact .inl ⟨text, rfl, rfl, rfl⟩
  | none =>
    simp only [hupdate] at hs'
    obtain ⟨rfl, rfl⟩ := Prod.mk.inj hs'
    exact .inr ⟨rfl, rfl, rfl⟩

/-- What the end of a request does, apart from the labs and the teams. -/
theorem finishAddChallenge_eq_some (h : s.finishAddChallenge req call = some (s', err)) :
    s' = { s with
      env := s'.env
      teams := s'.teams
      exercises := match req.updateErr with
        | some _ => s.exercises
        | none => s.exercises ++ ("," ++ ",".intercalate req.challengeTag)
      labHost := match req.updateErr with
        | some _ => s.labHost
        | none => s.labHost.updateExercises call.exers
      frontends := match req.updateErr with
        | some _ => s.frontends
        | none => s.frontends.modify call.frontendData fun fd =>
            call.exers.foldl (fun fd fl => fd.updateChallenges fl.flags) fd } := by
  obtain ⟨s₁, err₁, hrun, hend⟩ := finishAddChallenge_cases h
  have hframe := addToAssigned_frame hrun
  rcases hend with ⟨text, hupdate, rfl, -⟩ | ⟨hupdate, -, rfl⟩
  · rw [hupdate]
    exact hframe
  · rw [hupdate, hframe]

/-- What a request does, apart from the labs, the teams and the frontend. -/
theorem addChallenge_eq_some (h : s.addChallenge req = some (s', err)) :
    s'.allChallenges = s.allChallenges ∧
      match s.updates req with
      | none => s'.labHost = s.labHost ∧ s'.exercises = s.exercises
      | some exers => s'.labHost = s.labHost.updateExercises exers ∧
          s'.exercises = s.exercises ++ ("," ++ ",".intercalate req.challengeTag) := by
  unfold addChallenge at h
  split at h
  · next e hbegin =>
    -- The request returned before its second loop.
    obtain ⟨rfl, -⟩ := Prod.mk.inj (Option.some.inj h)
    have hnone : s.updates req = none := by
      unfold updates
      unfold beginAddChallenge at hbegin
      split
      · rfl
      · next hguard =>
        rw [if_neg hguard] at hbegin
        split at hbegin
        · next hexers => rw [hexers]
        · cases hbegin
    rw [hnone]
    exact ⟨rfl, rfl, rfl⟩
  · next s₁ call hbegin =>
    obtain ⟨hguard, hexers, -, hs₁⟩ := beginAddChallenge_eq_ok hbegin
    have hs' := finishAddChallenge_eq_some h
    have hnot : ¬ ∃ i ∈ req.challengeTag, i ∈ s.allChallenges := by simpa using hguard
    rw [hs', hs₁, updates, if_neg hnot, hexers]
    cases req.updateErr with
    | some e => exact ⟨rfl, rfl, rfl⟩
    | none => exact ⟨rfl, rfl, rfl⟩

end EventState

end Haaukins.Daemon
