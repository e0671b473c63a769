import Haaukins.Lib.Machine
import Haaukins.Daemon.ResetExercise

/-!
# `Haaukins.Daemon.ManagedEvent`: an event with the requests to its machines

A `ManagedEvent` is an event with the labs that its hub has made and the stops that wait after a
solved challenge. Each request is one step. The hub makes a lab, starts it and enters it into
`hub.Labs()` in two steps, so a request can come between them, and a lab is assigned once.

* `SameSetup` collects what the requests of teams and of the daemon leave alone: the owners of
  the labs, and the marks of the teams that have no lab.
* `Managed` is the invariant. A team that has no lab, the event and all labs have the same
  disabled challenges.
-/

set_option autoImplicit false

namespace Haaukins.Daemon

open Amigo (AllSolved TeamLab getParentChallengeTag)
open Exercise (Environment)
open Store (TeamExercises VerifyErr newTeamExercises)

/-- What the handlers of Amigo depend on. -/
structure AmigoConf where
  /-- `am.recaptcha.secret` is not empty. -/
  recaptcha : Bool
  /-- `unicode.IsDigit`. -/
  isDigit : Char → Bool

/-- An event with the state of its hub and the goroutines of `handleFlagVerify`. -/
structure ManagedEvent where
  event : EventState
  /-- The number of labs that the hub has made. -/
  created : Nat
  /-- The teams and parent tags of the goroutines that have not run yet. -/
  solved : List (String × String)

/-- A step of the hub, of a team or of the daemon. -/
inductive ManageAction where
  /-- `NewLab` and `Start`. -/
  | newLab (newFlag : String → Nat → Nat → String)
  /-- The lab gets into `hub.Labs()` and into the queue. -/
  | startedLab (l : Nat)
  | signup (tid : String)
  /-- `AssignLab` with a lab of the queue. -/
  | assignLab (tid : String) (l : Nat)
  /-- `handleStartStopChallenge`. -/
  | startStopChallenge (tid tag : String)
  /-- `handleResetChallenge`. -/
  | resetChallenge (tid tag : String)
  /-- `handleFlagVerify`, where `db` is the error of `UpdateTeamSolvedChallenge`. -/
  | verifyFlag (tid tag flag : String) (now : Time) (db : Option String)
  /-- The goroutine `i` of `handleFlagVerify`. -/
  | stopSolved (i : Nat)
  /-- `ResetExercise`, where `getTeams` is the order in which `ev.GetTeams()` has the teams. -/
  | resetExercise (exerciseTag : String) (reqTeams getTeams : List String)
  | restartTeamLab (tid : String)
  | addChallenge (req : AddChallengeRequest)

namespace EventState

variable (s : EventState)

/-- `handleStartStopChallenge`. Without a lab it only replies, and so it does for a tag whose
slice panics or is no text. -/
def handleStartStopChallenge (isDigit : Char → Bool) (tid tag : String) : EventState :=
  match getParentChallengeTag isDigit tag, s.teamLab tid with
  | some chalTag, some (l, tl) => s.setTeamLab tid l (tl.startStopChallenge chalTag).1
  | _, _ => s

/-- `handleResetChallenge`. A panic on the nil network of a static exercise ends the request. -/
def handleResetChallenge (isDigit : Char → Bool) (tid tag : String) : EventState :=
  match getParentChallengeTag isDigit tag, s.teamLab tid with
  | some chalTag, some (l, tl) =>
    match tl.resetHook chalTag with
    | some (tl, _) => s.setTeamLab tid l tl
    | none => s
  | _, _ => s

/-- `VerifyFlag` of the team, whose challenges change when it succeeds. -/
def verifyFlag (tid tag flag : String) (now : Time) (db : Option String) :
    EventState × Option VerifyErr :=
  match s.teams.get? tid with
  -- Only a team of the store can be logged in.
  | none => (s, some (.failed Store.errUnknownFlag))
  | some t =>
    let (challenges, err) := t.challenges.verifyFlag tag flag now db
    ({ s with teams := s.teams.set tid { t with challenges := challenges } }, err)

/-- The goroutine of `handleFlagVerify`. For a team without a lab, the hook calls a method of a
nil lab, which ends the process. -/
def stopSolved (tid parentTag : String) : Option EventState :=
  match s.teams.get? tid, s.assigned.get? tid with
  | none, _ => some s
  | some t, some l =>
    some (s.setTeamLab tid l (TeamLab.stopSolved { team := t, env := s.env l } parentTag))
  | some t, none => if AllSolved t parentTag then none else some s

end EventState

namespace ManagedEvent

/-- An event after its creation. -/
def new (exercises disabledExercises : List String) (exers : List Store.Exercise)
    (teamsDB : List (String × List (String × String))) : ManagedEvent where
  event := newEventState exercises disabledExercises exers teamsDB
  created := 0
  solved := []

end ManagedEvent

/-- The requests of teams and of the daemon, with the hub that makes the labs. -/
def managedEvent (c : AmigoConf) : Machine ManagedEvent ManageAction where
  init s := ∃ exercises disabledExercises exers teamsDB,
    s = .new exercises disabledExercises exers teamsDB
  step s
    | .newLab newFlag =>
      match s.event.labHost.newLab newFlag with
      -- The hub then calls `Start` on the absent lab.
      | .error _ => none
      | .ok env =>
        some { s with event := s.event.setEnv s.created env.start, created := s.created + 1 }
    | .startedLab l =>
      if l < s.created ∧ l ∉ s.event.labs then
        some { s with event := { s.event with labs := s.event.labs ++ [l] } }
      else none
    | .signup tid =>
      -- `NewTeam` chooses an id that is new.
      if tid ∉ s.event.teams ∧ tid ∉ s.event.assigned then
        some { s with
          event := { s.event with
            teams := s.event.teams.set tid
              (newTeamExercises [] s.event.disabledChallenges s.event.allChallenges) } }
      else none
    | .assignLab tid l =>
      match s.event.teams.get? tid with
      | none => none
      | some t =>
        -- A lab leaves the queue once.
        if tid ∉ s.event.assigned ∧ l ∈ s.event.labs ∧ l ∉ s.event.assigned.values then
          some { s with
            event := { s.event with
              assigned := s.event.assigned.set tid l
              teams := s.event.teams.set tid (t.addChallenges (s.event.env l).challenges) } }
        else none
    | .startStopChallenge tid tag =>
      some { s with event := s.event.handleStartStopChallenge c.isDigit tid tag }
    | .resetChallenge tid tag =>
      some { s with event := s.event.handleResetChallenge c.isDigit tid tag }
    | .verifyFlag tid tag flag now db =>
      match getParentChallengeTag c.isDigit tag with
      | none => some s
      | some parentTag =>
        match s.event.verifyFlag tid tag flag now db with
        | (_, some .fatal) => none
        | (event, some (.failed _)) => some { s with event := event }
        -- Without a recaptcha secret, as in the tests, no goroutine is started.
        | (event, none) =>
          some { s with
            event := event
            solved := if c.recaptcha then s.solved ++ [(tid, parentTag)] else s.solved }
    | .stopSolved i =>
      match s.solved[i]? with
      | none => none
      | some (tid, parentTag) =>
        (s.event.stopSolved tid parentTag).map fun event =>
          { s with event := event, solved := s.solved.eraseIdx i }
    | .resetExercise exerciseTag reqTeams getTeams =>
      if getTeams.Perm s.event.teams.keys then
        (s.event.resetExercise exerciseTag reqTeams getTeams).map fun (event, _) =>
          { s with event := event }
      else none
    | .restartTeamLab tid =>
      (s.event.restartTeamLab tid).map fun (event, _) => { s with event := event }
    | .addChallenge req =>
      (s.event.addChallenge req).map fun (event, _) => { s with event := event }

/-! ### What the requests leave alone -/

namespace EventState

/-- The labs and their owners, the marks of the event and of the teams without a lab, and the
lists of disabled exercises are the same. -/
structure SameSetup (s s' : EventState) : Prop where
  labs : s'.labs = s.labs
  assigned : s'.assigned = s.assigned
  disabledChallenges : s'.disabledChallenges = s.disabledChallenges
  labHost : s'.labHost.conf.disabledExercises = s.labHost.conf.disabledExercises
  env : ∀ l, (s'.env l).disabledExercises = (s.env l).disabledExercises
  unassigned : ∀ tid, s.assigned.get? tid = none →
    (s'.teams.get? tid).map TeamExercises.disabledChallenges =
      (s.teams.get? tid).map TeamExercises.disabledChallenges

variable {s s' s'' : EventState} {tid : String} {l : Nat} {tl : TeamLab} {err : Option String}

/-- Nothing has changed. -/
theorem SameSetup.refl (s : EventState) : s.SameSetup s :=
  ⟨rfl, rfl, rfl, rfl, fun _ => rfl, fun _ _ => rfl⟩

/-- Two steps in a row. -/
theorem SameSetup.trans (h : s.SameSetup s') (h' : s'.SameSetup s'') : s.SameSetup s'' where
  labs := h'.labs.trans h.labs
  assigned := h'.assigned.trans h.assigned
  disabledChallenges := h'.disabledChallenges.trans h.disabledChallenges
  labHost := h'.labHost.trans h.labHost
  env l := (h'.env l).trans (h.env l)
  unassigned tid htid := (h'.unassigned tid (by rwa [h.assigned])).trans (h.unassigned tid htid)

/-- A lab may change when its disabled exercises stay. -/
theorem sameSetup_setEnv {env : Environment}
    (henv : env.disabledExercises = (s.env l).disabledExercises) :
    s.SameSetup (s.setEnv l env) where
  labs := rfl
  assigned := rfl
  disabledChallenges := rfl
  labHost := rfl
  env l' := by
    by_cases hl : l' = l
    · subst hl
      simpa [setEnv] using henv
    · simp [setEnv, Function.update_of_ne hl]
  unassigned _ _ := rfl

/-- So may a team with its lab. -/
theorem sameSetup_setTeamLab (hl : s.assigned.get? tid = some l)
    (henv : tl.env.disabledExercises = (s.env l).disabledExercises) :
    s.SameSetup (s.setTeamLab tid l tl) where
  labs := rfl
  assigned := rfl
  disabledChallenges := rfl
  labHost := rfl
  env := (sameSetup_setEnv henv).env
  unassigned tid' htid' := by
    have hne : tid' ≠ tid := by
      rintro rfl
      rw [hl] at htid'
      cases htid'
    rw [setTeamLab, GoMap.get?_set, if_neg hne]

/-- `ResetExercise` with teams. -/
theorem sameSetup_resetTeams {exerciseTag : String} {teams : List String}
    (hs : resetTeams exerciseTag s teams = some (s', err)) : s.SameSetup s' :=
  resetTeams_invariant (fun _ _ _ _ _ h hl hreset _ =>
    h.trans (sameSetup_setTeamLab hl (Environment.resetByTag_frame hreset).2)) (.refl s) hs

/-- `ResetExercise` without teams. -/
theorem sameSetup_resetLabs {exerciseTag : String} {teams : List String}
    (hs : resetLabs exerciseTag s teams = some (s', err)) : s.SameSetup s' :=
  resetLabs_invariant (fun _ _ _ h hreset =>
    h.trans (sameSetup_setEnv (Environment.resetByTag_frame hreset).2)) (.refl s) hs

/-- `RestartTeamLab`. -/
theorem sameSetup_restartTeamLab (hs : s.restartTeamLab tid = some (s', err)) :
    s.SameSetup s' := by
  rw [restartTeamLab] at hs
  split at hs
  · cases hs
    exact .refl _
  · obtain ⟨env, hreset, hs'⟩ := Option.map_eq_some_iff.mp hs
    cases hs'
    exact sameSetup_setEnv (Environment.disabledExercises_reset hreset)

/-- The start and stop button. -/
theorem sameSetup_handleStartStopChallenge (s : EventState) (isDigit : Char → Bool)
    (tid tag : String) : s.SameSetup (s.handleStartStopChallenge isDigit tid tag) := by
  unfold handleStartStopChallenge
  split
  · next chalTag l tl _ htl =>
    obtain ⟨hl, -, henv⟩ := teamLab_eq_some_iff.mp htl
    refine sameSetup_setTeamLab hl ?_
    rw [TeamLab.startStopChallenge_env, henv]
    split
    · exact Environment.disabledExercises_startByTag _ _
    · exact Environment.disabledExercises_stopByTag _ _
  · exact .refl _

/-- The reset button. -/
theorem sameSetup_handleResetChallenge (s : EventState) (isDigit : Char → Bool)
    (tid tag : String) : s.SameSetup (s.handleResetChallenge isDigit tid tag) := by
  unfold handleResetChallenge
  split
  · next chalTag l tl _ htl =>
    obtain ⟨hl, -, henv⟩ := teamLab_eq_some_iff.mp htl
    split
    · next tl' err hreset =>
      refine sameSetup_setTeamLab hl ?_
      obtain ⟨⟨env, err'⟩, hbyTag, htl'⟩ := Option.map_eq_some_iff.mp hreset
      rw [henv, ← (Environment.resetByTag_frame hbyTag).2]
      cases err' <;> cases htl' <;> rfl
    · exact .refl _
  · exact .refl _

/-- The stop after a solved challenge. -/
theorem sameSetup_stopSolved {parentTag : String} (hs : s.stopSolved tid parentTag = some s') :
    s.SameSetup s' := by
  unfold stopSolved at hs
  split at hs
  · cases hs
    exact .refl _
  · next t l ht hl =>
    cases hs
    refine sameSetup_setTeamLab hl ?_
    unfold TeamLab.stopSolved
    split
    · exact Environment.disabledExercises_stopByTag _ _
    · rfl
  · split at hs
    · cases hs
    · cases hs
      exact .refl _

/-- `VerifyFlag` changes the challenges of a team, and no mark. -/
theorem verifyFlag_disabledChallenges (s : EventState) (tid tag flag : String) (now : Time)
    (db : Option String) (tid' : String) :
    ((s.verifyFlag tid tag flag now db).1.teams.get? tid').map TeamExercises.disabledChallenges =
      (s.teams.get? tid').map TeamExercises.disabledChallenges := by
  unfold verifyFlag
  split
  · rfl
  · next t ht =>
    simp only [GoMap.get?_set]
    split
    · next heq => rw [heq, ht, Option.map_some, Option.map_some]
    · rfl

/-- A submitted flag changes the teams and nothing else. -/
theorem verifyFlag_frame (s : EventState) (tid tag flag : String) (now : Time)
    (db : Option String) :
    (s.verifyFlag tid tag flag now db).1 =
      { s with teams := (s.verifyFlag tid tag flag now db).1.teams } := by
  unfold verifyFlag
  split <;> rfl

/-- So it leaves the setup alone. -/
theorem sameSetup_verifyFlag (s : EventState) (tid tag flag : String) (now : Time)
    (db : Option String) : s.SameSetup (s.verifyFlag tid tag flag now db).1 := by
  have hmarks := s.verifyFlag_disabledChallenges tid tag flag now db
  rw [verifyFlag_frame] at hmarks ⊢
  exact ⟨rfl, rfl, rfl, rfl, fun _ => rfl, fun tid' _ => hmarks tid'⟩

/-- `AddChallenge` adds to the labs, and disables nothing in them. -/
theorem sameSetup_addChallenge {req : AddChallengeRequest} (hnodup : s.labs.Nodup)
    (hassigned : ∀ tid l, s.assigned.get? tid = some l → l ∈ s.labs)
    (hs : s.addChallenge req = some (s', err)) : s.SameSetup s' := by
  obtain ⟨hlabs, howners, hmarks, hhost⟩ := addChallenge_frame hs
  refine ⟨hlabs, howners, hmarks, hhost, fun l => ?_,
    fun tid _ => addChallenge_disabledChallenges hs tid⟩
  rw [addChallenge_env hnodup hassigned hs]
  split
  · exact Lab.disabledExercises_addChallenge _ _
  · rfl

end EventState

namespace ManagedEvent

/-- No lab is assigned twice, and each assigned lab is a lab of the hub. The event, the teams
without a lab and the labs have the same disabled challenges. -/
structure Managed (s : ManagedEvent) : Prop where
  separate : s.event.SeparateLabs
  nodup : s.event.labs.Nodup
  created : ∀ l ∈ s.event.labs, l < s.created
  assigned : ∀ tid l, s.event.assigned.get? tid = some l → l ∈ s.event.labs
  disabledChallenges : ∀ tag, tag ∈ s.event.disabledChallenges ↔
    tag ∈ s.event.labHost.conf.disabledExercises
  unassigned : ∀ tid t, s.event.assigned.get? tid = none → s.event.teams.get? tid = some t →
    ∀ tag, tag ∈ t.disabledChallenges ↔ tag ∈ s.event.labHost.conf.disabledExercises
  env : ∀ l < s.created,
    (s.event.env l).disabledExercises = s.event.labHost.conf.disabledExercises

variable {c : AmigoConf} {s t : ManagedEvent} {a : ManageAction}

/-- A new event is managed: it has no labs and no teams yet. -/
theorem managed_new (exercises disabledExercises : List String) (exers : List Store.Exercise)
    (teamsDB : List (String × List (String × String))) :
    (new exercises disabledExercises exers teamsDB).Managed where
  separate := by
    intro tid tid' l hl
    simp [new, newEventState] at hl
  nodup := List.nodup_nil
  created := by simp [new, newEventState]
  assigned := by simp [new, newEventState]
  disabledChallenges := by
    intro tag
    simp [new, newEventState, GoMap.mem_foldl_set]
  unassigned := by
    intro tid t _ ht tag
    have hmarks := GoMap.forall_foldl_set
      (P := fun t : TeamExercises => ∀ tag, tag ∈ t.disabledChallenges ↔ tag ∈ disabledExercises)
      (by simp) (fun team _ tag => by simp [newTeamExercises, GoMap.mem_foldl_set]) tid t ht
    exact hmarks tag
  env := by simp [new]

/-- The invariant needs only what the requests leave alone. -/
theorem Managed.of_sameSetup (h : s.Managed) (hsame : s.event.SameSetup t.event)
    (hcreated : t.created = s.created) : t.Managed where
  separate := by
    unfold EventState.SeparateLabs
    rw [hsame.assigned]
    exact h.separate
  nodup := by
    rw [hsame.labs]
    exact h.nodup
  created := by
    rw [hsame.labs, hcreated]
    exact h.created
  assigned := by
    rw [hsame.labs, hsame.assigned]
    exact h.assigned
  disabledChallenges := by
    rw [hsame.disabledChallenges, hsame.labHost]
    exact h.disabledChallenges
  unassigned := by
    intro tid t' htid ht'
    rw [hsame.assigned] at htid
    have hmarks := hsame.unassigned tid htid
    rw [ht', Option.map_some, eq_comm] at hmarks
    obtain ⟨t₀, ht₀, heq⟩ := Option.map_eq_some_iff.mp hmarks
    rw [← heq, hsame.labHost]
    exact h.unassigned tid t₀ htid ht₀
  env := by
    intro l hl
    rw [hsame.env, hsame.labHost]
    exact h.env l (hcreated ▸ hl)

/-- A new lab gets the disabled exercises of its host. -/
theorem Managed.newLab (h : s.Managed) {newFlag : String → Nat → Nat → String}
    {env : Environment} (hnew : s.event.labHost.newLab newFlag = .ok env) :
    Managed { s with event := s.event.setEnv s.created env.start, created := s.created + 1 } where
  separate := h.separate
  nodup := h.nodup
  created l hl := Nat.lt_succ_of_lt (h.created l hl)
  assigned := h.assigned
  disabledChallenges := h.disabledChallenges
  unassigned := h.unassigned
  env := by
    intro l hl
    show (Function.update s.event.env s.created env.start l).disabledExercises =
      s.event.labHost.conf.disabledExercises
    by_cases heq : l = s.created
    · subst heq
      rw [Function.update_self]
      show env.disabledExercises = s.event.labHost.conf.disabledExercises
      exact Lab.LabHost.newLab_disabledExercises hnew
    · rw [Function.update_of_ne heq]
      exact h.env l (Nat.lt_of_le_of_ne (Nat.le_of_lt_succ hl) heq)

/-- A started lab comes to the labs of the hub. -/
theorem Managed.startedLab (h : s.Managed) {l : Nat} (hl : l < s.created)
    (hnot : l ∉ s.event.labs) :
    Managed { s with event := { s.event with labs := s.event.labs ++ [l] } } where
  separate := h.separate
  nodup := by
    rw [List.nodup_append]
    refine ⟨h.nodup, List.nodup_singleton l, ?_⟩
    rintro l₁ hl₁ l₂ hl₂ rfl
    rw [List.mem_singleton] at hl₂
    exact hnot (hl₂ ▸ hl₁)
  created := by
    intro l' hl'
    rw [List.mem_append, List.mem_singleton] at hl'
    rcases hl' with hl' | rfl
    · exact h.created l' hl'
    · exact hl
  assigned tid l' hl' := List.mem_append_left _ (h.assigned tid l' hl')
  disabledChallenges := h.disabledChallenges
  unassigned := h.unassigned
  env := h.env

/-- A new team has no lab. -/
theorem Managed.signup (h : s.Managed) (tid : String) :
    Managed { s with
      event := { s.event with
        teams := s.event.teams.set tid
          (newTeamExercises [] s.event.disabledChallenges s.event.allChallenges) } } where
  separate := h.separate
  nodup := h.nodup
  created := h.created
  assigned := h.assigned
  disabledChallenges := h.disabledChallenges
  unassigned := by
    intro tid' t htid' ht
    rw [GoMap.get?_set] at ht
    split at ht
    · -- A new team starts with the disabled challenges of the event.
      cases ht
      exact h.disabledChallenges
    · exact h.unassigned tid' t htid' ht
  env := h.env

/-- A team gets a lab of the hub that no team has. -/
theorem Managed.assignLab (h : s.Managed) {tid : String} {l : Nat} (t : TeamExercises)
    (hl : l ∈ s.event.labs) (hnew : l ∉ s.event.assigned.values) :
    Managed { s with
      event := { s.event with
        assigned := s.event.assigned.set tid l
        teams := s.event.teams.set tid t } } where
  separate := by
    intro tid₁ tid₂ l' h₁ h₂
    simp only [GoMap.get?_set] at h₁ h₂
    split at h₁ <;> split at h₂
    · next heq₁ heq₂ => exact heq₁.trans heq₂.symm
    · -- The new lab would be the one of `tid₂` already.
      cases h₁
      exact absurd (GoMap.mem_values.mpr ⟨tid₂, h₂⟩) hnew
    · cases h₂
      exact absurd (GoMap.mem_values.mpr ⟨tid₁, h₁⟩) hnew
    · exact h.separate tid₁ tid₂ l' h₁ h₂
  nodup := h.nodup
  created := h.created
  assigned := by
    intro tid' l' hl'
    rw [GoMap.get?_set] at hl'
    split at hl'
    · cases hl'
      exact hl
    · exact h.assigned tid' l' hl'
  disabledChallenges := h.disabledChallenges
  unassigned := by
    intro tid' t' htid' ht'
    simp only [GoMap.get?_set] at htid' ht'
    split at htid'
    · cases htid'
    · -- The team that gets the lab is no longer one without a lab.
      next hne =>
      rw [if_neg hne] at ht'
      exact h.unassigned tid' t' htid' ht'
  env := h.env

/-- What a step can do. -/
inductive Change (c : AmigoConf) (s : ManagedEvent) : ManageAction → ManagedEvent → Prop where
  | newLab (newFlag : String → Nat → Nat → String) (env : Environment)
      (hnew : s.event.labHost.newLab newFlag = .ok env) :
      Change c s (.newLab newFlag)
        { s with event := s.event.setEnv s.created env.start, created := s.created + 1 }
  | startedLab (l : Nat) (hl : l < s.created) (hnew : l ∉ s.event.labs) :
      Change c s (.startedLab l) { s with event := { s.event with labs := s.event.labs ++ [l] } }
  | signup (tid : String) (hteams : tid ∉ s.event.teams) (hassigned : tid ∉ s.event.assigned) :
      Change c s (.signup tid)
        { s with
          event := { s.event with
            teams := s.event.teams.set tid
              (newTeamExercises [] s.event.disabledChallenges s.event.allChallenges) } }
  | assignLab (tid : String) (l : Nat) (t : TeamExercises)
      (ht : s.event.teams.get? tid = some t) (htid : tid ∉ s.event.assigned)
      (hl : l ∈ s.event.labs) (hfree : l ∉ s.event.assigned.values) :
      Change c s (.assignLab tid l)
        { s with
          event := { s.event with
            assigned := s.event.assigned.set tid l
            teams := s.event.teams.set tid (t.addChallenges (s.event.env l).challenges) } }
  | startStopChallenge (tid tag : String) :
      Change c s (.startStopChallenge tid tag)
        { s with event := s.event.handleStartStopChallenge c.isDigit tid tag }
  | resetChallenge (tid tag : String) :
      Change c s (.resetChallenge tid tag)
        { s with event := s.event.handleResetChallenge c.isDigit tid tag }
  /-- A tag without the tag of an exercise. -/
  | badTag (tid tag flag : String) (now : Time) (db : Option String)
      (hparent : getParentChallengeTag c.isDigit tag = none) :
      Change c s (.verifyFlag tid tag flag now db) s
  | verifyFlag (tid tag flag : String) (now : Time) (db : Option String) (parentTag : String)
      (solved : List (String × String))
      (hparent : getParentChallengeTag c.isDigit tag = some parentTag)
      (hsolved : solved = s.solved ∨ solved = s.solved ++ [(tid, parentTag)]) :
      Change c s (.verifyFlag tid tag flag now db)
        { s with event := (s.event.verifyFlag tid tag flag now db).1, solved := solved }
  | stopSolved (i : Nat) (tid parentTag : String) (event : EventState)
      (hgoroutine : s.solved[i]? = some (tid, parentTag))
      (hevent : s.event.stopSolved tid parentTag = some event) :
      Change c s (.stopSolved i) { s with event := event, solved := s.solved.eraseIdx i }
  | resetExercise (exerciseTag : String) (reqTeams getTeams : List String) (event : EventState)
      (err : Option String) (hperm : getTeams.Perm s.event.teams.keys)
      (hevent : s.event.resetExercise exerciseTag reqTeams getTeams = some (event, err)) :
      Change c s (.resetExercise exerciseTag reqTeams getTeams) { s with event := event }
  | restartTeamLab (tid : String) (event : EventState) (err : Option String)
      (hevent : s.event.restartTeamLab tid = some (event, err)) :
      Change c s (.restartTeamLab tid) { s with event := event }
  | addChallenge (req : AddChallengeRequest) (event : EventState) (err : Option String)
      (hevent : s.event.addChallenge req = some (event, err)) :
      Change c s (.addChallenge req) { s with event := event }

/-- Each step keeps the setup, or is one of those with a lemma above. -/
theorem step_change (hs : (managedEvent c).step s a = some t) : s.Change c a t := by
  cases a with
  | newLab newFlag =>
    -- A step without its condition is none; with it, the change is the constructor of its name.
    simp only [managedEvent] at hs
    split at hs
    · cases hs
    · next env hnew =>
      cases hs
      exact .newLab newFlag env hnew
  | startedLab l =>
    simp only [managedEvent] at hs
    split at hs
    · next hl =>
      cases hs
      exact .startedLab l hl.1 hl.2
    · cases hs
  | signup tid =>
    simp only [managedEvent] at hs
    split at hs
    · next hnew =>
      cases hs
      exact .signup tid hnew.1 hnew.2
    · cases hs
  | assignLab tid l =>
    simp only [managedEvent] at hs
    split at hs
    · cases hs
    split at hs
    · next t₀ ht hguard =>
      cases hs
      exact .assignLab tid l t₀ ht hguard.1 hguard.2.1 hguard.2.2
    · cases hs
  | startStopChallenge tid tag =>
    cases hs
    exact .startStopChallenge tid tag
  | resetChallenge tid tag =>
    cases hs
    exact .resetChallenge tid tag
  | verifyFlag tid tag flag now db =>
    have hverify := @Change.verifyFlag c s tid tag flag now db
    simp only [managedEvent] at hs
    split at hs
    · next hparent =>
      cases hs
      exact .badTag tid tag flag now db hparent
    next parentTag hparent =>
    split at hs
    · cases hs
    · next event err heq =>
      cases hs
      rw [heq] at hverify
      exact hverify parentTag s.solved hparent (.inl rfl)
    · next event heq =>
      -- A flag that was right may have started the goroutine that stops the exercise.
      cases hs
      rw [heq] at hverify
      refine hverify parentTag _ hparent ?_
      split
      · exact .inr rfl
      · exact .inl rfl
  | stopSolved i =>
    simp only [managedEvent] at hs
    split at hs
    · cases hs
    · next tid parentTag hgoroutine =>
      obtain ⟨event, hevent, hs⟩ := Option.map_eq_some_iff.mp hs
      cases hs
      exact .stopSolved i tid parentTag event hgoroutine hevent
  | resetExercise exerciseTag reqTeams getTeams =>
    simp only [managedEvent] at hs
    split at hs
    · next hperm =>
      obtain ⟨⟨event, err⟩, hevent, hs⟩ := Option.map_eq_some_iff.mp hs
      cases hs
      exact .resetExercise exerciseTag reqTeams getTeams event err hperm hevent
    · cases hs
  | restartTeamLab tid =>
    obtain ⟨⟨event, err⟩, hevent, hs⟩ := Option.map_eq_some_iff.mp hs
    cases hs
    exact .restartTeamLab tid event err hevent
  | addChallenge req =>
    obtain ⟨⟨event, err⟩, hevent, hs⟩ := Option.map_eq_some_iff.mp hs
    cases hs
    exact .addChallenge req event err hevent

/-- Each step keeps the invariant. -/
theorem Managed.step (h : s.Managed) (hs : (managedEvent c).step s a = some t) : t.Managed := by
  cases step_change hs with
  | newLab newFlag env hnew => exact h.newLab hnew
  | startedLab l hl hnew => exact h.startedLab hl hnew
  | signup tid => exact h.signup tid
  | assignLab tid l t ht htid hl hfree => exact h.assignLab _ hl hfree
  | startStopChallenge tid tag =>
    exact h.of_sameSetup (EventState.sameSetup_handleStartStopChallenge ..) rfl
  | resetChallenge tid tag =>
    exact h.of_sameSetup (EventState.sameSetup_handleResetChallenge ..) rfl
  | badTag => exact h
  | verifyFlag tid tag flag now db =>
    -- The list of goroutines is not part of the invariant.
    exact h.of_sameSetup (s.event.sameSetup_verifyFlag tid tag flag now db) rfl
  | stopSolved i tid parentTag event hgoroutine hevent =>
    exact h.of_sameSetup (EventState.sameSetup_stopSolved hevent) rfl
  | resetExercise exerciseTag reqTeams getTeams event err hperm hevent =>
    rw [EventState.resetExercise] at hevent
    split at hevent
    · exact h.of_sameSetup (EventState.sameSetup_resetLabs hevent) rfl
    · exact h.of_sameSetup (EventState.sameSetup_resetTeams hevent) rfl
  | restartTeamLab tid event err hevent =>
    exact h.of_sameSetup (EventState.sameSetup_restartTeamLab hevent) rfl
  | addChallenge req event err hevent =>
    exact h.of_sameSetup (EventState.sameSetup_addChallenge h.nodup h.assigned hevent) rfl

end ManagedEvent

end Haaukins.Daemon
