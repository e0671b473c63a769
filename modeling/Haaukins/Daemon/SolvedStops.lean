import Haaukins.Daemon.ChildChallenges

/-!
# `Haaukins.Daemon.SolvedStops`: the stop after the last flag (`svcs/amigo/amigo.go`)

`handleFlagVerify` stops an exercise when the team has solved as many of its children as the team's
own copy of `AllChallenges` lists. A team that signs up gets the copy of the event, which
`AddChallenge` does not change, and `AddChallenge` patches the teams that have a lab by then. The
others have no children of an added exercise, and have solved them all.

* An `AddingEvent` is a `ManagedEvent` in which a request of `AddChallenge` takes two steps, so that
  a team can sign up or get its lab in between.
* `StopsListed` and `StopsKnown` are conditions on the team before a stop. The second one needs an
  exercise service that gives an exercise the same children each time.
* `addingEvent_solved_iff` says at which stops the team has solved the exercise.
-/

set_option autoImplicit false

namespace Haaukins.Daemon

open Amigo (AllSolved TeamLab allSolved_of_notMem)
open Exercise (Environment LabExercise)
open Store (TeamExercises validateTag)

/-- An event with the requests that are past the first loop of `AddChallenge`. -/
structure AddingEvent where
  managed : ManagedEvent
  calls : List (AddChallengeRequest × AddChallengeCall)

/-- A step of the event, or `AddChallenge`. -/
inductive AddingAction where
  | manage (a : ManageAction)
  /-- `AddChallenge` up to the end of its first loop, in which signups are paused. -/
  | beginAdd (req : AddChallengeRequest)
  /-- The rest of a request. -/
  | finishAdd (i : Nat)

namespace AddingEvent

/-- An event after its creation. -/
def new (exercises disabledExercises : List String) (exers : List Store.Exercise)
    (teamsDB : List (String × List (String × String))) : AddingEvent where
  managed := .new exercises disabledExercises exers teamsDB
  calls := []

end AddingEvent

/-- The steps of a `ManagedEvent`, with `AddChallenge` in two steps. -/
def addingEvent (c : AmigoConf) : Machine AddingEvent AddingAction where
  init s := ∃ exercises disabledExercises exers teamsDB,
    s = .new exercises disabledExercises exers teamsDB
  step s
    | .manage a => ((managedEvent c).step s.managed a).map fun m => { s with managed := m }
    | .beginAdd req =>
      match s.managed.event.beginAddChallenge req with
      | .error _ => some s
      | .ok (event, call) =>
        some { managed := { s.managed with event := event }, calls := s.calls ++ [(req, call)] }
    | .finishAdd i =>
      match s.calls[i]? with
      | none => none
      | some (req, call) =>
        (s.managed.event.finishAddChallenge req call).map fun (event, _) =>
          { managed := { s.managed with event := event }, calls := s.calls.eraseIdx i }

/-! ### The stops -/

/-- `StopByTag` stops machines. -/
def StopsMachines (ee : Environment) (parentTag : String) : Prop :=
  (ee.stopByTag parentTag).2 = none ∧ ∃ e ∈ ee.exercises, e.tag = parentTag ∧ e.HasMachine

/-- The team has solved the challenge. -/
def Solves (t : TeamExercises) (tag : String) : Prop :=
  (t.challenges.isTeamSolvedChallenge tag).isSome

section

variable (tl : TeamLab) (parentTag : String)

/-- When the goroutine of `handleFlagVerify` stops machines, the team has solved each child of the
exercise in its lab. -/
def StopsSolved : Prop :=
  AllSolved tl.team parentTag → StopsMachines tl.env parentTag →
    ∀ tag ∈ labChildTags tl.env parentTag, Solves tl.team tag

/-- `NewTag` takes the tag, and the lab has machines for it. -/
def CanStop : Prop :=
  validateTag parentTag = none ∧ ∃ e ∈ tl.env.exercises, e.tag = parentTag ∧ e.HasMachine

/-- There is nothing to stop, or the team has not solved a child of its own list, or it has solved
the children that this list lacks. -/
def StopsListed : Prop :=
  CanStop tl parentTag →
    (∃ tag ∈ tl.team.getChildChallenges parentTag, ¬ Solves tl.team tag) ∨
      ∀ tag ∈ labChildTags tl.env parentTag, tag ∉ tl.team.getChildChallenges parentTag →
        Solves tl.team tag

/-- There is nothing to stop, or the team knows the exercise, or it has solved its children. -/
def StopsKnown : Prop :=
  CanStop tl parentTag → parentTag ∈ tl.team.allChallenges ∨
    ∀ tag ∈ labChildTags tl.env parentTag, Solves tl.team tag

end

/-- What holds of the team and the parent tag at each run of the goroutine of
`handleFlagVerify`. -/
def AtStops (P : TeamLab → String → Prop) (s : AddingEvent) : AddingAction → Prop
  | .manage (.stopSolved i) =>
    ∀ goroutine ∈ s.managed.solved[i]?, ∀ lab ∈ s.managed.event.teamLab goroutine.1,
      P lab.2 goroutine.2
  | _ => True

instance (tl : TeamLab) (parentTag : String) : Decidable (StopsSolved tl parentTag) := by
  unfold StopsSolved StopsMachines Solves
  infer_instance

instance (tl : TeamLab) (parentTag : String) : Decidable (StopsKnown tl parentTag) := by
  unfold StopsKnown CanStop Solves
  infer_instance

instance (P : TeamLab → String → Prop) [∀ tl parentTag, Decidable (P tl parentTag)]
    (s : AddingEvent) : ∀ a, Decidable (AtStops P s a) := by
  intro a
  unfold AtStops
  split <;> infer_instance

/-- The exercise is there and has a machine. -/
theorem stopsMachines_iff {tl : TeamLab} {parentTag : String} :
    StopsMachines tl.env parentTag ↔ CanStop tl parentTag := by
  unfold StopsMachines CanStop
  rcases tl.env.stopByTag_cases parentTag with ⟨hvalid, -, hstop⟩ | ⟨hnot, err, hstop⟩
  · rw [hstop]
    exact and_congr_left' (iff_of_true rfl hvalid)
  · -- The tag is refused, or no exercise has it.
    rw [hstop]
    refine iff_of_false (fun h => by cases h.1) ?_
    rintro ⟨hvalid, e, he, rfl, -⟩
    exact hnot ⟨hvalid, Environment.mem_tags_of_mem he⟩

/-- The count of the code, for a list without duplicates. -/
theorem allSolved_iff {t : TeamExercises} {parentTag : String} :
    AllSolved t parentTag ↔ ∀ tag ∈ t.getChildChallenges parentTag, Solves t tag := by
  unfold AllSolved Solves
  rw [List.length_filter_eq_length_iff]

/-- One stop. -/
theorem stopsSolved_iff_listed {tl : TeamLab} {parentTag : String} :
    StopsSolved tl parentTag ↔ StopsListed tl parentTag := by
  unfold StopsSolved StopsListed
  rw [stopsMachines_iff, allSolved_iff]
  by_cases hall : ∀ tag ∈ tl.team.getChildChallenges parentTag, Solves tl.team tag
  · have hnone : ¬ ∃ tag ∈ tl.team.getChildChallenges parentTag, ¬ Solves tl.team tag := by
      rintro ⟨tag, htag, hnot⟩
      exact hnot (hall tag htag)
    simp only [hnone, false_or, forall_prop_of_true hall]
    refine forall_congr' fun _ => forall₂_congr fun tag _ => ?_
    constructor
    · exact fun hsolved _ => hsolved
    · intro hmissing
      by_cases hlisted : tag ∈ tl.team.getChildChallenges parentTag
      · exact hall tag hlisted
      · exact hmissing hlisted
  · -- The goroutine stops nothing.
    refine iff_of_true (fun hsolved => absurd hsolved hall) fun _ => .inl ?_
    simpa only [not_forall, exists_prop] using hall

/-- One stop, for a team that knows the children of the exercises that it knows. -/
theorem stopsSolved_iff_known {tl : TeamLab} {parentTag : String}
    (hknows : parentTag ∈ tl.team.allChallenges →
      labChildTags tl.env parentTag ⊆ tl.team.getChildChallenges parentTag) :
    StopsSolved tl parentTag ↔ StopsKnown tl parentTag := by
  unfold StopsSolved StopsKnown
  rw [stopsMachines_iff]
  by_cases hmem : parentTag ∈ tl.team.allChallenges
  · refine iff_of_true (fun hall _ tag htag => ?_) fun _ => .inl hmem
    exact allSolved_iff.mp hall tag (hknows hmem htag)
  · simp only [hmem, false_or, forall_prop_of_true (allSolved_of_notMem hmem)]

/-! ### Runs -/

/-- What the exercise service answers to a request. -/
def FromService (children : String → List String) : ManageAction → Prop
  | .addChallenge req => ∀ exers, req.getExerciseByTags = .ok exers → ServiceChildren children exers
  | _ => True

/-- What the exercise service answers in a step. -/
def AddingAction.FromService (children : String → List String) : AddingAction → Prop
  | .manage a => Daemon.FromService children a
  | .beginAdd req => ∀ exers, req.getExerciseByTags = .ok exers → ServiceChildren children exers
  | .finishAdd _ => True

section

variable {c : AmigoConf} {children : String → List String}

/-- Each step of the event keeps what it knows of the children. -/
theorem EventState.ChildrenKnown.manage {s t : ManagedEvent} {a : ManageAction}
    (h : s.event.ChildrenKnown children) (ha : FromService children a)
    (hs : (managedEvent c).step s a = some t) : t.event.ChildrenKnown children := by
  cases ManagedEvent.step_change hs with
  | newLab newFlag env hnew => exact h.setEnv s.created (LabChildren.newLab h.labHost hnew).start
  | startedLab l => exact ⟨h.allChallenges, h.teams, h.env, h.labHost⟩
  | signup tid =>
    -- The team gets the copy of the event.
    have hlist := h.allChallenges
    exact h.setTeam tid hlist
  | assignLab tid l t₀ ht =>
    have hteam := h.setTeam tid (t := t₀.addChallenges (s.event.env l).challenges)
      (h.teams tid t₀ ht)
    exact ⟨hteam.allChallenges, hteam.teams, hteam.env, hteam.labHost⟩
  | startStopChallenge tid tag => exact h.handleStartStopChallenge c.isDigit tid tag
  | resetChallenge tid tag => exact h.handleResetChallenge c.isDigit tid tag
  | badTag => exact h
  | verifyFlag tid tag flag now db => exact h.verifyFlag tid tag flag now db
  | stopSolved i tid parentTag event hgoroutine hevent => exact h.stopSolved hevent
  | resetExercise exerciseTag reqTeams getTeams event err hperm hevent =>
    exact h.resetExercise hevent
  | restartTeamLab tid event err hevent => exact h.restartTeamLab hevent
  | addChallenge req event err hevent => exact h.addChallenge ha hevent

namespace AddingEvent

variable {s t : AddingEvent}

/-- The invariant, with the requests between their two steps. -/
structure ChildrenKnown (children : String → List String) (s : AddingEvent) : Prop where
  event : s.managed.event.ChildrenKnown children
  calls : ∀ call ∈ s.calls, ServiceChildren children call.2.exers ∧
    ListsChildren children call.2.childrenChalTags

/-- So does `AddChallenge` with the answers of the service. -/
theorem ChildrenKnown.step (h : s.ChildrenKnown children) {a : AddingAction}
    (ha : a.FromService children) (hs : (addingEvent c).step s a = some t) :
    t.ChildrenKnown children := by
  cases a with
  | manage a =>
    obtain ⟨m, hm, hs⟩ := Option.map_eq_some_iff.mp hs
    cases hs
    exact ⟨h.event.manage ha hm, h.calls⟩
  | beginAdd req =>
    simp only [addingEvent] at hs
    split at hs
    · cases hs
      exact h
    · next event call hbegin =>
      cases hs
      obtain ⟨hevent, hexers, hlists⟩ := h.event.beginAddChallenge ha hbegin
      refine ⟨hevent, fun call' hcall' => ?_⟩
      rcases List.mem_append.mp hcall' with hold | hnew
      · exact h.calls call' hold
      · obtain rfl := List.mem_singleton.mp hnew
        exact ⟨hexers, hlists⟩
  | finishAdd i =>
    simp only [addingEvent] at hs
    split at hs
    · cases hs
    · next req call hcall =>
      obtain ⟨⟨event, err⟩, hfinish, hs⟩ := Option.map_eq_some_iff.mp hs
      cases hs
      obtain ⟨hexers, hlists⟩ := h.calls (req, call) (List.mem_of_getElem? hcall)
      refine ⟨h.event.finishAddChallenge hexers hlists hfinish, fun call' hcall' => ?_⟩
      exact h.calls call' (List.mem_of_mem_eraseIdx hcall')

/-- A new event knows the children of its exercises. -/
theorem childrenKnown_new {exercises disabledExercises : List String}
    {exers : List Store.Exercise} (teamsDB : List (String × List (String × String)))
    (hexers : ServiceChildren children exers)
    (hfound : ∀ tag ∈ exercises, ∃ e ∈ exers, e.tag = tag) :
    (new exercises disabledExercises exers teamsDB).ChildrenKnown children := by
  have hlists : ListsChildren children
      (new exercises disabledExercises exers teamsDB).managed.event.allChallenges := by
    have hloop : ∀ m, ListsChildren children m → ListsChildren children (exercises.foldl
        (fun m e => m.set e (Store.LabConfig.getChildrenChallenges
          { exercises := exers, disabledExercises := disabledExercises } e)) m) := by
      induction exercises with
      | nil => exact fun m hm => hm
      | cons tag exercises ih =>
        intro m hm
        obtain ⟨e, he, rfl⟩ := hfound tag List.mem_cons_self
        refine ih (fun tag' htag' => hfound tag' (List.mem_cons_of_mem _ htag')) _ ?_
        exact hm.set (subset_getChildrenChallenges hexers he)
    exact hloop ∅ listsChildren_empty
  refine ⟨⟨hlists, ?_, fun l e he => absurd he List.not_mem_nil, hexers⟩,
    fun call hcall => absurd hcall List.not_mem_nil⟩
  -- The stored teams get the copy of the event, too.
  exact GoMap.forall_foldl_set (P := fun t : TeamExercises =>
    ListsChildren children t.allChallenges) (fun tid t ht => by simp at ht)
    fun team _ => hlists

/-- A team that knows an exercise lists its children in the lab. -/
theorem ChildrenKnown.stop_iff (h : s.ChildrenKnown children) (a : AddingAction) :
    AtStops StopsSolved s a ↔ AtStops StopsKnown s a := by
  unfold AtStops
  split
  · refine forall₂_congr fun goroutine _ => forall₂_congr fun lab hlab => ?_
    obtain ⟨-, ht, henv⟩ := EventState.teamLab_eq_some_iff.mp hlab
    refine stopsSolved_iff_known fun hmem => ?_
    obtain ⟨ch, hch⟩ := GoMap.mem_iff_get?.mp hmem
    have hlab : LabChildren children lab.2.env := henv ▸ h.event.env lab.1
    have hlist : children goroutine.2 ⊆ lab.2.team.getChildChallenges goroutine.2 := by
      rw [TeamExercises.getChildChallenges, hch, Option.getD_some]
      exact h.event.teams goroutine.1 lab.2.team ht goroutine.2 ch hch
    exact List.Subset.trans (hlab.labChildTags goroutine.2) hlist
  · exact Iff.rfl

end AddingEvent

end

/-- Along a run, the team of each stop has solved the children of the exercise in its lab if and
only if each stop meets `StopsListed`. When the exercise service gives an exercise the same children
each time, this is so if and only if each stop meets `StopsKnown`. -/
theorem addingEvent_solved_iff (c : AmigoConf) (exercises disabledExercises : List String)
    (exers : List Store.Exercise) (teamsDB : List (String × List (String × String)))
    (as : List AddingAction) :
    ((addingEvent c).AllSteps (AtStops StopsSolved)
        (.new exercises disabledExercises exers teamsDB) as ↔
      (addingEvent c).AllSteps (AtStops StopsListed)
        (.new exercises disabledExercises exers teamsDB) as) ∧
    ∀ children : String → List String, ServiceChildren children exers →
      (∀ tag ∈ exercises, ∃ e ∈ exers, e.tag = tag) → (∀ a ∈ as, a.FromService children) →
      ((addingEvent c).AllSteps (AtStops StopsSolved)
          (.new exercises disabledExercises exers teamsDB) as ↔
        (addingEvent c).AllSteps (AtStops StopsKnown)
          (.new exercises disabledExercises exers teamsDB) as) := by
  constructor
  · refine Machine.allSteps_congr fun s a => ?_
    unfold AtStops
    split
    · exact forall₂_congr fun goroutine _ => forall₂_congr fun lab _ => stopsSolved_iff_listed
    · exact Iff.rfl
  · intro children hexers hfound has
    exact Machine.allSteps_congr_of_invariant
      (fun _ _ _ h ha hs => AddingEvent.ChildrenKnown.step h ha hs)
      (fun s a _ h _ => AddingEvent.ChildrenKnown.stop_iff h a)
      (AddingEvent.childrenKnown_new teamsDB hexers hfound) has

/-- An exercise with one container and two children. -/
def csrfExercise : Store.Exercise where
  tag := "csrf"
  static := false
  instances := [{ image := "csrf"
                  flags := [⟨"csrf-1", "HKN-1", false⟩, ⟨"csrf-2", "HKN-2", false⟩] }]

/-- A request for this exercise. -/
def csrfRequest : AddChallengeRequest where
  challengeTag := ["csrf"]
  getExerciseByTags := .ok [csrfExercise]
  updateErr := none
  newFlag := fun _ _ _ _ => ""

/-- The team solves the first of the two children. -/
def csrfSolved : List AddingAction :=
  [.manage (.verifyFlag "ab" "csrf-1" "HKN-1" .zero none), .manage (.stopSolved 0)]

/-- A team with a lab gets to know the exercise of the request. -/
example : (addingEvent { recaptcha := true, isDigit := Char.isDigit }).AllSteps
    (AtStops StopsKnown) (.new [] [] [] [])
    ([.manage (.newLab fun _ _ _ => ""), .manage (.startedLab 0), .manage (.signup "ab"),
      .manage (.assignLab "ab" 0), .beginAdd csrfRequest, .finishAdd 0] ++ csrfSolved) := by
  decide

/-- A team that signs up between the two steps of a request, and gets its lab after it, does not
know the exercise. Its machine stops after the first of two flags. -/
theorem addingEvent_not_solved :
    ¬ ∀ (c : AmigoConf) (exercises disabledExercises : List String)
      (exers : List Store.Exercise) (teamsDB : List (String × List (String × String)))
      (as : List AddingAction), c.recaptcha = true →
      (addingEvent c).AllSteps (AtStops StopsSolved)
        (.new exercises disabledExercises exers teamsDB) as := by
  intro h
  have hall := h { recaptcha := true, isDigit := Char.isDigit } [] [] [] []
    ([.manage (.newLab fun _ _ _ => ""), .manage (.startedLab 0), .beginAdd csrfRequest,
      .manage (.signup "ab"), .finishAdd 0, .manage (.assignLab "ab" 0)] ++ csrfSolved) rfl
  revert hall
  decide

end Haaukins.Daemon
