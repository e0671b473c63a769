import Haaukins.Guacamole.Event
import Haaukins.Lib.Threads

/-!
# `Haaukins.Amigo.SignupCapacity`: the capacity of an event (`svcs/amigo/amigo.go`)

`handleSignupPOST` compares the number of teams with the capacity, asks the captcha service,
and then saves the team. The three steps interleave with those of other requests, and with
deletions of teams. `signup_eq_steps` shows that `Event.signup` is a request that runs alone.

`Event.WithinCapacity` holds along a run exactly when each request that adds a team would still
pass its capacity test at that time (`FindsRoom`). The test is an equality, so an event with
more teams than its capacity takes all further ones.
-/

set_option autoImplicit false

namespace Haaukins.Amigo

open Store Guacamole

/-- The error of `handleSignupPOST` after the captcha. -/
def robotErr : String := "seems you are a robot"

/-- Where a request of `handleSignupPOST` is. -/
inductive SignupRequest where
  | idle
  /-- The event was not full. The captcha is next. -/
  | verifying
  /-- `SaveTeam` is next. -/
  | saving
  /-- The request is answered, or goes on with the login of its team. -/
  | done (err : Option String)
  deriving DecidableEq

/-- A step of a request. -/
inductive SignupStep where
  | capacityTest
  /-- `am.recaptcha.Verify`. -/
  | verify (isValid : Bool)
  /-- `NewTeam`, which chooses the id, and `SaveTeam`. -/
  | saveTeam (id name : String) (db : Option String)
  /-- A request that deletes a team. -/
  | deleteTeam (id : String) (db : Option String)

/-- `len(am.TeamStore.GetTeams()) == am.TeamStore.Capacity`. -/
def full (ev : Event) : Bool := (ev.store.teams.size : Int) == ev.capacity

/-- At most as many teams as the capacity says. -/
def WithinCapacity (ev : Event) : Prop := (ev.store.teams.size : Int) ≤ ev.capacity

/-- The requests to an event. `recaptcha` says that `am.recaptcha.secret` is not empty. -/
def signupRequests (recaptcha : Bool) : Program Event SignupRequest SignupStep where
  init := WithinCapacity
  start := .idle
  step ev
    | .idle, .capacityTest =>
      if full ev then some (ev, .done (some capacityReachedErr))
      else some (ev, if recaptcha then .verifying else .saving)
    | .verifying, .verify isValid =>
      some (ev, if isValid then .saving else .done (some robotErr))
    | .saving, .saveTeam id name db =>
      let (es, err) := ev.store.saveTeam (newTeam id name) db
      some ({ ev with store := es }, .done err)
    | .idle, .deleteTeam id db =>
      let (ev, err) := ev.deleteTeam id db
      some (ev, .done err)
    | _, _ => none

/-- A request that adds a team would still pass its capacity test. -/
def FindsRoom (ev : Event) : SignupRequest → SignupStep → Prop
  | .saving, .saveTeam id name _ =>
    name ∉ ev.store.names ∧ id ∉ ev.store.teams → full ev = false
  | _, _ => True

instance (ev : Event) (r : SignupRequest) (a : SignupStep) : Decidable (FindsRoom ev r a) := by
  unfold FindsRoom
  split <;> infer_instance

variable {recaptcha : Bool} {ev ev' : Event} {r r' : SignupRequest} {a : SignupStep}

/-- A deletion keeps the capacity and adds no team. -/
theorem deleteTeam_capacity (ev : Event) (id : String) (db : Option String) :
    (ev.deleteTeam id db).1.capacity = ev.capacity ∧
      (ev.deleteTeam id db).1.store.teams.size ≤ ev.store.teams.size := by
  unfold Event.deleteTeam
  split
  · exact ⟨rfl, le_rfl⟩
  · exact ⟨rfl, TeamStore.size_deleteTeam_le⟩

/-- Only `SaveTeam` makes the number of teams larger, and it adds one team at most. -/
theorem signupRequests_step (hs : (signupRequests recaptcha).step ev r a = some (ev', r')) :
    (∃ id name db, r = .saving ∧ a = .saveTeam id name db ∧
      ev' = { ev with store := (ev.store.saveTeam (newTeam id name) db).1 }) ∨
    (ev'.capacity = ev.capacity ∧ ev'.store.teams.size ≤ ev.store.teams.size ∧
      FindsRoom ev r a) := by
  unfold signupRequests at hs
  dsimp only at hs
  split at hs
  · split at hs <;> cases hs <;> exact .inr ⟨rfl, le_rfl, trivial⟩
  · cases hs
    exact .inr ⟨rfl, le_rfl, trivial⟩
  · cases hs
    exact .inl ⟨_, _, _, rfl, rfl, rfl⟩
  · next id db =>
    cases hs
    obtain ⟨hcapacity, hsize⟩ := deleteTeam_capacity ev id db
    exact .inr ⟨hcapacity, hsize, trivial⟩
  · cases hs

/-- A step keeps the number of teams within the capacity exactly when it finds room. -/
theorem withinCapacity_step_iff (h : WithinCapacity ev)
    (hs : (signupRequests recaptcha).step ev r a = some (ev', r')) :
    WithinCapacity ev' ↔ FindsRoom ev r a := by
  rcases signupRequests_step hs with ⟨id, name, db, rfl, rfl, rfl⟩ | ⟨hcapacity, hsize, hroom⟩
  · simp only [WithinCapacity, FindsRoom, full, TeamStore.size_saveTeam, newTeam] at h ⊢
    by_cases hnew : name ∉ ev.store.names ∧ id ∉ ev.store.teams
    · -- The team is new, so there was room for it or there was not.
      simp only [hnew, not_false_eq_true, and_self, if_true, beq_eq_false_iff_ne, ne_eq,
        forall_const]
      omega
    · simp [hnew, h]
  · refine iff_of_true ?_ hroom
    show (ev'.store.teams.size : Int) ≤ ev'.capacity
    have : (ev.store.teams.size : Int) ≤ ev.capacity := h
    omega

/-- Along a run of any requests, the event has at most as many teams as its capacity if and
only if each request that adds a team would still pass its capacity test at that time. -/
theorem signup_withinCapacity_iff (recaptcha : Bool) (s : Threads Event SignupRequest)
    (hs : (signupRequests recaptcha).threads.init s) (as : List (Nat × SignupStep)) :
    (signupRequests recaptcha).threads.AllStates (fun s => WithinCapacity s.shared) s as ↔
      (signupRequests recaptcha).threads.AllSteps
        (fun s a => FindsRoom s.shared (s.thread a.1) a.2) s as :=
  Program.allStates_shared_iff (I := WithinCapacity) (fun _ h => h)
    (fun _ _ _ _ _ h hok hs => (withinCapacity_step_iff h hs).mpr hok)
    (fun _ _ _ _ _ h hnot hs => fun hw => hnot ((withinCapacity_step_iff h hs).mp hw)) hs.1

/-- An event of this capacity without teams, before the first request. -/
def emptyEvent (capacity : Int) : Threads Event SignupRequest where
  shared := newEvent "tkp" noVPN capacity "" .new
  thread _ := .idle

/-- The event without teams is a first state. -/
theorem emptyEvent_init {capacity : Int} (h : 0 ≤ capacity) :
    (signupRequests recaptcha).threads.init (emptyEvent capacity) := ⟨h, rfl⟩

/-- Two signups one after the other, in an event for one team: the second is refused. -/
theorem signup_withinCapacity_sequential :
    (signupRequests false).threads.AllStates (fun s => WithinCapacity s.shared) (emptyEvent 1)
      [(0, .capacityTest), (0, .saveTeam "ab" "kali" none), (1, .capacityTest)] :=
  (signup_withinCapacity_iff false (emptyEvent 1) (emptyEvent_init (by decide)) _).mpr (by decide)

/-- Two signups that both pass the test before one of them saves its team. -/
theorem signup_not_withinCapacity :
    ¬ ∀ (recaptcha : Bool) (s : Threads Event SignupRequest) (as : List (Nat × SignupStep)),
      (signupRequests recaptcha).threads.init s → 1 ≤ s.shared.capacity →
      (signupRequests recaptcha).threads.AllStates (fun s => WithinCapacity s.shared) s as := by
  intro h
  have hall := h false (emptyEvent 1)
    [(0, .capacityTest), (1, .capacityTest), (0, .saveTeam "ab" "kali" none),
      (1, .saveTeam "cd" "parrot" none)] (emptyEvent_init (by decide)) (by decide)
  obtain ⟨t, ht, hwithin⟩ := hall.of_run
    (fun s => (s.shared.store.teams.size, s.shared.capacity)) (2, 1) (by decide)
  obtain ⟨hsize, hcapacity⟩ := Prod.mk.inj ht
  simp [WithinCapacity, hsize, hcapacity] at hwithin

/-- A request that runs alone, in an event without captcha, is `Event.signup`. -/
theorem signup_eq_steps (s : Threads Event SignupRequest) {i : Nat} (hi : s.thread i = .idle)
    (id name : String) (db : Option String) :
    ((signupRequests false).threads.run s
        (if full s.shared then [(i, .capacityTest)]
          else [(i, .capacityTest), (i, .saveTeam id name db)])).map
      (fun t => (t.shared, t.thread i)) =
    some ((s.shared.signup (newTeam id name) db).1,
      .done (s.shared.signup (newTeam id name) db).2) := by
  unfold Event.signup
  by_cases hfull : full s.shared
  · have heq : (s.shared.store.teams.size : Int) = s.shared.capacity := by
      simpa [full] using hfull
    simp [hfull, heq, Program.threads, signupRequests, hi]
  · have hne : (s.shared.store.teams.size : Int) ≠ s.shared.capacity := by
      simpa [full] using hfull
    simp [hfull, hne, Program.threads, signupRequests, hi]

end Haaukins.Amigo
