import Haaukins.Lab.LabSuspension
import Haaukins.Lib.FanOut

/-!
# `Haaukins.Daemon.SuspendTeams`: the labs of inactive teams (`suspendTeams` in `daemon/team.go`)

A scheduler calls `suspendTeams`. For each event it starts `processEvent`, which sends the event to
a channel, and `checkTeamLab`, which reads the clock, receives one event and goes through its teams.
A `checkTeamLab` need not get the event with which it was started.

* `checkTeamLab` calls `lab.Suspend` once for each machine that is not suspended.
  `suspendEach_instanceInfo` says that all these calls do what one of them does.
* `suspendTeams_spec` says what a call does, in every order of the steps of its goroutines. A team
  counts as inactive from eight and a half hours on, as the hours are rounded.

Times are nanoseconds. The hours of a duration are floats, but they are exact at half an hour and in
the order of the durations, so that their comparison with 8 is that of the exact numbers. The
teams do not come back during the call, and an operation on a machine that fails fails again.
-/

set_option autoImplicit false

namespace Haaukins.Lab

open Exercise (InstanceState)

/-! ### Repeated calls of `Suspend` -/

/-- A second suspension of a machine. -/
theorem Instance.suspendRunning_suspendRunning (m : Instance) :
    m.suspendRunning.1.suspendRunning = m.suspendRunning := by
  by_cases hrunning : m.state = .running
  · cases herr : m.suspendErr with
    | some err => simp [suspendRunning, suspend, hrunning, herr]
    | none => simp [suspendRunning, suspend, hrunning, herr]
  · simp [suspendRunning, hrunning]

/-- A second suspension of an exercise. -/
theorem suspendExercise_suspendExercise (machines : List Instance) :
    suspendExercise (suspendExercise machines).1 = suspendExercise machines :=
  tryEach_tryEach Instance.suspendRunning_suspendRunning machines

/-- Machines that do not run are left as they are. -/
theorem suspendExercise_of_not_running {machines : List Instance}
    (h : ∀ m ∈ machines, m.state ≠ .running) : suspendExercise machines = (machines, none) := by
  have hnone : ∀ m ∈ machines, m.suspendRunning = (m, none) := fun m hm => if_neg (h m hm)
  have hmap : machines.map (fun m => m.suspendRunning.1) = machines := by
    refine (List.map_congr_left fun m hm => ?_).trans (List.map_id machines)
    rw [hnone m hm]
    rfl
  rw [suspendExercise, tryEach_eq_map fun m hm => by rw [hnone m hm], hmap]

namespace LabInstances

/-- `lab.InstanceInfo`, of which only the states are read. -/
def instanceInfo (l : LabInstances) : List InstanceState :=
  l.frontends.map Instance.state ++ l.exercises.flatten.map Instance.state

/-- The loop of `checkTeamLab` over the machines of a lab. -/
def suspendEach : List InstanceState → LabInstances → LabInstances
  | [], l => l
  | state :: states, l => suspendEach states (if state ≠ .suspended then l.suspend.1 else l)

/-- A second suspension of a lab. -/
theorem suspend_suspend (l : LabInstances) : l.suspend.1.suspend = l.suspend := by
  have hexercises := tryEach_tryEach suspendExercise_suspendExercise l.exercises
  have hfrontends := tryEach_tryEach Instance.suspendRunning_suspendRunning l.frontends
  cases h : tryEach suspendExercise l.exercises with
  | mk exercises e =>
    rw [h] at hexercises
    cases e with
    | some err => simp only [suspend, h, hexercises]
    | none => simp only [suspend, h, hexercises, hfrontends]

/-- A lab in which no machine runs is left as it is. -/
theorem suspend_of_not_running {l : LabInstances} (h : ∀ m ∈ l.instances, m.state ≠ .running) :
    l.suspend.1 = l := by
  obtain ⟨hexercises, hfrontends⟩ := forall_instances.mp h
  have hall : ∀ e ∈ l.exercises, suspendExercise e = (e, none) := fun e he =>
    suspendExercise_of_not_running (hexercises e he)
  have hmap : l.exercises.map (fun e => (suspendExercise e).1) = l.exercises := by
    refine (List.map_congr_left fun e he => ?_).trans (List.map_id l.exercises)
    rw [hall e he]
    rfl
  have hfront : tryEach Instance.suspendRunning l.frontends = (l.frontends, none) :=
    suspendExercise_of_not_running hfrontends
  rw [suspend, tryEach_eq_map fun e he => by rw [hall e he], hmap, hfront]

/-- A suspension for each instance is one suspension. -/
theorem suspendEach_suspend (states : List InstanceState) (l : LabInstances) :
    suspendEach states l.suspend.1 = l.suspend.1 := by
  induction states with
  | nil => rfl
  | cons state states ih =>
    rw [suspendEach, suspend_suspend, ite_self]
    exact ih

/-- All calls of the loop together do what one call does. -/
theorem suspendEach_instanceInfo (l : LabInstances) :
    suspendEach l.instanceInfo l = l.suspend.1 := by
  -- One call with a machine that is not suspended suspends the lab, and the calls after it repeat
  -- that.
  have hstates : ∀ states : List InstanceState, (∃ state ∈ states, state ≠ .suspended) →
      suspendEach states l = l.suspend.1 := by
    intro states
    induction states with
    | nil => nofun
    | cons state states ih =>
      intro hany
      rw [suspendEach]
      by_cases hstate : state ≠ .suspended
      · rw [if_pos hstate, suspendEach_suspend]
      · rw [if_neg hstate]
        obtain ⟨other, hother, hne⟩ := hany
        rcases List.mem_cons.mp hother with rfl | hother
        · exact absurd hne hstate
        · exact ih ⟨other, hother, hne⟩
  have hall : ∀ states : List InstanceState, (∀ state ∈ states, state = .suspended) →
      suspendEach states l = l := by
    intro states
    induction states with
    | nil => exact fun _ => rfl
    | cons state states ih =>
      intro hsuspended
      rw [suspendEach, if_neg fun hne => hne (hsuspended state List.mem_cons_self)]
      exact ih fun other hother => hsuspended other (List.mem_cons_of_mem state hother)
  by_cases hany : ∃ state ∈ l.instanceInfo, state ≠ .suspended
  · exact hstates l.instanceInfo hany
  · have hsuspended : ∀ state ∈ l.instanceInfo, state = .suspended := fun state hstate => by
      by_contra hne
      exact hany ⟨state, hstate, hne⟩
    -- A lab whose machines are all suspended is left alone, as `Suspend` leaves it.
    rw [hall l.instanceInfo hsuspended, suspend_of_not_running]
    intro m hm hrunning
    have hmem : m.state ∈ l.instanceInfo := by
      rw [instances, List.mem_append] at hm
      rw [instanceInfo, List.mem_append]
      exact hm.symm.imp List.mem_map_of_mem List.mem_map_of_mem
    cases hrunning.symm.trans (hsuspended m.state hmem)

end LabInstances

end Haaukins.Lab

namespace Haaukins.Daemon

open Lab (LabInstances)

/-! ### Teams -/

/-- A team, with the machines of its lab when it has one. -/
structure LabTeam where
  lastAccess : Int
  lab : Option LabInstances

/-- `time.Hour`. -/
def hour : Int := 3600 * 10 ^ 9

/-- `INACTIVITY_DURATION`, in hours. -/
def inactivityDuration : Int := 8

/-- `t.Sub(u)`, with the least and the greatest duration. -/
def timeSub (t u : Int) : Int := max (-2 ^ 63) (min (2 ^ 63 - 1) (t - u))

/-- `math.Round(d.Hours())`. -/
def roundedHours (d : Int) : Int :=
  if 0 ≤ d then (d + hour / 2) / hour else -((-d + hour / 2) / hour)

/-- The body of the loop of `checkTeamLab` over the teams. -/
def checkTeam (now : Int) (t : LabTeam) : LabTeam :=
  if roundedHours (timeSub now t.lastAccess) > inactivityDuration then
    { t with lab := t.lab.map fun lab => LabInstances.suspendEach lab.instanceInfo lab }
  else t

/-- The events of the pool, in the order in which the loop comes to them, and their teams. -/
structure LabPool where
  events : List String
  nodup : events.Nodup
  teams : String → List LabTeam

/-- `suspendTeams`. -/
def LabPool.suspendTeams (pool : LabPool) : FanOut String Int LabTeam where
  items := pool.events
  room := pool.events.length
  body := checkTeam
  data := pool.teams

/-- The last access is eight and a half hours ago. -/
def LabTeam.InactiveAt (t : LabTeam) (now : Int) : Prop := t.lastAccess + 17 * (hour / 2) ≤ now

instance (t : LabTeam) (now : Int) : Decidable (t.InactiveAt now) :=
  inferInstanceAs (Decidable (_ ≤ _))

/-- The rounding lets half an hour count as an hour. -/
theorem inactivityDuration_lt_roundedHours (d : Int) :
    roundedHours d > inactivityDuration ↔ 17 * (hour / 2) ≤ d := by
  have hhour : hour = 3600000000000 := rfl
  rw [roundedHours, inactivityDuration, hhour]
  by_cases hd : 0 ≤ d
  · rw [if_pos hd]
    omega
  · rw [if_neg hd]
    omega

/-- An inactive team is suspended, and the others are left alone. -/
theorem checkTeam_eq (now : Int) (t : LabTeam) :
    checkTeam now t =
      if t.InactiveAt now then { t with lab := t.lab.map fun lab => lab.suspend.1 } else t := by
  have hiff : 17 * (hour / 2) ≤ timeSub now t.lastAccess ↔ t.InactiveAt now := by
    have hhour : hour = 3600000000000 := rfl
    rw [timeSub, LabTeam.InactiveAt, hhour]
    omega
  simp only [checkTeam, inactivityDuration_lt_roundedHours, hiff,
    LabInstances.suspendEach_instanceInfo]

/-- What a call between `called` and `returned` does to a team. -/
structure CheckedTeam (called returned : Int) (before after : LabTeam) : Prop where
  /-- A team that was inactive when the call came has its lab suspended. -/
  inactive : before.InactiveAt called → after.lab = before.lab.map fun lab => lab.suspend.1
  /-- No machine of such a lab runs, unless an operation on one fails. -/
  stops : before.InactiveAt called → ∀ lab ∈ before.lab, lab.NoErrors →
    ∀ lab' ∈ after.lab, ∀ m ∈ lab'.instances, m.state ≠ .running
  /-- A team that is active to the end keeps its lab as it is. -/
  active : ¬ before.InactiveAt returned → after = before
  /-- Nothing else of a team changes. -/
  lastAccess : after.lastAccess = before.lastAccess

/-- A check inside the call is right for the whole call. -/
theorem checkedTeam_checkTeam {called now returned : Int} (hcalled : called ≤ now)
    (hreturned : now ≤ returned) (t : LabTeam) :
    CheckedTeam called returned t (checkTeam now t) := by
  rw [checkTeam_eq]
  by_cases hnow : t.InactiveAt now
  · rw [if_pos hnow]
    refine ⟨fun _ => rfl, fun _ lab hlab hno lab' hlab' => ?_, fun hactive => ?_, rfl⟩
    · obtain ⟨lab₀, hlab₀, rfl⟩ := Option.map_eq_some_iff.mp (Option.mem_def.mp hlab')
      obtain rfl : lab₀ = lab := Option.some.inj (hlab₀.symm.trans hlab)
      exact LabInstances.suspend_not_running hno
    · exact absurd (Int.le_trans hnow hreturned) hactive
  · rw [if_neg hnow]
    have hcall : ¬ t.InactiveAt called := fun h => hnow (Int.le_trans h hcalled)
    exact ⟨fun h => absurd h hcall, fun h => absurd h hcall, fun _ => rfl, rfl⟩

/-- The goroutines of a call end after a number of steps that the teams bound, and none of them is
left waiting. Then each team of each event has been checked, and the labs of other events are as
they were. -/
theorem suspendTeams_spec (pool : LabPool) {called returned : Int}
    {as : List (FanOut.Action Int)} {s : FanOut.State String Int LabTeam}
    (hreads : ∀ a ∈ as, a.Reads fun now => called ≤ now ∧ now ≤ returned)
    (hrun : pool.suspendTeams.machine.run pool.suspendTeams.called as = some s) :
    as.length ≤ (pool.events.map fun tag => (pool.teams tag).length + 6).sum + 1 ∧
      (pool.suspendTeams.machine.Quiescent (fun _ => True) s → s.returned = true) ∧
      (s.returned = true →
        (∀ tag ∈ pool.events,
          List.Forall₂ (CheckedTeam called returned) (pool.teams tag) (s.data tag)) ∧
        ∀ tag ∉ pool.events, s.data tag = pool.teams tag) := by
  have hinit : pool.suspendTeams.machine.Reachable
      (fun _ a => a.Reads fun now => called ≤ now ∧ now ≤ returned) pool.suspendTeams.called :=
    .init rfl
  have hreach := hinit.run (Machine.allSteps_of_forall hreads) hrun
  refine ⟨FanOut.length_run_le pool.nodup hreads hrun,
    FanOut.quiescent pool.nodup (Nat.le_refl _) hreach, fun hreturned => ?_⟩
  obtain ⟨hevents, hothers⟩ := FanOut.finished pool.nodup hreach hreturned
  refine ⟨fun tag htag => ?_, hothers⟩
  obtain ⟨now, ⟨hcalled, hnow⟩, hdata⟩ := hevents tag htag
  rw [hdata]
  show List.Forall₂ _ (pool.teams tag) ((pool.teams tag).map (checkTeam now))
  rw [List.forall₂_map_right_iff, List.forall₂_same]
  exact fun t _ => checkedTeam_checkTeam hcalled hnow t

/-- Two events, whose goroutines take the event of the other. -/
def twoEvents : LabPool where
  events := ["a", "b"]
  nodup := by decide
  teams tag :=
    if tag = "a" then
      [{ lastAccess := 0
         lab := some { exercises := [], frontends := [⟨.running, none, none⟩] } }]
    else [{ lastAccess := 10 * hour, lab := none }]

/-- The second sender is first. -/
def crossed : List (FanOut.Action Int) :=
  [.goSend, .goWork, .goSend, .goWork, .send 1, .send 0, .start 0 (9 * hour), .receive 0,
    .start 1 (9 * hour), .receive 1, .work 1, .work 0, .work 1, .work 0, .wait]

/-- Two events, each checked by the goroutine of the other. -/
theorem suspendTeams_spec_crossed : ∃ s,
    ((∀ a ∈ crossed, a.Reads fun now => 9 * hour ≤ now ∧ now ≤ 9 * hour) ∧
      twoEvents.suspendTeams.machine.run twoEvents.suspendTeams.called crossed = some s ∧
      s.returned = true) ∧
    (crossed.length ≤ (twoEvents.events.map fun tag => (twoEvents.teams tag).length + 6).sum + 1 ∧
      (twoEvents.suspendTeams.machine.Quiescent (fun _ => True) s → s.returned = true) ∧
      (s.returned = true →
        (∀ tag ∈ twoEvents.events,
          List.Forall₂ (CheckedTeam (9 * hour) (9 * hour)) (twoEvents.teams tag) (s.data tag)) ∧
        ∀ tag ∉ twoEvents.events, s.data tag = twoEvents.teams tag)) := by
  have hreads : ∀ a ∈ crossed, a.Reads fun now => 9 * hour ≤ now ∧ now ≤ 9 * hour := by
    intro a ha
    simp only [crossed, List.mem_cons, List.not_mem_nil, or_false] at ha
    rcases ha with rfl | rfl | rfl | rfl | rfl | rfl | rfl | rfl | rfl | rfl | rfl | rfl | rfl |
      rfl | rfl <;> trivial
  obtain ⟨s, hrun, hreturned⟩ : ∃ s,
      twoEvents.suspendTeams.machine.run twoEvents.suspendTeams.called crossed = some s ∧
        s.returned = true := ⟨_, rfl, rfl⟩
  exact ⟨s, ⟨hreads, hrun, hreturned⟩, suspendTeams_spec twoEvents hreads hrun⟩

end Haaukins.Daemon
