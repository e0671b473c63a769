import Haaukins.Lab.HubStock

/-!
# `Haaukins.Lab.HubFailures`: labs that fail to be created or to start (`lab/hub.go`)

A worker only logs the error of `creator.NewLab` and the error of `l.Start`. After the first
it calls `Start` on the absent lab, after the second it sends the lab on like any other.

`Hub.OnlyWorking` is the claim on the labs of the hub: no method was called on an absent lab,
and each lab that was delivered or stands in `startedLabs` was created and started without
error. It holds along a run exactly when no `NewLab` fails and no lab whose `Start` failed
reaches the dispatcher (`Hub.TakesWorking`). Such a lab stays out of the hub only when its
worker chooses `stop` instead of `labs`.
-/

set_option autoImplicit false

namespace Haaukins.Lab

variable {Tag : Type}

/-- `NewLab` and `Start` both returned no error for the lab. -/
def Hub.Working (s : Hub Tag) (l : Nat) : Prop := l < s.created ∧ l ∈ s.started

instance (s : Hub Tag) (l : Nat) : Decidable (s.Working l) :=
  inferInstanceAs (Decidable (l < s.created ∧ l ∈ s.started))

/-- Only working labs leave the hub. -/
structure Hub.OnlyWorking (s : Hub Tag) : Prop where
  alive : s.panicked ≠ some .nilLab
  delivered : ∀ l ∈ s.delivered, s.Working l
  labs : ∀ l ∈ s.startedLabs.values, s.Working l

/-- `NewLab` does not fail, and the dispatcher takes no lab whose `Start` failed. -/
def Hub.TakesWorking (s : Hub Tag) : HubAction → Prop
  | .newLabFailed _ => False
  | .handLabs _ l | .recvLabs l => l ∈ s.started
  | _ => True

/-- `hub.Update` gets a lab that came from `Queue()`, as `daemon.DeleteTeam` does. -/
def Hub.Released (s : Hub Tag) : HubAction → Prop
  | .update l => l ∈ s.delivered
  | _ => True

/-- The lab that a call of `hub.Update` brings. -/
def HubAction.updates : HubAction → Option Nat
  | .update l => some l
  | _ => none

/-- The test of the code, spelled out. -/
theorem Hub.takesWorking_iff {s : Hub Tag} {a : HubAction} : s.TakesWorking a ↔
    (∀ i, a ≠ .newLabFailed i) ∧ ∀ l ∈ a.registers, l ∈ s.started := by
  cases a <;> simp [Hub.TakesWorking, HubAction.registers]

/-- The labs of `Update` were delivered. -/
theorem Hub.released_iff {s : Hub Tag} {a : HubAction} :
    s.Released a ↔ ∀ l ∈ a.updates, l ∈ s.delivered := by
  cases a <;> simp [Hub.Released, HubAction.updates]

instance (s : Hub Tag) (a : HubAction) : Decidable (s.TakesWorking a) :=
  decidable_of_iff _ Hub.takesWorking_iff.symm

instance (s : Hub Tag) (a : HubAction) : Decidable (s.Released a) :=
  decidable_of_iff _ Hub.released_iff.symm

variable [DecidableEq Tag] {c : HubConf Tag} {s t : Hub Tag} {a : HubAction}

/-- The invariant behind `OnlyWorking`: the labs in sight of a consumer are registered, and
the registered labs have started. -/
structure Hub.Tended (c : HubConf Tag) (s : Hub Tag) : Prop where
  phase : s.Phase
  placed : s.Placed c
  alive : s.panicked ≠ some .nilLab
  offered : s.offered ⊆ s.registered
  delivered : s.delivered ⊆ s.registered
  registered : s.registered ⊆ s.started

/-- A new hub has no labs. -/
theorem Hub.tended_new : (Hub.new : Hub Tag).Tended c := by
  refine ⟨Hub.phase_new, Hub.placed_new, ?_, ?_, ?_, ?_⟩ <;>
    simp [Hub.new, Hub.offered, Hub.pipeline, Dispatcher.lab]

/-- A tended hub offers started labs only. -/
theorem Hub.Tended.onlyWorking (h : s.Tended c) : s.OnlyWorking := by
  have hworking : ∀ l ∈ s.registered, s.Working l := by
    intro l hl
    -- A lab that was never created has no place in the hub.
    have hplace := h.placed.place l
    have hpos := List.count_pos_iff.mpr hl
    refine ⟨?_, h.registered hl⟩
    by_contra hnot
    rw [if_neg hnot] at hplace
    omega
  refine ⟨h.alive, fun l hl => hworking l (h.delivered hl), fun l hl => ?_⟩
  obtain ⟨k, hk⟩ := GoMap.mem_values.mp hl
  exact hworking l (h.placed.tagged k l hk).2

/-- A consumer can only see registered labs, when `Update` gets labs that were delivered. -/
theorem Hub.Tended.offered_step (h : s.Tended c) (hreleased : s.Released a)
    (hs : (newHub c).step s a = some t) {l : Nat}
    (hl : l ∈ t.offered ∨ a.delivers = some l) : l ∈ t.registered := by
  have hgrow := Hub.registered_step hs
  have hlaw := Hub.offered_step hs l
  have hpos : 0 < t.offered.count l + a.delivers.toList.count l := by
    rcases hl with hl | hl
    · have := List.count_pos_iff.mpr hl
      omega
    · simp [hl]
  -- The lab was offered before the step, or the step registers it or releases it.
  by_cases hbefore : l ∈ s.offered
  · exact hgrow (h.offered hbefore)
  · rw [List.count_eq_zero.mpr hbefore] at hlaw
    split at hlaw
    · next heq =>
      -- The step is an `Update`, and its lab was delivered before.
      subst heq
      exact hgrow (h.delivered hreleased)
    · exact List.count_pos_iff.mp (by omega)

/-- Each step with working labs keeps the hub tended. -/
theorem Hub.Tended.step (h : s.Tended c) (hreleased : s.Released a) (hok : s.TakesWorking a)
    (hs : (newHub c).step s a = some t) : t.Tended c where
  phase := Hub.phase_step h.phase hs
  placed := Hub.placed_step h.phase h.placed hs
  alive := by
    have halive := h.alive
    rw [newHub_step] at hs
    obtain ⟨-, -, rfl⟩ := hs
    cases a with
    | newLabFailed i => exact absurd hok id
    | sendClosedLabs i l | sendClosedReady =>
      -- The hub panics here too, but not on an absent lab.
      simp [Hub.effect]
    | _ => exact halive
  offered := fun _ hl => h.offered_step hreleased hs (.inl hl)
  delivered := by
    intro l hl
    rw [Hub.delivered_step hs, List.mem_append] at hl
    rcases hl with hl | hl
    · exact Hub.registered_step hs (h.delivered hl)
    · exact h.offered_step hreleased hs (.inr (by simpa using hl))
  registered := by
    have hregistered := h.registered
    rw [newHub_step] at hs
    obtain ⟨-, -, rfl⟩ := hs
    cases a with
    | handLabs i l | recvLabs l =>
      -- The dispatcher registers one more lab, and it has started.
      have hl : l ∈ s.started := hok
      exact List.append_subset.mpr ⟨hregistered, List.cons_subset.mpr ⟨hl, List.nil_subset _⟩⟩
    | start i l ok =>
      refine fun k hk => ?_
      have hstarted := hregistered hk
      cases ok <;> simp [Hub.effect, hstarted]
    | _ => exact hregistered

/-- Any other step calls a method on an absent lab, or puts a lab that did not start into
`startedLabs`. -/
theorem Hub.not_onlyWorking_step (hnot : ¬ s.TakesWorking a)
    (hs : (newHub c).step s a = some t) : ¬ t.OnlyWorking := by
  rw [newHub_step] at hs
  obtain ⟨-, -, rfl⟩ := hs
  intro h
  cases a with
  | newLabFailed i => exact h.alive rfl
  | handLabs i l | recvLabs l =>
    -- The lab is in `startedLabs` now, so it would have to be a working one.
    refine hnot (h.labs l (GoMap.mem_values.mpr ⟨c.tag l, ?_⟩)).2
    exact GoMap.get?_set_self _ _ _
  | _ => exact hnot trivial

/-- Only working labs leave the hub along a run if and only if no `NewLab` of the run fails
and the dispatcher takes no lab whose `Start` failed. -/
theorem newHub_onlyWorking_iff (c : HubConf Tag) (as : List HubAction)
    (hreleased : (newHub c).AllSteps Hub.Released Hub.new as) :
    (newHub c).AllStates Hub.OnlyWorking Hub.new as ↔
      (newHub c).AllSteps Hub.TakesWorking Hub.new as :=
  Machine.allStates_iff_allSteps (fun _ h => h.onlyWorking)
    (fun _ _ _ h hreleased hok hs => h.step hreleased hok hs)
    (fun _ _ _ _ _ hnot hs => Hub.not_onlyWorking_step hnot hs) Hub.tended_new hreleased

/-- A lab that does not start, and whose worker chooses `stop`, does not leave the hub. -/
theorem newHub_onlyWorking_stopped :
    (newHub twoLabs).AllStates Hub.OnlyWorking Hub.new
      [.sendFirst 0, .sendSecond 1, .wgAdd 0, .newLab 0, .start 0 0 false, .close,
        .takeStop 0 0, .doneStop 0 0, .closeLab 0 0] :=
  (newHub_onlyWorking_iff twoLabs _ (by decide)).mpr (by decide)

/-- The first `NewLab` fails, and the worker calls `Start` on the absent lab. -/
theorem newHub_not_onlyWorking :
    ¬ ∀ (c : HubConf Nat) (as : List HubAction),
      (newHub c).AllSteps Hub.Released Hub.new as →
        (newHub c).AllStates Hub.OnlyWorking Hub.new as := by
  intro h
  have hall := h twoLabs [.sendFirst 0, .sendSecond 1, .wgAdd 0, .newLabFailed 0] (by decide)
  obtain ⟨s, hs, honly⟩ := hall.of_run Hub.panicked (some .nilLab) (by decide)
  exact honly.alive hs

end Haaukins.Lab
