import Haaukins.Lab.HubShutdown

/-!
# `Haaukins.Lab.HubWait`: `wg.Wait()` and the end of the hub

In `newHub`, `wg.Wait()` is the one step `wgWait`, which returns at a counter of zero.
`closingHub` refines this step to the waiter of `sync.WaitGroup`.

* `Wait` returns at once when it finds the counter at zero (`wgWait`). Otherwise the dispatcher
  falls asleep (`sleep`).
* The `Done` that brings the counter to zero releases the dispatcher, which wakes up some time
  later (`wake`).
* A call of `Add` in between is a misuse that ends the process. `Wait` panics when it wakes up
  to a counter above zero, and `Add` itself panics when it comes between the two writes of the
  releasing `Done` (`lateAdd`).

`closingHub_step` is the refinement: a step of `closingHub` is a step of `newHub`, or it leaves
the hub as it is. So the laws of `Hub.Orderly` apply to each run of clean steps.

`close_closes_labs` is about these runs. Its second part shows that each step that is not clean
can go wrong: the process ends in a panic, or there is a lab that no run closes.
-/

set_option autoImplicit false

namespace Haaukins.Lab

/-- What `wg.Wait()` does. -/
inductive Waiter where
  /-- There is no sleeping call of `Wait`. -/
  | idle
  /-- `Wait` found the counter above zero and sleeps. -/
  | asleep
  /-- A `Done` brought the counter to zero, and `Wait` has yet to wake up. -/
  | released
  deriving DecidableEq, Repr

/-- A hub with the waiter of its `WaitGroup`. -/
structure ClosingHub (Tag : Type) where
  hub : Hub Tag
  waiter : Waiter
  /-- The process ended in a panic of the `WaitGroup`. -/
  misused : Bool

/-- The steps of the hub, where `wg.Wait()` can take several. -/
inductive ClosingAction where
  /-- A step of `newHub`. For `wgWait` this is a `Wait` that returns at once. -/
  | hub (a : HubAction)
  | sleep
  | wake
  | lateAdd (i : Fin workerAmount)
  deriving DecidableEq, Repr

/-- The steps that come from outside the hub. -/
def ClosingAction.external : ClosingAction → Bool
  | .hub a => a.external
  | _ => false

variable {Tag : Type}

/-- `Wait` gets through with this step: it finds the counter at zero, or this is the `Done` that
releases it. -/
def ClosingHub.letsThrough (s : ClosingHub Tag) : HubAction → Bool
  | .wgWait => true
  | .done _ | .doneStop _ _ => s.waiter = .asleep ∧ s.hub.wg = 1
  | _ => false

variable [DecidableEq Tag]

/-- `NewHub` with the waiter of its `WaitGroup`. -/
def closingHub (c : HubConf Tag) : Machine (ClosingHub Tag) ClosingAction where
  init s := s = { hub := Hub.new, waiter := .idle, misused := false }
  step s a :=
    if s.misused = true ∨ s.hub.panicked ≠ none then none
    else
      match a with
      | .hub a =>
        if a = .wgWait ∧ s.waiter ≠ .idle then none
        else
          ((newHub c).step s.hub a).map fun hub =>
            { s with
              hub := hub
              waiter := if s.waiter = .asleep ∧ hub.wg = 0 then .released else s.waiter }
      | .sleep =>
        if s.hub.dispatcher = .waiting ∧ s.waiter = .idle ∧ s.hub.wg ≠ 0 then
          some { s with waiter := .asleep }
        else none
      | .wake =>
        if s.waiter = .released then
          if s.hub.wg = 0 then
            ((newHub c).step s.hub .wgWait).map fun hub => { s with hub := hub, waiter := .idle }
          -- `sync: WaitGroup is reused before previous Wait has returned`.
          else some { s with misused := true }
        else none
      | .lateAdd i =>
        -- `sync: WaitGroup misuse: Add called concurrently with Wait`.
        if s.waiter = .released ∧ s.hub.wg = 0 ∧ s.hub.worker i = .received then
          some { s with misused := true }
        else none

namespace ClosingHub

/-- The step does none of the three: register a taken tag, let `wg.Wait()` through while a worker
has a token without `wg.Add(1)`, or fail in `NewLab`. -/
def CleanStep (c : HubConf Tag) (s : ClosingHub Tag) : ClosingAction → Prop
  | .hub a =>
    (∀ l ∈ a.registers, c.tag l ∉ s.hub.startedLabs) ∧
      (s.letsThrough a → ∀ i, s.hub.worker i ≠ .received) ∧ ∀ i, a ≠ .newLabFailed i
  | _ => True

instance (c : HubConf Tag) (s : ClosingHub Tag) (a : ClosingAction) :
    Decidable (CleanStep c s a) := by
  cases a <;> dsimp only [CleanStep] <;> infer_instance

/-- The hub has come to rest: no goroutine of the hub and no waiting consumer can move. -/
def AtRest (c : HubConf Tag) (s : ClosingHub Tag) : Prop :=
  (closingHub c).Quiescent (fun a => a.external = false) s

/-- It can end badly from here: a run comes to a panic, or there is a created lab that no run
closes. -/
def Spoilt (c : HubConf Tag) (s : ClosingHub Tag) : Prop :=
  (∃ as t, (closingHub c).run s as = some t ∧ t.hub.panicked ≠ none) ∨
    ∃ k < s.hub.created, ∀ as t, (closingHub c).run s as = some t → k ∉ t.hub.closed

/-- What clean steps keep of the waiter. No worker has a token without its `wg.Add(1)` when
`Wait` is released. -/
structure Awaited (s : ClosingHub Tag) : Prop where
  waiting : s.waiter ≠ .idle → s.hub.dispatcher = .waiting
  asleep : s.waiter = .asleep → s.hub.wg ≠ 0
  released : s.waiter = .released → s.hub.wg = 0 ∧ ∀ i, s.hub.worker i ≠ .received
  alive : s.misused = false

variable {c : HubConf Tag} {s t : ClosingHub Tag} {a : ClosingAction}

/-! ### The refinement -/

/-- What a step can do. -/
inductive Change (c : HubConf Tag) (s : ClosingHub Tag) :
    ClosingAction → ClosingHub Tag → Prop where
  | hub (a : HubAction) (hub : Hub Tag) (hwait : a = .wgWait → s.waiter = .idle)
      (hs : (newHub c).step s.hub a = some hub) :
      Change c s (.hub a)
        { s with
          hub := hub
          waiter := if s.waiter = .asleep ∧ hub.wg = 0 then .released else s.waiter }
  | sleep (hd : s.hub.dispatcher = .waiting) (hidle : s.waiter = .idle) (hwg : s.hub.wg ≠ 0) :
      Change c s .sleep { s with waiter := .asleep }
  | wake (hub : Hub Tag) (hreleased : s.waiter = .released)
      (hs : (newHub c).step s.hub .wgWait = some hub) :
      Change c s .wake { s with hub := hub, waiter := .idle }
  | reused (hreleased : s.waiter = .released) (hwg : s.hub.wg ≠ 0) :
      Change c s .wake { s with misused := true }
  | lateAdd (i : Fin workerAmount) (hreleased : s.waiter = .released)
      (hi : s.hub.worker i = .received) : Change c s (.lateAdd i) { s with misused := true }

/-- A step happens only as long as nothing was misused. -/
theorem step_change (hs : (closingHub c).step s a = some t) :
    s.misused = false ∧ s.Change c a t := by
  simp only [closingHub] at hs
  split at hs
  · cases hs
  next halive =>
  have hmisused : s.misused = false := by
    cases h : s.misused with
    | false => rfl
    | true => exact absurd (.inl h) halive
  refine ⟨hmisused, ?_⟩
  cases a with
  | hub a =>
    dsimp only at hs
    split at hs
    · cases hs
    next hnot =>
    obtain ⟨hub, hhub, rfl⟩ := Option.map_eq_some_iff.mp hs
    refine .hub a hub (fun ha => ?_) hhub
    by_contra hidle
    exact hnot ⟨ha, hidle⟩
  | sleep =>
    dsimp only at hs
    split at hs
    · next h =>
      cases hs
      exact .sleep h.1 h.2.1 h.2.2
    · cases hs
  | wake =>
    dsimp only at hs
    split at hs
    · next hreleased =>
      split at hs
      · obtain ⟨hub, hhub, rfl⟩ := Option.map_eq_some_iff.mp hs
        exact .wake hub hreleased hhub
      · next hwg =>
        cases hs
        exact .reused hreleased hwg
    · cases hs
  | lateAdd i =>
    dsimp only at hs
    split at hs
    · next h =>
      cases hs
      exact .lateAdd i h.1 h.2.2
    · cases hs

/-- A step is a step of `newHub`, or it leaves the hub as it is. -/
theorem closingHub_step (hs : (closingHub c).step s a = some t) :
    t.hub = s.hub ∨ ∃ b, (newHub c).step s.hub b = some t.hub := by
  cases (step_change hs).2 with
  | hub b hub _ hhub => exact .inr ⟨b, hhub⟩
  | wake hub _ hhub => exact .inr ⟨.wgWait, hhub⟩
  | sleep | reused | lateAdd => exact .inl rfl

/-- What the steps of `newHub` keep, those of `closingHub` keep as well. -/
theorem hub_invariant {I : Hub Tag → Prop}
    (hI : ∀ s b t, I s → (newHub c).step s b = some t → I t) {as : List ClosingAction}
    (h : I s.hub) (hrun : (closingHub c).run s as = some t) : I t.hub :=
  Machine.run_invariant (I := fun s => I s.hub) (A := fun _ => True)
    (fun _ _ _ h _ hs => by
      rcases closingHub_step hs with heq | ⟨b, hb⟩
      · exact heq ▸ h
      · exact hI _ b _ h hb)
    h (fun _ _ => trivial) hrun

/-- A step of `newHub` can be taken in `closingHub` while the process is alive, but for a `Wait`
that sleeps. -/
theorem step_hub {b : HubAction} {hub : Hub Tag} (halive : s.misused = false)
    (hwait : b = .wgWait → s.waiter = .idle) (hs : (newHub c).step s.hub b = some hub) :
    ∃ t, (closingHub c).step s (.hub b) = some t ∧ t.hub = hub ∧ t.misused = false ∧
      (s.waiter = .idle → t.waiter = .idle) := by
  have hpanicked := (newHub_step.mp hs).1
  have hnot : ¬ (b = .wgWait ∧ s.waiter ≠ .idle) := fun h => h.2 (hwait h.1)
  refine ⟨{ s with
    hub := hub
    waiter := if s.waiter = .asleep ∧ hub.wg = 0 then .released else s.waiter }, ?_, rfl, halive,
    fun hidle => by simp [hidle]⟩
  simp [closingHub, halive, hpanicked, hs, hnot]

/-! ### The waiter along clean steps -/

/-- While the dispatcher waits, the counter changes with `wg.Add(1)` and `wg.Done()` only, and no
worker gets a token. -/
theorem waiting_step {u v : Hub Tag} {b : HubAction} (hphase : u.Phase)
    (hd : u.dispatcher = .waiting) (hb : b ≠ .wgWait) (hs : (newHub c).step u b = some v) :
    v.dispatcher = .waiting ∧ (∀ i, v.worker i = .received → u.worker i = .received) ∧
      ((v.wg = u.wg ∨ ∃ i, u.worker i = .received ∧ v.wg = u.wg + 1) ∨
        (u.wg ≠ 0 ∧ v.wg = u.wg - 1 ∧ ∃ i, b = .done i ∨ ∃ l, b = .doneStop i l)) := by
  have hinitial := hphase.initial_eq_zero (by simp [hd])
  have hwg := hphase.wg_eq
  rw [newHub_step] at hs
  obtain ⟨-, hg, rfl⟩ := hs
  cases b with
  | wgWait => exact absurd rfl hb
  | wgAdd i =>
    simp only [Hub.enabled] at hg
    refine ⟨hd, fun j hj => ?_, .inl (.inr ⟨i, hg, rfl⟩)⟩
    by_cases hij : j = i
    · exact hij ▸ hg
    · simpa [Hub.effect, Hub.setWorker, Function.update_of_ne hij] using hj
  | done i | doneStop i l =>
    have hle := le_total u.worker Worker.adding i
    simp only [Hub.enabled] at hg
    simp only [hg, Worker.adding] at hle
    refine ⟨hd, fun j hj => ?_, .inr ⟨by omega, rfl, i, by simp⟩⟩
    by_cases hij : j = i
    · subst hij
      simp [Hub.effect, Hub.setWorker] at hj
    · simpa [Hub.effect, Hub.setWorker, Function.update_of_ne hij] using hj
  | newLab i | newLabFailed i | start i l ok | sendLabs i l | takeStop i l | closeLab i l
  | exit i =>
    refine ⟨hd, fun j hj => ?_, .inl (.inl rfl)⟩
    by_cases hij : j = i
    · subst hij
      simp [Hub.effect, Hub.setWorker] at hj
    · simpa [Hub.effect, Hub.setWorker, Function.update_of_ne hij] using hj
  | sendFirst | sendSecond => simp [Hub.enabled, hinitial] at hg
  | sendClosedLabs | request | receive | update | putDeallocated | takeDeallocated | requeue
  | handRequeue | close => exact ⟨hd, fun _ hj => hj, .inl (.inl rfl)⟩
  | _ => simp [Hub.enabled, hd] at hg

/-- The invariant of the waiter, with the runs of `newHub`. -/
theorem awaited_step (hphase : s.hub.Phase) (h : s.Awaited) (hok : CleanStep c s a)
    (hs : (closingHub c).step s a = some t) : t.Awaited := by
  cases (step_change hs).2 with
  | hub b hub hwait hhub =>
    by_cases hb : b = .wgWait
    · have hidle := hwait hb
      constructor <;> simp [hidle, h.alive]
    by_cases hidle : s.waiter = .idle
    · constructor <;> simp [hidle, h.alive]
    obtain ⟨hd, hreceived, hwg⟩ := waiting_step hphase (h.waiting hidle) hb hhub
    refine ⟨fun _ => hd, fun hasleep => ?_, fun hreleased => ?_, h.alive⟩
    · -- Still asleep: the counter is not zero.
      dsimp only at hasleep ⊢
      split at hasleep
      · cases hasleep
      · next hnot => exact fun hzero => hnot ⟨hasleep, hzero⟩
    · dsimp only at hreleased ⊢
      split at hreleased
      · next hnow =>
        -- This is the `Done` that releases `Wait`.
        have hnone : ∀ i, s.hub.worker i ≠ .received := by
          have hpos := h.asleep hnow.1
          rcases hwg with (hsame | ⟨i, -, hadd⟩) | ⟨-, hone, i, rfl | ⟨l, rfl⟩⟩
          · omega
          · omega
          · exact hok.2.1 (decide_eq_true ⟨hnow.1, by omega⟩)
          · exact hok.2.1 (decide_eq_true ⟨hnow.1, by omega⟩)
        exact ⟨hnow.2, fun i hi => hnone i (hreceived i hi)⟩
      · obtain ⟨hzero, hnone⟩ := h.released hreleased
        refine ⟨?_, fun i hi => hnone i (hreceived i hi)⟩
        rcases hwg with (hsame | ⟨i, hi, -⟩) | ⟨hpos, -⟩
        · exact hsame.trans hzero
        · exact absurd hi (hnone i)
        · exact absurd hzero hpos
  | sleep hd hidle hwg =>
    exact ⟨fun _ => hd, fun _ => hwg, by simp, h.alive⟩
  | wake hub hreleased hhub => constructor <;> simp [h.alive]
  | reused hreleased hwg => exact absurd (h.released hreleased).1 hwg
  | lateAdd i hreleased hi => exact absurd hi ((h.released hreleased).2 i)

/-- The steps of `newHub` in a clean run are clean. -/
theorem reachable_hub (h : (closingHub c).Reachable (CleanStep c) s) :
    s.Awaited ∧ (newHub c).Reachable (Lab.CleanStep c) s.hub := by
  refine h.invariant (fun s => s.Awaited ∧ (newHub c).Reachable (Lab.CleanStep c) s.hub) ?_ ?_
  · rintro s rfl
    exact ⟨by constructor <;> simp, .init rfl⟩
  · rintro s a t ⟨hawaited, hreach⟩ hok hs
    refine ⟨awaited_step (Hub.phase hreach) hawaited hok hs, ?_⟩
    cases (step_change hs).2 with
    | hub b hub hwait hhub =>
      refine hreach.step ⟨hok.1, fun hb => ?_, hok.2.2⟩ hhub
      subst hb
      exact hok.2.1 rfl
    | wake hub hreleased hhub =>
      exact hreach.step ⟨by simp [HubAction.registers],
        fun _ => (hawaited.released hreleased).2, by simp⟩ hhub
    | sleep | reused | lateAdd => exact hreach

/-- A hub that has come to rest with its waiter has come to rest. -/
theorem AtRest.hub (hrest : s.AtRest c) (h : s.Awaited) : s.hub.AtRest c := by
  intro b hb
  by_cases hwait : b = .wgWait ∧ s.waiter ≠ .idle
  · -- The waiter sleeps at a counter above zero, or it can wake up.
    obtain ⟨rfl, hidle⟩ := hwait
    by_contra hstep
    obtain ⟨hub, hhub⟩ := Option.ne_none_iff_exists'.mp hstep
    obtain ⟨hpanicked, hg, -⟩ := newHub_step.mp hhub
    have hwg : s.hub.wg = 0 := hg.2
    cases hw : s.waiter with
    | idle => exact hidle hw
    | asleep => exact h.asleep hw hwg
    | released =>
      have hwake := hrest .wake rfl
      simp [closingHub, h.alive, hpanicked, hw, hwg, hhub] at hwake
  · by_contra hstep
    obtain ⟨hub, hhub⟩ := Option.ne_none_iff_exists'.mp hstep
    obtain ⟨t, ht, -⟩ := step_hub h.alive (fun heq => by
      by_contra hidle
      exact hwait ⟨heq, hidle⟩) hhub
    exact absurd (hrest (.hub b) hb) (by simp [ht])

/-! ### What the excluded steps lead to -/

/-- A lost lab is never closed. -/
theorem spoilt_of_lost (hphase : t.hub.Phase) (hplaced : t.hub.Placed c) {k : Nat}
    (hlost : t.hub.Lost k) : t.Spoilt c := by
  have hcreated : k < t.hub.created := by
    have hplace := hplaced.place k
    have hpos := List.count_pos_iff.mpr hlost.1
    split at hplace <;> omega
  refine .inr ⟨k, hcreated, fun as u hrun => ?_⟩
  have hinv : u.hub.Phase ∧ u.hub.Placed c ∧ u.hub.Lost k :=
    hub_invariant (I := fun s => s.Phase ∧ s.Placed c ∧ s.Lost k)
      (fun _ _ _ h hs => ⟨Hub.phase_step h.1 hs, Hub.placed_step h.1 h.2.1 hs,
        Hub.lost_step h.1 h.2.1 h.2.2 hs⟩)
      ⟨hphase, hplaced, hlost⟩ hrun
  exact hinv.2.2.2.2

/-- A worker that calls `wg.Add(1)` after `wg.Wait()` may send on the closed channel. -/
theorem sendOnClosedLabs_of_received (halive : t.misused = false ∧ t.hub.panicked = none)
    (hidle : t.waiter = .idle) (hd : t.hub.dispatcher = .closingLabs) {i : Fin workerAmount}
    (hi : t.hub.worker i = .received) :
    ∃ as u, (closingHub c).run t as = some u ∧ u.hub.panicked = some .sendOnClosedLabs := by
  refine ⟨[.hub .closeLabs, .hub (.wgAdd i), .hub (.newLab i),
    .hub (.start i t.hub.created true), .hub (.sendClosedLabs i t.hub.created)], ?_⟩
  simp [closingHub, newHub, Hub.enabled, Hub.effect, Hub.setWorker, halive, hidle, hd, hi]

/-- So may a worker that does this after `wg.Wait()` is released, when `Wait` wakes up first. -/
theorem sendOnClosedLabs_of_released (halive : t.misused = false ∧ t.hub.panicked = none)
    (hreleased : t.waiter = .released) (hd : t.hub.dispatcher = .waiting) (hwg : t.hub.wg = 0)
    {i : Fin workerAmount} (hi : t.hub.worker i = .received) :
    ∃ as u, (closingHub c).run t as = some u ∧ u.hub.panicked = some .sendOnClosedLabs := by
  have hwake : ∃ u, (closingHub c).step t .wake = some u ∧ u.waiter = .idle ∧
      (u.misused = false ∧ u.hub.panicked = none) ∧ u.hub.dispatcher = .closingLabs ∧
        u.hub.worker i = .received := by
    simp [closingHub, newHub, Hub.enabled, Hub.effect, halive, hreleased, hd, hwg, hi]
  obtain ⟨u, hu, hidle, hualive, hud, hui⟩ := hwake
  obtain ⟨as, v, hrun, hpanic⟩ := sendOnClosedLabs_of_received (c := c) hualive hidle hud hui
  exact ⟨.wake :: as, v, by simp [hu, hrun], hpanic⟩

/-- `wg.Wait()` gets through while a worker has a token without `wg.Add(1)`. -/
theorem spoilt_of_letsThrough (h : s.Awaited) {b : HubAction}
    (hb : s.letsThrough b) {i : Fin workerAmount} (hi : s.hub.worker i = .received)
    (hs : (closingHub c).step s (.hub b) = some t) : t.Spoilt c := by
  suffices hrun : ∃ as u, (closingHub c).run t as = some u ∧
      u.hub.panicked = some .sendOnClosedLabs by
    obtain ⟨as, u, hrun, hpanic⟩ := hrun
    exact .inl ⟨as, u, hrun, by simp [hpanic]⟩
  cases (step_change hs).2 with
  | hub _ hub hwait hhub =>
    obtain ⟨hpanicked, hg, rfl⟩ := newHub_step.mp hhub
    cases b with
    | wgWait =>
      have hidle := hwait rfl
      exact sendOnClosedLabs_of_received ⟨h.alive, hpanicked⟩ (by simp [hidle]) rfl hi
    | done j | doneStop j l =>
      have hb : s.waiter = .asleep ∧ s.hub.wg = 1 := of_decide_eq_true hb
      have hd := h.waiting (by simp [hb.1])
      -- The worker `j` is not the one with the token.
      have hij : i ≠ j := by
        rintro rfl
        simp [Hub.enabled, hi] at hg
      have hkeeps : ∀ w, Function.update s.hub.worker j w i = .received := fun w => by
        rw [Function.update_of_ne hij, hi]
      exact sendOnClosedLabs_of_released ⟨h.alive, hpanicked⟩
        (by simp [hb.1, hb.2, Hub.effect]) hd (by simp [Hub.effect, hb.2]) (hkeeps _)
    | _ => cases hb

/-- Each step that is not clean can go wrong. -/
theorem spoilt_of_not_cleanStep (hphase : s.hub.Phase) (hplaced : s.hub.Placed c)
    (horderly : s.hub.Orderly c) (h : s.Awaited) (hnot : ¬ CleanStep c s a)
    (hs : (closingHub c).step s a = some t) : t.Spoilt c := by
  cases (step_change hs).2 with
  | hub b hub hwait hhub =>
    simp only [CleanStep, not_and_or, not_forall, not_not] at hnot
    rcases hnot with ⟨l, hl, htaken⟩ | ⟨hthrough, i, hi⟩ | ⟨i, rfl⟩
    · obtain ⟨k, hk⟩ := GoMap.mem_iff_get?.mp htaken
      have hlost : hub.Lost k := Hub.lost_of_taken hplaced horderly hl hk hhub
      exact spoilt_of_lost (Hub.phase_step hphase hhub) (Hub.placed_step hphase hplaced hhub) hlost
    · exact spoilt_of_letsThrough h hthrough hi hs
    · obtain ⟨-, -, rfl⟩ := newHub_step.mp hhub
      exact .inl ⟨[], _, rfl, by simp [Hub.effect]⟩
  | _ => exact absurd trivial hnot

end ClosingHub

/-- The hub shuts down cleanly in every run of clean steps: no step sends on a closed channel or
ends the process, and when the hub comes to rest after `Close`, every lab that `NewLab` created
was closed exactly once. Each step that is not clean can end in a panic, or with a lab that is
never closed. -/
theorem close_closes_labs {Tag : Type} [DecidableEq Tag] (c : HubConf Tag) (hcap : 2 ≤ c.cap)
    (s : ClosingHub Tag) (h : (closingHub c).Reachable (ClosingHub.CleanStep c) s) :
    (s.hub.panicked = none ∧ s.misused = false ∧
      (s.hub.stop = true → s.AtRest c →
        ∀ l, s.hub.closed.count l = if l < s.hub.created then 1 else 0)) ∧
    ∀ a t, (closingHub c).step s a = some t → ¬ ClosingHub.CleanStep c s a → t.Spoilt c := by
  obtain ⟨hawaited, hreach⟩ := ClosingHub.reachable_hub h
  obtain ⟨hphase, -, horderly⟩ := Hub.orderly hcap hreach
  refine ⟨⟨horderly.alive.1, hawaited.alive, fun hstop hrest => ?_⟩, fun a t hs hnot => ?_⟩
  · exact horderly.closed_of_stop hphase (hrest.hub hawaited) hstop
  · exact ClosingHub.spoilt_of_not_cleanStep hphase (Hub.placed hreach) horderly hawaited hnot hs

/-- Lab 0 reaches the dispatcher, lab 1 stays with its worker, and then `Close` is called. The
dispatcher sleeps in `wg.Wait()` until the worker with lab 1 is done. -/
def shutdownRun : List ClosingAction :=
  [.hub (.sendFirst 0), .hub (.sendSecond 1), .hub (.wgAdd 0), .hub (.wgAdd 1), .hub (.newLab 0),
    .hub (.newLab 1), .hub (.start 0 0 true), .hub (.start 1 1 true), .hub (.handLabs 0 0),
    .hub (.done 0), .hub .close, .hub (.skipQueue 0), .hub .recvStop, .sleep,
    .hub (.takeStop 1 1), .hub (.doneStop 1 1), .wake, .hub .closeLabs, .hub (.closeLab 1 1),
    .hub .drained, .hub (.closeStarted 0 [0]), .hub .returnClosed, .hub (.exit 0), .hub (.exit 1)]

/-- A hub that nobody has used yet, with its waiter. -/
def ClosingHub.new {Tag : Type} : ClosingHub Tag :=
  { hub := Hub.new, waiter := .idle, misused := false }

/-- A run of two labs, each closed once. -/
theorem close_closes_labs_two :
    ∃ s, (closingHub twoLabs).run ClosingHub.new shutdownRun = some s ∧ s.hub.panicked = none ∧
      s.misused = false ∧ s.hub.created = 2 ∧
      ∀ l, s.hub.closed.count l = if l < 2 then 1 else 0 := by
  obtain ⟨s, hrun, hstop, hcreated, hd, hw, hlabs, hqueue, hup, hdealloc, hlb, hinit, hwaiter⟩ :
      ∃ s, (closingHub twoLabs).run ClosingHub.new shutdownRun = some s ∧ s.hub.stop = true ∧
        s.hub.created = 2 ∧ s.hub.dispatcher = .returned ∧ (∀ i, s.hub.worker i = .exited) ∧
        s.hub.labs = [] ∧ s.hub.queue = [] ∧ s.hub.updating = [] ∧ s.hub.deallocated = [] ∧
        s.hub.dealloc = none ∧ s.hub.initial = 0 ∧ s.waiter = .idle :=
    ⟨_, rfl, by decide⟩
  have hclean : (closingHub twoLabs).AllSteps (ClosingHub.CleanStep twoLabs) ClosingHub.new
      shutdownRun := by
    decide
  have hrest : s.AtRest twoLabs := by
    intro a ha
    cases a with
    | hub a =>
      cases a with
      | request | update l | close => cases ha
      | _ =>
        simp [closingHub, newHub, Hub.enabled, hd, hw, hlabs, hqueue, hup, hdealloc, hlb, hinit]
    | sleep | wake | lateAdd i => simp [closingHub, hd, hwaiter]
  obtain ⟨⟨halive, hmisused, hclosed⟩, -⟩ := close_closes_labs twoLabs le_rfl s
    ((Machine.Reachable.init rfl).run hclean hrun)
  exact ⟨s, hrun, halive, hmisused, hcreated, hcreated ▸ hclosed hstop hrest⟩

/-- `Close` right after the second token: `wg.Wait()` finds the counter at zero, `labs` is
closed, and the first worker makes a lab and sends it. -/
theorem close_sends_on_closed_labs :
    ¬ ∀ c : HubConf Nat, 2 ≤ c.cap →
      ∀ s, (closingHub c).Reachable (fun _ _ => True) s →
        s.hub.panicked ≠ some .sendOnClosedLabs ∧ s.hub.panicked ≠ some .sendOnClosedReady ∧
        (s.hub.stop = true → s.AtRest c →
          ∀ l, s.hub.closed.count l = if l < s.hub.created then 1 else 0) := by
  intro h
  have hpanic : ((closingHub twoLabs).run ClosingHub.new ([.sendFirst 0, .sendSecond 1, .close,
      .recvStop, .wgWait, .closeLabs, .wgAdd 0, .newLab 0, .start 0 0 true,
      .sendClosedLabs 0 0].map .hub)).map (fun s => s.hub.panicked) =
        some (some .sendOnClosedLabs) := by
    decide
  obtain ⟨s, hrun, hs⟩ := Option.map_eq_some_iff.mp hpanic
  exact (h twoLabs le_rfl s ((Machine.Reachable.init rfl).run (by simp) hrun)).1 hs

end Haaukins.Lab
