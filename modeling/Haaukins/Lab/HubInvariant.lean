import Mathlib.Algebra.BigOperators.Fin
import Mathlib.Algebra.Order.BigOperators.Group.Finset
import Mathlib.Tactic.FinCases
import Haaukins.Lab.Hub

/-!
# `Haaukins.Lab.HubInvariant`: what every run of the hub keeps

The invariants here hold in every state of every run, whatever the tags, the capacity and
the outcomes of `NewLab` and `Start` are.

* `Hub.Phase` ties the flags and the `WaitGroup` to the positions of the goroutines.
* `Hub.Placed` says where the labs are: each created lab is in at most one place among the
  workers, the channel `labs` and the dispatcher's list, and `startedLabs` holds registered
  labs under their own tags.

Facts about both workers are sums of a weight over the positions (`total`). A step moves
one worker, and `total_update` is its effect on each such sum.
-/

set_option autoImplicit false

namespace Haaukins.Lab

/-! ### Weights of the workers -/

/-- The sum of a weight over the positions of the workers. -/
def total (w : Fin workerAmount → Worker) (g : Worker → Nat) : Nat := ∑ i, g (w i)

/-- One worker counts at most as much as both. -/
theorem le_total (w : Fin workerAmount → Worker) (g : Worker → Nat) (i : Fin workerAmount) :
    g (w i) ≤ total w g :=
  Finset.single_le_sum (f := fun i => g (w i)) (fun _ _ => Nat.zero_le _) (Finset.mem_univ i)

/-- The sum after worker `i` moves to `x`. -/
theorem total_update (w : Fin workerAmount → Worker) (g : Worker → Nat)
    (i : Fin workerAmount) (x : Worker) :
    total (Function.update w i x) g = total w g + g x - g (w i) := by
  have hle := le_total w g i
  unfold total at *
  rw [Fin.sum_univ_two] at *
  rw [Fin.sum_univ_two] at *
  fin_cases i <;> simp [Function.update] at * <;> omega

/-- A sum of weights is zero exactly when each worker has weight zero. -/
theorem total_eq_zero {w : Fin workerAmount → Worker} {g : Worker → Nat} :
    total w g = 0 ↔ ∀ i, g (w i) = 0 := by
  simp [total]

/-- The worker is between its `wg.Add(1)` and its `wg.Done()`. -/
def Worker.adding : Worker → Nat
  | .creating | .starting _ | .sending _ | .sent | .stopping _ | .crashed => 1
  | _ => 0

/-- The worker has a token for which it has not yet called `NewLab`. -/
def Worker.pending : Worker → Nat
  | .received | .creating => 1
  | _ => 0

/-- The worker has a lab that it still intends to send. -/
def Worker.holding : Worker → Nat
  | .starting _ | .sending _ => 1
  | _ => 0

/-- The worker has the lab `l`. -/
def Worker.carries (l : Nat) : Worker → Nat
  | .starting k | .sending k | .stopping k | .closing k => if k = l then 1 else 0
  | _ => 0

/-! ### Flags and positions -/

/-- The dispatcher has received from `stop` in its outer `select`. -/
def Dispatcher.stopped : Dispatcher → Bool
  | .waiting | .closingLabs | .draining | .closingStarted _ | .returned => true
  | _ => false

/-- The dispatcher has closed `labs`. -/
def Dispatcher.closedLabs : Dispatcher → Bool
  | .draining | .closingStarted _ | .returned => true
  | _ => false

/-- The lab that the dispatcher is about to queue. -/
def Dispatcher.lab : Dispatcher → List Nat
  | .queueing l => [l]
  | _ => []

variable {Tag : Type}

/-- The positions in which a step leaves the workers that it moves. -/
def HubAction.positions (s : Hub Tag) : HubAction → List Worker
  | .sendFirst _ => [.received, .ranging]
  | .sendSecond _ | .sendReady _ => [.received]
  | .wgAdd _ => [.creating]
  | .newLab _ => [.starting s.created]
  | .newLabFailed _ => [.crashed]
  | .start _ l _ => [.sending l]
  | .sendLabs _ _ | .handLabs _ _ => [.sent]
  | .takeStop _ l => [.stopping l]
  | .doneStop _ l => [.closing l]
  | .done _ | .closeLab _ _ => [.ranging]
  | .exit _ => [.exited]
  | _ => []

/-- The flags of the hub agree with the positions of its goroutines. While `NewHub` is in
its loop, the worker that it has just started waits for a token. -/
structure Hub.Phase (s : Hub Tag) : Prop where
  unstarted_iff : s.dispatcher = .unstarted ↔ s.initial ≠ 0
  ready_open : s.readyClosed = true → s.initial = 0
  initial_le : s.initial ≤ 2
  first : s.initial = 2 → ∀ i, s.worker i = if i = 0 then .ranging else .unstarted
  second : s.initial = 1 → s.worker 1 = .ranging
  launched : s.initial ≠ 2 → ∀ i, s.worker i ≠ .unstarted
  stop_launched : s.stop = true → s.initial = 0
  stop_of_stopped : s.dispatcher.stopped = true → s.stop = true
  labsClosed_eq : s.labsClosed = s.dispatcher.closedLabs
  wg_eq : s.wg = total s.worker Worker.adding

/-- The invariant holds before the first send. -/
theorem Hub.phase_new : (Hub.new : Hub Tag).Phase := by
  constructor <;> simp [Hub.new, Dispatcher.stopped, Dispatcher.closedLabs, total,
    Worker.adding]

section
variable [DecidableEq Tag] {c : HubConf Tag} {s t : Hub Tag} {a : HubAction}

attribute [local simp] Hub.enabled Hub.effect Hub.setWorker Hub.register

/-- What holds of all workers before a step holds of them after it, when it holds of the positions
that the step brings. -/
theorem Hub.forall_worker {p : Worker → Prop} (hall : ∀ j, p (s.worker j))
    (hnew : ∀ x ∈ a.positions s, p x) (hs : (newHub c).step s a = some t) (j : Fin workerAmount) :
    p (t.worker j) := by
  have hupdate : ∀ (w : Fin workerAmount → Worker), (∀ j, p (w j)) → ∀ i, ∀ x ∈ a.positions s,
      ∀ j, p (Function.update w i x j) := by
    intro w hw i x hx
    exact (Function.forall_update_iff w fun _ => p).mpr ⟨hnew x hx, fun j _ => hw j⟩
  rw [newHub_step] at hs
  obtain ⟨-, -, rfl⟩ := hs
  cases a with
  | sendFirst i =>
    exact hupdate _ (hupdate _ hall i .received List.mem_cons_self) 1 .ranging
      (List.mem_cons_of_mem _ List.mem_cons_self) j
  | sendSecond i | wgAdd i | newLab i | newLabFailed i | start i l ok | sendLabs i l
  | handLabs i l | done i | takeStop i l | doneStop i l | closeLab i l | exit i
  | sendReady i =>
    exact hupdate _ hall i _ List.mem_cons_self j
  | _ => exact hall j

omit [DecidableEq Tag] in
/-- The dispatcher runs only after `NewHub` has returned. -/
theorem Hub.Phase.initial_eq_zero (h : s.Phase) (hd : s.dispatcher ≠ .unstarted) :
    s.initial = 0 := by
  by_contra hinit
  exact hd (h.unstarted_iff.mpr hinit)

/-- The dispatcher starts with the second send. -/
theorem Hub.unstarted_iff_step (h : s.Phase) (hs : (newHub c).step s a = some t) :
    t.dispatcher = .unstarted ↔ t.initial ≠ 0 := by
  rw [newHub_step] at hs
  obtain ⟨-, hg, rfl⟩ := hs
  cases a with
  | sendFirst i =>
    have hd : s.dispatcher = .unstarted := h.unstarted_iff.mpr (by rw [hg.1]; decide)
    exact iff_of_true hd Nat.one_ne_zero
  | sendSecond i => simp
  | handLabs i l | recvLabs l | recvStop | pushQueue l | handQueue l | skipQueue l
  | countStarting | countFull | countToken | sendReady i | wgWait | closeLabs | drained
  | closeStarted l rest | returnClosed =>
    -- The dispatcher was running, and it still is.
    simp only [Hub.enabled] at hg
    have hinit := h.initial_eq_zero (by simp [hg])
    simp [hinit]
  | _ => exact h.unstarted_iff

/-- `ready` is not closed before both sends are made. -/
theorem Hub.ready_open_step (h : s.Phase) (hs : (newHub c).step s a = some t) :
    t.readyClosed = true → t.initial = 0 := by
  rw [newHub_step] at hs
  obtain ⟨-, hg, rfl⟩ := hs
  cases a with
  | sendFirst i =>
    intro hready
    have hinit := h.ready_open hready
    have hfirst := hg.1
    omega
  | sendSecond i => exact fun _ => rfl
  | countStarting | returnClosed =>
    -- The dispatcher closes `ready`.
    simp only [Hub.enabled] at hg
    exact fun _ => h.initial_eq_zero (by simp [hg])
  | _ => exact h.ready_open

/-- There are two sends at most. -/
theorem Hub.initial_le_step (h : s.Phase) (hs : (newHub c).step s a = some t) :
    t.initial ≤ 2 := by
  rw [newHub_step] at hs
  obtain ⟨-, -, rfl⟩ := hs
  cases a with
  | sendFirst i => exact Nat.le_succ 1
  | sendSecond i => exact Nat.zero_le 2
  | _ => exact h.initial_le

/-- Before the first send only one worker exists. -/
theorem Hub.first_step (h : s.Phase) (hs : (newHub c).step s a = some t) :
    t.initial = 2 → ∀ i, t.worker i = if i = 0 then .ranging else .unstarted := by
  rw [newHub_step] at hs
  obtain ⟨-, hg, rfl⟩ := hs
  cases a with
  | sendFirst i | sendSecond i =>
    intro hinit
    simp at hinit
  | wgAdd i | newLab i | newLabFailed i | start i l ok | sendLabs i l | handLabs i l | done i
  | takeStop i l | doneStop i l | closeLab i l =>
    intro hinit
    -- No worker has a token yet.
    have hw := h.first hinit i
    simp only [Hub.enabled] at hg
    split at hw <;> simp [hw] at hg
  | exit i =>
    intro hinit
    have hzero := h.ready_open hg.2
    have htwo : s.initial = 2 := hinit
    omega
  | sendReady i =>
    intro hinit
    have hzero := h.initial_eq_zero (by simp [hg.1])
    have htwo : s.initial = 2 := hinit
    omega
  | _ => exact h.first

/-- Before the second send the second worker has received nothing. -/
theorem Hub.second_step (h : s.Phase) (hs : (newHub c).step s a = some t) :
    t.initial = 1 → t.worker 1 = .ranging := by
  rw [newHub_step] at hs
  obtain ⟨-, hg, rfl⟩ := hs
  cases a with
  | sendFirst i =>
    intro _
    show Function.update (Function.update s.worker i .received) 1 .ranging 1 = .ranging
    rw [Function.update_self]
  | sendSecond i =>
    intro hinit
    simp at hinit
  | wgAdd i | newLab i | newLabFailed i | start i l ok | sendLabs i l | handLabs i l | done i
  | takeStop i l | doneStop i l | closeLab i l =>
    intro hinit
    have hw := h.second hinit
    -- The second worker waits for its first token, so the other one moves.
    have hne : 1 ≠ i := by
      rintro rfl
      simp [hw] at hg
    exact (Function.update_of_ne hne ..).trans hw
  | exit i =>
    intro hinit
    have hzero := h.ready_open hg.2
    have hone : s.initial = 1 := hinit
    omega
  | sendReady i =>
    intro hinit
    have hzero := h.initial_eq_zero (by simp [hg.1])
    have hone : s.initial = 1 := hinit
    omega
  | _ => exact h.second

/-- After the first send both workers exist. -/
theorem Hub.launched_step (h : s.Phase) (hs : (newHub c).step s a = some t) :
    t.initial ≠ 2 → ∀ i, t.worker i ≠ .unstarted := by
  have hstep := newHub_step.mp hs
  obtain ⟨-, hg, rfl⟩ := hstep
  cases a with
  | sendFirst i =>
    intro _ j
    show Function.update (Function.update s.worker i .received) 1 .ranging j ≠ .unstarted
    by_cases hj : j = 1
    · subst hj
      simp
    · -- The first worker was started before the loop of `NewHub`.
      have htwo : ∀ j : Fin workerAmount, j ≠ 1 → j = 0 := by decide
      have hw : s.worker j = .ranging := by rw [h.first hg.1 j, if_pos (htwo j hj)]
      rw [Function.update_of_ne hj]
      by_cases hi : j = i
      · subst hi
        simp
      · rw [Function.update_of_ne hi, hw]
        simp
  | sendSecond i =>
    have hone : s.initial ≠ 2 := by
      rw [hg.1]
      decide
    exact fun _ => Hub.forall_worker (p := (· ≠ .unstarted)) (h.launched hone)
      (by simp [HubAction.positions]) hs
  | _ =>
    exact fun hinit => Hub.forall_worker (p := (· ≠ .unstarted)) (h.launched hinit)
      (by simp [HubAction.positions]) hs

/-- `Close` comes after both sends. -/
theorem Hub.stop_launched_step (h : s.Phase) (hs : (newHub c).step s a = some t) :
    t.stop = true → t.initial = 0 := by
  rw [newHub_step] at hs
  obtain ⟨-, hg, rfl⟩ := hs
  cases a with
  | sendFirst i =>
    intro hstop
    have hinit := h.stop_launched hstop
    have hfirst := hg.1
    omega
  | sendSecond i => exact fun _ => rfl
  | close => exact fun _ => hg.1
  | _ => exact h.stop_launched

/-- The dispatcher stops only when `stop` is closed. -/
theorem Hub.stop_of_stopped_step (h : s.Phase) (hs : (newHub c).step s a = some t) :
    t.dispatcher.stopped = true → t.stop = true := by
  have hstop := h.stop_of_stopped
  rw [newHub_step] at hs
  obtain ⟨-, hg, rfl⟩ := hs
  cases a with
  | recvStop => exact fun _ => hg.2
  | wgWait | closeLabs | drained | closeStarted l rest | returnClosed =>
    simp only [Hub.enabled] at hg
    exact fun _ => hstop (by simp [hg, Dispatcher.stopped])
  | close => exact fun _ => rfl
  | sendSecond i | handLabs i l | recvLabs l | pushQueue l | handQueue l | skipQueue l
  | countStarting | countFull | countToken | sendReady i =>
    -- The dispatcher goes on with its loop.
    exact fun hstopped => absurd hstopped Bool.false_ne_true
  | _ => exact hstop

/-- `labs` is closed by the dispatcher, and by nothing else. -/
theorem Hub.labsClosed_eq_step (h : s.Phase) (hs : (newHub c).step s a = some t) :
    t.labsClosed = t.dispatcher.closedLabs := by
  have hclosed := h.labsClosed_eq
  rw [newHub_step] at hs
  obtain ⟨-, hg, rfl⟩ := hs
  cases a with
  | sendSecond i =>
    have hd : s.dispatcher = .unstarted := h.unstarted_iff.mpr (by rw [hg.1]; decide)
    rw [hd] at hclosed
    exact hclosed
  | handLabs i l =>
    rw [hg.2.2.2] at hclosed
    exact hclosed
  | closeLabs => rfl
  | recvLabs l | recvStop | pushQueue l | handQueue l | skipQueue l
  | countStarting | countFull | countToken | sendReady i | wgWait | drained
  | closeStarted l rest | returnClosed =>
    -- The dispatcher stays on its side of `close(labs)`.
    simp only [Hub.enabled] at hg
    simp only [hg, Dispatcher.closedLabs] at hclosed
    exact hclosed
  | _ => exact hclosed

omit [DecidableEq Tag] in
/-- The first token goes to the first worker. A weight that is zero on workers without a
token grows by its value at `received`. -/
theorem Hub.Phase.total_sendFirst (h : s.Phase) {i : Fin workerAmount}
    (hinit : s.initial = 2) (hi : s.worker i = .ranging) (g : Worker → Nat)
    (hranging : g .ranging = 0) (hunstarted : g .unstarted = 0) :
    total (Function.update (Function.update s.worker i .received) 1 .ranging) g
      = total s.worker g + g .received := by
  have hfirst := h.first hinit
  have hi0 : i = 0 := by
    by_contra hne
    simp [hfirst i, hne] at hi
  have h1 : s.worker 1 = .unstarted := by simp [hfirst 1]
  have hne : Function.update s.worker i .received 1 = .unstarted := by
    rw [Function.update_of_ne (by simp [hi0]), h1]
  rw [total_update, total_update, hne, hi, hranging, hunstarted]
  omega

/-- The counter is the number of workers between `Add` and `Done`. -/
theorem Hub.wg_eq_step (h : s.Phase) (hs : (newHub c).step s a = some t) :
    t.wg = total t.worker Worker.adding := by
  have hwg := h.wg_eq
  rw [newHub_step] at hs
  obtain ⟨-, hg, rfl⟩ := hs
  cases a with
  | sendFirst i => simp [hwg, h.total_sendFirst hg.1 hg.2 Worker.adding rfl rfl, Worker.adding]
  | sendSecond i | wgAdd i | newLab i | newLabFailed i | start i l ok | sendLabs i l
  | handLabs i l | done i | takeStop i l | doneStop i l | closeLab i l | exit i
  | sendReady i =>
    have hle := le_total s.worker Worker.adding i
    simp only [Hub.enabled] at hg
    simp only [Hub.effect, Hub.setWorker, Hub.register, total_update, hg, Worker.adding] at hle ⊢
    omega
  | _ => exact hwg

/-- Each step keeps the invariant, field by field. -/
theorem Hub.phase_step (h : s.Phase) (hs : (newHub c).step s a = some t) : t.Phase where
  unstarted_iff := Hub.unstarted_iff_step h hs
  ready_open := Hub.ready_open_step h hs
  initial_le := Hub.initial_le_step h hs
  first := Hub.first_step h hs
  second := Hub.second_step h hs
  launched := Hub.launched_step h hs
  stop_launched := Hub.stop_launched_step h hs
  stop_of_stopped := Hub.stop_of_stopped_step h hs
  labsClosed_eq := Hub.labsClosed_eq_step h hs
  wg_eq := Hub.wg_eq_step h hs

/-- The flags agree with the positions in every state of every run. -/
theorem Hub.phase {ok : Hub Tag → HubAction → Prop} (h : (newHub c).Reachable ok s) :
    s.Phase :=
  h.invariant Hub.Phase (fun _ hinit => hinit ▸ Hub.phase_new)
    fun _ _ _ hP _ hstep => Hub.phase_step hP hstep

/-! ### Where the labs are -/

/-- Each created lab is in at most one place among the workers, `labs` and the list of
registered labs. A lab of `startedLabs` is registered and stands under its own tag. -/
structure Hub.Placed (c : HubConf Tag) (s : Hub Tag) : Prop where
  place : ∀ l, total s.worker (Worker.carries l) + s.labs.count l + s.registered.count l
    ≤ if l < s.created then 1 else 0
  tagged : ∀ k l, s.startedLabs.get? k = some l → c.tag l = k ∧ l ∈ s.registered

/-- A new hub has no lab to place. -/
theorem Hub.placed_new : (Hub.new : Hub Tag).Placed c := by
  constructor <;> simp [Hub.new, total, Worker.carries]

/-- A created lab is with a worker, in `labs` or registered, and nowhere twice. -/
theorem Hub.place_step (hphase : s.Phase) (h : s.Placed c)
    (hs : (newHub c).step s a = some t) (l : Nat) :
    total t.worker (Worker.carries l) + t.labs.count l + t.registered.count l
      ≤ if l < t.created then 1 else 0 := by
  have hplace := h.place l
  rw [newHub_step] at hs
  obtain ⟨-, hg, rfl⟩ := hs
  cases a with
  | sendFirst i =>
    have htotal := hphase.total_sendFirst hg.1 hg.2 (Worker.carries l) rfl rfl
    have hgoal : total (s.effect c (.sendFirst i)).worker (Worker.carries l)
        = total s.worker (Worker.carries l) := htotal
    rw [hgoal]
    exact hplace
  | sendSecond i | wgAdd i | newLab i | newLabFailed i | start i k ok | sendLabs i k
  | handLabs i k | done i | takeStop i k | doneStop i k | closeLab i k | exit i
  | sendReady i =>
    have hle := le_total s.worker (Worker.carries l) i
    simp only [Hub.enabled] at hg
    simp only [Hub.effect, Hub.setWorker, Hub.register, total_update, List.count_append, hg,
      Worker.carries] at hle ⊢
    grind
  | recvLabs k | drainLab k =>
    obtain ⟨ys, hys⟩ := List.head?_eq_some_iff.mp hg.2
    simp [hys] at hplace ⊢
    grind
  | _ => exact hplace

/-- A started lab stands under its own tag. -/
theorem Hub.tagged_step (h : s.Placed c) (hs : (newHub c).step s a = some t) :
    ∀ k l, t.startedLabs.get? k = some l → c.tag l = k ∧ l ∈ t.registered := by
  have htagged := h.tagged
  clear h
  rw [newHub_step] at hs
  obtain ⟨-, hg, rfl⟩ := hs
  cases a with
  | handLabs i l | recvLabs l =>
    intro k l' hk
    simp only [Hub.effect, Hub.setWorker, Hub.register, GoMap.get?_set] at hk ⊢
    grind
  | _ => exact htagged

/-- Both facts together. -/
theorem Hub.placed_step (hphase : s.Phase) (h : s.Placed c)
    (hs : (newHub c).step s a = some t) : t.Placed c where
  place := Hub.place_step hphase h hs
  tagged := Hub.tagged_step h hs

/-- The labs are in their places in every state of every run. -/
theorem Hub.placed {ok : Hub Tag → HubAction → Prop} (h : (newHub c).Reachable ok s) :
    s.Placed c := by
  refine (h.invariant (fun s => s.Phase ∧ s.Placed c) ?_ ?_).2
  · rintro s rfl
    exact ⟨Hub.phase_new, Hub.placed_new⟩
  · rintro s a t ⟨hphase, hplaced⟩ _ hs
    exact ⟨Hub.phase_step hphase hs, Hub.placed_step hphase hplaced hs⟩

end

end Haaukins.Lab
