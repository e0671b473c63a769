import Haaukins.Lab.HubCapacity

/-!
# `Haaukins.Lab.HubShutdown`: what happens to the labs after `Close`

`Close` closes `stop`. The dispatcher then waits for the workers, closes `labs`, closes the
labs that are left in it and the labs of `startedLabs`, and returns. Three kinds of step
lead away from a clean end.

* A lab is registered under a tag that is taken. It replaces the older lab in
  `startedLabs`, and nobody closes the older one.
* `wg.Wait()` returns while a worker has a token and has not yet called `wg.Add(1)`. That
  worker still makes a lab, and its send meets the closed channel `labs`.
* `NewLab` fails. The error is logged and the worker calls `Start` on no lab.

`CleanStep` excludes them. Then `Hub.Orderly` holds: every created lab is in exactly one
place among the workers, `labs`, the list of labs to close and the closed labs. A lab that is
`Hub.Lost` after the first kind of step has no such place, and keeps none.
-/

set_option autoImplicit false

namespace Haaukins.Lab

/-- `wg.Wait()` has returned. -/
def Dispatcher.waited : Dispatcher → Bool
  | .closingLabs | .draining | .closingStarted _ | .returned => true
  | _ => false

/-- The loop over the closed channel `labs` has ended. -/
def Dispatcher.emptied : Dispatcher → Bool
  | .closingStarted _ | .returned => true
  | _ => false

variable {Tag : Type}

/-- The labs of `startedLabs` that the dispatcher has yet to close. -/
def Hub.kept (s : Hub Tag) : List Nat :=
  match s.dispatcher with
  | .closingStarted rest => rest
  | .returned => []
  | _ => s.startedLabs.values

/-- What the dispatcher keeps depends on its place and its labs alone. -/
theorem Hub.kept_congr {s t : Hub Tag} (hdispatcher : t.dispatcher = s.dispatcher)
    (hstarted : t.startedLabs = s.startedLabs) : t.kept = s.kept := by
  simp [Hub.kept, hdispatcher, hstarted]

variable [DecidableEq Tag] {c : HubConf Tag} {s t : Hub Tag} {a : HubAction}

/-- The step does none of the three: register a taken tag, pass `wg.Wait()` while a worker
has a token without `wg.Add(1)`, or fail in `NewLab`. -/
def CleanStep (c : HubConf Tag) (s : Hub Tag) (a : HubAction) : Prop :=
  (∀ l, a.registers = some l → c.tag l ∉ s.startedLabs) ∧
  (a = .wgWait → ∀ i, s.worker i ≠ .received) ∧
  (∀ i, a ≠ .newLabFailed i)

instance (c : HubConf Tag) (s : Hub Tag) (a : HubAction) : Decidable (CleanStep c s a) :=
  inferInstanceAs (Decidable ((∀ l ∈ a.registers, c.tag l ∉ s.startedLabs) ∧
    (a = .wgWait → ∀ i, s.worker i ≠ .received) ∧ ∀ i, a ≠ .newLabFailed i))

/-- What clean steps keep. The law `place` follows each lab from its creation to its
`Close`. -/
structure Hub.Orderly (c : HubConf Tag) (s : Hub Tag) : Prop where
  place : ∀ l, total s.worker (Worker.carries l) + s.labs.count l + s.kept.count l
    + s.closed.count l = if l < s.created then 1 else 0
  ready : s.readyClosed = true → s.dispatcher ≠ .returned → c.cap ≤ s.startedLabs.size + 1
  readying : s.dispatcher = .readying → s.readyClosed = false
  exited : ∀ i, s.worker i = .exited → s.readyClosed = true
  waited : s.dispatcher.waited = true →
    total s.worker Worker.pending = 0 ∧ total s.worker Worker.holding = 0
  emptied : s.dispatcher.emptied = true → s.labs = []
  alive : s.panicked = none ∧ ∀ i, s.worker i ≠ .crashed

omit [DecidableEq Tag] in
/-- A new hub is orderly. -/
theorem Hub.orderly_new : (Hub.new : Hub Tag).Orderly c := by
  constructor <;>
    simp [Hub.new, Hub.kept, total, Worker.carries, Dispatcher.waited, Dispatcher.emptied]

attribute [local simp] Hub.enabled Hub.effect Hub.setWorker Hub.register

/-- A created lab is with a worker, in `labs`, kept or closed, and nowhere twice. -/
theorem Hub.lab_place_step (hphase : s.Phase) (h : s.Orderly c) (hok : CleanStep c s a)
    (hs : (newHub c).step s a = some t) (l : Nat) :
    total t.worker (Worker.carries l) + t.labs.count l + t.kept.count l + t.closed.count l
      = if l < t.created then 1 else 0 := by
  have hplace := h.place l
  rw [newHub_step] at hs
  obtain ⟨-, hg, rfl⟩ := hs
  cases a with
  -- The first token goes to a worker, and no lab moves.
  | sendFirst i =>
    have htotal : total (s.effect c (.sendFirst i)).worker (Worker.carries l)
        = total s.worker (Worker.carries l) :=
      hphase.total_sendFirst hg.1 hg.2 (Worker.carries l) rfl rfl
    rw [htotal]
    exact hplace
  | sendSecond i =>
    have hun : s.dispatcher = .unstarted := hphase.unstarted_iff.mpr (by simp [hg.1])
    have hle := le_total s.worker (Worker.carries l) i
    simp only [Hub.enabled] at hg
    simp [total_update, Hub.kept, hg, hun, Worker.carries] at hle hplace ⊢
    exact hplace
  -- In a step of one worker only its own share of the count changes.
  | wgAdd i | newLab i | newLabFailed i | start i k ok | sendLabs i k | done i | takeStop i k
  | doneStop i k | closeLab i k | exit i =>
    have hle := le_total s.worker (Worker.carries l) i
    rw [Hub.kept_congr (t := s.effect c _) (s := s) rfl rfl]
    simp only [Hub.enabled] at hg
    simp only [Hub.effect, Hub.setWorker, total_update, List.count_append, hg,
      Worker.carries] at hle ⊢
    grind
  -- A lab that is handed over has a new tag by the condition, so that none drops out of the map.
  | handLabs i k =>
    have hle := le_total s.worker (Worker.carries l) i
    have hvalues := GoMap.values_set_of_notMem (hok.1 k rfl) k
    simp only [Hub.enabled] at hg
    simp [Hub.kept, total_update, hg, hvalues, Worker.carries] at hle hplace ⊢
    grind
  | recvLabs k =>
    obtain ⟨ys, hys⟩ := List.head?_eq_some_iff.mp hg.2
    have hvalues := GoMap.values_set_of_notMem (hok.1 k rfl) k
    simp only [Hub.enabled] at hg
    simp [Hub.kept, hg, hys, hvalues] at hplace ⊢
    grind
  | drainLab k =>
    obtain ⟨ys, hys⟩ := List.head?_eq_some_iff.mp hg.2
    simp only [Hub.enabled] at hg
    simp [Hub.kept, hg, hys] at hplace ⊢
    grind
  | sendReady i =>
    have hle := le_total s.worker (Worker.carries l) i
    simp only [Hub.enabled] at hg
    simp [total_update, Hub.kept, hg, Worker.carries] at hle hplace ⊢
    exact hplace
  | closeStarted k rest =>
    simp only [Hub.enabled] at hg
    simp [Hub.kept, hg] at hplace ⊢
    grind
  | recvStop | pushQueue k | handQueue k | skipQueue k | countStarting | countFull | countToken
  | wgWait | closeLabs | drained | returnClosed =>
    simp only [Hub.enabled] at hg
    simp [Hub.kept, hg] at hplace ⊢
    exact hplace
  | _ => exact hplace

/-- Before its end the dispatcher closes `ready` only when the last labs are on their way. -/
theorem Hub.ready_step (hphase : s.Phase) (h : s.Orderly c) (hok : CleanStep c s a)
    (hs : (newHub c).step s a = some t) :
    t.readyClosed = true → t.dispatcher ≠ .returned → c.cap ≤ t.startedLabs.size + 1 := by
  have hready := h.ready
  rw [newHub_step] at hs
  obtain ⟨-, hg, rfl⟩ := hs
  cases a with
  | recvLabs l | handLabs i l =>
    intro hclosed _
    simp only [Hub.enabled] at hg
    have hle : c.cap ≤ s.startedLabs.size + 1 := hready hclosed (by simp [hg])
    have hsize := GoMap.size_set_of_notMem (hok.1 l rfl) l
    simp only [Hub.effect, Hub.setWorker, Hub.register, hsize]
    omega
  | countStarting =>
    intro _ _
    have hcap : s.labsStarting = c.cap := hg.2
    simp only [Hub.labsStarting, workerAmount] at hcap
    simp only [Hub.effect]
    omega
  | sendSecond i =>
    intro hclosed _
    have hd : s.dispatcher = .unstarted := hphase.unstarted_iff.mpr (by rw [hg.1]; decide)
    exact hready hclosed (by simp [hd])
  | recvStop | pushQueue l | handQueue l | skipQueue l | countFull | countToken | sendReady i
  | wgWait | closeLabs | drained | closeStarted l rest =>
    simp only [Hub.enabled] at hg
    exact fun hclosed _ => hready hclosed (by simp [hg])
  | returnClosed => exact fun _ hreturned => absurd rfl hreturned
  | _ => exact hready

/-- The dispatcher decides for a token only when `ready` is open: once `startedLabs` has
`cap - 1` labs, one of the two tests on its size holds. -/
theorem Hub.readying_step (hcap : 2 ≤ c.cap) (hcount : s.Counted c) (h : s.Orderly c)
    (hs : (newHub c).step s a = some t) :
    t.dispatcher = .readying → t.readyClosed = false := by
  have hready := h.ready
  have hreadying := h.readying
  rw [newHub_step] at hs
  obtain ⟨-, hg, rfl⟩ := hs
  cases a with
  | countToken =>
    intro _
    obtain ⟨hcounting, hstarting, hfull⟩ := hg
    have hle := hcount.calls_le hcap
    have hcreated := hcount.created_le
    have hheld := hcount.held
    have hsize := hcount.size_le
    simp only [Hub.labsStarting, workerAmount] at hstarting
    by_contra hclosed
    have := hready (by simpa using hclosed) (by simp [hcounting])
    omega
  | sendSecond i | handLabs i l | recvLabs l | recvStop | pushQueue l | handQueue l | skipQueue l
  | countStarting | countFull | sendReady i | wgWait | closeLabs | drained
  | closeStarted l rest | returnClosed =>
    intro hd
    simp at hd
  | _ => exact hreadying

/-- A worker leaves when `ready` is closed. -/
theorem Hub.exited_step (h : s.Orderly c) (hs : (newHub c).step s a = some t) :
    ∀ i, t.worker i = .exited → t.readyClosed = true := by
  have hstep := newHub_step.mp hs
  obtain ⟨-, hg, rfl⟩ := hstep
  cases a with
  | exit i => exact fun _ _ => hg.2
  | countStarting | returnClosed => exact fun _ _ => rfl
  | _ =>
    -- The channel `ready` stays as it is, and no other worker exits.
    exact Hub.forall_worker (p := fun w => w = .exited → s.readyClosed = true) h.exited
      (by simp [HubAction.positions]) hs

omit [DecidableEq Tag] in
/-- A worker without a token makes and sends nothing once the `WaitGroup` is at zero. -/
theorem Hub.Phase.idle (h : s.Phase) (hwg : s.wg = 0) (hreceived : ∀ i, s.worker i ≠ .received) :
    total s.worker Worker.pending = 0 ∧ total s.worker Worker.holding = 0 := by
  rw [h.wg_eq, total_eq_zero] at hwg
  simp only [total_eq_zero]
  constructor <;> intro i <;> have hi := hwg i <;> have hi' := hreceived i <;>
    cases hw : s.worker i <;> simp_all [Worker.adding, Worker.pending, Worker.holding]

/-- When `Wait` has returned, no worker has a lab. -/
theorem Hub.waited_step (hphase : s.Phase) (h : s.Orderly c) (hok : CleanStep c s a)
    (hs : (newHub c).step s a = some t) (ht : t.dispatcher.waited = true) :
    total t.worker Worker.pending = 0 ∧ total t.worker Worker.holding = 0 := by
  have hwaited := h.waited
  rw [newHub_step] at hs
  obtain ⟨-, hg, rfl⟩ := hs
  cases a with
  | wgWait => exact hphase.idle hg.2 (hok.2.1 rfl)
  | sendFirst i =>
    have hun : s.dispatcher = .unstarted := hphase.unstarted_iff.mpr (by simp [hg.1])
    simp [hun, Dispatcher.waited] at ht
  | wgAdd i | newLab i | newLabFailed i | start i k ok | sendLabs i k | done i | takeStop i k
  | doneStop i k | closeLab i k | exit i =>
    have hpending := le_total s.worker Worker.pending i
    have hholding := le_total s.worker Worker.holding i
    obtain ⟨h1, h2⟩ := hwaited ht
    simp only [Hub.enabled] at hg
    simp [total_update, hg, h1, h2, Worker.pending, Worker.holding] at hpending hholding ⊢
  | closeLabs | drained | closeStarted l rest | returnClosed =>
    simp only [Hub.enabled] at hg
    exact hwaited (by simp [hg, Dispatcher.waited])
  | sendSecond i | handLabs i k | recvLabs k | recvStop | pushQueue k | handQueue k
  | skipQueue k | countStarting | countFull | countToken | sendReady i =>
    simp [Dispatcher.waited] at ht
  | _ => exact hwaited ht

/-- When `labs` was drained, it is empty. -/
theorem Hub.emptied_step (hphase : s.Phase) (h : s.Orderly c)
    (hs : (newHub c).step s a = some t) (ht : t.dispatcher.emptied = true) : t.labs = [] := by
  have hemptied := h.emptied
  have hclosed := hphase.labsClosed_eq
  rw [newHub_step] at hs
  obtain ⟨-, hg, rfl⟩ := hs
  cases a with
  | sendLabs i l =>
    -- The channel was drained after it was closed, and nothing is sent on it then.
    have hopen : s.dispatcher.closedLabs = false := by
      rw [← hclosed]
      simpa using hg.2.1
    have hafter : s.dispatcher.emptied = true := ht
    cases hd : s.dispatcher <;> simp [hd, Dispatcher.emptied, Dispatcher.closedLabs] at hopen hafter
  | recvLabs l | drainLab l =>
    simp only [Hub.enabled] at hg
    simp [hg, Dispatcher.emptied] at ht
  | drained => exact hg.2
  | closeStarted l rest | returnClosed =>
    simp only [Hub.enabled] at hg
    exact hemptied (by simp [hg, Dispatcher.emptied])
  | sendSecond i | handLabs i l | recvStop | pushQueue l | handQueue l | skipQueue l
  | countStarting | countFull | countToken | sendReady i | wgWait | closeLabs =>
    simp [Dispatcher.emptied] at ht
  | _ => exact hemptied ht

/-- `labs` is closed after `wg.Wait()`, and then no worker holds a lab. -/
theorem Hub.Orderly.not_sendClosedLabs (hphase : s.Phase) (h : s.Orderly c)
    (i : Fin workerAmount) (l : Nat) : ¬ s.enabled c (.sendClosedLabs i l) := by
  intro hg
  have hclosed : s.dispatcher.closedLabs = true := hphase.labsClosed_eq ▸ hg.2
  have hwaited : s.dispatcher.waited = true := by
    cases hd : s.dispatcher <;> simp_all [Dispatcher.waited, Dispatcher.closedLabs]
  have hle := le_total s.worker Worker.holding i
  simp [hg.1, (h.waited hwaited).2, Worker.holding] at hle

/-- A clean step does not end the process. -/
theorem Hub.alive_step (hphase : s.Phase) (h : s.Orderly c) (hok : CleanStep c s a)
    (hs : (newHub c).step s a = some t) :
    t.panicked = none ∧ ∀ i, t.worker i ≠ .crashed := by
  obtain ⟨halive, hcrashed⟩ := h.alive
  have hstep := newHub_step.mp hs
  obtain ⟨-, hg, rfl⟩ := hstep
  cases a with
  | sendClosedLabs i l => exact absurd hg (h.not_sendClosedLabs hphase i l)
  | sendClosedReady => simp [h.readying hg.1] at hg
  | newLabFailed i => exact absurd rfl (hok.2.2 i)
  | _ =>
    exact ⟨halive, Hub.forall_worker (p := (· ≠ .crashed)) hcrashed
      (by simp [HubAction.positions]) hs⟩

/-- All of the invariant. -/
theorem Hub.orderly_step (hcap : 2 ≤ c.cap) (hphase : s.Phase) (hcount : s.Counted c)
    (h : s.Orderly c) (hok : CleanStep c s a) (hs : (newHub c).step s a = some t) :
    t.Orderly c where
  place := Hub.lab_place_step hphase h hok hs
  ready := Hub.ready_step hphase h hok hs
  readying := Hub.readying_step hcap hcount h hs
  exited := Hub.exited_step h hs
  waited := Hub.waited_step hphase h hok hs
  emptied := Hub.emptied_step hphase h hs
  alive := Hub.alive_step hphase h hok hs

/-- The hub is orderly in every state that clean steps reach. -/
theorem Hub.orderly (hcap : 2 ≤ c.cap) (h : (newHub c).Reachable (CleanStep c) s) :
    s.Phase ∧ s.Counted c ∧ s.Orderly c := by
  refine h.invariant (fun s => s.Phase ∧ s.Counted c ∧ s.Orderly c) ?_ ?_
  · rintro s rfl
    exact ⟨Hub.phase_new, Hub.counted_new, Hub.orderly_new⟩
  · rintro s a t ⟨hphase, hcount, horderly⟩ hok hs
    have hfresh : FreshBelowCap c s a := fun l hl _ => hok.1 l hl
    exact ⟨Hub.phase_step hphase hs, Hub.counted_step hcap hphase hcount hfresh hs,
      Hub.orderly_step hcap hphase hcount horderly hok hs⟩

/-! ### States in which nothing moves -/

/-- The hub has come to rest: no goroutine of the hub and no waiting consumer can move. -/
def Hub.AtRest (c : HubConf Tag) (s : Hub Tag) : Prop :=
  (newHub c).Quiescent (fun a => a.external = false) s

/-- At rest no internal guard holds. -/
theorem Hub.AtRest.not_enabled (h : s.AtRest c) (halive : s.panicked = none)
    (a : HubAction) (ha : a.external = false) : ¬ s.enabled c a :=
  newHub_step_eq_none.mp (h a ha) halive

/-- At rest after `Close` both workers are at `range ready` or gone. -/
theorem Hub.Orderly.worker_of_stop (h : s.Orderly c) (hphase : s.Phase) (hrest : s.AtRest c)
    (hstop : s.stop = true) (i : Fin workerAmount) :
    s.worker i = .ranging ∨ s.worker i = .exited := by
  have hno := hrest.not_enabled h.alive.1
  have hlaunched := hphase.launched (by simp [hphase.stop_launched hstop]) i
  have hcrashed := h.alive.2 i
  cases hw : s.worker i with
  | ranging => exact .inl rfl
  | exited => exact .inr rfl
  | unstarted => exact absurd hw hlaunched
  | crashed => exact absurd hw hcrashed
  | received => exact absurd hw (hno (.wgAdd i) rfl)
  | creating => exact absurd hw (hno (.newLab i) rfl)
  | starting l => exact absurd hw (hno (.start i l true) rfl)
  | sending l => exact absurd ⟨hw, hstop⟩ (hno (.takeStop i l) rfl)
  | sent => exact absurd hw (hno (.done i) rfl)
  | stopping l => exact absurd hw (hno (.doneStop i l) rfl)
  | closing l => exact absurd hw (hno (.closeLab i l) rfl)

/-- At rest after `Close` the dispatcher has returned. -/
theorem Hub.Orderly.returned_of_stop (h : s.Orderly c) (hphase : s.Phase)
    (hrest : s.AtRest c) (hstop : s.stop = true) : s.dispatcher = .returned := by
  have hno := hrest.not_enabled h.alive.1
  have hworker := h.worker_of_stop hphase hrest hstop
  cases hd : s.dispatcher with
  | returned => rfl
  | unstarted => exact absurd (hphase.stop_launched hstop) (hphase.unstarted_iff.mp hd)
  | selecting => exact absurd ⟨hd, hstop⟩ (hno .recvStop rfl)
  | queueing l => exact absurd ⟨hd, hstop⟩ (hno (.skipQueue l) rfl)
  | counting =>
    have h1 := hno .countStarting rfl
    have h2 := hno .countFull rfl
    have h3 := hno .countToken rfl
    simp [hd] at h1 h2 h3
    exact absurd (h3 h1) (h2 h1)
  | readying =>
    have hopen := h.readying hd
    have h0 : s.worker 0 = .ranging := by
      rcases hworker 0 with hw | hw
      · exact hw
      · simp [h.exited 0 hw] at hopen
    exact absurd ⟨hd, by simp [hopen], h0⟩ (hno (.sendReady 0) rfl)
  -- The workers wait for work or have returned, so that nobody is at work.
  | waiting =>
    have hwg : s.wg = 0 := by
      rw [hphase.wg_eq, total_eq_zero]
      intro i
      rcases hworker i with hw | hw <;> simp [hw, Worker.adding]
    exact absurd ⟨hd, hwg⟩ (hno .wgWait rfl)
  | closingLabs => exact absurd hd (hno .closeLabs rfl)
  | draining =>
    cases hlabs : s.labs with
    | nil => exact absurd ⟨hd, hlabs⟩ (hno .drained rfl)
    | cons l ls => exact absurd ⟨hd, by simp [hlabs]⟩ (hno (.drainLab l) rfl)
  | closingStarted rest =>
    cases rest with
    | nil => exact absurd hd (hno .returnClosed rfl)
    | cons l ls => exact absurd ⟨hd, by simp⟩ (hno (.closeStarted l (l :: ls)) rfl)

/-- At rest after `Close` each created lab is closed once, and nothing else is closed. -/
theorem Hub.Orderly.closed_of_stop (h : s.Orderly c) (hphase : s.Phase) (hrest : s.AtRest c)
    (hstop : s.stop = true) (l : Nat) :
    s.closed.count l = if l < s.created then 1 else 0 := by
  have hreturned := h.returned_of_stop hphase hrest hstop
  have hplace := h.place l
  have hcarries : total s.worker (Worker.carries l) = 0 := by
    rw [total_eq_zero]
    intro i
    rcases h.worker_of_stop hphase hrest hstop i with hw | hw <;> simp [hw, Worker.carries]
  have hlabs : s.labs = [] := h.emptied (by simp [hreturned, Dispatcher.emptied])
  simpa [hcarries, hlabs, Hub.kept, hreturned] using hplace

/-! ### Lost labs -/

/-- The lab `k` was registered, it is neither closed nor on the way to its `Close`. -/
def Hub.Lost (k : Nat) (s : Hub Tag) : Prop :=
  k ∈ s.registered ∧ k ∉ s.kept ∧ k ∉ s.closed

/-- A lab of `startedLabs` is lost when another lab is registered under its tag. -/
theorem Hub.lost_of_taken (hplaced : s.Placed c) (h : s.Orderly c) {k l : Nat}
    (hl : a.registers = some l) (hk : s.startedLabs.get? (c.tag l) = some k)
    (hs : (newHub c).step s a = some t) : t.Lost k := by
  rw [newHub_step] at hs
  obtain ⟨-, hg, rfl⟩ := hs
  obtain ⟨-, hfresh⟩ := hplaced.registers hg hl
  have hreg := (hplaced.tagged _ _ hk).2
  have hne : l ≠ k := fun heq => hfresh (heq ▸ hreg)
  have hvalues : k ∈ s.startedLabs.values := GoMap.mem_values.mpr ⟨_, hk⟩
  -- The older lab stands under its own tag only, which the new lab takes.
  have hgone : k ∉ (s.startedLabs.set (c.tag l) l).values := by
    rw [GoMap.mem_values]
    rintro ⟨x, hx⟩
    rw [GoMap.get?_set] at hx
    have htag := hplaced.tagged x k
    have htag' := hplaced.tagged _ _ hk
    grind
  have hplace := h.place k
  have hcount : ∀ ls : List Nat, k ∈ ls → 1 ≤ ls.count k := fun ls => List.count_pos_iff.mpr
  cases a with
  | recvLabs l' | handLabs i l' =>
    cases hl
    have hclosed : k ∉ s.closed := by
      intro hmem
      have hkept : k ∈ s.kept := by
        simp only [Hub.enabled] at hg
        simpa [Hub.kept, hg] using hvalues
      have := hcount _ hmem
      have := hcount _ hkept
      split at hplace <;> omega
    exact ⟨by simp [hreg], by simpa [Hub.kept] using hgone, hclosed⟩
  | _ => cases hl

/-- A lost lab stays lost. -/
theorem Hub.lost_step (hphase : s.Phase) (hplaced : s.Placed c) {k : Nat} (h : s.Lost k)
    (hs : (newHub c).step s a = some t) : t.Lost k := by
  obtain ⟨hreg, hkept, hclosed⟩ := h
  rw [newHub_step] at hs
  obtain ⟨-, hg, rfl⟩ := hs
  -- A lab that is registered is no longer with a worker or in `labs`.
  have hnot : total s.worker (Worker.carries k) = 0 ∧ k ∉ s.labs := by
    have hplace := hplaced.place k
    have := List.count_pos_iff.mpr hreg
    rw [← List.count_eq_zero]
    split at hplace <;> omega
  cases a with
  -- The map could only take the lab up again at a registration, and that is for a new lab.
  | recvLabs l | handLabs i l =>
    have hfresh := (hplaced.registers hg rfl).2
    have hgone : k ∉ (s.startedLabs.set (c.tag l) l).values := by
      simp only [Hub.enabled] at hg
      simp only [Hub.kept, hg] at hkept
      rw [GoMap.mem_values] at hkept ⊢
      rintro ⟨x, hx⟩
      rw [GoMap.get?_set] at hx
      grind
    exact ⟨by simp [hreg], by simpa [Hub.kept] using hgone, hclosed⟩
  -- What is closed now is another lab, which was on its worker, in `labs` or in the map.
  | closeLab i l =>
    have hle := le_total s.worker (Worker.carries k) i
    simp only [Hub.enabled] at hg
    simp [hg, Worker.carries, hnot.1] at hle
    exact ⟨hreg, hkept, by simp [hclosed, Ne.symm hle]⟩
  | drainLab l =>
    have hl := List.mem_of_head? hg.2
    exact ⟨hreg, hkept, by simp [hclosed]; rintro rfl; exact hnot.2 hl⟩
  | closeStarted l rest =>
    obtain ⟨hd, hl⟩ := hg
    simp only [Hub.kept, hd] at hkept
    refine ⟨hreg, fun hmem => hkept (List.mem_of_mem_erase hmem), ?_⟩
    simp [hclosed]
    rintro rfl
    exact hkept hl
  | sendSecond i =>
    have hun : s.dispatcher = .unstarted := hphase.unstarted_iff.mpr (by simp [hg.1])
    simp only [Hub.kept, hun] at hkept
    exact ⟨hreg, hkept, hclosed⟩
  | recvStop | pushQueue l | handQueue l | skipQueue l | countStarting | countFull | countToken
  | sendReady i | wgWait | closeLabs | drained =>
    simp only [Hub.enabled] at hg
    simp only [Hub.kept, hg] at hkept
    exact ⟨hreg, by simpa [Hub.kept] using hkept, hclosed⟩
  | returnClosed => exact ⟨hreg, by simp [Hub.kept], hclosed⟩
  | _ => exact ⟨hreg, hkept, hclosed⟩

end Haaukins.Lab
