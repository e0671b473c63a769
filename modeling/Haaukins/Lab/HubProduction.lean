import Mathlib.Data.List.Count
import Mathlib.Data.List.Range
import Haaukins.Lab.HubShutdown

/-!
# `Haaukins.Lab.HubProduction`: how many labs a hub makes

`NewHub` sends two tokens, and each lab that reaches `queue` brings one more token until
`startedLabs` has `cap - 1` labs. With distinct tags, no failures and no released labs,
`Hub.Steady` counts exactly: no lab and no token is lost between the steps. In a state in
which nothing moves this leaves two cases: the dispatcher is idle because `cap` labs exist,
or it is blocked on a full `queue`.

`Hub.Closing` describes the run after `Close` from such a state. No new lab is made, each
step lowers `Hub.variant`, and the shutdown law of `Hub.Orderly` applies.
-/

set_option autoImplicit false

namespace Haaukins.Lab

/-- `NewLab` and `Start` succeed, no lab is released and `Close` is not called. -/
def HubAction.steady : HubAction → Bool
  | .close | .update _ | .newLabFailed _ | .start _ _ false => false
  | _ => true

/-- The worker is about to start the lab `l`. -/
def Worker.launches (l : Nat) : Worker → Nat
  | .starting k => if k = l then 1 else 0
  | _ => 0

variable {Tag : Type} [DecidableEq Tag] {c : HubConf Tag} {s t : Hub Tag} {a : HubAction}

/-- With distinct tags a lab is never registered under a tag that is taken. -/
theorem Hub.Placed.fresh_of_injective (htags : Function.Injective c.tag)
    (hplaced : s.Placed c) (hg : s.enabled c a) {l : Nat} (hl : a.registers = some l) :
    c.tag l ∉ s.startedLabs := by
  intro hmem
  obtain ⟨-, hnot⟩ := hplaced.registers hg hl
  obtain ⟨k, hk⟩ : ∃ k, s.startedLabs.get? (c.tag l) = some k := by
    rw [← Option.ne_none_iff_exists']
    exact fun hnone => GoMap.get?_eq_none.mp hnone hmem
  obtain ⟨htag, hreg⟩ := hplaced.tagged _ _ hk
  exact hnot (htags htag ▸ hreg)

/-- The exact bookkeeping of a run without failures, releases and `Close`. -/
structure Hub.Steady (c : HubConf Tag) (s : Hub Tag) : Prop where
  running : s.stop = false
  unused : s.updating = [] ∧ s.deallocated = [] ∧ s.dealloc = none
  staying : ∀ i l, s.worker i ≠ .stopping l ∧ s.worker i ≠ .closing l
  unclosed : s.closed = []
  calls_eq : s.calls = s.created
  held : s.created = s.registered.length + s.labs.length + total s.worker Worker.holding
  pushed : ∀ l, s.registered.count l = (s.queue ++ s.delivered ++ s.dispatcher.lab).count l
  tokens : s.calls + total s.worker Worker.pending + s.initial + s.dispatcher.token
    = 2 + min (s.registered.length - s.dispatcher.owed) (c.cap - 2)
  starts : ∀ l, s.started.count l + total s.worker (Worker.launches l)
    = if l < s.created then 1 else 0
  room : s.queue.length ≤ c.chanCap

omit [DecidableEq Tag] in
/-- A new hub is steady. -/
theorem Hub.steady_new : (Hub.new : Hub Tag).Steady c := by
  constructor <;> simp [Hub.new, total, Worker.holding, Worker.pending, Worker.launches,
    Dispatcher.owed, Dispatcher.token, Dispatcher.lab]

attribute [local simp] Hub.enabled Hub.effect Hub.setWorker Hub.register

omit [DecidableEq Tag] in
/-- Without `Close` the dispatcher does not stop. -/
theorem Hub.Steady.not_stopped (hphase : s.Phase) (h : s.Steady c) :
    s.dispatcher.stopped = false := by
  by_contra hstopped
  have := hphase.stop_of_stopped (by simpa using hstopped)
  simp [h.running] at this

/-- Without `Close` and `Update` these parts stay unused. -/
theorem Hub.unused_step (h : s.Steady c) (hok : a.steady = true)
    (hs : (newHub c).step s a = some t) :
    t.stop = false ∧ (t.updating = [] ∧ t.deallocated = [] ∧ t.dealloc = none) := by
  have hunused := h.unused
  rw [newHub_step] at hs
  obtain ⟨-, hg, rfl⟩ := hs
  cases a with
  | update l | close => cases hok
  | putDeallocated l => simp [hunused] at hg
  | takeDeallocated l => simp [hunused] at hg
  | requeue l | handRequeue l => exact ⟨h.running, hunused.1, hunused.2.1, rfl⟩
  | _ => exact ⟨h.running, hunused⟩

/-- Without `Close` no worker takes the branch of `stop`. -/
theorem Hub.staying_step (h : s.Steady c) (hs : (newHub c).step s a = some t) :
    ∀ i l, t.worker i ≠ .stopping l ∧ t.worker i ≠ .closing l := by
  have hg := (newHub_step.mp hs).2.1
  refine Hub.forall_worker (p := fun w => ∀ l, w ≠ .stopping l ∧ w ≠ .closing l) h.staying ?_ hs
  cases a with
  | takeStop i l => simp [h.running] at hg
  | doneStop i l => exact absurd hg (h.staying i l).1
  | _ => simp [HubAction.positions]

/-- No lab is closed before `Close`. -/
theorem Hub.unclosed_step (hphase : s.Phase) (h : s.Steady c)
    (hs : (newHub c).step s a = some t) : t.closed = [] := by
  have hunclosed := h.unclosed
  have hstaying := h.staying
  have hstopped := h.not_stopped hphase
  clear h hphase
  rw [newHub_step] at hs
  obtain ⟨-, hg, rfl⟩ := hs
  cases a with
  | closeLab i l => exact absurd hg (hstaying i l).2
  | drainLab l | closeStarted l rest =>
    simp only [Hub.enabled] at hg
    simp [hg, Dispatcher.stopped] at hstopped
  | _ => exact hunclosed

/-- Without failures each call of `NewLab` creates a lab. -/
theorem Hub.calls_eq_step (h : s.Steady c) (hok : a.steady = true)
    (hs : (newHub c).step s a = some t) : t.calls = t.created := by
  have hcalls := h.calls_eq
  rw [newHub_step] at hs
  obtain ⟨-, -, rfl⟩ := hs
  cases a with
  | newLab i => exact congrArg (· + 1) hcalls
  | newLabFailed i => cases hok
  | _ => exact hcalls

/-- A created lab is registered, in `labs` or with a worker. -/
theorem Hub.held_eq_step (hphase : s.Phase) (h : s.Steady c)
    (hs : (newHub c).step s a = some t) :
    t.created = t.registered.length + t.labs.length + total t.worker Worker.holding := by
  have hstep := Hub.holding_step hphase hs
  have hheld := h.held
  -- A hub that is not stopped drops no lab.
  have hdrops : a.drops = 0 := by
    have hrunning := h.running
    have hstopped := h.not_stopped hphase
    obtain ⟨-, hg, -⟩ := newHub_step.mp hs
    cases a with
    | takeStop i k => simp [hrunning] at hg
    | drainLab k =>
      simp only [Hub.enabled] at hg
      simp [hg, Dispatcher.stopped] at hstopped
    | _ => rfl
  omega

/-- A registered lab is queued, delivered or with the dispatcher. -/
theorem Hub.pushed_step (hphase : s.Phase) (h : s.Steady c)
    (hs : (newHub c).step s a = some t) (l : Nat) :
    t.registered.count l = (t.queue ++ t.delivered ++ t.dispatcher.lab).count l := by
  have hpushed := h.pushed l
  have hrunning := h.running
  have hunused := h.unused
  have hstopped := h.not_stopped hphase
  have hun := hphase.unstarted_iff
  clear h hphase
  rw [newHub_step] at hs
  obtain ⟨-, hg, rfl⟩ := hs
  cases a with
  | receive k =>
    obtain ⟨ys, hys⟩ := List.head?_eq_some_iff.mp hg.2
    simp [hys, List.count_cons] at hpushed ⊢
    omega
  | requeue k | handRequeue k => simp [hunused] at hg
  | skipQueue k => simp [hrunning] at hg
  | sendSecond i =>
    have hd : s.dispatcher = .unstarted := hun.mpr (by simp [hg.1])
    simpa [hd, Dispatcher.lab] using hpushed
  | handLabs i k | recvLabs k | pushQueue k | handQueue k | sendReady i =>
    simp only [Hub.enabled] at hg
    simp [hg, Dispatcher.lab, List.count_cons] at hpushed ⊢
    omega
  | wgWait | closeLabs | drained | closeStarted k rest | returnClosed | recvStop | countStarting
  | countFull | countToken =>
    simp only [Hub.enabled] at hg
    simpa [hg, Dispatcher.lab] using hpushed
  | _ => exact hpushed

/-- While the dispatcher decides about a token, it decides for it exactly while `startedLabs`
is smaller than `cap - 1`. There the size is the number of registered labs. -/
theorem Hub.tokens_eq_step (hcap : 2 ≤ c.cap) (hphase : s.Phase) (hcount : s.Counted c)
    (h : s.Steady c) (hs : (newHub c).step s a = some t) :
    t.calls + total t.worker Worker.pending + t.initial + t.dispatcher.token
      = 2 + min (t.registered.length - t.dispatcher.owed) (c.cap - 2) := by
  have htokens : s.spent = 2 + min s.decided (c.cap - 2) := h.tokens
  have hspent := Hub.spent_step hphase hs
  have hdecided := Hub.decided_step hphase hcount.owed_le hs
  show t.spent = 2 + min t.decided (c.cap - 2)
  have hle := hcount.size_le
  have hsize := hcount.size_eq
  have hheld := hcount.held
  have hcreated := hcount.created_le
  have howed := hcount.owed_le
  have hcalls : s.calls ≤ s.spent := by
    unfold Hub.spent
    omega
  rw [newHub_step] at hs
  obtain ⟨-, hg, -⟩ := hs
  cases a with
  | countStarting | countFull | countToken =>
    simp only [Hub.enabled, Hub.labsStarting, workerAmount] at hg
    have hcounting : s.decided = s.registered.length - 1 := by
      simp only [Hub.decided, hg, Dispatcher.owed]
    simp only [hg, Dispatcher.owed] at howed
    simp only [HubAction.tokens, HubAction.decides] at hspent hdecided
    omega
  | skipQueue k =>
    -- The dispatcher gives up a lab only after `Close`.
    simp [h.running] at hg
  | _ =>
    simp only [HubAction.tokens, HubAction.decides] at hspent hdecided
    omega

/-- A created lab is started once, or is about to be. -/
theorem Hub.starts_step (hphase : s.Phase) (h : s.Steady c) (hok : a.steady = true)
    (hs : (newHub c).step s a = some t) (l : Nat) :
    t.started.count l + total t.worker (Worker.launches l) = if l < t.created then 1 else 0 := by
  have hstarts := h.starts l
  rw [newHub_step] at hs
  obtain ⟨-, hg, rfl⟩ := hs
  cases a with
  | sendFirst i =>
    have htotal : total (s.effect c (.sendFirst i)).worker (Worker.launches l)
        = total s.worker (Worker.launches l) :=
      hphase.total_sendFirst hg.1 hg.2 (Worker.launches l) rfl rfl
    rw [htotal]
    exact hstarts
  | start i k ok =>
    have hle := le_total s.worker (Worker.launches l) i
    obtain rfl : ok = true := by
      cases ok with
      | true => rfl
      | false => cases hok
    simp only [Hub.enabled] at hg
    simp [total_update, hg, Worker.launches, List.count_cons] at hle ⊢
    grind
  | sendSecond i | wgAdd i | newLab i | newLabFailed i | sendLabs i k | handLabs i k | done i
  | takeStop i k | doneStop i k | closeLab i k | exit i | sendReady i =>
    have hle := le_total s.worker (Worker.launches l) i
    simp only [Hub.enabled] at hg
    simp only [Hub.effect, Hub.setWorker, Hub.register, total_update, hg, Worker.launches]
      at hle ⊢
    grind
  | _ => exact hstarts

/-- The queue does not grow past its room. -/
theorem Hub.room_step (h : s.Steady c) (hs : (newHub c).step s a = some t) :
    t.queue.length ≤ c.chanCap := by
  have hroom := h.room
  clear h
  rw [newHub_step] at hs
  obtain ⟨-, hg, rfl⟩ := hs
  cases a with
  | pushQueue l | requeue l =>
    simp at hg ⊢
    omega
  | receive l =>
    simp
    omega
  | _ => exact hroom

/-- All of the invariant. -/
theorem Hub.steady_step (hcap : 2 ≤ c.cap) (hphase : s.Phase) (hcount : s.Counted c)
    (h : s.Steady c) (hok : a.steady = true) (hs : (newHub c).step s a = some t) :
    t.Steady c where
  running := (Hub.unused_step h hok hs).1
  unused := (Hub.unused_step h hok hs).2
  staying := Hub.staying_step h hs
  unclosed := Hub.unclosed_step hphase h hs
  calls_eq := Hub.calls_eq_step h hok hs
  held := Hub.held_eq_step hphase h hs
  pushed := Hub.pushed_step hphase h hs
  tokens := Hub.tokens_eq_step hcap hphase hcount h hs
  starts := Hub.starts_step hphase h hok hs
  room := Hub.room_step h hs

/-- Without failures, releases and `Close` every step is clean when the tags are distinct. -/
theorem Hub.Steady.clean (htags : Function.Injective c.tag) (hphase : s.Phase)
    (hplaced : s.Placed c) (h : s.Steady c) (hok : a.steady = true)
    (hs : (newHub c).step s a = some t) : CleanStep c s a := by
  have hg := (newHub_step.mp hs).2.1
  refine ⟨fun l hl => hplaced.fresh_of_injective htags hg hl, ?_, ?_⟩
  · rintro rfl
    have hstopped := h.not_stopped hphase
    simp only [Hub.enabled] at hg
    simp [hg, Dispatcher.stopped] at hstopped
  · rintro i rfl
    cases hok

/-- The runs of this module are runs of clean steps, and the exact bookkeeping holds. -/
theorem Hub.steady (hcap : 2 ≤ c.cap) (htags : Function.Injective c.tag)
    (h : (newHub c).Reachable (fun _ a => a.steady = true) s) :
    s.Steady c ∧ (newHub c).Reachable (CleanStep c) s := by
  have hstep : ∀ s a t, (s.Phase ∧ s.Placed c ∧ s.Counted c ∧ s.Steady c) → a.steady = true →
      (newHub c).step s a = some t →
        (t.Phase ∧ t.Placed c ∧ t.Counted c ∧ t.Steady c) ∧ CleanStep c s a := by
    rintro s a t ⟨hphase, hplaced, hcount, hsteady⟩ hok hs
    have hclean := hsteady.clean htags hphase hplaced hok hs
    exact ⟨⟨Hub.phase_step hphase hs, Hub.placed_step hphase hplaced hs,
      Hub.counted_step hcap hphase hcount (fun l hl _ => hclean.1 l hl) hs,
      Hub.steady_step hcap hphase hcount hsteady hok hs⟩, hclean⟩
  have hinit : ∀ s, (newHub c).init s → s.Phase ∧ s.Placed c ∧ s.Counted c ∧ s.Steady c := by
    rintro s rfl
    exact ⟨Hub.phase_new, Hub.placed_new, Hub.counted_new, Hub.steady_new⟩
  exact ⟨(h.invariant _ hinit fun s a t hI hok hs => (hstep s a t hI hok hs).1).2.2.2,
    h.strengthen _ hinit hstep⟩

/-! ### At rest -/

/-- What is left at rest: no worker has a token or is before its send. -/
theorem Hub.Steady.worker_at_rest (h : s.Steady c) (hphase : s.Phase) (horderly : s.Orderly c)
    (hrest : s.AtRest c) (i : Fin workerAmount) :
    s.worker i = .ranging ∨ s.worker i = .exited ∨ ∃ l, s.worker i = .sending l := by
  have hno := hrest.not_enabled horderly.alive.1
  have hstaying := h.staying i
  have hcrashed := horderly.alive.2 i
  cases hw : s.worker i with
  | ranging => exact .inl rfl
  | exited => exact .inr (.inl rfl)
  | sending l => exact .inr (.inr ⟨l, rfl⟩)
  | unstarted =>
    -- `NewHub` still has to send the first token, and worker 0 waits for it.
    have hinit : s.initial = 2 := by
      by_contra hne
      exact hphase.launched hne i hw
    have h0 : s.worker 0 = .ranging := by simp [hphase.first hinit]
    exact absurd ⟨hinit, h0⟩ (hno (.sendFirst 0) rfl)
  | crashed => exact absurd hw hcrashed
  | received => exact absurd hw (hno (.wgAdd i) rfl)
  | creating => exact absurd hw (hno (.newLab i) rfl)
  | starting l => exact absurd hw (hno (.start i l true) rfl)
  | sent => exact absurd hw (hno (.done i) rfl)
  | stopping l => exact absurd hw (hstaying l).1
  | closing l => exact absurd hw (hstaying l).2

/-- `NewHub` has returned at rest. -/
theorem Hub.Phase.launched_at_rest (h : s.Phase) (halive : s.panicked = none)
    (hrest : s.AtRest c) : s.initial = 0 := by
  have hno := hrest.not_enabled halive
  have hle := h.initial_le
  by_contra hne
  obtain h1 | h2 : s.initial = 1 ∨ s.initial = 2 := by omega
  · exact absurd ⟨h1, h.second h1⟩ (hno (.sendSecond 1) rfl)
  · exact absurd ⟨h2, by simp [h.first h2]⟩ (hno (.sendFirst 0) rfl)

/-- Nothing can be added to `queue`: either no lab is on its way, or the channel is full and
nobody waits for its labs. -/
def Hub.Blocked (c : HubConf Tag) (s : Hub Tag) : Prop :=
  (s.labs = [] ∧ total s.worker Worker.holding = 0 ∧ s.dispatcher.lab = [] ∧
    (s.consumers = 0 ∨ s.queue = [])) ∨
  (c.chanCap ≤ s.queue.length ∧ s.consumers = 0)

omit [DecidableEq Tag] in
/-- Every registered lab was delivered, is in `queue` or is about to be queued. -/
theorem Hub.Steady.perm (h : s.Steady c) :
    s.registered.Perm (s.queue ++ s.delivered ++ s.dispatcher.lab) :=
  List.perm_iff_count.mpr h.pushed

/-- At rest no worker has a token that it has not yet turned into a lab. -/
theorem Hub.Steady.pending_at_rest (h : s.Steady c) (hphase : s.Phase)
    (horderly : s.Orderly c) (hrest : s.AtRest c) : total s.worker Worker.pending = 0 := by
  rw [total_eq_zero]
  intro i
  rcases h.worker_at_rest hphase horderly hrest i with hw | hw | ⟨l, hw⟩ <;>
    simp [hw, Worker.pending]

/-- The dispatcher waits for a lab: `cap` labs were made, and all of them were queued. -/
theorem Hub.Steady.selecting_at_rest (hcap : 2 ≤ c.cap) (h : s.Steady c) (hphase : s.Phase)
    (horderly : s.Orderly c) (hrest : s.AtRest c) (hd : s.dispatcher = .selecting) :
    s.created = min (c.chanCap + 2 + s.delivered.length) c.cap ∧ s.Blocked c := by
  -- At rest no action of the hub is enabled, so that each place tells why it waits.
  have hno := hrest.not_enabled horderly.alive.1
  have hlabs : s.labs = [] := by
    cases hl : s.labs with
    | nil => rfl
    | cons l ls => exact absurd ⟨hd, by simp [hl]⟩ (hno (.recvLabs l) rfl)
  have hopen : s.labsClosed = false := by simp [hphase.labsClosed_eq, hd, Dispatcher.closedLabs]
  have hholding : total s.worker Worker.holding = 0 := by
    rw [total_eq_zero]
    intro i
    rcases h.worker_at_rest hphase horderly hrest i with hw | hw | ⟨l, hw⟩
    · simp [hw, Worker.holding]
    · simp [hw, Worker.holding]
    · -- The lab would go to the dispatcher or into the empty channel.
      have hhand := hno (.handLabs i l) rfl
      have hsend := hno (.sendLabs i l) rfl
      simp [hw, hopen, hd, hlabs] at hhand hsend
      omega
  have hreceive : s.consumers = 0 ∨ s.queue = [] := by
    cases hq : s.queue with
    | nil => exact .inr rfl
    | cons l ls =>
      have := hno (.receive l) rfl
      simp [hq] at this
      exact .inl this
  have hlength := h.perm.length_eq
  have hpending := h.pending_at_rest hphase horderly hrest
  have hinit := hphase.launched_at_rest horderly.alive.1 hrest
  have htokens := h.tokens
  have hheld := h.held
  have hcalls := h.calls_eq
  have hroom := h.room
  simp [hd, Dispatcher.lab, Dispatcher.token, Dispatcher.owed] at hlength htokens
  simp only [hlabs, List.length_nil] at hheld
  -- The counts of the places now only leave this number.
  exact ⟨by omega, .inl ⟨hlabs, hholding, by simp [hd, Dispatcher.lab], hreceive⟩⟩

/-- The dispatcher waits for room: `queue` is full and nobody receives from it. -/
theorem Hub.Steady.queueing_at_rest (hcap : 2 ≤ c.cap) (h : s.Steady c) (hphase : s.Phase)
    (horderly : s.Orderly c) (hrest : s.AtRest c) {l : Nat} (hd : s.dispatcher = .queueing l) :
    s.created = min (c.chanCap + 2 + s.delivered.length) c.cap ∧ s.Blocked c := by
  have hno := hrest.not_enabled horderly.alive.1
  have hpush := hno (.pushQueue l) rfl
  have hhand := hno (.handQueue l) rfl
  simp [hd] at hpush hhand
  have hroom := h.room
  have hconsumers : s.consumers = 0 := by
    cases hq : s.queue with
    | nil =>
      simp [hq] at hpush
      exact hhand hpush
    | cons k ks =>
      have := hno (.receive k) rfl
      simpa [hq] using this
  have hlength := h.perm.length_eq
  have hpending := h.pending_at_rest hphase horderly hrest
  have hinit := hphase.launched_at_rest horderly.alive.1 hrest
  have htokens := h.tokens
  have hcalls := h.calls_eq
  simp [hd, Dispatcher.lab, Dispatcher.token, Dispatcher.owed] at hlength htokens
  exact ⟨by omega, .inr ⟨hpush, hconsumers⟩⟩

/-- The dispatcher does not wait for a worker at rest: both workers would hold a lab, and
then more tokens would have been sent than labs were registered. -/
theorem Hub.Steady.not_readying_at_rest (h : s.Steady c) (hphase : s.Phase)
    (horderly : s.Orderly c) (hrest : s.AtRest c) : s.dispatcher ≠ .readying := by
  intro hd
  have hno := hrest.not_enabled horderly.alive.1
  have hopen := horderly.readying hd
  have hholding : total s.worker Worker.holding = 2 := by
    have hsending : ∀ i, Worker.holding (s.worker i) = 1 := by
      intro i
      rcases h.worker_at_rest hphase horderly hrest i with hw | hw | ⟨l, hw⟩
      · exact absurd ⟨hd, by simp [hopen], hw⟩ (hno (.sendReady i) rfl)
      · simp [horderly.exited i hw] at hopen
      · simp [hw, Worker.holding]
    simp [total, hsending]
  have htokens := h.tokens
  have hheld := h.held
  have hcalls := h.calls_eq
  simp [hd, Dispatcher.token, Dispatcher.owed] at htokens
  omega

/-- At rest the number of labs is what the capacity and the deliveries demand. -/
theorem Hub.Steady.created_at_rest (hcap : 2 ≤ c.cap) (h : s.Steady c) (hphase : s.Phase)
    (horderly : s.Orderly c) (hrest : s.AtRest c) :
    s.created = min (c.chanCap + 2 + s.delivered.length) c.cap ∧ s.Blocked c ∧
      (s.dispatcher = .selecting ∨ ∃ l, s.dispatcher = .queueing l) := by
  have hno := hrest.not_enabled horderly.alive.1
  have hstopped := h.not_stopped hphase
  have hinit := hphase.launched_at_rest horderly.alive.1 hrest
  cases hd : s.dispatcher with
  | selecting =>
    obtain ⟨hcreated, hblocked⟩ := h.selecting_at_rest hcap hphase horderly hrest hd
    exact ⟨hcreated, hblocked, .inl rfl⟩
  | queueing l =>
    obtain ⟨hcreated, hblocked⟩ := h.queueing_at_rest hcap hphase horderly hrest hd
    exact ⟨hcreated, hblocked, .inr ⟨l, rfl⟩⟩
  | unstarted => exact absurd hinit (hphase.unstarted_iff.mp hd)
  | readying => exact absurd hd (h.not_readying_at_rest hphase horderly hrest)
  | counting =>
    have h1 := hno .countStarting rfl
    have h2 := hno .countFull rfl
    have h3 := hno .countToken rfl
    simp [hd] at h1 h2 h3
    exact absurd (h3 h1) (h2 h1)
  | waiting | closingLabs | draining | closingStarted rest | returned =>
    simp [hd, Dispatcher.stopped] at hstopped

/-- At rest each created lab was started once. -/
theorem Hub.Steady.started_at_rest (h : s.Steady c) (hphase : s.Phase)
    (horderly : s.Orderly c) (hrest : s.AtRest c) (l : Nat) :
    s.started.count l = if l < s.created then 1 else 0 := by
  have hlaunches : total s.worker (Worker.launches l) = 0 := by
    rw [total_eq_zero]
    intro i
    rcases h.worker_at_rest hphase horderly hrest i with hw | hw | ⟨k, hw⟩ <;>
      simp [hw, Worker.launches]
  have hstarts := h.starts l
  omega

/-- At rest each created lab is in exactly one place: it was delivered, or it is in `queue`,
in `labs`, with the dispatcher or with a worker. -/
theorem Hub.Steady.place_at_rest (hcap : 2 ≤ c.cap) (h : s.Steady c) (hphase : s.Phase)
    (hplaced : s.Placed c) (horderly : s.Orderly c) (hrest : s.AtRest c) {l : Nat}
    (hl : l < s.created) :
    s.delivered.count l + s.queue.count l + s.labs.count l + s.dispatcher.lab.count l
      + total s.worker (Worker.carries l) = 1 := by
  have hpushed := h.pushed l
  have hle := hplaced.place l
  have hplace := horderly.place l
  have hkept : s.kept = s.startedLabs.values := by
    obtain ⟨-, -, hd | ⟨k, hd⟩⟩ := h.created_at_rest hcap hphase horderly hrest <;>
      simp [Hub.kept, hd]
  have hvalues : s.kept.count l ≠ 0 → s.registered.count l ≠ 0 := by
    rw [hkept]
    intro hne
    have hmem := List.count_pos_iff.mp (Nat.pos_of_ne_zero hne)
    obtain ⟨k, hk⟩ := GoMap.mem_values.mp hmem
    have := List.count_pos_iff.mpr (hplaced.tagged k l hk).2
    omega
  simp only [h.unclosed, hl, if_true, List.count_nil, List.count_append] at hle hplace hpushed
  omega

/-- A list with one occurrence of each number below `n` has `n` elements. -/
theorem length_of_count {xs : List Nat} {n : Nat}
    (h : ∀ l, xs.count l = if l < n then 1 else 0) : xs.length = n := by
  have hperm : xs.Perm (List.range n) := by
    rw [List.perm_iff_count]
    intro l
    rw [h l, List.count_range]
  simpa using hperm.length_eq

/-! ### `Close` at rest -/

/-- The worker will not make another lab. -/
def Worker.finishing : Worker → Bool
  | .ranging | .sending _ | .sent | .stopping _ | .closing _ | .exited => true
  | _ => false

/-- The dispatcher will not send another token. -/
def Dispatcher.finishing : Dispatcher → Bool
  | .unstarted | .counting | .readying => false
  | _ => true

/-- The hub after `Close` at rest, with `n` labs created. -/
structure Hub.Closing (c : HubConf Tag) (n : Nat) (s : Hub Tag) : Prop where
  stop : s.stop = true
  created : s.created = n
  unused : s.updating = [] ∧ s.deallocated = [] ∧ s.dealloc = none
  worker : ∀ i, (s.worker i).finishing = true
  dispatcher : s.dispatcher.finishing = true
  blocked : s.Blocked c

/-- The steps that a worker has yet to take. A lab that it sends costs the dispatcher three. -/
def Worker.remaining : Worker → Nat
  | .sending _ => 6
  | .stopping _ => 3
  | .sent | .closing _ => 2
  | .ranging => 1
  | _ => 0

/-- The steps that the dispatcher has yet to take, besides one for each lab. -/
def Dispatcher.remaining : Dispatcher → Nat
  | .queueing _ => 6
  | .selecting => 5
  | .waiting => 4
  | .closingLabs => 3
  | .draining => 2
  | .closingStarted _ => 1
  | _ => 0

/-- A bound on the steps of the hub after `Close`. -/
def Hub.variant (s : Hub Tag) : Nat :=
  total s.worker Worker.remaining + 3 * s.labs.length + s.dispatcher.remaining + s.kept.length

/-- The steps that are left after `Close` at rest. -/
def HubAction.closing : HubAction → Bool
  | .sendLabs _ _ | .handLabs _ _ | .done _ | .takeStop _ _ | .doneStop _ _ | .closeLab _ _
  | .exit _ | .recvLabs _ | .recvStop | .skipQueue _ | .wgWait | .closeLabs | .drainLab _
  | .drained | .closeStarted _ _ | .returnClosed => true
  | _ => false

/-- No other internal step is enabled: no token is left, and nobody can use `queue`. -/
theorem Hub.Closing.cases {n : Nat} (h : s.Closing c n) (hphase : s.Phase)
    (horderly : s.Orderly c) (ha : a.external = false) (hg : s.enabled c a) :
    a.closing = true := by
  have hinit := hphase.stop_launched h.stop
  have hunused := h.unused
  have hdispatcher := h.dispatcher
  cases a with
  | request | update l | close => cases ha
  | sendFirst i | sendSecond i => simp [hinit] at hg
  | wgAdd i | newLab i | newLabFailed i | start i l ok =>
    have hworker := h.worker i
    simp only [Hub.enabled] at hg
    simp [hg, Worker.finishing] at hworker
  | sendClosedLabs i l => exact absurd hg (horderly.not_sendClosedLabs hphase i l)
  | countStarting | countFull | countToken | sendReady i | sendClosedReady =>
    simp only [Hub.enabled] at hg
    simp [hg, Dispatcher.finishing] at hdispatcher
  | pushQueue l | handQueue l =>
    simp only [Hub.enabled] at hg
    rcases h.blocked with ⟨-, -, hlab, -⟩ | ⟨hfull, hnone⟩
    · simp [hg, Dispatcher.lab] at hlab
    · omega
  | receive l =>
    obtain ⟨hconsumers, hq⟩ := hg
    rcases h.blocked with ⟨-, -, -, hnone | hempty⟩ | ⟨-, hnone⟩
    · exact absurd hnone hconsumers
    · simp [hempty] at hq
    · exact absurd hnone hconsumers
  | putDeallocated l | takeDeallocated l | requeue l | handRequeue l => simp [hunused] at hg
  | _ => rfl

/-- A hub at rest stays blocked while it closes. -/
theorem Hub.blocked_step (h : s.Blocked c) (ha : a.closing = true)
    (hs : (newHub c).step s a = some t) : t.Blocked c := by
  rw [newHub_step] at hs
  obtain ⟨-, hg, rfl⟩ := hs
  rcases h with ⟨hlabs, hholding, hlab, hwait⟩ | hfull
  · refine .inl ?_
    cases a with
    | sendLabs i l | handLabs i l | takeStop i l =>
      have hle := le_total s.worker Worker.holding i
      simp [hg.1, hholding, Worker.holding] at hle
    | recvLabs l | drainLab l => simp [hlabs] at hg
    | done i | doneStop i l | closeLab i l | exit i =>
      have hle := le_total s.worker Worker.holding i
      simp only [Hub.enabled] at hg
      simp [total_update, hg, hholding, Worker.holding] at hle ⊢
      exact ⟨hlabs, hlab, hwait⟩
    | recvStop | skipQueue l | wgWait | closeLabs | drained | closeStarted l rest
    | returnClosed => exact ⟨hlabs, hholding, rfl, hwait⟩
    | _ => cases ha
  · refine .inr ?_
    cases a <;> first | exact hfull | cases ha

/-- Each step of the closing keeps the number of labs. -/
theorem Hub.closing_step {n : Nat} (h : s.Closing c n) (ha : a.closing = true)
    (hs : (newHub c).step s a = some t) : t.Closing c n := by
  obtain ⟨hstop, hcreated, hunused, hworker, hdispatcher, hblocked⟩ := h
  have hblocked' := Hub.blocked_step hblocked ha hs
  rw [newHub_step] at hs
  obtain ⟨-, hg, rfl⟩ := hs
  refine ⟨?_, ?_, ?_, ?_, ?_, hblocked'⟩ <;> clear hblocked hblocked'
  · cases a <;> first | exact hstop | cases ha
  · cases a <;> first | exact hcreated | cases ha
  · cases a <;> first | exact hunused | cases ha
  · intro j
    have hj := hworker j
    cases a <;> first
      | exact hj
      | (simp only [Hub.effect, Hub.setWorker, Hub.register, Function.update_apply]
         split
         · rfl
         · exact hj)
      | cases ha
  · cases a <;> first | exact hdispatcher | rfl | cases ha

/-- Each step that is left lowers the variant. -/
theorem Hub.variant_lt (hclean : CleanStep c s a) (ha : a.closing = true)
    (hs : (newHub c).step s a = some t) : t.variant < s.variant := by
  rw [newHub_step] at hs
  obtain ⟨-, hg, rfl⟩ := hs
  -- For each kind of step the term of its place in the variant falls, and no other one grows.
  cases a with
  | sendLabs i l | done i | takeStop i l | doneStop i l | closeLab i l | exit i =>
    have hle := le_total s.worker Worker.remaining i
    unfold Hub.variant
    rw [Hub.kept_congr (t := s.effect c _) (s := s) rfl rfl]
    simp only [Hub.enabled] at hg
    simp [total_update, hg, Worker.remaining] at hle ⊢
    omega
  | handLabs i l =>
    have hle := le_total s.worker Worker.remaining i
    have hvalues := GoMap.values_set_of_notMem (hclean.1 l rfl) l
    simp only [Hub.enabled] at hg
    simp [Hub.variant, total_update, hg, Hub.kept, hvalues, Worker.remaining,
      Dispatcher.remaining] at hle ⊢
    omega
  | recvLabs l =>
    obtain ⟨ys, hys⟩ := List.head?_eq_some_iff.mp hg.2
    have hvalues := GoMap.values_set_of_notMem (hclean.1 l rfl) l
    simp only [Hub.enabled] at hg
    simp [Hub.variant, hg, hys, Hub.kept, hvalues, Dispatcher.remaining]
    omega
  | drainLab l =>
    obtain ⟨ys, hys⟩ := List.head?_eq_some_iff.mp hg.2
    simp only [Hub.enabled] at hg
    simp [Hub.variant, hg, hys, Hub.kept, Dispatcher.remaining]
  | closeStarted l rest =>
    obtain ⟨hd, hl⟩ := hg
    have hlength := List.length_erase_of_mem hl
    have hpos := List.length_pos_of_mem hl
    simp [Hub.variant, hd, Hub.kept, Dispatcher.remaining]
    omega
  | recvStop | skipQueue l | wgWait | closeLabs | drained | returnClosed =>
    simp only [Hub.enabled] at hg
    simp [Hub.variant, hg, Hub.kept, Dispatcher.remaining]
  | _ => cases ha

/-- The facts that the steps after `Close` keep. -/
structure Hub.Ending (c : HubConf Tag) (n : Nat) (s : Hub Tag) : Prop where
  phase : s.Phase
  placed : s.Placed c
  counted : s.Counted c
  orderly : s.Orderly c
  closing : s.Closing c n

/-- Each step of the closing makes the variant smaller. -/
theorem Hub.ending_step (hcap : 2 ≤ c.cap) (htags : Function.Injective c.tag) {n : Nat}
    (h : s.Ending c n) (ha : a.external = false) (hs : (newHub c).step s a = some t) :
    t.Ending c n ∧ t.variant < s.variant := by
  obtain ⟨hphase, hplaced, hcount, horderly, hclosing⟩ := h
  have hg := (newHub_step.mp hs).2.1
  have hact := hclosing.cases hphase horderly ha hg
  have hclean : CleanStep c s a := by
    refine ⟨fun l hl => hplaced.fresh_of_injective htags hg hl, ?_, ?_⟩
    · intro _ i hi
      have := hclosing.worker i
      simp [hi, Worker.finishing] at this
    · rintro i rfl
      cases hact
  exact ⟨⟨Hub.phase_step hphase hs, Hub.placed_step hphase hplaced hs,
    Hub.counted_step hcap hphase hcount (fun l hl _ => hclean.1 l hl) hs,
    Hub.orderly_step hcap hphase hcount horderly hclean hs, Hub.closing_step hclosing hact hs⟩,
    Hub.variant_lt hclean hact hs⟩

/-- `Close` at rest leads into the shutdown. -/
theorem Hub.Steady.close_at_rest (hcap : 2 ≤ c.cap) (h : s.Steady c) (hphase : s.Phase)
    (hplaced : s.Placed c) (hcount : s.Counted c) (horderly : s.Orderly c)
    (hrest : s.AtRest c) :
    ∃ u, (newHub c).step s .close = some u ∧ u.Ending c s.created := by
  have hinit := hphase.launched_at_rest horderly.alive.1 hrest
  obtain ⟨-, hblocked, hd⟩ := h.created_at_rest hcap hphase horderly hrest
  have hs : (newHub c).step s .close = some { s with stop := true } :=
    newHub_step.mpr ⟨horderly.alive.1, by simp [hinit, h.running], rfl⟩
  have hclean : CleanStep c s .close := ⟨by simp [HubAction.registers], by simp, by simp⟩
  refine ⟨_, hs, Hub.phase_step hphase hs, Hub.placed_step hphase hplaced hs,
    Hub.counted_step hcap hphase hcount (fun l hl => absurd hl (by simp [HubAction.registers]))
      hs,
    Hub.orderly_step hcap hphase hcount horderly hclean hs, ?_⟩
  refine ⟨rfl, rfl, h.unused, ?_, ?_, hblocked⟩
  · intro i
    rcases h.worker_at_rest hphase horderly hrest i with hw | hw | ⟨l, hw⟩ <;>
      simp [hw, Worker.finishing]
  · rcases hd with hd | ⟨l, hd⟩ <;> simp [hd, Dispatcher.finishing]

/-- The exact production of the hub. When nothing moves and `r` labs were delivered, exactly
`min (max buffer 2 + r) cap` labs were created, each was started, and each was delivered or
waits in the hub. `Close` then comes to rest after finitely many steps, and there exactly
these labs are closed, each of them once. -/
theorem newHub_production (c : HubConf Tag) (hcap : 2 ≤ c.cap)
    (htags : Function.Injective c.tag) (s : Hub Tag)
    (h : (newHub c).Reachable (fun _ a => a.steady = true) s) (hrest : s.AtRest c) :
    s.created = min (max c.buffer 2 + s.delivered.length) c.cap ∧
    s.started.length = s.created ∧
    (∀ l, s.started.count l = if l < s.created then 1 else 0) ∧
    (∀ l < s.created, s.delivered.count l + s.queue.count l + s.labs.count l
      + s.dispatcher.lab.count l + total s.worker (Worker.carries l) = 1) ∧
    ∃ u n, (newHub c).step s .close = some u ∧
      ∀ as t, (∀ a ∈ as, a.external = false) → (newHub c).run u as = some t →
        as.length ≤ n ∧
        (t.AtRest c → t.created = s.created ∧ t.closed.length = s.created ∧
          ∀ l, t.closed.count l = if l < s.created then 1 else 0) := by
  obtain ⟨hsteady, hreach⟩ := Hub.steady hcap htags h
  obtain ⟨hphase, hcount, horderly⟩ := Hub.orderly hcap hreach
  have hplaced := Hub.placed hreach
  obtain ⟨hcreated, -, -⟩ := hsteady.created_at_rest hcap hphase horderly hrest
  -- The capacity of the channel is that of the buffer, with two workers at least.
  have hbuf : c.chanCap + 2 = max c.buffer 2 := by
    simp only [HubConf.chanCap, HubConf.buf, workerAmount]
    split <;> omega
  have hstarted := hsteady.started_at_rest hphase horderly hrest
  refine ⟨hbuf ▸ hcreated, length_of_count hstarted, hstarted,
    fun l hl => hsteady.place_at_rest hcap hphase hplaced horderly hrest hl, ?_⟩
  obtain ⟨u, hu, hending⟩ :=
    hsteady.close_at_rest hcap hphase hplaced hcount horderly hrest
  refine ⟨u, u.variant, hu, fun as t has hrun => ⟨?_, fun hrest' => ?_⟩⟩
  · exact Machine.run_length_le
      (fun s a t hs ha hstep => Hub.ending_step hcap htags hs ha hstep) hending has hrun
  · obtain ⟨hphase', -, -, horderly', hclosing'⟩ : t.Ending c s.created :=
      Machine.run_invariant (fun s a t hs ha hstep => (Hub.ending_step hcap htags hs ha hstep).1)
        hending has hrun
    have hclosed : ∀ l, t.closed.count l = if l < s.created then 1 else 0 := by
      have := horderly'.closed_of_stop hphase' hrest' hclosing'.stop
      simpa [hclosing'.created] using this
    exact ⟨hclosing'.created, length_of_count hclosed, hclosed⟩

/-- A hub of capacity three that begins with two labs. -/
def threeLabs : HubConf Nat := { buffer := 2, cap := 3, tag := fun l => l }

/-- Lab 0 is delivered, lab 1 waits for a consumer and lab 2 for the dispatcher. -/
def oneDelivered : List HubAction :=
  [.sendFirst 0, .sendSecond 1, .wgAdd 0, .wgAdd 1, .newLab 0, .newLab 1, .start 0 0 true,
    .start 1 1 true, .handLabs 0 0, .done 0, .request, .handQueue 0, .countToken, .sendReady 0,
    .wgAdd 0, .newLab 0, .start 0 2 true, .handLabs 1 1, .done 1]

/-- What the goroutines do after `Close`. -/
def closingThree : List HubAction :=
  [.skipQueue 1, .takeStop 0 2, .recvStop, .doneStop 0 2, .closeLab 0 2, .wgWait, .closeLabs,
    .drained, .closeStarted 0 [1, 0], .closeStarted 1 [1], .returnClosed, .exit 0, .exit 1]

/-- One lab is delivered, and `Close` closes all three. -/
theorem newHub_production_two :
    ∃ s t, (newHub threeLabs).run Hub.new oneDelivered = some s ∧
      (newHub threeLabs).run s (.close :: closingThree) = some t ∧
      (s.AtRest threeLabs ∧ s.delivered = [0] ∧
        s.created = min (max 2 2 + s.delivered.length) 3 ∧ s.started.length = s.created) ∧
      t.AtRest threeLabs ∧ t.closed.length = s.created := by
  obtain ⟨s, t, hrun, hclosing, ⟨hd, hw, hopen, hstop, hconsumers, hlabs, hqueue, hup, hdealloc,
      hlb, hinit, hunclosed, hdelivered⟩, hd', hw', hconsumers', hlabs', hqueue', hup', hdealloc',
      hlb', hinit'⟩ :
      ∃ s t, (newHub threeLabs).run Hub.new oneDelivered = some s ∧
        (newHub threeLabs).run s (.close :: closingThree) = some t ∧
        (s.dispatcher = .queueing 1 ∧ (∀ i, s.worker i = .ranging ∨ s.worker i = .sending 2) ∧
          s.readyClosed = false ∧ s.stop = false ∧ s.consumers = 0 ∧ s.labs = [] ∧
          s.queue = [] ∧ s.updating = [] ∧ s.deallocated = [] ∧ s.dealloc = none ∧
          s.initial = 0 ∧ s.labsClosed = false ∧ s.delivered = [0]) ∧
        t.dispatcher = .returned ∧ (∀ i, t.worker i = .exited) ∧ t.consumers = 0 ∧ t.labs = [] ∧
        t.queue = [] ∧ t.updating = [] ∧ t.deallocated = [] ∧ t.dealloc = none ∧
        t.initial = 0 :=
    ⟨_, _, rfl, rfl, by decide, by decide⟩
  -- Worker 1 still sends lab 2, and the dispatcher holds lab 1, since the queue has no room.
  have hrest : s.AtRest threeLabs := by
    intro a ha
    rw [newHub_step_eq_none]
    cases a with
    | request | update l | close => cases ha
    | sendFirst i | sendSecond i | wgAdd i | newLab i | newLabFailed i | start i l ok
    | sendLabs i l | sendClosedLabs i l | handLabs i l | done i | takeStop i l | doneStop i l
    | closeLab i l | exit i | sendReady i =>
      rcases hw i with hi | hi <;>
        simp [hi, hd, hopen, hstop, hinit, hunclosed, threeLabs, HubConf.chanCap, HubConf.buf]
    | _ =>
      simp [hd, hstop, hconsumers, hlabs, hqueue, hup, hdealloc, hlb, threeLabs,
        HubConf.chanCap, HubConf.buf]
  have hrest' : t.AtRest threeLabs := by
    intro a ha
    rw [newHub_step_eq_none]
    cases a with
    | request | update l | close => cases ha
    | sendFirst i | sendSecond i | wgAdd i | newLab i | newLabFailed i | start i l ok
    | sendLabs i l | sendClosedLabs i l | handLabs i l | done i | takeStop i l | doneStop i l
    | closeLab i l | exit i | sendReady i => simp [hw' i, hd', hinit']
    | _ => simp [hd', hconsumers', hlabs', hqueue', hup', hdealloc', hlb']
  -- The theorem at these three labs, and then its part on `Close` along the second run.
  obtain ⟨hproduced, hstarted, -, -, u, n, hu, hclose⟩ :=
    newHub_production threeLabs (by decide) (fun _ _ h => h) s
      ((Machine.Reachable.init rfl).run (by simp [oneDelivered, Machine.AllSteps, HubAction.steady])
        hrun) hrest
  rw [Machine.run_cons, hu] at hclosing
  obtain ⟨-, hdone⟩ := hclose closingThree t (by decide) hclosing
  exact ⟨s, t, hrun, by rw [Machine.run_cons, hu]; exact hclosing,
    ⟨hrest, hdelivered, hproduced, hstarted⟩, hrest', (hdone hrest').2.1⟩

end Haaukins.Lab
