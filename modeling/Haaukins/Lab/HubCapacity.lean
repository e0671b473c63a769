import Haaukins.Lab.HubInvariant

/-!
# `Haaukins.Lab.HubCapacity`: how many labs a hub creates

The dispatcher sends one token for each queued lab until the size of `startedLabs` is
`cap - 1` or `cap`. With the two tokens of `NewHub` this bounds the calls of `NewLab` by
`cap`, as long as the size counts the registered labs. Two things break the count.

* A lab whose tag is already in `startedLabs` does not grow it, and its token is one too
  many.
* With `cap = 1` the size passes both values at once. The two tokens of `NewHub` alone are
  already too many.

`Hub.Counted` is the bookkeeping behind the bound, for runs that register no repeated tag
while the size is at most `cap - 2` (`FreshBelowCap`).
-/

set_option autoImplicit false

namespace Haaukins.Lab

/-- A registered lab for which the dispatcher has not yet decided about a token. -/
def Dispatcher.owed : Dispatcher → Nat
  | .queueing _ | .counting => 1
  | _ => 0

/-- The token that the dispatcher is about to send. -/
def Dispatcher.token : Dispatcher → Nat
  | .readying => 1
  | _ => 0

variable {Tag : Type} [DecidableEq Tag] {c : HubConf Tag} {s t : Hub Tag} {a : HubAction}

/-- The step registers no repeated tag while at most `cap - 2` labs are in `startedLabs`. -/
def FreshBelowCap (c : HubConf Tag) (s : Hub Tag) (a : HubAction) : Prop :=
  ∀ l, a.registers = some l → s.startedLabs.size + 2 ≤ c.cap → c.tag l ∉ s.startedLabs

/-- The bookkeeping of tokens and labs: `tokens` counts the tokens that were sent or are
about to be sent, and each of them paid for at most one call of `NewLab`. -/
structure Hub.Counted (c : HubConf Tag) (s : Hub Tag) : Prop where
  size_le : s.startedLabs.size ≤ s.registered.length
  size_eq : s.startedLabs.size + 2 ≤ c.cap → s.startedLabs.size = s.registered.length
  owed_le : s.dispatcher.owed ≤ s.registered.length
  held : s.registered.length + s.labs.length + total s.worker Worker.holding ≤ s.created
  created_le : s.created ≤ s.calls
  tokens : s.calls + total s.worker Worker.pending + s.initial + s.dispatcher.token
    ≤ 2 + min (s.registered.length - s.dispatcher.owed) (c.cap - 2)

omit [DecidableEq Tag] in
/-- A new hub has counted nothing. -/
theorem Hub.counted_new : (Hub.new : Hub Tag).Counted c := by
  constructor <;> simp [Hub.new, total, Worker.holding, Worker.pending, Dispatcher.owed,
    Dispatcher.token]

omit [DecidableEq Tag] in
/-- No run calls `NewLab` more often than `cap` while the count is right. -/
theorem Hub.Counted.calls_le (h : s.Counted c) (hcap : 2 ≤ c.cap) : s.calls ≤ c.cap := by
  have := h.tokens
  omega

attribute [local simp] Hub.enabled Hub.effect Hub.setWorker Hub.register

/-- Below the capacity each registered lab counts. -/
theorem Hub.size_step (h : s.Counted c) (hok : FreshBelowCap c s a)
    (hs : (newHub c).step s a = some t) : t.startedLabs.size ≤ t.registered.length ∧
      (t.startedLabs.size + 2 ≤ c.cap → t.startedLabs.size = t.registered.length) := by
  have hle := h.size_le
  have heq := h.size_eq
  rw [newHub_step] at hs
  obtain ⟨-, hg, rfl⟩ := hs
  cases a with
  | recvLabs l | handLabs i l =>
    simp only [Hub.effect, Hub.register, Hub.setWorker, List.length_append,
      List.length_singleton]
    by_cases hmem : c.tag l ∈ s.startedLabs
    · rw [GoMap.size_set_of_mem hmem]
      have : ¬ s.startedLabs.size + 2 ≤ c.cap := fun hlt => hok l rfl hlt hmem
      omega
    · rw [GoMap.size_set_of_notMem hmem]
      omega
  | _ => exact ⟨hle, heq⟩

/-- The dispatcher owes at most one token for each registered lab. -/
theorem Hub.owed_step (h : s.Counted c) (hs : (newHub c).step s a = some t) :
    t.dispatcher.owed ≤ t.registered.length := by
  have howed := h.owed_le
  clear h
  rw [newHub_step] at hs
  obtain ⟨-, hg, rfl⟩ := hs
  cases a with
  | handLabs i k | recvLabs k | pushQueue k | handQueue k =>
    simp only [Hub.enabled] at hg
    simp only [Hub.effect, Hub.register, Hub.setWorker, hg, Dispatcher.owed, List.length_append,
      List.length_singleton] at howed ⊢
    omega
  | sendSecond i | recvStop | skipQueue k | countStarting | countFull | countToken | sendReady i
  | wgWait | closeLabs | drained | closeStarted k rest | returnClosed =>
    -- The dispatcher owes nothing in its new position.
    exact Nat.zero_le _
  | _ => exact howed

/-- The labs that the step drops: one that a worker does not send any more, or one that is closed
in `labs`. -/
def HubAction.drops : HubAction → Nat
  | .takeStop _ _ | .drainLab _ => 1
  | _ => 0

/-- A step creates a lab, moves one, or drops one. -/
theorem Hub.holding_step (hphase : s.Phase) (hs : (newHub c).step s a = some t) :
    t.registered.length + t.labs.length + total t.worker Worker.holding + a.drops + s.created =
      t.created +
        (s.registered.length + s.labs.length + total s.worker Worker.holding) := by
  rw [newHub_step] at hs
  obtain ⟨-, hg, rfl⟩ := hs
  cases a with
  | sendFirst i =>
    have htotal := hphase.total_sendFirst hg.1 hg.2 Worker.holding rfl rfl
    simp only [Worker.holding] at htotal
    simp [htotal, HubAction.drops, Nat.add_comm]
  | sendSecond i | wgAdd i | newLab i | newLabFailed i | start i k ok | sendLabs i k
  | handLabs i k | done i | takeStop i k | doneStop i k | closeLab i k | exit i
  | sendReady i =>
    have hle := le_total s.worker Worker.holding i
    simp only [Hub.enabled] at hg
    simp only [Hub.effect, Hub.setWorker, Hub.register, total_update, hg, Worker.holding,
      List.length_append, List.length_singleton, HubAction.drops] at hle ⊢
    omega
  | recvLabs k | drainLab k =>
    obtain ⟨ys, hys⟩ := List.head?_eq_some_iff.mp hg.2
    simp [hys, HubAction.drops]
    omega
  | _ => exact Nat.add_comm _ _

/-- Each lab in the hub was created. -/
theorem Hub.held_step (hphase : s.Phase) (h : s.Counted c)
    (hs : (newHub c).step s a = some t) :
    t.registered.length + t.labs.length + total t.worker Worker.holding ≤ t.created := by
  have hstep := Hub.holding_step hphase hs
  have hheld := h.held
  omega

/-- A lab is created by a call. -/
theorem Hub.created_le_step (h : s.Counted c) (hs : (newHub c).step s a = some t) :
    t.created ≤ t.calls := by
  have hle := h.created_le
  clear h
  rw [newHub_step] at hs
  obtain ⟨-, -, rfl⟩ := hs
  cases a with
  | newLab i => exact Nat.succ_le_succ hle
  | newLabFailed i => exact Nat.le_succ_of_le hle
  | _ => exact hle

/-- The tokens that `NewHub` and the dispatcher have sent or are about to send. -/
def Hub.spent (s : Hub Tag) : Nat :=
  s.calls + total s.worker Worker.pending + s.initial + s.dispatcher.token

/-- The registered labs for which the dispatcher has decided about a token. -/
def Hub.decided (s : Hub Tag) : Nat := s.registered.length - s.dispatcher.owed

/-- The tokens that the dispatcher decides to send in the step. -/
def HubAction.tokens : HubAction → Nat
  | .countToken => 1
  | _ => 0

/-- The labs for which the dispatcher decides about a token in the step. -/
def HubAction.decides : HubAction → Nat
  | .countStarting | .countFull | .countToken | .skipQueue _ => 1
  | _ => 0

/-- A worker takes a token from `ready` and gives it up with its call of `NewLab`, so only the
dispatcher makes tokens. -/
theorem Hub.spent_step (hphase : s.Phase) (hs : (newHub c).step s a = some t) :
    t.spent = s.spent + a.tokens := by
  have hun := hphase.unstarted_iff
  rw [newHub_step] at hs
  obtain ⟨-, hg, rfl⟩ := hs
  unfold Hub.spent
  cases a with
  | sendFirst i =>
    have htotal := hphase.total_sendFirst hg.1 hg.2 Worker.pending rfl rfl
    simp only [Worker.pending] at htotal
    simp only [Hub.effect, Hub.setWorker, HubAction.tokens, hg.1, htotal]
    omega
  | sendSecond i =>
    have hd : s.dispatcher = .unstarted := hun.mpr (by rw [hg.1]; decide)
    have hle := le_total s.worker Worker.pending i
    simp only [Hub.enabled] at hg
    simp only [Hub.effect, Hub.setWorker, total_update, hg, hd, Worker.pending, Dispatcher.token,
      HubAction.tokens] at hle ⊢
    omega
  | wgAdd i | newLab i | newLabFailed i | start i k ok | sendLabs i k | handLabs i k | done i
  | takeStop i k | doneStop i k | closeLab i k | exit i | sendReady i =>
    have hle := le_total s.worker Worker.pending i
    simp only [Hub.enabled] at hg
    simp only [Hub.effect, Hub.setWorker, Hub.register, total_update, hg, Worker.pending,
      Dispatcher.token, HubAction.tokens] at hle ⊢
    omega
  | recvLabs k | recvStop | pushQueue k | handQueue k | skipQueue k | countStarting | countFull
  | countToken | wgWait | closeLabs | drained | closeStarted k rest | returnClosed =>
    -- Only the dispatcher moves.
    simp only [Hub.enabled] at hg
    simp only [Hub.effect, Hub.register, hg, Dispatcher.token, HubAction.tokens]
  | _ => rfl

/-- The dispatcher owes a decision from the registration of a lab to the end of its round. -/
theorem Hub.decided_step (hphase : s.Phase) (howed : s.dispatcher.owed ≤ s.registered.length)
    (hs : (newHub c).step s a = some t) : t.decided = s.decided + a.decides := by
  have hun := hphase.unstarted_iff
  rw [newHub_step] at hs
  obtain ⟨-, hg, rfl⟩ := hs
  unfold Hub.decided
  cases a with
  | sendSecond i =>
    have hd : s.dispatcher = .unstarted := hun.mpr (by rw [hg.1]; decide)
    simp only [Hub.effect, Hub.setWorker, hd, Dispatcher.owed, HubAction.decides, Nat.add_zero]
  | handLabs i k | recvLabs k =>
    simp only [Hub.enabled] at hg
    simp only [Hub.effect, Hub.setWorker, Hub.register, hg, Dispatcher.owed, HubAction.decides,
      List.length_append, List.length_singleton]
    omega
  | recvStop | pushQueue k | handQueue k | skipQueue k | countStarting | countFull | countToken
  | sendReady i | wgWait | closeLabs | drained | closeStarted k rest | returnClosed =>
    simp only [Hub.enabled] at hg
    simp only [Hub.effect, Hub.setWorker, hg, Dispatcher.owed, HubAction.decides] at howed ⊢
    omega
  | _ => rfl

/-- The tokens after a step. The dispatcher decides for a token only when `startedLabs` is
smaller than `cap - 1`, and there its size is the number of registered labs. -/
theorem Hub.tokens_step (hcap : 2 ≤ c.cap) (hphase : s.Phase) (h : s.Counted c)
    (hs : (newHub c).step s a = some t) :
    t.calls + total t.worker Worker.pending + t.initial + t.dispatcher.token
      ≤ 2 + min (t.registered.length - t.dispatcher.owed) (c.cap - 2) := by
  have htokens : s.spent ≤ 2 + min s.decided (c.cap - 2) := h.tokens
  have hspent := Hub.spent_step hphase hs
  have hdecided := Hub.decided_step hphase h.owed_le hs
  show t.spent ≤ 2 + min t.decided (c.cap - 2)
  by_cases htoken : a = .countToken
  · subst htoken
    have hle := h.size_le
    have hsize := h.size_eq
    have hheld := h.held
    have hcreated := h.created_le
    have howed := h.owed_le
    have hcalls : s.calls ≤ s.spent := by
      unfold Hub.spent
      omega
    rw [newHub_step] at hs
    obtain ⟨-, hg, -⟩ := hs
    simp only [Hub.enabled, Hub.labsStarting, workerAmount] at hg
    have hcounting : s.decided = s.registered.length - 1 := by
      simp only [Hub.decided, hg, Dispatcher.owed]
    simp only [hg, Dispatcher.owed] at howed
    simp only [HubAction.tokens, HubAction.decides] at hspent hdecided
    omega
  · have hnone : a.tokens = 0 := by
      cases a <;> first | rfl | exact absurd rfl htoken
    omega

/-- All of the invariant. -/
theorem Hub.counted_step (hcap : 2 ≤ c.cap) (hphase : s.Phase) (h : s.Counted c)
    (hok : FreshBelowCap c s a) (hs : (newHub c).step s a = some t) : t.Counted c where
  size_le := (Hub.size_step h hok hs).1
  size_eq := (Hub.size_step h hok hs).2
  owed_le := Hub.owed_step h hs
  held := Hub.held_step hphase h hs
  created_le := Hub.created_le_step h hs
  tokens := Hub.tokens_step hcap hphase h hs

/-! ### The bound from the tags -/

/-- The capacity is at least two, and when it is larger, the first `cap` labs that are
created have distinct tags. -/
def HubConf.TagsApart (c : HubConf Tag) : Prop :=
  2 ≤ c.cap ∧ (c.cap = 2 ∨ ∀ i j, i < j → j < c.cap → c.tag i ≠ c.tag j)

/-- A lab that is being registered was created and is not registered yet. -/
theorem Hub.Placed.registers (h : s.Placed c) (hg : s.enabled c a) {l : Nat}
    (hl : a.registers = some l) : l < s.created ∧ l ∉ s.registered := by
  have hplace := h.place l
  have hpos : 0 < total s.worker (Worker.carries l) + s.labs.count l := by
    cases a with
    | recvLabs k =>
      cases hl
      have : 0 < s.labs.count l := List.count_pos_iff.mpr (List.mem_of_head? hg.2)
      omega
    | handLabs i k =>
      cases hl
      have hle := le_total s.worker (Worker.carries l) i
      simp only [hg.1, Worker.carries, if_true] at hle
      omega
    | _ => cases hl
  rw [← List.count_eq_zero]
  split at hplace <;> omega

/-- With distinct tags every registered tag is fresh as long as it matters. -/
theorem Hub.fresh_of_tagsApart (htags : c.TagsApart) (hplaced : s.Placed c)
    (h : s.Counted c) (hg : s.enabled c a) : FreshBelowCap c s a := by
  intro l hl hlt hmem
  obtain ⟨hcap, hapart⟩ := htags
  have hpos := GoMap.size_pos_of_mem hmem
  rcases hapart with htwo | hapart
  · omega
  obtain ⟨hcreated, hnot⟩ := hplaced.registers hg hl
  obtain ⟨k, hk⟩ : ∃ k, s.startedLabs.get? (c.tag l) = some k := by
    rw [← Option.ne_none_iff_exists']
    exact fun hnone => GoMap.get?_eq_none.mp hnone hmem
  obtain ⟨htag, hreg⟩ := hplaced.tagged _ _ hk
  have hkcreated : k < s.created := by
    have hplace := hplaced.place k
    have := List.count_pos_iff.mpr hreg
    split at hplace <;> omega
  have hle := h.calls_le hcap
  have hcalls := h.created_le
  -- The two labs differ and are among the first `cap`, so their tags differ.
  have hne : k ≠ l := fun heq => hnot (heq ▸ hreg)
  rcases Nat.lt_or_gt_of_ne hne with hlt | hlt
  · exact hapart k l hlt (by omega) htag
  · exact hapart l k hlt (by omega) htag.symm

/-- The count is right in every state of every run when the tags are apart. -/
theorem Hub.counted (htags : c.TagsApart) {ok : Hub Tag → HubAction → Prop}
    (h : (newHub c).Reachable ok s) : s.Counted c := by
  refine (h.invariant (fun s => s.Phase ∧ s.Placed c ∧ s.Counted c) ?_ ?_).2.2
  · rintro s rfl
    exact ⟨Hub.phase_new, Hub.placed_new, Hub.counted_new⟩
  · rintro s a t ⟨hphase, hplaced, hcounted⟩ _ hs
    have hg := (newHub_step.mp hs).2.1
    exact ⟨Hub.phase_step hphase hs, Hub.placed_step hphase hplaced hs,
      Hub.counted_step htags.1 hphase hcounted
        (Hub.fresh_of_tagsApart htags hplaced hcounted hg) hs⟩

/-! ### Runs that create too many labs -/

/-- The hub after a token for worker 0, with `k` labs created, all channels empty and worker
1 at `x`. -/
structure Hub.Cruise (s : Hub Tag) (k : Nat) (x : Worker) : Prop where
  panicked : s.panicked = none
  initial : s.initial = 0
  readyClosed : s.readyClosed = false
  labs : s.labs = []
  labsClosed : s.labsClosed = false
  queue : s.queue = []
  consumers : s.consumers = 0
  dispatcher : s.dispatcher = .selecting
  worker_zero : s.worker 0 = .received
  worker_one : s.worker 1 = x
  created : s.created = k
  calls : s.calls = k

/-- The actions by which worker 0 makes lab `k`, a consumer gets it, and worker 0 receives the
next token. -/
def HubConf.cycle (c : HubConf Tag) (k : Nat) : List HubAction :=
  if c.chanCap = 0 then
    [.wgAdd 0, .newLab 0, .start 0 k true, .handLabs 0 k, .done 0, .request, .handQueue k,
      .countToken, .sendReady 0]
  else
    [.wgAdd 0, .newLab 0, .start 0 k true, .sendLabs 0 k, .done 0, .recvLabs k, .pushQueue k,
      .request, .receive k, .countToken, .sendReady 0]

/-- One round of the steady run. -/
theorem Hub.Cruise.cycle {k : Nat} {x : Worker} (h : s.Cruise k x)
    (hsize : (s.startedLabs.set (c.tag k) k).size + 2 ≤ c.cap) :
    ∃ t, (newHub c).run s (c.cycle k) = some t ∧ t.Cruise (k + 1) x ∧
      t.startedLabs = s.startedLabs.set (c.tag k) k := by
  obtain ⟨initial, readyClosed, stop, labs, labsClosed, queue, deallocated, wg, worker,
    dispatcher, startedLabs, updating, dealloc, consumers, panicked, calls, created, started,
    registered, delivered, closed⟩ := s
  obtain ⟨h1, h2, h3, h4, h5, h6, h7, h8, h9, h10, h11, h12⟩ := h
  simp only at h1 h2 h3 h4 h5 h6 h7 h8 h9 h10 h11 h12 hsize
  subst h1 h2 h3 h4 h5 h6 h7 h8
  have hne1 : (startedLabs.set (c.tag k) k).size ≠ c.cap := by omega
  have hne2 : (startedLabs.set (c.tag k) k).size + 1 ≠ c.cap := by omega
  unfold HubConf.cycle
  split
  · next hchan =>
    simp [newHub, Hub.labsStarting, h9, h11, h12, hne1, hne2, hchan]
    constructor <;> simp [h10]
  · next hchan =>
    have hpos : 0 < c.chanCap := by omega
    simp [newHub, Hub.labsStarting, h9, h11, h12, hne1, hne2, hpos]
    constructor <;> simp [h10]

/-- Worker 1 makes a lab and keeps it. -/
theorem Hub.Cruise.create {k : Nat} (h : s.Cruise k .received) :
    ∃ t, (newHub c).run s [.wgAdd 1, .newLab 1] = some t ∧ t.Cruise (k + 1) (.starting k) ∧
      t.startedLabs = s.startedLabs := by
  obtain ⟨h1, h2, h3, h4, h5, h6, h7, h8, h9, h10, h11, h12⟩ := h
  simp [newHub, h1, h10, h11]
  constructor <;> simp [h2, h3, h4, h5, h6, h7, h8, h9, h12]

/-- The steady run begins after two sends. -/
theorem Hub.cruise_new :
    ∃ t, (newHub c).run Hub.new [.sendFirst 0, .sendSecond 1] = some t ∧
      t.Cruise 0 .received ∧ t.startedLabs = ∅ := by
  simp [newHub, Hub.new]
  constructor <;> simp

/-- Let labs `i` and `j` share a tag, and let worker 1 keep the lab `m`. Up to the creation of
`cap` labs the size of `startedLabs` then stays below `cap - 1`, so each registered lab is
followed by a token. -/
theorem Hub.exists_cruise {i j m : Nat} (hij : i < j) (hj : j < c.cap) (hmi : m ≠ i)
    (hmj : m ≠ j) (hm : m < c.cap) (htag : c.tag i = c.tag j) :
    ∀ k ≤ c.cap, ∃ s x, (newHub c).Reachable (fun _ _ => True) s ∧ s.Cruise k x ∧
      (k ≤ m → x = .received) ∧
      s.startedLabs.size + (if j < k then 1 else 0) + (if m < k then 1 else 0) ≤ k ∧
      (i < k → c.tag i ∈ s.startedLabs) := by
  -- The induction is on the number of labs that were created.
  intro k
  induction k with
  | zero =>
    intro _
    obtain ⟨t, hrun, hcruise, hstarted⟩ := Hub.cruise_new (c := c)
    exact ⟨t, _, (Machine.Reachable.init rfl).run (by simp) hrun, hcruise, fun _ => rfl,
      by simp [hstarted], by simp⟩
  | succ k ih =>
    intro hk
    obtain ⟨s, x, hreach, hcruise, hx, hsize, hmem⟩ := ih (by omega)
    rcases eq_or_ne k m with rfl | hkm
    · -- Worker 1 makes this lab, and nothing is registered.
      obtain rfl := hx (by omega)
      obtain ⟨t, hrun, hcruise, hstarted⟩ := hcruise.create (c := c)
      refine ⟨t, _, hreach.run (by simp) hrun, hcruise, by omega, ?_, ?_⟩
      · rw [hstarted]
        split_ifs at hsize ⊢ <;> omega
      · intro hik
        rw [hstarted]
        exact hmem (by omega)
    · -- Worker 0 makes this lab. Its tag is not new when `k = j`.
      have hset : (s.startedLabs.set (c.tag k) k).size
          + (if k = j then 1 else 0) ≤ s.startedLabs.size + 1 := by
        by_cases hin : c.tag k ∈ s.startedLabs
        · rw [GoMap.size_set_of_mem hin]
          split <;> omega
        · rw [GoMap.size_set_of_notMem hin, if_neg]
          rintro rfl
          exact hin (htag ▸ hmem hij)
      have hlt : (s.startedLabs.set (c.tag k) k).size + 2 ≤ c.cap := by
        clear hmem hx ih
        split_ifs at hset hsize <;> omega
      obtain ⟨t, hrun, hcruise, hstarted⟩ := hcruise.cycle (c := c) hlt
      refine ⟨t, x, hreach.run (by simp) hrun, hcruise, fun hle => hx (by omega), ?_, ?_⟩
      · rw [hstarted]
        clear hmem hx ih
        split_ifs at hset hsize ⊢ <;> omega
      · intro hik
        rw [hstarted, GoMap.mem_set]
        rcases eq_or_ne i k with rfl | hne
        · exact .inl rfl
        · exact .inr (hmem (by omega))

/-- Worker 0 makes one more lab. -/
theorem Hub.Cruise.overshoot {k : Nat} {x : Worker} (h : s.Cruise k x) :
    ∃ t, (newHub c).run s [.wgAdd 0, .newLab 0] = some t ∧ t.calls = k + 1 := by
  simp [newHub, h.panicked, h.worker_zero, h.calls]

/-- Some run calls `NewLab` more often than `cap` when the tags are not apart. -/
theorem Hub.exists_calls_gt (h : ¬ c.TagsApart) :
    ∃ s, (newHub c).Reachable (fun _ _ => True) s ∧ c.cap < s.calls := by
  by_cases hcap : c.cap < 2
  · -- Both tokens of `NewHub` are used before anything is registered.
    obtain ⟨s, hrun, hcruise, -⟩ := Hub.cruise_new (c := c)
    have hs : (newHub c).Reachable (fun _ _ => True) s :=
      (Machine.Reachable.init rfl).run (by simp) hrun
    obtain ⟨t, hrun, hcruise, -⟩ := hcruise.create (c := c)
    have ht : (newHub c).Reachable (fun _ _ => True) t := hs.run (by simp) hrun
    obtain ⟨u, hrun, hcalls⟩ := hcruise.overshoot (c := c)
    exact ⟨u, ht.run (by simp) hrun, by omega⟩
  · -- Two of the first `cap` labs share a tag, and worker 1 keeps a third one.
    simp only [HubConf.TagsApart, not_and_or, not_or, not_forall, not_not] at h
    rcases h with hlt | ⟨hne, i, j, hij, hj, htag⟩
    · omega
    obtain ⟨m, hm, hmi, hmj⟩ : ∃ m < c.cap, m ≠ i ∧ m ≠ j := by
      by_cases h0 : i = 0
      · by_cases h1 : j = 1
        · exact ⟨2, by omega, by omega, by omega⟩
        · exact ⟨1, by omega, by omega, by omega⟩
      · exact ⟨0, by omega, by omega, by omega⟩
    obtain ⟨s, x, hs, hcruise, -⟩ :=
      Hub.exists_cruise hij hj hmi hmj hm htag c.cap le_rfl
    obtain ⟨t, hrun, hcalls⟩ := hcruise.overshoot (c := c)
    exact ⟨t, hs.run (by simp) hrun, by omega⟩

/-- The lab hub respects its capacity exactly for these arguments and tags: in every run
`NewLab` is called at most `cap` times if and only if the capacity is at least two, and the
first `cap` labs have distinct tags when there are more than two. -/
theorem newLab_calls_le_cap_iff (c : HubConf Tag) :
    (∀ s, (newHub c).Reachable (fun _ _ => True) s → s.calls ≤ c.cap) ↔ c.TagsApart := by
  constructor
  · intro h
    by_contra hnot
    obtain ⟨s, hs, hlt⟩ := Hub.exists_calls_gt hnot
    have := h s hs
    omega
  · intro htags s hs
    exact (Hub.counted htags hs).calls_le htags.1

/-- With a capacity of one, both tokens of `NewHub` become calls of `NewLab`. -/
theorem newLab_calls_gt_cap_one :
    ¬ ∀ c : HubConf Nat, 1 ≤ c.cap →
      ∀ s, (newHub c).Reachable (fun _ _ => True) s → s.calls ≤ c.cap := by
  intro h
  let c : HubConf Nat := { buffer := 1, cap := 1, tag := fun l => l }
  have hcalls : ((newHub c).run Hub.new [.sendFirst 0, .sendSecond 1, .wgAdd 0, .newLab 0,
      .wgAdd 1, .newLab 1]).map Hub.calls = some 2 := by decide
  obtain ⟨s, hrun, hs⟩ := Option.map_eq_some_iff.mp hcalls
  have hle := h c le_rfl s ((Machine.Reachable.init rfl).run (by simp) hrun)
  rw [hs] at hle
  exact absurd hle (by decide)

end Haaukins.Lab
