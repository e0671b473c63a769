import Mathlib.Algebra.GroupWithZero.Nat
import Mathlib.Data.List.Perm.Basic
import Mathlib.Data.List.Nodup
import Mathlib.Logic.Function.Basic
import Haaukins.Lib.Machine

/-!
# `Haaukins.Lib.FanOut`: items handed out to goroutines over a channel

A `FanOut` is a call that goes through a list of items. For each item it starts a goroutine that
sends the item to a buffered channel, and a worker that receives one item. It waits for the workers
with a wait group. A worker reads some `κ` at its start (a time, say), and with it changes the
elements of the data of its item, one after another.

Which worker gets which item is up to the scheduler. The steps of all goroutines may interleave.

* `State.Inv` says where each item is, and how far its data are.
* `finished` says that a call that has returned has changed the data of each item once, with the
  `κ` of one worker.
* `quiescent` says that the call does not get stuck, when the channel has room for all items.
* `length_run_le` bounds the length of a run.
-/

set_option autoImplicit false

/-- A call: the items, the room of the channel, and the work. -/
structure FanOut (α κ τ : Type*) where
  items : List α
  room : Nat
  body : κ → τ → τ
  /-- The elements of an item before the call. -/
  data : α → List τ

namespace FanOut

variable {α κ τ : Type*}

/-- Where a worker is. -/
inductive Worker (α κ : Type*) where
  | created
  /-- It has read its `κ`, and waits for an item. -/
  | ready (k : κ)
  /-- It has changed the first `i` elements. -/
  | working (k : κ) (a : α) (i : Nat)
  | done (k : κ) (a : α)

namespace Worker

/-- The item that a worker has received. -/
def item : Worker α κ → Option α
  | .created | .ready _ => none
  | .working _ a _ | .done _ a => some a

/-- A worker that the wait group still counts. -/
def busy : Worker α κ → Bool
  | .done _ _ => false
  | _ => true

end Worker

/-- The state of a call. -/
structure State (α κ τ : Type*) where
  /-- The number of senders that were started. -/
  senders : Nat
  /-- The items of the senders that still have to send. -/
  pending : List α
  channel : List α
  workers : List (Worker α κ)
  /-- The counter of the wait group. -/
  count : Nat
  data : α → List τ
  returned : Bool

/-- The items that workers have received. -/
def State.held (s : State α κ τ) : List α := s.workers.flatMap fun w => w.item.toList

/-- What the caller and the workers can do. -/
inductive Action (κ : Type*) where
  /-- The loop comes to the next item, and starts its sender. -/
  | goSend
  /-- `wg.Add(1)`, and the worker is started. -/
  | goWork
  | send (i : Nat)
  | start (w : Nat) (k : κ)
  | receive (w : Nat)
  /-- The next element, or `wg.Done()` after the last one. -/
  | work (w : Nat)
  | wait

variable (F : FanOut α κ τ)

/-- The call has been made. -/
def called : State α κ τ where
  senders := 0
  pending := []
  channel := []
  workers := []
  count := 0
  data := F.data
  returned := false

/-- A step of the call or of one of its goroutines. -/
def step [DecidableEq α] (s : State α κ τ) : Action κ → Option (State α κ τ)
  | .goSend =>
    if s.workers.length = s.senders then
      F.items[s.senders]?.map fun a =>
        { s with senders := s.senders + 1, pending := s.pending ++ [a] }
    else none
  | .goWork =>
    if s.workers.length < s.senders then
      some { s with workers := s.workers ++ [.created], count := s.count + 1 }
    else none
  | .send i =>
    match s.pending[i]? with
    | some a =>
      if s.channel.length < F.room then
        some { s with pending := s.pending.eraseIdx i, channel := s.channel ++ [a] }
      else none
    | none => none
  | .start w k =>
    match s.workers[w]? with
    | some .created => some { s with workers := s.workers.set w (.ready k) }
    | _ => none
  | .receive w =>
    match s.workers[w]?, s.channel with
    | some (.ready k), a :: rest =>
      some { s with workers := s.workers.set w (.working k a 0), channel := rest }
    | _, _ => none
  | .work w =>
    match s.workers[w]? with
    | some (.working k a i) =>
      match (s.data a)[i]? with
      | some x =>
        some { s with
          workers := s.workers.set w (.working k a (i + 1)),
          data := Function.update s.data a ((s.data a).set i (F.body k x)) }
      | none => some { s with workers := s.workers.set w (.done k a), count := s.count - 1 }
    | _ => none
  | .wait =>
    if s.workers.length = F.items.length ∧ s.count = 0 ∧ s.returned = false then
      some { s with returned := true }
    else none

/-- The call, with its goroutines in any interleaving. -/
def machine [DecidableEq α] : Machine (State α κ τ) (Action κ) where
  init s := s = F.called
  step := F.step

/-- What the workers read meets `K`. -/
def Action.Reads (K : κ → Prop) : Action κ → Prop
  | .start _ k => K k
  | _ => True

/-- How far a worker is with the data of its item. -/
def Fits (K : κ → Prop) (data : α → List τ) : Worker α κ → Prop
  | .created => True
  | .ready k => K k
  | .working k a i =>
    K k ∧ i ≤ (F.data a).length ∧
      data a = ((F.data a).take i).map (F.body k) ++ (F.data a).drop i
  | .done k a => K k ∧ data a = (F.data a).map (F.body k)

/-- Each item is with its sender, in the channel or with a worker. -/
structure Inv (K : κ → Prop) (s : State α κ τ) : Prop where
  started : s.workers.length ≤ s.senders ∧ s.senders ≤ F.items.length
  split : (s.pending ++ (s.channel ++ s.held)).Perm (F.items.take s.senders)
  count : s.count = s.workers.countP Worker.busy
  fits : ∀ w ∈ s.workers, F.Fits K s.data w
  untouched : ∀ a, (∀ w ∈ s.workers, a ∉ w.item) → s.data a = F.data a
  returned : s.returned = true → s.workers.length = F.items.length ∧ s.count = 0

variable {F} {K : κ → Prop} {s t : State α κ τ}

/-- The items, when one worker has changed from `old` to `new`. -/
theorem split_replace {old new : Worker α κ} {rest : List (Worker α κ)}
    (h : (s.pending ++ (s.channel ++ s.held)).Perm (F.items.take s.senders))
    (hs : s.workers.Perm (old :: rest)) (ht : t.workers.Perm (new :: rest))
    (hmove : (t.pending ++ (t.channel ++ new.item.toList)).Perm
      (s.pending ++ (s.channel ++ old.item.toList))) :
    (t.pending ++ (t.channel ++ t.held)).Perm (F.items.take s.senders) := by
  have hheld : s.held.Perm (old.item.toList ++ rest.flatMap fun w => w.item.toList) :=
    hs.flatMap_right _
  have hheld' : t.held.Perm (new.item.toList ++ rest.flatMap fun w => w.item.toList) :=
    ht.flatMap_right _
  have hmove' := hmove.append_right (rest.flatMap fun w => w.item.toList)
  simp only [List.append_assoc] at hmove'
  exact (((hheld'.append_left _).append_left _).trans hmove').trans
    (((hheld.append_left _).append_left _).symm.trans h)

/-- Two workers have different items. -/
theorem ne_of_split {w : Worker α κ} {rest : List (Worker α κ)}
    (h : (s.pending ++ (s.channel ++ s.held)).Perm (F.items.take s.senders))
    (hitems : F.items.Nodup) (hs : s.workers.Perm (w :: rest)) {w' : Worker α κ} (hw' : w' ∈ rest)
    {a : α} (ha : a ∈ w'.item) : a ∉ w.item := by
  intro hmem
  have hall := h.nodup_iff.mpr (hitems.sublist (List.take_sublist _ _))
  have hheld : s.held.Nodup := (List.nodup_append.mp (List.nodup_append.mp hall).2.1).2.1
  have hperm : s.held.Perm (w.item.toList ++ rest.flatMap fun w => w.item.toList) :=
    hs.flatMap_right _
  have hdisjoint := (List.nodup_append.mp (hperm.nodup_iff.mp hheld)).2.2
  exact hdisjoint a (Option.mem_toList.mpr hmem) a
    (List.mem_flatMap.mpr ⟨w', hw', Option.mem_toList.mpr ha⟩) rfl

/-- The data of another item do not matter to a worker. -/
theorem Fits.congr {data data' : α → List τ} {w : Worker α κ} (h : F.Fits K data w)
    (heq : ∀ a ∈ w.item, data' a = data a) : F.Fits K data' w := by
  cases w with
  | created => exact trivial
  | ready k => exact h
  | working k a i => exact ⟨h.1, h.2.1, (heq a rfl).trans h.2.2⟩
  | done k a => exact ⟨h.1, (heq a rfl).trans h.2⟩

/-- A step of one worker, which is `old` before and `new` after it. -/
theorem Inv.replace (h : F.Inv K s) (hitems : F.items.Nodup) {old new : Worker α κ}
    {rest : List (Worker α κ)} (hs : s.workers.Perm (old :: rest))
    (ht : t.workers.Perm (new :: rest)) (hsenders : t.senders = s.senders)
    (hmove : (t.pending ++ (t.channel ++ new.item.toList)).Perm
      (s.pending ++ (s.channel ++ old.item.toList)))
    (hbusy : old.busy = true) (hcount : t.count = if new.busy then s.count else s.count - 1)
    (hkeep : ∀ a ∈ old.item, a ∈ new.item) (hdata : ∀ a, a ∉ new.item → t.data a = s.data a)
    (hnew : F.Fits K t.data new) (hret : t.returned = s.returned) : F.Inv K t where
  started := by
    have hlength : t.workers.length = s.workers.length := by
      rw [hs.length_eq, ht.length_eq, List.length_cons, List.length_cons]
    rw [hlength, hsenders]
    exact h.started
  split := hsenders ▸ split_replace h.split hs ht hmove
  -- The counter falls when the worker is no longer at work.
  count := by
    have hold := h.count
    rw [hs.countP_eq, List.countP_cons_of_pos hbusy] at hold
    rw [hcount, ht.countP_eq]
    cases hnewBusy : new.busy with
    | true => rw [List.countP_cons_of_pos hnewBusy, if_pos rfl, hold]
    | false =>
      rw [List.countP_cons_of_neg (by rw [hnewBusy]; exact Bool.false_ne_true), hold]
      rfl
  fits := by
    intro w hw
    rcases List.mem_cons.mp (ht.subset hw) with rfl | hw'
    · exact hnew
    · have hold := h.fits w (hs.symm.subset (List.mem_cons_of_mem old hw'))
      have hsplit := split_replace h.split hs ht hmove
      refine Fits.congr hold fun a ha => hdata a ?_
      exact ne_of_split (hsenders ▸ hsplit) hitems ht hw' ha
  -- An item without a worker is one that neither the old nor the new worker has.
  untouched := by
    intro a ha
    have hnotNew : a ∉ new.item := ha new (ht.symm.subset List.mem_cons_self)
    rw [hdata a hnotNew]
    refine h.untouched a fun w hw hmem => ?_
    rcases List.mem_cons.mp (hs.subset hw) with rfl | hw'
    · exact hnotNew (hkeep a hmem)
    · exact ha w (ht.symm.subset (List.mem_cons_of_mem new hw')) hmem
  returned := by
    intro hreturned
    have hold := h.count
    rw [(h.returned (hret ▸ hreturned)).2, hs.countP_eq, List.countP_cons_of_pos hbusy] at hold
    omega

/-- The data of an item in the channel are those from before the call. -/
theorem Inv.notMem_item (h : F.Inv K s) (hitems : F.items.Nodup) {a : α} (ha : a ∈ s.channel) :
    ∀ w ∈ s.workers, a ∉ w.item := by
  intro w hw hmem
  have hall := h.split.nodup_iff.mpr (hitems.sublist (List.take_sublist _ _))
  have hdisjoint := (List.nodup_append.mp (List.nodup_append.mp hall).2.1).2.2
  exact hdisjoint a ha a (List.mem_flatMap.mpr ⟨w, hw, Option.mem_toList.mpr hmem⟩) rfl

/-- The invariant at the call. -/
theorem inv_called : F.Inv K F.called where
  started := ⟨Nat.le_refl _, Nat.zero_le _⟩
  split := .refl _
  count := rfl
  fits := nofun
  untouched := fun _ _ => rfl
  returned := nofun

/-- A worker of the list, and the list after it has moved. -/
theorem workers_set {ws : List (Worker α κ)} {w : Nat} {old : Worker α κ} (new : Worker α κ)
    (hw : ws[w]? = some old) :
    ws.Perm (old :: ws.eraseIdx w) ∧ (ws.set w new).Perm (new :: ws.eraseIdx w) := by
  obtain ⟨hlt, rfl⟩ := List.getElem?_eq_some_iff.mp hw
  exact ⟨(List.getElem_cons_eraseIdx_perm hlt).symm, List.set_perm_cons_eraseIdx hlt new⟩

/-- A list that is mapped up to `i` is as long as before. -/
theorem lt_of_getElem? {xs : List τ} {f : τ → τ} {i : Nat} {x : τ} (hi : i ≤ xs.length)
    (hx : ((xs.take i).map f ++ xs.drop i)[i]? = some x) : i < xs.length := by
  have hlt := (List.getElem?_eq_some_iff.mp hx).1
  rw [List.length_append, List.length_map, List.length_take, List.length_drop] at hlt
  omega

/-- One more element of a list is mapped. -/
theorem set_map_take {xs : List τ} {f : τ → τ} {i : Nat} {x : τ} (hi : i < xs.length)
    (hx : ((xs.take i).map f ++ xs.drop i)[i]? = some x) :
    ((xs.take i).map f ++ xs.drop i).set i (f x) =
      (xs.take (i + 1)).map f ++ xs.drop (i + 1) := by
  have hlength : ((xs.take i).map f).length = i := by
    rw [List.length_map, List.length_take, Nat.min_eq_left (Nat.le_of_lt hi)]
  have hx' : xs[i]? = some x := by
    rwa [List.getElem?_append_right (Nat.le_of_eq hlength), hlength, Nat.sub_self,
      List.getElem?_drop, Nat.add_zero] at hx
  rw [List.drop_eq_getElem_cons hi, List.set_append_right i (f x) (Nat.le_of_eq hlength), hlength,
    Nat.sub_self, List.set_cons_zero, List.take_add_one, hx', List.map_append, List.append_assoc]
  rfl

/-- A worker has at most one item. -/
theorem length_held (s : State α κ τ) :
    s.held.length = s.workers.countP fun w => w.item.isSome := by
  rw [State.held]
  generalize s.workers = ws
  induction ws with
  | nil => rfl
  | cons w ws ih =>
    rw [List.flatMap_cons, List.length_append, ih, List.countP_cons, Nat.add_comm]
    cases w.item with
    | none => rfl
    | some a => rfl

variable [DecidableEq α]

/-- A step keeps the invariant. -/
theorem Inv.step (h : F.Inv K s) (hitems : F.items.Nodup) {a : Action κ} (ha : a.Reads K)
    (hs : F.step s a = some t) : F.Inv K t := by
  obtain ⟨hle, hlen⟩ := h.started
  cases a with
  -- A new sender has its item in `pending`, which `split` counts in front of the channel.
  | goSend =>
    simp only [FanOut.step] at hs
    split at hs
    · next heq =>
      obtain ⟨a, hget, rfl⟩ := Option.map_eq_some_iff.mp hs
      obtain ⟨hlt, -⟩ := List.getElem?_eq_some_iff.mp hget
      refine ⟨⟨Nat.le_succ_of_le hle, hlt⟩, ?_, h.count, h.fits, h.untouched, h.returned⟩
      show ((s.pending ++ [a]) ++ (s.channel ++ s.held)).Perm (F.items.take (s.senders + 1))
      rw [List.take_add_one, hget, List.append_assoc]
      refine List.perm_middle.trans ?_
      exact (h.split.cons a).trans (List.perm_append_singleton a _).symm
    · cases hs
  -- A new worker holds nothing, and is counted as busy from its start.
  | goWork =>
    simp only [FanOut.step] at hs
    split at hs <;> cases hs
    next hlt =>
    refine ⟨⟨?_, hlen⟩, ?_, ?_, ?_, ?_, ?_⟩
    · rw [List.length_append]
      exact hlt
    · show (s.pending ++ (s.channel ++ (s.workers ++ [Worker.created]).flatMap _)).Perm _
      rw [List.flatMap_append]
      show (s.pending ++ (s.channel ++ (s.held ++ []))).Perm _
      rw [List.append_nil]
      exact h.split
    · show s.count + 1 = (s.workers ++ [Worker.created]).countP Worker.busy
      rw [List.countP_append, ← h.count]
      rfl
    · intro w hw
      rcases List.mem_append.mp hw with hw | hw
      · exact h.fits w hw
      · rw [List.mem_singleton.mp hw]
        exact trivial
    · exact fun a ha => h.untouched a fun w hw => ha w (List.mem_append_left _ hw)
    · intro hret
      have hall := (h.returned hret).1
      omega
  -- The item moves from `pending` to the channel.
  | send i =>
    simp only [FanOut.step] at hs
    split at hs
    · next a hget =>
      split at hs <;> cases hs
      refine ⟨h.started, ?_, h.count, h.fits, h.untouched, h.returned⟩
      obtain ⟨hlt, rfl⟩ := List.getElem?_eq_some_iff.mp hget
      have hpending := List.getElem_cons_eraseIdx_perm hlt
      calc s.pending.eraseIdx i ++ ((s.channel ++ [s.pending[i]]) ++ s.held)
        _ = (s.pending.eraseIdx i ++ s.channel) ++ s.pending[i] :: s.held := by
          simp only [List.append_assoc, List.cons_append, List.nil_append]
        List.Perm _ (s.pending[i] :: ((s.pending.eraseIdx i ++ s.channel) ++ s.held)) :=
          List.perm_middle
        _ = (s.pending[i] :: s.pending.eraseIdx i) ++ (s.channel ++ s.held) := by
          simp only [List.append_assoc, List.cons_append]
        List.Perm _ (s.pending ++ (s.channel ++ s.held)) := hpending.append_right _
        List.Perm _ _ := h.split
    · cases hs
  | start w k =>
    simp only [FanOut.step] at hs
    split at hs <;> cases hs
    next hget =>
    obtain ⟨hperm, hperm'⟩ := workers_set (.ready k) hget
    exact h.replace hitems hperm hperm' rfl (.refl _) rfl rfl nofun (fun _ _ => rfl) ha rfl
  -- The item moves from the channel to the worker, and nobody has touched its data before.
  | receive w =>
    simp only [FanOut.step] at hs
    split at hs <;> cases hs
    next k a rest hget hchannel =>
    obtain ⟨hperm, hperm'⟩ := workers_set (.working k a 0) hget
    have hfits : K k := h.fits _ (List.mem_of_getElem? hget)
    refine h.replace hitems hperm hperm' rfl ?_ rfl rfl nofun (fun _ _ => rfl)
      ⟨hfits, Nat.zero_le _, ?_⟩ rfl
    · show (s.pending ++ (rest ++ [a])).Perm (s.pending ++ (s.channel ++ []))
      rw [hchannel, List.append_nil]
      exact (List.perm_append_singleton a rest).append_left _
    · rw [List.take_zero, List.map_nil, List.nil_append, List.drop_zero]
      exact h.untouched a (h.notMem_item hitems (hchannel ▸ List.mem_cons_self))
  | work w =>
    simp only [FanOut.step] at hs
    split at hs
    · next k a i hget =>
      obtain ⟨hk, hi, hdata⟩ : F.Fits K s.data (.working k a i) :=
        h.fits _ (List.mem_of_getElem? hget)
      split at hs <;> cases hs
      -- One more element of the data is through.
      · next x hx =>
        have hlt := lt_of_getElem? hi (hdata ▸ hx)
        obtain ⟨hperm, hperm'⟩ := workers_set (.working k a (i + 1)) hget
        refine h.replace hitems hperm hperm' rfl (.refl _) rfl rfl (fun _ h => h) ?_
          ⟨hk, hlt, ?_⟩ rfl
        · intro b hb
          exact Function.update_of_ne (fun heq => hb (congrArg some heq.symm)) _ _
        · rw [hdata] at hx
          show Function.update _ a _ a = _
          rw [Function.update_self, hdata]
          exact set_map_take hlt hx
      -- The worker has reached the end of the data.
      · next hx =>
        obtain ⟨hperm, hperm'⟩ := workers_set (.done k a) hget
        refine h.replace hitems hperm hperm' rfl (.refl _) rfl rfl (fun _ h => h) (fun _ _ => rfl)
          ⟨hk, ?_⟩ rfl
        show s.data a = _
        rw [hdata, List.getElem?_eq_none_iff, List.length_append, List.length_map,
          List.length_take, List.length_drop] at hx
        have hlength : (F.data a).length ≤ i := by omega
        rw [hdata, List.take_of_length_le hlength, List.drop_of_length_le hlength, List.append_nil]
    · cases hs
  | wait =>
    simp only [FanOut.step] at hs
    split at hs <;> cases hs
    next hwait =>
    -- The guard of `wait` is what the field asks for.
    exact ⟨h.started, h.split, h.count, h.fits, h.untouched, fun _ => ⟨hwait.1, hwait.2.1⟩⟩

/-- The invariant in every state of a run. -/
theorem inv_reachable (hitems : F.items.Nodup)
    (h : F.machine.Reachable (fun _ a => a.Reads K) s) : F.Inv K s := by
  refine h.invariant (F.Inv K) (fun s hs => ?_) fun _ _ _ hs ha hstep => hs.step hitems ha hstep
  rw [show s = F.called from hs]
  exact inv_called

/-- A call that has returned has changed the data of each item, once and with one `κ`. The data of
others are as they were. -/
theorem finished (hitems : F.items.Nodup)
    (h : F.machine.Reachable (fun _ a => a.Reads K) s) (hret : s.returned = true) :
    (∀ a ∈ F.items, ∃ k, K k ∧ s.data a = (F.data a).map (F.body k)) ∧
      ∀ a ∉ F.items, s.data a = F.data a := by
  have hinv := inv_reachable hitems h
  obtain ⟨hworkers, hcount⟩ := hinv.returned hret
  obtain ⟨hle, hlen⟩ := hinv.started
  -- The counter is zero, so each worker has come to its end.
  have hdone : ∀ w ∈ s.workers, ∃ k a, w = .done k a := by
    rw [hinv.count, List.countP_eq_zero] at hcount
    intro w hw
    have hbusy := hcount w hw
    cases w with
    | done k a => exact ⟨k, a, rfl⟩
    | created | ready _ | working _ _ _ => exact absurd rfl hbusy
  have hheld : s.held.length = s.workers.length := by
    rw [length_held, List.countP_eq_length]
    intro w hw
    obtain ⟨k, a, rfl⟩ := hdone w hw
    rfl
  have hsplit := hinv.split
  have hlength := hsplit.length_eq
  rw [List.length_append, List.length_append, List.length_take] at hlength
  have hpending : s.pending = [] := List.length_eq_zero_iff.mp (by omega)
  have hchannel : s.channel = [] := List.length_eq_zero_iff.mp (by omega)
  rw [hpending, hchannel, List.nil_append, List.nil_append, List.take_of_length_le (by omega)]
    at hsplit
  constructor
  · intro a ha
    obtain ⟨w, hw, hmem⟩ := List.mem_flatMap.mp (hsplit.mem_iff.mpr ha)
    obtain ⟨k, b, rfl⟩ := hdone w hw
    obtain rfl : b = a := Option.some.inj (Option.mem_toList.mp hmem)
    exact ⟨k, hinv.fits _ hw⟩
  · intro a ha
    refine hinv.untouched a fun w hw hmem => ha (hsplit.mem_iff.mp ?_)
    exact List.mem_flatMap.mpr ⟨w, hw, Option.mem_toList.mpr hmem⟩

/-- A call in which no goroutine can move has returned. -/
theorem quiescent [Nonempty κ] (hitems : F.items.Nodup) (hroom : F.items.length ≤ F.room)
    (h : F.machine.Reachable (fun _ a => a.Reads K) s)
    (hquiet : F.machine.Quiescent (fun _ => True) s) : s.returned = true := by
  have hinv := inv_reachable hitems h
  obtain ⟨hle, hlen⟩ := hinv.started
  have hlength := hinv.split.length_eq
  rw [List.length_append, List.length_append, List.length_take] at hlength
  have hheld := length_held s
  -- The loop has come to its end.
  have hworkers : s.workers.length = s.senders := by
    have hgo : F.step s .goWork = none := hquiet .goWork trivial
    simp only [FanOut.step] at hgo
    split at hgo
    · cases hgo
    · omega
  have hsenders : s.senders = F.items.length := by
    have hgo : F.step s .goSend = none := hquiet .goSend trivial
    rw [FanOut.step, if_pos hworkers, Option.map_eq_none_iff, List.getElem?_eq_none_iff] at hgo
    omega
  -- There is room for each item, so all are sent.
  have hpending : s.pending = [] := by
    cases hcase : s.pending with
    | nil => rfl
    | cons a rest =>
      have hsend : F.step s (.send 0) = none := hquiet (.send 0) trivial
      rw [hcase, List.length_cons] at hlength
      simp only [FanOut.step, hcase, List.getElem?_cons_zero] at hsend
      rw [if_pos (by omega)] at hsend
      cases hsend
  have hstuck : ∀ w ∈ s.workers, w.item = none ∧ s.channel = [] ∨ ∃ k a, w = .done k a := by
    intro w hw
    obtain ⟨i, hget⟩ := List.mem_iff_getElem?.mp hw
    cases w with
    | created =>
      obtain ⟨k⟩ := ‹Nonempty κ›
      have hstart : F.step s (.start i k) = none := hquiet (.start i k) trivial
      simp only [FanOut.step, hget, reduceCtorEq] at hstart
    | ready k =>
      have hreceive : F.step s (.receive i) = none := hquiet (.receive i) trivial
      cases hcase : s.channel with
      | nil => exact .inl ⟨rfl, rfl⟩
      | cons a rest => simp only [FanOut.step, hget, hcase, reduceCtorEq] at hreceive
    | working k a j =>
      have hwork : F.step s (.work i) = none := hquiet (.work i) trivial
      simp only [FanOut.step, hget] at hwork
      split at hwork <;> cases hwork
    | done k a => exact .inr ⟨k, a, rfl⟩
  -- A worker without an item would leave one in the channel.
  have hchannel : s.channel = [] := by
    by_contra hne
    have hall : s.workers.countP (fun w => w.item.isSome) = s.workers.length := by
      refine List.countP_eq_length.mpr fun w hw => ?_
      rcases hstuck w hw with ⟨-, hnil⟩ | ⟨k, a, rfl⟩
      · exact absurd hnil hne
      · rfl
    have hpos := List.length_pos_iff.mpr hne
    omega
  have hitem : ∀ w ∈ s.workers, w.item.isSome := by
    refine List.countP_eq_length.mp ?_
    rw [hpending, hchannel, List.length_nil] at hlength
    omega
  have hcount : s.count = 0 := by
    rw [hinv.count, List.countP_eq_zero]
    intro w hw
    rcases hstuck w hw with ⟨hnone, -⟩ | ⟨k, a, rfl⟩
    · have hsome := hitem w hw
      rw [hnone] at hsome
      cases hsome
    · exact Bool.false_ne_true
  by_contra hreturned
  have hwait : F.step s .wait = none := hquiet .wait trivial
  rw [FanOut.step,
    if_pos ⟨hworkers.trans hsenders, hcount, Bool.eq_false_iff.mpr hreturned⟩] at hwait
  cases hwait

/-! ### The length of a run -/

/-- The steps that a worker has left. -/
def Worker.left (F : FanOut α κ τ) : Worker α κ → Nat
  | .created => 1
  | .ready _ | .done _ _ => 0
  | .working _ a i => (F.data a).length + 1 - i

/-- A bound of the steps that are left. -/
def remaining (F : FanOut α κ τ) (s : State α κ τ) : Nat :=
  ((F.items.drop s.senders).map fun a => (F.data a).length + 4).sum +
    (s.pending.map fun a => (F.data a).length + 3).sum +
    (s.channel.map fun a => (F.data a).length + 2).sum +
    (s.workers.map (Worker.left F)).sum + 2 * (F.items.length - s.workers.length) +
    if s.returned then 0 else 1

omit [DecidableEq α] in
/-- The steps left, when one worker has moved. -/
theorem sum_left_set {ws : List (Worker α κ)} {w : Nat} {old : Worker α κ} (new : Worker α κ)
    (hw : ws[w]? = some old) :
    ((ws.set w new).map (Worker.left F)).sum + old.left F =
      (ws.map (Worker.left F)).sum + new.left F := by
  obtain ⟨hperm, hperm'⟩ := workers_set new hw
  rw [(hperm.map _).sum_nat, (hperm'.map _).sum_nat, List.map_cons, List.sum_cons, List.map_cons,
    List.sum_cons]
  omega

/-- Each step leaves less to do. -/
theorem Inv.remaining_lt (h : F.Inv K s) {a : Action κ} (hs : F.step s a = some t) :
    F.remaining t < F.remaining s := by
  obtain ⟨hle, hlen⟩ := h.started
  cases a with
  -- The item that is still to be sent counts for its sender, its way and its worker.
  | goSend =>
    simp only [FanOut.step] at hs
    split at hs
    · obtain ⟨a, hget, rfl⟩ := Option.map_eq_some_iff.mp hs
      obtain ⟨hlt, rfl⟩ := List.getElem?_eq_some_iff.mp hget
      simp only [remaining, List.drop_eq_getElem_cons hlt, List.map_cons, List.sum_cons,
        List.map_append, List.sum_append, List.map_nil, List.sum_nil]
      omega
    · cases hs
  | goWork =>
    simp only [FanOut.step] at hs
    split at hs <;> cases hs
    next hlt =>
    simp only [remaining, List.map_append, List.sum_append, List.map_cons, List.sum_cons,
      List.map_nil, List.sum_nil, List.length_append, List.length_cons, List.length_nil,
      Worker.left]
    omega
  | send i =>
    simp only [FanOut.step] at hs
    split at hs
    · next a hget =>
      split at hs <;> cases hs
      obtain ⟨hlt, rfl⟩ := List.getElem?_eq_some_iff.mp hget
      have hperm := List.getElem_cons_eraseIdx_perm hlt
      have hsum := (hperm.map fun a => (F.data a).length + 3).sum_nat
      rw [List.map_cons, List.sum_cons] at hsum
      simp only [remaining, List.map_append, List.sum_append, List.map_cons, List.sum_cons,
        List.map_nil, List.sum_nil]
      omega
    · cases hs
  | start w k =>
    simp only [FanOut.step] at hs
    split at hs <;> cases hs
    next hget =>
    have hsum := sum_left_set (F := F) (.ready k) hget
    simp only [Worker.left] at hsum
    simp only [remaining, List.length_set]
    omega
  | receive w =>
    simp only [FanOut.step] at hs
    split at hs <;> cases hs
    next k a rest hget hchannel =>
    have hsum := sum_left_set (F := F) (.working k a 0) hget
    simp only [Worker.left] at hsum
    simp only [remaining, List.length_set, hchannel, List.map_cons, List.sum_cons]
    omega
  | work w =>
    simp only [FanOut.step] at hs
    split at hs
    · next k a i hget =>
      obtain ⟨-, hi, -⟩ : F.Fits K s.data (.working k a i) :=
        h.fits _ (List.mem_of_getElem? hget)
      split at hs <;> cases hs
      · have hsum := sum_left_set (F := F) (.working k a (i + 1)) hget
        simp only [Worker.left] at hsum
        simp only [remaining, List.length_set]
        omega
      · have hsum := sum_left_set (F := F) (.done k a) hget
        simp only [Worker.left] at hsum
        simp only [remaining, List.length_set]
        omega
    · cases hs
  | wait =>
    simp only [FanOut.step] at hs
    split at hs <;> cases hs
    next hwait =>
    simp only [remaining, hwait.2.2, if_true, Bool.false_eq_true, if_false]
    omega

/-- The call ends after at most so many steps, in every order. -/
theorem length_run_le (hitems : F.items.Nodup) {as : List (Action κ)}
    (hreads : ∀ a ∈ as, a.Reads K) (hrun : F.machine.run F.called as = some s) :
    as.length ≤ (F.items.map fun a => (F.data a).length + 6).sum + 1 := by
  have hbound := Machine.run_length_le (M := F.machine) (I := F.Inv K) (m := F.remaining)
    (fun s a t hs ha hstep => ⟨hs.step hitems ha hstep, hs.remaining_lt hstep⟩) inv_called hreads
    hrun
  have hsum : ∀ items : List α, (items.map fun a => (F.data a).length + 6).sum =
      (items.map fun a => (F.data a).length + 4).sum + 2 * items.length := by
    intro items
    induction items with
    | nil => rfl
    | cons a items ih =>
      rw [List.map_cons, List.sum_cons, ih, List.map_cons, List.sum_cons, List.length_cons]
      omega
  simp only [remaining, called, List.drop_zero, List.map_nil, List.sum_nil, List.length_nil,
    Bool.false_eq_true, if_false] at hbound
  rw [hsum]
  exact hbound

end FanOut
