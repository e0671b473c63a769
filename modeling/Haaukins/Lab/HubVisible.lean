import Haaukins.Lab.HubFailures

/-!
# `Haaukins.Lab.HubVisible`: the labs that the event can see

`Hub.visible` are the labs in `hub.Labs()`, in the queue, and those that were delivered. Only
the dispatcher makes a lab visible, and it does so when it puts the lab into `startedLabs`
(`Hub.Seen.visible_step`). A lab that a worker has not sent yet is not visible.
-/

set_option autoImplicit false

namespace Haaukins.Lab

variable {Tag : Type}

/-- The labs in `hub.Labs()`, in the queue, and those that were delivered. -/
def Hub.visible (s : Hub Tag) : List Nat := s.startedLabs.values ++ (s.queue ++ s.delivered)

variable [DecidableEq Tag] {c : HubConf Tag} {s t : Hub Tag} {a : HubAction}

/-- The lab in the hands of the dispatcher is in `startedLabs`, and the labs on their way back
were delivered. -/
structure Hub.Seen (c : HubConf Tag) (s : Hub Tag) : Prop where
  phase : s.Phase
  placed : s.Placed c
  queueing : ∀ l ∈ s.dispatcher.lab, l ∈ s.startedLabs.values
  released : ∀ l ∈ s.updating ++ (s.deallocated ++ s.dealloc.toList), l ∈ s.delivered
  created : ∀ l ∈ s.queue ++ s.delivered, l < s.created

/-- The new hub has not shown a lab. -/
theorem Hub.seen_new : (Hub.new : Hub Tag).Seen c := by
  refine ⟨Hub.phase_new, Hub.placed_new, ?_, ?_, ?_⟩ <;> simp [Hub.new, Dispatcher.lab]

/-- A registered lab was created. -/
theorem Hub.Placed.lt_created (h : s.Placed c) {l : Nat} (hl : l ∈ s.startedLabs.values) :
    l < s.created := by
  obtain ⟨k, hk⟩ := GoMap.mem_values.mp hl
  have hplace := h.place l
  have hpos := List.count_pos_iff.mpr (h.tagged k l hk).2
  by_contra hnot
  rw [if_neg hnot] at hplace
  omega

/-- A visible lab was created. -/
theorem Hub.Seen.lt_created (h : s.Seen c) {l : Nat} (hl : l ∈ s.visible) : l < s.created := by
  rcases List.mem_append.mp hl with hl | hl
  · exact h.placed.lt_created hl
  · exact h.created l hl

/-- After the step the map has the labs that it had, and the one that the step registers. -/
theorem Hub.values_step (hs : (newHub c).step s a = some t) {l : Nat}
    (hl : l ∈ t.startedLabs.values) : l ∈ s.startedLabs.values ∨ a.registers = some l := by
  rw [newHub_step] at hs
  obtain ⟨-, -, rfl⟩ := hs
  cases a with
  | handLabs i k | recvLabs k =>
    obtain ⟨tag, htag⟩ := GoMap.mem_values.mp hl
    simp only [Hub.effect, Hub.setWorker, Hub.register, GoMap.get?_set] at htag
    split at htag
    · exact .inr htag
    · exact .inl (GoMap.mem_values.mpr ⟨tag, htag⟩)
  | _ => exact .inl hl

/-- The lab that a step registers is in the map. -/
theorem Hub.mem_values_of_registers (hs : (newHub c).step s a = some t) {l : Nat}
    (hl : a.registers = some l) : l ∈ t.startedLabs.values := by
  rw [newHub_step] at hs
  obtain ⟨-, -, rfl⟩ := hs
  cases a with
  | handLabs i k | recvLabs k =>
    obtain rfl : k = l := Option.some.inj hl
    exact GoMap.mem_values.mpr ⟨c.tag k, GoMap.get?_set_self _ _ _⟩
  | _ => cases hl

/-- The queue and the deliveries after a step: their labs were there before, or in the hands of
the dispatcher, or on their way back. -/
theorem Hub.queue_step (hs : (newHub c).step s a = some t) {l : Nat}
    (hl : l ∈ t.queue ++ t.delivered) :
    l ∈ s.queue ++ s.delivered ∨ l ∈ s.dispatcher.lab ∨ l ∈ s.dealloc.toList := by
  rw [newHub_step] at hs
  obtain ⟨-, hg, rfl⟩ := hs
  simp only [List.mem_append] at hl ⊢
  cases a with
  | pushQueue k | handQueue k | requeue k | handRequeue k =>
    simp only [Hub.enabled] at hg
    simp only [Hub.effect, List.mem_append, List.mem_singleton] at hl
    simp only [hg, Dispatcher.lab, Option.toList_some, List.mem_singleton]
    tauto
  | receive k =>
    -- The head of the queue becomes the last delivery.
    obtain ⟨ys, hys⟩ := List.head?_eq_some_iff.mp hg.2
    simp only [Hub.effect, hys, List.tail_cons, List.mem_append, List.mem_singleton] at hl
    rw [hys, List.mem_cons]
    tauto
  | _ => exact .inl hl

/-- Only the dispatcher makes a lab visible. -/
theorem Hub.Seen.visible_step (h : s.Seen c) (hs : (newHub c).step s a = some t) {l : Nat}
    (hl : l ∈ t.visible) : l ∈ s.visible ∨ a.registers = some l := by
  simp only [Hub.visible, List.mem_append] at hl ⊢
  rcases hl with hl | hl
  · exact (Hub.values_step hs hl).imp_left .inl
  · refine .inl ?_
    rcases Hub.queue_step hs (List.mem_append.mpr hl) with hl | hl | hl
    · exact .inr (List.mem_append.mp hl)
    · -- The dispatcher queues a lab that it has registered.
      exact .inl (h.queueing l hl)
    · exact .inr (.inr (h.released l (by simp [hl])))

/-- A step keeps what was seen. -/
theorem Hub.Seen.step (h : s.Seen c) (hreleased : s.Released a)
    (hs : (newHub c).step s a = some t) : t.Seen c := by
  have hphase := Hub.phase_step h.phase hs
  have hplaced := Hub.placed_step h.phase h.placed hs
  refine ⟨hphase, hplaced, ?_, ?_, ?_⟩
  · -- The dispatcher holds a lab from its registration to the queue.
    have hqueueing := h.queueing
    have hregisters := fun l => Hub.mem_values_of_registers (l := l) hs
    rw [newHub_step] at hs
    obtain ⟨-, hg, rfl⟩ := hs
    intro l hl
    cases a with
    | handLabs i k | recvLabs k =>
      obtain rfl : l = k := by simpa [Hub.effect, Hub.register, Dispatcher.lab] using hl
      exact hregisters l rfl
    | sendSecond i | recvStop | pushQueue k | handQueue k | skipQueue k | countStarting
    | countFull | countToken | sendReady i | wgWait | closeLabs | drained
    | closeStarted k rest | returnClosed =>
      simp [Hub.effect, Dispatcher.lab] at hl
    | _ => exact hqueueing l hl
  · -- A lab on its way back moves from `Update` to the goroutine and to `dealloc`.
    have hdelivered := Hub.delivered_step hs
    have hback := h.released
    rw [newHub_step] at hs
    obtain ⟨-, hg, rfl⟩ := hs
    intro l hl
    rw [hdelivered, List.mem_append]
    simp only [List.mem_append] at hback hl
    cases a with
    | update k =>
      have hk : k ∈ s.delivered := hreleased
      simp only [Hub.effect, List.mem_append, List.mem_singleton] at hl
      rcases hl with (hl | rfl) | hl
      · exact .inl (hback l (.inl hl))
      · exact .inl hk
      · exact .inl (hback l (.inr hl))
    | putDeallocated k =>
      have hk : k ∈ s.delivered := hback k (.inl hg.1)
      simp only [Hub.effect, List.mem_append, List.mem_singleton] at hl
      rcases hl with hl | (hl | rfl) | hl
      · exact .inl (hback l (.inl (List.mem_of_mem_erase hl)))
      · exact .inl (hback l (.inr (.inl hl)))
      · exact .inl hk
      · exact .inl (hback l (.inr (.inr hl)))
    | takeDeallocated k =>
      obtain ⟨ys, hys⟩ := List.head?_eq_some_iff.mp hg.2
      simp only [Hub.effect, hys, List.tail_cons, Option.toList_some, List.mem_singleton] at hl
      refine .inl (hback l ?_)
      rw [hys, List.mem_cons]
      tauto
    | requeue k | handRequeue k =>
      simp only [Hub.effect, Option.toList_none, List.not_mem_nil, or_false] at hl
      exact .inl (hback l (hl.imp_right .inl))
    | _ => exact .inl (hback l hl)
  · -- The labs that get into the queue come from the dispatcher, and the others were seen.
    have hgrow : s.created ≤ t.created := by
      rw [newHub_step] at hs
      obtain ⟨-, -, rfl⟩ := hs
      cases a <;> simp [Hub.effect, Hub.setWorker, Hub.register]
    intro l hl
    refine lt_of_lt_of_le ?_ hgrow
    rcases Hub.queue_step hs hl with hl | hl | hl
    · exact h.created l hl
    · exact h.placed.lt_created (h.queueing l hl)
    · exact h.created l (List.mem_append_right _ (h.released l (by simp [hl])))

end Haaukins.Lab
