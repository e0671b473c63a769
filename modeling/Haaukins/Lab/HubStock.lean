import Haaukins.Lab.HubInvariant

/-!
# `Haaukins.Lab.HubStock`: the labs that a hub can still deliver

A lab that the dispatcher has registered goes to a receiver through `queue`, and comes back
through `Update`. `Hub.offered` lists the labs on this way, and `offered_step` is the law of
each step: a delivery takes its lab off the list, and only the dispatcher and `Update` put
one on it.

* `Hub.Stocked` is the state of a hub in which each registered lab is on the way at most
  once.
* `Hub.take` is the receive of a consumer that does not wait: its `request` and the step
  that hands it a lab.
-/

set_option autoImplicit false

namespace Haaukins.Lab

/-- The lab that a step hands to a receiver of `Queue()`. -/
def HubAction.delivers : HubAction → Option Nat
  | .receive l | .handQueue l | .handRequeue l => some l
  | _ => none

/-- The steps of the goroutines of the hub that need no consumer, and `Close`. -/
def HubAction.inner : HubAction → Bool
  | .request | .update _ | .receive _ | .handQueue _ | .handRequeue _ => false
  | _ => true

variable {Tag : Type}

/-- The labs in `queue`, and the released labs that are on their way to it. -/
def Hub.pipeline (s : Hub Tag) : List Nat :=
  s.queue ++ (s.updating ++ (s.deallocated ++ s.dealloc.toList))

/-- The registered labs that the hub can still deliver. -/
def Hub.offered (s : Hub Tag) : List Nat := s.dispatcher.lab ++ s.pipeline

variable [DecidableEq Tag] {c : HubConf Tag} {s t : Hub Tag} {a : HubAction}

/-- The hub can deliver each registered lab at most once. -/
structure Hub.Stocked (c : HubConf Tag) (s : Hub Tag) : Prop where
  phase : s.Phase
  placed : s.Placed c
  offered_le : ∀ l, s.offered.count l ≤ s.registered.count l

/-- The new hub has no lab. -/
theorem Hub.stocked_new : (Hub.new : Hub Tag).Stocked c := by
  refine ⟨Hub.phase_new, Hub.placed_new, fun l => ?_⟩
  simp [Hub.new, Hub.offered, Hub.pipeline, Dispatcher.lab]

/-- A lab is registered at most once. -/
theorem Hub.Placed.registered_le_one (h : s.Placed c) (l : Nat) : s.registered.count l ≤ 1 := by
  have hplace := h.place l
  split at hplace <;> omega

/-- A lab is offered once. -/
theorem Hub.Stocked.offered_le_one (h : s.Stocked c) (l : Nat) : s.offered.count l ≤ 1 :=
  (h.offered_le l).trans (h.placed.registered_le_one l)

/-- A lab on offer is registered. -/
theorem Hub.Stocked.mem_registered (h : s.Stocked c) {l : Nat} (hl : l ∈ s.offered) :
    l ∈ s.registered := by
  have hpos := List.count_pos_iff.mpr hl
  have := h.offered_le l
  exact List.count_pos_iff.mp (by omega)

/-- A step delivers labs that were offered, and offers the labs that it registers and the lab
of `Update`. -/
theorem Hub.offered_step (hs : (newHub c).step s a = some t) (l : Nat) :
    t.offered.count l + a.delivers.toList.count l + s.registered.count l
      ≤ s.offered.count l + t.registered.count l + if a = .update l then 1 else 0 := by
  rw [newHub_step] at hs
  obtain ⟨-, hg, rfl⟩ := hs
  simp only [Hub.offered, Hub.pipeline]
  cases a with
  | handLabs i k | recvLabs k | pushQueue k =>
    simp only [Hub.enabled] at hg
    simp [hg, Hub.effect, Hub.setWorker, Hub.register, Dispatcher.lab, List.count_cons,
      HubAction.delivers]
    omega
  | handQueue k =>
    simp [hg.1, Hub.effect, Dispatcher.lab, HubAction.delivers, List.count_cons]
  | receive k =>
    obtain ⟨ys, hys⟩ := List.head?_eq_some_iff.mp hg.2
    simp [hys, Hub.effect, HubAction.delivers, List.count_cons]
    omega
  | takeDeallocated k =>
    obtain ⟨ys, hys⟩ := List.head?_eq_some_iff.mp hg.2
    simp [hys, hg.1, Hub.effect, HubAction.delivers, List.count_cons]
  | requeue k | handRequeue k =>
    simp [hg.1, Hub.effect, HubAction.delivers, List.count_cons]
    omega
  | putDeallocated k =>
    have hpos := List.count_pos_iff.mpr hg.1
    simp [Hub.effect, HubAction.delivers, List.count_cons, List.count_erase]
    grind
  | update k =>
    simp [Hub.effect, HubAction.delivers, List.count_cons]
    grind
  | _ =>
    simp [Hub.effect, Hub.setWorker, HubAction.delivers, Dispatcher.lab]

/-- A registered lab stays registered. -/
theorem Hub.registered_step (hs : (newHub c).step s a = some t) :
    s.registered ⊆ t.registered := by
  rw [newHub_step] at hs
  obtain ⟨-, -, rfl⟩ := hs
  cases a <;> simp [Hub.effect, Hub.setWorker, Hub.register]

/-- A step delivers what it says. -/
theorem Hub.delivered_step (hs : (newHub c).step s a = some t) :
    t.delivered = s.delivered ++ a.delivers.toList := by
  rw [newHub_step] at hs
  obtain ⟨-, -, rfl⟩ := hs
  cases a <;> simp [Hub.effect, Hub.setWorker, Hub.register, HubAction.delivers]

/-- A hub stays stocked when `Update` gets registered labs that the hub does not offer. -/
theorem Hub.Stocked.step (h : s.Stocked c) (hs : (newHub c).step s a = some t)
    (hupdate : ∀ l, a = .update l → l ∈ s.registered ∧ l ∉ s.offered) : t.Stocked c := by
  refine ⟨Hub.phase_step h.phase hs, Hub.placed_step h.phase h.placed hs, fun l => ?_⟩
  have hlaw := Hub.offered_step hs l
  have hle := h.offered_le l
  split at hlaw
  · next heq =>
    obtain ⟨hmem, hnot⟩ := hupdate l heq
    have hpos := List.count_pos_iff.mpr hmem
    have := List.count_eq_zero.mpr hnot
    omega
  · omega

/-- Only `Update` makes the hub offer a lab again that it has registered before. -/
theorem Hub.Stocked.mem_offered (h : s.Stocked c) (hs : (newHub c).step s a = some t) {l : Nat}
    (hl : l ∈ s.registered) (hnot : a ≠ .update l) (hmem : l ∈ t.offered) : l ∈ s.offered := by
  have hlaw := Hub.offered_step hs l
  have honce := (Hub.placed_step h.phase h.placed hs).registered_le_one l
  have hpos := List.count_pos_iff.mpr hl
  have hpos' := List.count_pos_iff.mpr hmem
  rw [if_neg hnot] at hlaw
  exact List.count_pos_iff.mp (by omega)

/-- The dispatcher does not get a lab again that it has registered before. -/
theorem Hub.Stocked.mem_dispatcher (h : s.Stocked c) (hs : (newHub c).step s a = some t)
    {l : Nat} (hl : l ∈ s.registered) (hmem : l ∈ t.dispatcher.lab) : l ∈ s.dispatcher.lab := by
  have honce := (Hub.placed_step h.phase h.placed hs).registered_le_one l
  have hpos := List.count_pos_iff.mpr hl
  rw [newHub_step] at hs
  obtain ⟨-, -, rfl⟩ := hs
  cases a with
  | handLabs i k | recvLabs k =>
    -- The registered lab would stand in the list twice.
    simp [Hub.effect, Hub.register, Hub.setWorker, Dispatcher.lab] at honce hmem
    subst hmem
    simp at honce
    omega
  | _ => simp_all [Hub.effect, Hub.setWorker, Dispatcher.lab]

/-- A consumer that does not wait gets a lab by the step `via`. -/
def Hub.take (c : HubConf Tag) (s : Hub Tag) (via : HubAction) : Option (Nat × Hub Tag) :=
  via.delivers.bind fun l => ((newHub c).run s [.request, via]).map fun t => (l, t)

/-- What a taken lab does to the hub. -/
structure Hub.Took (c : HubConf Tag) (s : Hub Tag) (l : Nat) (t : Hub Tag) : Prop where
  stocked : t.Stocked c
  offered : l ∈ s.offered
  taken : l ∉ t.offered
  others : t.offered ⊆ s.offered
  dispatcher : t.dispatcher.lab ⊆ s.dispatcher.lab
  registered : t.registered = s.registered
  delivered : t.delivered = s.delivered ++ [l]

/-- What taking a lab out of its place does. -/
theorem Hub.take_spec {via : HubAction} {l : Nat} (h : s.Stocked c)
    (htake : s.take c via = some (l, t)) : s.Took c l t := by
  simp only [Hub.take, Option.bind_eq_some_iff, Option.map_eq_some_iff, Prod.mk.injEq] at htake
  obtain ⟨k, hvia, u, hrun, rfl, rfl⟩ := htake
  obtain ⟨w, hw, hrun⟩ := Option.bind_eq_some_iff.mp hrun
  obtain ⟨v, hv, hrun⟩ := Option.bind_eq_some_iff.mp hrun
  cases hrun
  -- `take` is a request and the delivery after it.
  have hstocked : w.Stocked c := h.step hw (by simp)
  have hregistered : u.registered = s.registered := by
    rw [newHub_step] at hw hv
    obtain ⟨-, -, rfl⟩ := hw
    obtain ⟨-, -, rfl⟩ := hv
    cases via <;> first | rfl | cases hvia
  -- The lab that is delivered leaves the offer.
  have hlaw : ∀ l, u.offered.count l + via.delivers.toList.count l ≤ s.offered.count l := by
    intro l
    have hsame : w.offered = s.offered ∧ w.registered = s.registered := by
      rw [newHub_step] at hw
      obtain ⟨-, -, rfl⟩ := hw
      exact ⟨rfl, rfl⟩
    have := Hub.offered_step hv l
    have hnot : via ≠ .update l := by
      rintro rfl
      cases hvia
    rw [if_neg hnot, hsame.1, hsame.2, hregistered] at this
    omega
  have hone := h.offered_le_one k
  have hk := hlaw k
  simp only [hvia, Option.toList_some, List.count_singleton_self] at hk
  refine ⟨hstocked.step hv ?_, List.count_pos_iff.mp (by omega),
    List.count_eq_zero.mp (by omega), fun l hl => ?_, ?_, hregistered, ?_⟩
  · rintro l rfl
    cases hvia
  · have := hlaw l
    have := List.count_pos_iff.mpr hl
    exact List.count_pos_iff.mp (by omega)
  · rw [newHub_step] at hw hv
    obtain ⟨-, -, rfl⟩ := hw
    obtain ⟨-, -, rfl⟩ := hv
    cases via <;> simp [HubAction.delivers] at hvia <;> simp [Hub.effect, Dispatcher.lab]
  · rw [Hub.delivered_step hv, Hub.delivered_step hw, hvia]
    simp [HubAction.delivers]

end Haaukins.Lab
