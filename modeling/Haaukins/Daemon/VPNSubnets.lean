import Haaukins.Lib.Machine
import Haaukins.Daemon.Event

/-!
# `Haaukins.Daemon.VPNSubnets`: the VPN subnets of the live events

`State.Separate` is the claim on the pool: two live events with a VPN have different
addresses, and the pool does not hand out the address of a live event again.

`StopEvent` and `closeEvent` release the address of an event with a VPN before they know
whether the event ends. The property holds along a run exactly when no event survives such
a call: the user may stop the event and its status is stored, and the closing job only meets
overdue events with a VPN (`EndsEvents`).
-/

set_option autoImplicit false

namespace Haaukins.Daemon

/-- The calls that start and end events, with the answers of the other services. -/
inductive EventAction where
  | createEvent (user : Requester) (req : CreateEventRequest) (checks : CreateChecks)
      (draws : List Draw) (now : Nat) (host : Option String)
  | visitBookedEvents (now : Nat) (events : List DBEvent)
  | stopEvent (user : Requester) (tag : String) (calls : StopCalls)
  | closeEvents (now : Nat) (order : List EventConfig)

/-- The draws of an event of the database can occur. -/
def DBEvent.Possible (weights : List (String × Int)) (e : DBEvent) : Prop :=
  ∀ dr ∈ e.draws, dr.Possible weights

/-- The random choices of a call can occur, and the closers visit each event once. -/
def EventAction.Possible (d : State) : EventAction → Prop
  | .createEvent _ _ _ draws _ _ => ∀ dr ∈ draws, dr.Possible d.vpnIPPools.weights
  | .visitBookedEvents _ events => ∀ e ∈ events, e.Possible d.vpnIPPools.weights
  | .stopEvent _ _ _ => True
  | .closeEvents _ order => order.Perm d.eventPool.values

/-- The state after a call, when the loops of `Get` end. -/
def EventAction.call (d : State) : EventAction → Option State
  | .createEvent user req checks draws now host =>
    (Daemon.createEvent d user req checks draws now host).map Prod.fst
  | .visitBookedEvents now events => (Daemon.visitBookedEvents now d "" events).map Prod.fst
  | .stopEvent user tag calls => some (Daemon.stopEvent d user tag calls).1
  | .closeEvents now order => some (Daemon.closeEvents now d order)

instance (weights : List (String × Int)) (e : DBEvent) : Decidable (e.Possible weights) :=
  inferInstanceAs (Decidable (∀ dr ∈ e.draws, dr.Possible weights))

instance (d : State) (a : EventAction) : Decidable (a.Possible d) := by
  cases a <;> dsimp only [EventAction.Possible] <;> infer_instance

/-- The daemon after `New` on a host with few enough addresses for `Get` to stay below its
limit of 60000: the host's own addresses and the 510 of the two ranges fit in. -/
def Restored (d : State) : Prop :=
  ∃ addrs es, addrs.length ≤ 59490 ∧
    (∀ e ∈ es, e.Possible (newIPPoolFromHost addrs).weights) ∧
    restoreEvents { eventPool := ∅, vpnIPPools := newIPPoolFromHost addrs } "" es = some d

/-- The daemon, and the calls that start and end events. -/
def daemon : Machine State EventAction where
  init := Restored
  step d a := if a.Possible d then a.call d else none

namespace State

/-- Two live events with a VPN have different addresses, and the address of a live event with
a VPN is taken in the pool. -/
def Separate (d : State) : Prop :=
  (∀ t t' e e', t ≠ t' → d.eventPool.get? t = some e → d.eventPool.get? t' = some e' →
    e.hasVPN = true → e'.hasVPN = true → e.vpnAddress ≠ e'.vpnAddress) ∧
  (∀ t e, d.eventPool.get? t = some e → e.hasVPN = true → e.vpnIP ∈ d.vpnIPPools.ips)

/-- The address of the event is made from an address that is taken. -/
def Holds (d : State) (e : EventConfig) : Prop :=
  ∃ ip ∈ d.vpnIPPools.ips, ip ∈ vpnIPs ∧ e.vpnAddress = ip ++ vpnSuffix

/-- The invariant behind `Separate`: each live event with a VPN holds an address of its own,
and the pool has room below its limit. -/
structure Allotted (d : State) : Prop where
  keyed : GoMap.Keyed EventConfig.tag d.eventPool
  holds : ∀ t e, d.eventPool.get? t = some e → e.hasVPN = true → d.Holds e
  apart : ∀ t t' e e', t ≠ t' → d.eventPool.get? t = some e → d.eventPool.get? t' = some e' →
    e.hasVPN = true → e'.hasVPN = true → e.vpnAddress ≠ e'.vpnAddress
  ranges : d.vpnIPPools.Ranges
  room : ∃ host : Finset String, host.card ≤ 59490 ∧ d.vpnIPPools.ips ⊆ host ∪ vpnIPs

variable {d d' : State}

/-- The address of the pool is what `ReplaceAll` leaves of the address of the event. -/
theorem vpnIP_eq {e : EventConfig} {ip : String} (hip : ip ∈ vpnIPs)
    (he : e.vpnAddress = ip ++ vpnSuffix) : e.vpnIP = ip := by
  have hslash : '/' ∈ vpnSuffix.toList := by decide
  rw [EventConfig.vpnIP, he,
    GoStrings.replaceAll_append "" hslash (slash_notMem_of_mem_vpnIPs hip), String.append_empty]

/-- A daemon whose prefixes are allotted has separate events. -/
theorem Allotted.separate (h : d.Allotted) : d.Separate := by
  refine ⟨h.apart, fun t e he hv => ?_⟩
  obtain ⟨ip, htaken, hip, haddr⟩ := h.holds t e he hv
  rwa [vpnIP_eq hip haddr]

/-- The pool never grows past its limit. -/
theorem Allotted.card_le (h : d.Allotted) : d.vpnIPPools.ips.card ≤ 60000 := by
  obtain ⟨host, hhost, hsub⟩ := h.room
  have hcard := Finset.card_le_card hsub
  have hunion := Finset.card_union_le host vpnIPs
  have := card_vpnIPs_le
  omega

/-- `getVPNIP` takes an address that no live event has. -/
theorem Allotted.newVPNAddress (h : d.Allotted) {draws : List Draw} {addr : String}
    (hdraws : ∀ dr ∈ draws, dr.Possible d.vpnIPPools.weights)
    (hnew : d.newVPNAddress draws = some (addr, d')) :
    d'.Allotted ∧ d'.eventPool = d.eventPool ∧ d'.vpnIPPools.weights = d.vpnIPPools.weights ∧
      (∃ ip ∈ d'.vpnIPPools.ips, ip ∈ vpnIPs ∧ addr = ip ++ vpnSuffix) ∧
      ∀ t e, d.eventPool.get? t = some e → e.hasVPN = true → e.vpnAddress ≠ addr := by
  unfold State.newVPNAddress at hnew
  split at hnew
  · cases hnew
  · next ip p hget =>
    cases hnew
    obtain ⟨ip', hip', hmem, hfresh, rfl⟩ :=
      IPPool.get_cases h.ranges h.card_le hdraws hget
    cases hip'
    refine ⟨⟨h.keyed, ?_, h.apart, h.ranges, ?_⟩, rfl, rfl,
      ⟨ip, Finset.mem_insert_self _ _, hmem, rfl⟩, ?_⟩
    · intro t e he hv
      obtain ⟨ip', htaken, hrest⟩ := h.holds t e he hv
      exact ⟨ip', Finset.mem_insert_of_mem htaken, hrest⟩
    · obtain ⟨host, hhost, hsub⟩ := h.room
      exact ⟨host, hhost, Finset.insert_subset (Finset.mem_union_right _ hmem) hsub⟩
    · intro t e he hv heq
      -- The address of a live event is taken, and the new one was free.
      obtain ⟨ip', htaken, hip', haddr⟩ := h.holds t e he hv
      have hcancel : ip' = ip := by
        rw [← vpnIP_eq hip' haddr, ← vpnIP_eq hmem heq]
      exact hfresh (hcancel ▸ htaken)
  · next err p hget =>
    -- `Get` gives up only above its limit.
    obtain ⟨ip', hip', -⟩ := IPPool.get_cases h.ranges h.card_le hdraws hget
    cases hip'

/-- A new event may start when it has no VPN, or holds an address that no live event has. -/
theorem Allotted.startEvent (h : d.Allotted) {e : EventConfig}
    (hholds : e.hasVPN = true → d.Holds e)
    (hfresh : e.hasVPN = true → ∀ t e', d.eventPool.get? t = some e' → e'.hasVPN = true →
      e'.vpnAddress ≠ e.vpnAddress) : (d.startEvent e).Allotted := by
  refine ⟨h.keyed.set rfl, ?_, ?_, h.ranges, h.room⟩
  · intro t e' he' hv
    simp only [State.startEvent, GoMap.get?_set] at he'
    split at he'
    · cases he'
      exact hholds hv
    · exact h.holds t e' he' hv
  · intro t t' e₁ e₂ hne h₁ h₂ hv₁ hv₂
    simp only [State.startEvent, GoMap.get?_set] at h₁ h₂
    split at h₁ <;> split at h₂
    · next heq heq' => exact absurd (heq.trans heq'.symm) hne
    · cases h₁
      exact (hfresh hv₁ t' e₂ h₂ hv₂).symm
    · cases h₂
      exact hfresh hv₂ t e₁ h₁ hv₁
    · exact h.apart t t' e₁ e₂ hne h₁ h₂ hv₁ hv₂

/-- The address of an event may be released when the event leaves the pool. -/
theorem Allotted.endEvent (h : d.Allotted) {tag : String} {e : EventConfig}
    (he : d.eventPool.get? tag = some e) : ((d.releaseVPN e).removeEvent tag).Allotted := by
  have hpool : ((d.releaseVPN e).removeEvent tag).eventPool = d.eventPool.delete tag := by
    unfold State.releaseVPN State.removeEvent
    split <;> rfl
  have hsub : ((d.releaseVPN e).removeEvent tag).vpnIPPools.ips ⊆ d.vpnIPPools.ips := by
    unfold State.releaseVPN State.removeEvent IPPool.releaseIP
    split
    · exact Finset.erase_subset _ _
    · exact Finset.Subset.refl _
  have hget : ∀ {t e'}, (d.eventPool.delete tag).get? t = some e' →
      t ≠ tag ∧ d.eventPool.get? t = some e' := by
    intro t e' he'
    rw [GoMap.get?_delete] at he'
    split at he'
    · cases he'
    · next hne => exact ⟨hne, he'⟩
  -- The pool of the others is the same, and only one address is given back.
  refine ⟨hpool ▸ h.keyed.delete tag, ?_, ?_, ?_, ?_⟩
  · intro t e' he' hv
    obtain ⟨hne, he'⟩ := hget (hpool ▸ he')
    obtain ⟨ip, htaken, hip, haddr⟩ := h.holds t e' he' hv
    refine ⟨ip, ?_, hip, haddr⟩
    unfold State.releaseVPN State.removeEvent IPPool.releaseIP
    split
    · next hve =>
      -- The released address is the one of another event.
      obtain ⟨ip', -, hip', haddr'⟩ := h.holds tag e he hve
      refine Finset.mem_erase.mpr ⟨fun heq => ?_, htaken⟩
      rw [vpnIP_eq hip' haddr'] at heq
      exact h.apart t tag e' e hne he' he hv hve (by rw [haddr, haddr', heq])
    · exact htaken
  · intro t t' e₁ e₂ hne h₁ h₂
    exact h.apart t t' e₁ e₂ hne (hget (hpool ▸ h₁)).2 (hget (hpool ▸ h₂)).2
  · unfold State.releaseVPN State.removeEvent IPPool.releaseIP
    split <;> exact h.ranges
  · obtain ⟨host, hhost, hroom⟩ := h.room
    exact ⟨host, hhost, hsub.trans hroom⟩

/-! ### Starting events -/

/-- The address that a start of an event uses: a new one for a VPN, and no matter otherwise. -/
theorem Allotted.address (h : d.Allotted) {b : Bool} {draws : List Draw} {old addr : String}
    (hdraws : ∀ dr ∈ draws, dr.Possible d.vpnIPPools.weights)
    (haddr : d.addressFor b draws old = some (addr, d')) :
    d'.Allotted ∧ d'.vpnIPPools.weights = d.vpnIPPools.weights ∧
      ∀ e : EventConfig, e.hasVPN = b → e.vpnAddress = addr → (d'.startEvent e).Allotted := by
  unfold State.addressFor at haddr
  cases b with
  | false =>
    -- Without a VPN the text of the address does not matter.
    cases haddr
    exact ⟨h, rfl, fun e hv _ => h.startEvent (by simp [hv]) (by simp [hv])⟩
  | true =>
    obtain ⟨h', hpool, hweights, hholds, hfresh⟩ := h.newVPNAddress hdraws haddr
    refine ⟨h', hweights, fun e _ heq => h'.startEvent (fun _ => ?_) fun _ t e' he' hv' => ?_⟩
    · obtain ⟨ip, htaken, hip, hip'⟩ := hholds
      exact ⟨ip, htaken, hip, heq.trans hip'⟩
    · rw [heq]
      exact hfresh t e' (hpool ▸ he') hv'

/-- An event from the database takes a new prefix. -/
theorem Allotted.createFromDB (h : d.Allotted) {vpnAddress addr : String} {e : DBEvent}
    {err : Option String} (hdraws : e.Possible d.vpnIPPools.weights)
    (hcreate : d.createFromDB vpnAddress e = some (addr, d', err)) :
    d'.Allotted ∧ d'.vpnIPPools.weights = d.vpnIPPools.weights := by
  unfold State.createFromDB at hcreate
  split at hcreate
  · cases hcreate
  next haddr =>
    obtain ⟨h₁, hweights, hstart⟩ := h.address hdraws haddr
    simp only at hcreate
    split at hcreate
    · cases hcreate
      exact ⟨h₁, hweights⟩
    split at hcreate
    · cases hcreate
      exact ⟨h₁, hweights⟩
    · cases hcreate
      exact ⟨hstart _ rfl rfl, hweights⟩

/-- The loop over the booked events, by induction on the events that are left. -/
theorem Allotted.visitBookedEvents {now : Nat} :
    ∀ {es : List DBEvent} {d : State} {vpnAddress : String} {err : Option String},
      d.Allotted → (∀ e ∈ es, e.Possible d.vpnIPPools.weights) →
      Daemon.visitBookedEvents now d vpnAddress es = some (d', err) → d'.Allotted := by
  intro es
  induction es with
  | nil =>
    intro d vpnAddress err h _ hvisit
    cases hvisit
    exact h
  | cons e es ih =>
    intro d vpnAddress err h hdraws hvisit
    have hrest : ∀ e ∈ es, e.Possible d.vpnIPPools.weights :=
      fun e' he' => hdraws e' (by simp [he'])
    simp only [Daemon.visitBookedEvents] at hvisit
    split at hvisit
    · split at hvisit
      · cases hvisit
      · next hcreate =>
        -- The error ends the loop, after the address was taken.
        cases hvisit
        exact (h.createFromDB (hdraws e (by simp)) hcreate).1
      · next hcreate =>
        obtain ⟨h', hweights⟩ := h.createFromDB (hdraws e (by simp)) hcreate
        split at hvisit
        · cases hvisit
          exact h'
        · exact ih h' (hweights ▸ hrest) hvisit
    · exact ih h hrest hvisit

/-- The loop at the start of the daemon. -/
theorem Allotted.restoreEvents :
    ∀ {es : List DBEvent} {d : State} {vpnAddress : String},
      d.Allotted → (∀ e ∈ es, e.Possible d.vpnIPPools.weights) →
      Daemon.restoreEvents d vpnAddress es = some d' → d'.Allotted := by
  intro es
  induction es with
  | nil =>
    intro d vpnAddress h _ hrestore
    cases hrestore
    exact h
  | cons e es ih =>
    intro d vpnAddress h hdraws hrestore
    have hrest : ∀ e ∈ es, e.Possible d.vpnIPPools.weights :=
      fun e' he' => hdraws e' (by simp [he'])
    simp only [Daemon.restoreEvents] at hrestore
    split at hrestore
    · split at hrestore
      · cases hrestore
      · cases hrestore
      · next hcreate =>
        obtain ⟨h', hweights⟩ := h.createFromDB (hdraws e (by simp)) hcreate
        exact ih h' (hweights ▸ hrest) hrestore
    · exact ih h hrest hrestore

/-- A restored daemon has its prefixes allotted. -/
theorem allotted_init (h : Restored d) : d.Allotted := by
  obtain ⟨addrs, es, hlength, hdraws, hrestore⟩ := h
  obtain ⟨hranges, hcard⟩ := newIPPoolFromHost_spec addrs
  refine Allotted.restoreEvents ⟨GoMap.keyed_empty, ?_, ?_, hranges, ?_⟩ hdraws hrestore
  · simp
  · simp
  · exact ⟨_, hcard.trans hlength, Finset.subset_union_left⟩

/-- A request for an event takes a new prefix, or none. -/
theorem Allotted.createEvent (h : d.Allotted) {user : Requester} {req : CreateEventRequest}
    {checks : CreateChecks} {draws : List Draw} {now : Nat} {host err : Option String}
    (hdraws : ∀ dr ∈ draws, dr.Possible d.vpnIPPools.weights)
    (hcreate : Daemon.createEvent d user req checks draws now host = some (d', err)) :
    d'.Allotted := by
  unfold Daemon.createEvent at hcreate
  split at hcreate
  · cases hcreate
    exact h
  split at hcreate
  · cases hcreate
    exact h
  split at hcreate
  · cases hcreate
    exact h
  split at hcreate
  · cases hcreate
  next haddr =>
    obtain ⟨h₁, -, hstart⟩ := h.address hdraws haddr
    simp only at hcreate
    split at hcreate
    · cases hcreate
      exact h₁
    split at hcreate
    · cases hcreate
      exact h₁
    split at hcreate
    · cases hcreate
      exact h₁
    · cases hcreate
      exact hstart _ rfl rfl

/-! ### Ending events -/

/-- No event survives the call that releases its address. -/
def EndsEvents (d : State) : EventAction → Prop
  | .stopEvent user tag calls => ∀ status e, calls.status = .ok status →
      status = running ∨ status = suspended → d.eventPool.get? tag = some e →
      e.hasVPN = true → user.mayStop e = true ∧ calls.setStatus = none
  | .closeEvents now _ => ∀ t e, d.eventPool.get? t = some e → e.hasVPN = true →
      isDelayed e.finishExpected now = true
  | _ => True

/-- An event without a VPN has no prefix to release. -/
theorem releaseVPN_of_not {e : EventConfig} (h : e.hasVPN = false) : d.releaseVPN e = d := by
  simp [State.releaseVPN, h]

/-- A stopped event gives its prefix back, and no event of the pool has this prefix. -/
theorem Allotted.stopEvent (h : d.Allotted) {user : Requester} {tag : String}
    {calls : StopCalls} (hends : EndsEvents d (.stopEvent user tag calls)) :
    (Daemon.stopEvent d user tag calls).1.Allotted := by
  unfold Daemon.stopEvent
  split
  · exact h
  · next status hstatus =>
    split
    · next hlive =>
      split
      · exact h
      · next e he =>
        have hstays : (user.mayStop e = true ∧ calls.setStatus = none) ∨ e.hasVPN = false := by
          by_cases hv : e.hasVPN = true
          · exact .inl (hends status e hstatus hlive he hv)
          · exact .inr (by simpa using hv)
        simp only
        split
        · split
          · rcases hstays with ⟨-, hnone⟩ | hv
            · simp_all
            · rw [releaseVPN_of_not hv]
              exact h
          · exact h.endEvent he
        · rcases hstays with ⟨hmay, -⟩ | hv
          · simp_all
          · rw [releaseVPN_of_not hv]
            exact h
    · split <;> exact h

/-- A live event is not separate any more once its address is released. -/
theorem not_separate_of_released {d : State} {t : String} {e : EventConfig}
    (he : d.eventPool.get? t = some e) (hv : e.hasVPN = true)
    (hip : e.vpnIP ∉ d.vpnIPPools.ips) : ¬ d.Separate := fun h => hip (h.2 t e he hv)

/-- Without the end of the event, its prefix is free while the event still has it. -/
theorem not_separate_stopEvent {user : Requester} {tag : String} {calls : StopCalls}
    (hends : ¬ EndsEvents d (.stopEvent user tag calls)) :
    ¬ (Daemon.stopEvent d user tag calls).1.Separate := by
  simp only [EndsEvents, not_forall] at hends
  obtain ⟨status, e, hstatus, hlive, he, hv, hnot⟩ := hends
  have hstop : (Daemon.stopEvent d user tag calls).1 = d.releaseVPN e := by
    simp only [Daemon.stopEvent, hstatus, hlive, if_true, he]
    split
    · next hmay =>
      split
      · rfl
      · next hnone => exact absurd ⟨hmay, hnone⟩ hnot
    · rfl
  rw [hstop]
  have hrelease : d.releaseVPN e =
      { d with vpnIPPools := d.vpnIPPools.releaseIP e.vpnIP } := by
    simp [State.releaseVPN, hv]
  rw [hrelease]
  exact not_separate_of_released he hv (by simp [IPPool.releaseIP])

/-- Closing an event removes those with its tag, when it is overdue. -/
theorem closeEvent_get? (now : Nat) (e : EventConfig) (t : String) (e' : EventConfig) :
    (closeEvent now d e).eventPool.get? t = some e' ↔
      d.eventPool.get? t = some e' ∧ (isDelayed e.finishExpected now = true → e.tag ≠ t) := by
  have hpool : (d.releaseVPN e).eventPool = d.eventPool := by
    unfold State.releaseVPN
    split <;> rfl
  simp only [closeEvent]
  split
  · next hdelayed =>
    simp only [State.removeEvent, hpool, GoMap.get?_delete]
    split
    · next heq => simp [hdelayed, heq]
    · next hne => simp [hdelayed, Ne.symm hne]
  · next hnot => simp [hpool, hnot]

/-- It releases the prefix also when it is not overdue. -/
theorem mem_closeEvent_ips (now : Nat) (e : EventConfig) (ip : String) :
    ip ∈ (closeEvent now d e).vpnIPPools.ips ↔
      ip ∈ d.vpnIPPools.ips ∧ (e.hasVPN = true → e.vpnIP ≠ ip) := by
  have hips : (closeEvent now d e).vpnIPPools.ips = (d.releaseVPN e).vpnIPPools.ips := by
    simp only [closeEvent]
    split <;> rfl
  rw [hips]
  unfold State.releaseVPN IPPool.releaseIP
  split
  · next hv => simp [hv, and_comm, eq_comm]
  · next hv => simp [hv]

/-- The loop closes one event after the other. -/
theorem closeEvents_cons (now : Nat) (d : State) (x : EventConfig) (order : List EventConfig) :
    Daemon.closeEvents now d (x :: order) = Daemon.closeEvents now (closeEvent now d x) order :=
  rfl

/-- An event is left when no overdue event of the loop has its tag. -/
theorem closeEvents_get? (now : Nat) (t : String) (e : EventConfig) :
    ∀ {order : List EventConfig} {d : State},
      (Daemon.closeEvents now d order).eventPool.get? t = some e ↔
        d.eventPool.get? t = some e ∧
          ∀ e' ∈ order, isDelayed e'.finishExpected now = true → e'.tag ≠ t := by
  intro order
  induction order with
  | nil => simp [Daemon.closeEvents]
  | cons x order ih =>
    intro d
    rw [closeEvents_cons, ih, closeEvent_get?]
    simp [and_assoc]

/-- The loop releases the prefix of each event with a VPN. -/
theorem mem_closeEvents_ips (now : Nat) (ip : String) :
    ∀ {order : List EventConfig} {d : State},
      ip ∈ (Daemon.closeEvents now d order).vpnIPPools.ips ↔
        ip ∈ d.vpnIPPools.ips ∧ ∀ e ∈ order, e.hasVPN = true → e.vpnIP ≠ ip := by
  intro order
  induction order with
  | nil => simp [Daemon.closeEvents]
  | cons x order ih =>
    intro d
    rw [closeEvents_cons, ih, mem_closeEvent_ips]
    simp [and_assoc]

/-- The loop does not touch the weights of the pool. -/
theorem closeEvents_weights (now : Nat) :
    ∀ {order : List EventConfig} {d : State},
      (Daemon.closeEvents now d order).vpnIPPools.weights = d.vpnIPPools.weights := by
  intro order
  induction order with
  | nil => simp [Daemon.closeEvents]
  | cons x order ih =>
    intro d
    rw [closeEvents_cons, ih]
    simp only [closeEvent, State.releaseVPN]
    split <;> split <;> rfl

/-- The events of the pool are the ones that the closers visit. -/
theorem mem_order {order : List EventConfig} (horder : order.Perm d.eventPool.values)
    {e : EventConfig} : e ∈ order ↔ ∃ t, d.eventPool.get? t = some e := by
  rw [horder.mem_iff, GoMap.mem_values]

/-- When all live events with a VPN are overdue, none of them survives the job. -/
theorem Allotted.closeEvents (h : d.Allotted) {now : Nat} {order : List EventConfig}
    (horder : order.Perm d.eventPool.values) (hends : EndsEvents d (.closeEvents now order)) :
    (Daemon.closeEvents now d order).Allotted := by
  have hnone : ∀ t e, (Daemon.closeEvents now d order).eventPool.get? t = some e →
      e.hasVPN = false := by
    intro t e he
    obtain ⟨he, hleft⟩ := (closeEvents_get? now t e).mp he
    by_contra hv
    have hv : e.hasVPN = true := by simpa using hv
    exact hleft e ((mem_order horder).mpr ⟨t, he⟩) (hends t e he hv) (h.keyed t e he)
  refine ⟨?_, ?_, ?_, ?_, ?_⟩
  · intro t e he
    exact h.keyed t e ((closeEvents_get? now t e).mp he).1
  · intro t e he hv
    simp [hnone t e he] at hv
  · intro t t' e e' _ he _ hv
    simp [hnone t e he] at hv
  · unfold IPPool.Ranges
    rw [closeEvents_weights]
    exact h.ranges
  · obtain ⟨host, hhost, hsub⟩ := h.room
    exact ⟨host, hhost, fun ip hip => hsub ((mem_closeEvents_ips now ip).mp hip).1⟩

/-- A running event that loses its prefix shares it with the next one. -/
theorem not_separate_closeEvents (h : d.Allotted) {now : Nat} {order : List EventConfig}
    (horder : order.Perm d.eventPool.values)
    (hends : ¬ EndsEvents d (.closeEvents now order)) :
    ¬ (Daemon.closeEvents now d order).Separate := by
  simp only [EndsEvents, not_forall] at hends
  obtain ⟨t, e, he, hv, hnot⟩ := hends
  have hmem : e ∈ order := (mem_order horder).mpr ⟨t, he⟩
  refine not_separate_of_released (t := t) ((closeEvents_get? now t e).mpr ⟨he, ?_⟩) hv ?_
  · -- Another event under the same tag would be this one.
    intro e' he' hdelayed heq
    obtain ⟨t', ht'⟩ := (mem_order horder).mp he'
    have htag : t' = t := (h.keyed t' e' ht').symm.trans heq
    rw [htag, he] at ht'
    cases ht'
    exact hnot hdelayed
  · rw [mem_closeEvents_ips]
    rintro ⟨-, hall⟩
    exact hall e hmem hv rfl

end State

variable {d d' : State} {a : EventAction}

/-- A step is a possible call that returns. -/
theorem daemon_step : daemon.step d a = some d' ↔ a.Possible d ∧ a.call d = some d' := by
  simp [daemon]

/-- Each step whose events end keeps the prefixes allotted. -/
theorem allotted_step (h : d.Allotted) (hends : State.EndsEvents d a)
    (hs : daemon.step d a = some d') : d'.Allotted := by
  obtain ⟨hpossible, hcall⟩ := daemon_step.mp hs
  cases a with
  | createEvent user req checks draws now host =>
    obtain ⟨⟨d₁, err⟩, hcreate, rfl⟩ := Option.map_eq_some_iff.mp hcall
    exact h.createEvent hpossible hcreate
  | visitBookedEvents now events =>
    obtain ⟨⟨d₁, err⟩, hvisit, rfl⟩ := Option.map_eq_some_iff.mp hcall
    exact State.Allotted.visitBookedEvents h hpossible hvisit
  | stopEvent user tag calls =>
    cases hcall
    exact h.stopEvent hends
  | closeEvents now order =>
    cases hcall
    exact h.closeEvents hpossible hends

/-- Each other step breaks their separation. -/
theorem not_separate_step (h : d.Allotted) (hends : ¬ State.EndsEvents d a)
    (hs : daemon.step d a = some d') : ¬ d'.Separate := by
  obtain ⟨hpossible, hcall⟩ := daemon_step.mp hs
  cases a with
  | stopEvent user tag calls =>
    cases hcall
    exact State.not_separate_stopEvent hends
  | closeEvents now order =>
    cases hcall
    exact State.not_separate_closeEvents h hpossible hends
  | _ => exact absurd trivial hends

/-- The VPN subnets of the live events are disjoint in every state of a run if and only if no
event survives a call that releases its address: each `StopEvent` on a live event with a VPN
comes from a user who may stop it and stores the new status, and each closing job finds all
live events with a VPN overdue. -/
theorem daemon_separate_iff (d : State) (hd : daemon.init d) (as : List EventAction) :
    daemon.AllStates State.Separate d as ↔ daemon.AllSteps State.EndsEvents d as :=
  Machine.allStates_iff_allSteps (A := fun _ _ => True) (fun _ h => h.separate)
    (fun _ _ _ h _ hends hs => allotted_step h hends hs)
    (fun _ _ _ h _ hends hs => not_separate_step h hends hs)
    (State.allotted_init hd) Machine.allSteps_true

/-- The daemon of a host without addresses, before its first event. -/
def emptyDaemon : State := { eventPool := ∅, vpnIPPools := newIPPoolFromHost [] }

/-- A daemon without events may start. -/
theorem emptyDaemon_init : daemon.init emptyDaemon := ⟨[], [], by simp, by simp, rfl⟩

/-- A privileged user. -/
def admin : Requester := { username := "tkp", npUser := false }

/-- The request for an event with a VPN that ends at time `9`. -/
def vpnRequest (tag : String) : CreateEventRequest where
  name := "CTF"
  tag := tag
  available := 2
  capacity := 10
  frontends := ["kali"]
  exercises := ["sql"]
  finishTime := 9
  onlyVPN := vpn

/-- The call that creates the event at time `5`, when `Get` draws the address `25.43`. -/
def createVPN (tag : String) : EventAction :=
  .createEvent admin (vpnRequest tag) .passed
    [{ order := [("25", 255 * 255), ("35", 1 * 255)], r := 0, n := 43 }] 5 none

/-- An event is created and stopped, and the next event may have its address. -/
theorem daemon_separate_stopped :
    daemon.AllStates State.Separate emptyDaemon
      [createVPN "a", .stopEvent admin "a" ⟨.ok running, none, none, none⟩, createVPN "b"] := by
  refine (daemon_separate_iff emptyDaemon emptyDaemon_init _).mpr ?_
  refine fun s hs => ⟨trivial, fun t ht => ⟨?_, fun u hu => ⟨trivial, trivial⟩⟩⟩
  intro status e _ _ _ _
  exact ⟨rfl, rfl⟩

/-- The closing job runs while an event has time left, and the next event gets its address. -/
theorem daemon_not_separate :
    ¬ ∀ d, daemon.init d → ∀ as : List EventAction, daemon.AllStates State.Separate d as := by
  intro h
  have hall := h emptyDaemon emptyDaemon_init
    [createVPN "a", .closeEvents 5 [(vpnRequest "a").config admin "25.43.240.1/22"],
      createVPN "b"]
  obtain ⟨d, hd, happart, -⟩ := hall.of_run
    (fun d => (d.eventPool.get? "a", d.eventPool.get? "b"))
    (some ((vpnRequest "a").config admin "25.43.240.1/22"),
      some ((vpnRequest "b").config admin "25.43.240.1/22")) (by decide)
  obtain ⟨ha, hb⟩ := Prod.mk.inj hd
  exact happart "a" "b" _ _ (by decide) ha hb rfl rfl rfl

end Haaukins.Daemon
