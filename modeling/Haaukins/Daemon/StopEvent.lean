import Haaukins.Daemon.Event
import Haaukins.Store.Exercise

/-!
# `Haaukins.Daemon.StopEvent`: whose events a stop request touches (`daemon/event.go`)

`StopEvent` with the rows of the store. What it does depends on the status that the store
answers.

* An event that runs or is suspended is stopped when its owner or a privileged user asks for it.
  The VPN address of the event goes back to the pool before this test.
* For a booked event, a non-privileged user needs some booked event of his own. The event that is
  dropped is the one of the request, whoever booked it.

`OnlyOwn` says that a request changes nothing of the other users. `stopEvent_onlyOwn_iff` says
which requests of a non-privileged user keep to it (`StopsOwn`).

`GetEventStatus` and `GetEventByUser` answer anything. `SetEventStatus` and `UpdateCloseEvent`
change the rows of a tag, and `DropEvent` removes its booked rows.
-/

set_option autoImplicit false

namespace Haaukins.Daemon

open Store (newTag)

/-- The row of an event in the store. -/
structure OwnedEvent where
  tag : String
  status : Int
  createdBy : String
  deriving DecidableEq

/-- The pools of the daemon, the rows of the store, and the events whose `Close` and `Finish` were
called. -/
structure StopState where
  daemon : State
  rows : List OwnedEvent
  closedEvents : List EventConfig
  finishedEvents : List EventConfig

/-- What the services answer to a call of `StopEvent`: `dropEvent` has the error of the `DropEvent`
for each event of the loop. -/
structure StopServices where
  getEventStatus : Except String Int
  setEventStatus : Option String
  close : Option String
  getEventByUser : Except String (List OwnedEvent)
  dropEvent : Nat → Option String
  now : Nat

namespace StopState

variable (s : StopState)

/-- The RPC `SetEventStatus`. -/
def setEventStatus (tag : String) (status : Int) : StopState :=
  { s with rows := s.rows.map fun r => if r.tag = tag then { r with status := status } else r }

/-- The RPC `UpdateCloseEvent` of `ev.Finish`. -/
def updateCloseEvent (oldTag newTag : String) : StopState :=
  { s with rows := s.rows.map fun r => if r.tag = oldTag then { r with tag := newTag } else r }

/-- The RPC `DropEvent` with the status `Booked`. -/
def dropBooked (tag : String) : StopState :=
  { s with rows := s.rows.filter fun r => !(r.tag == tag && r.status == booked) }

/-- `dropEvent`, for its error. -/
def dropEvent (evTag : String) (err : Option String) : StopState × Option String :=
  match err with
  | some err => (s, some err)
  | none => (s.dropBooked evTag, none)

/-- The release of the address and the end of a live event. -/
def stopLive (user : Requester) (evtag : String) (ev : EventConfig) (c : StopServices) :
    StopState × Option String :=
  let s := { s with daemon := s.daemon.releaseVPN ev }
  if user.mayStop ev then
    match c.setEventStatus with
    | some err => (s, some ("error happened on setting up status of event, err: " ++ err))
    | none =>
      let s := s.setEventStatus evtag closed
      -- `RemoveEvent` finds the event, as `GetEvent` did.
      let s := { s with daemon := s.daemon.removeEvent evtag, closedEvents := ev :: s.closedEvents }
      match c.close with
      | some err => (s, some err)
      | none =>
        let s := s.updateCloseEvent evtag (evtag ++ "-" ++ toString c.now)
        ({ s with finishedEvents := ev :: s.finishedEvents }, none)
  else (s, some ("no priviledge to stop event " ++ evtag))

/-- The loop over the events that `GetEventByUser` found. `i` counts the calls of `DropEvent`. -/
def dropLoop (username tag : String) (drop : Nat → Option String) :
    StopState → Nat → List OwnedEvent → StopState × Option String
  | s, _, [] => (s, none)
  | s, i, e :: events =>
    if e.createdBy = username then
      match s.dropEvent tag (drop i) with
      | (s, some err) => (s, some ("err : " ++ err ++ " username : " ++ username))
      | (s, none) => dropLoop username tag drop s (i + 1) events
    else dropLoop username tag drop s i events

/-- The branch for a booked event. -/
def stopBooked (user : Requester) (tag : String) (c : StopServices) :
    StopState × Option String :=
  if user.npUser then
    match c.getEventByUser with
    | .error err =>
      (s, some ("error on getting booked events for user " ++ user.username ++ ", err : " ++ err))
    | .ok events => dropLoop user.username tag c.dropEvent s 0 events
  else
    match s.dropEvent tag (c.dropEvent 0) with
    | (s, some err) => (s, some ("err : " ++ err ++ " username : " ++ user.username))
    | (s, none) => (s, none)

/-- `StopEvent`. -/
def stopEvent (user : Requester) (reqTag : String) (c : StopServices) :
    StopState × Option String :=
  match newTag reqTag with
  | .error err => (s, some err)
  | .ok evtag =>
    match c.getEventStatus with
    | .error err => (s, some ("error happened on getting status of event, err: " ++ err))
    | .ok status =>
      if status = running ∨ status = suspended then
        match s.daemon.eventPool.get? evtag with
        | none => (s, some unknownEventErr)
        | some ev => s.stopLive user evtag ev c
      else if status = booked then s.stopBooked user reqTag c
      else (s, none)

/-- The rows of the other users. -/
def othersRows (u : String) : List OwnedEvent := s.rows.filter fun r => r.createdBy ≠ u

/-- Nothing of another user changed: no row of his disappeared or has another status, the pool has
his events, none of them was closed or finished, and their addresses are allocated as before. -/
structure OnlyOwn (u : String) (s s' : StopState) : Prop where
  rows : (s'.othersRows u).map OwnedEvent.status = (s.othersRows u).map OwnedEvent.status
  pool : ∀ tag ev, ev.createdBy ≠ u →
    (s'.daemon.eventPool.get? tag = some ev ↔ s.daemon.eventPool.get? tag = some ev)
  closedEvents : ∀ ev ∈ s'.closedEvents, ev ∈ s.closedEvents ∨ ev.createdBy = u
  finishedEvents : ∀ ev ∈ s'.finishedEvents, ev ∈ s.finishedEvents ∨ ev.createdBy = u
  addresses : ∀ tag ev, s.daemon.eventPool.get? tag = some ev → ev.createdBy ≠ u →
    ev.hasVPN = true → (ev.vpnIP ∈ s'.daemon.vpnIPPools.ips ↔ ev.vpnIP ∈ s.daemon.vpnIPPools.ips)

/-- The address that goes back to the pool with this event is not that of another user's event. -/
def ReleasesOwn (s : StopState) (u : String) (ev : EventConfig) : Prop :=
  ev.hasVPN = true → ev.vpnIP ∈ s.daemon.vpnIPPools.ips →
    ∀ tag ev', s.daemon.eventPool.get? tag = some ev' → ev'.createdBy ≠ u →
      ev'.hasVPN = true → ev'.vpnIP ≠ ev.vpnIP

/-- The rows of the tag that the stop of a live event changes are the user's. -/
def ClosesOwn (s : StopState) (u evtag : String) (ev : EventConfig) (c : StopServices) : Prop :=
  ev.createdBy = u → c.setEventStatus = none →
    ∀ r ∈ s.rows, r.tag = evtag → r.createdBy ≠ u → r.status = closed

/-- The booked rows of the tag are the user's, when the loop gets to drop them. -/
def DropsOwn (s : StopState) (u evtag : String) (c : StopServices) : Prop :=
  ∀ events, c.getEventByUser = .ok events → (∃ e ∈ events, e.createdBy = u) →
    c.dropEvent 0 = none → ∀ r ∈ s.rows, r.tag = evtag → r.status = booked → r.createdBy = u

/-- A request of the user `u` that gets to a change changes what is his. -/
structure StopsOwn (s : StopState) (u evtag : String) (c : StopServices) : Prop where
  live : ∀ status, c.getEventStatus = .ok status → status = running ∨ status = suspended →
    ∀ ev, s.daemon.eventPool.get? evtag = some ev →
      s.ReleasesOwn u ev ∧ s.ClosesOwn u evtag ev c
  booked : c.getEventStatus = .ok booked → s.DropsOwn u evtag c

/-! ### The effects of a request -/

variable {s} {s' : StopState} {u evtag : String} {ev : EventConfig} {c : StopServices}
  {user : Requester}

/-- A request that does nothing stops only its own. -/
theorem onlyOwn_refl : OnlyOwn u s s where
  rows := rfl
  pool := fun _ _ _ => Iff.rfl
  closedEvents := fun _ h => .inl h
  finishedEvents := fun _ h => .inl h
  addresses := fun _ _ _ _ _ => Iff.rfl

/-- The addresses of the other users' events stay as they are exactly when none of them is the
one that is released. -/
theorem releasesOwn_iff : s.ReleasesOwn u ev ↔
    ∀ tag ev', s.daemon.eventPool.get? tag = some ev' → ev'.createdBy ≠ u → ev'.hasVPN = true →
      (ev'.vpnIP ∈ (s.daemon.releaseVPN ev).vpnIPPools.ips ↔
        ev'.vpnIP ∈ s.daemon.vpnIPPools.ips) := by
  unfold ReleasesOwn State.releaseVPN
  by_cases hvpn : ev.hasVPN = true
  · simp only [hvpn, true_imp_iff, if_true, IPPool.releaseIP, Finset.mem_erase]
    constructor
    · intro h tag ev' hev' hother hvpn'
      refine and_iff_right_of_imp fun hmem heq => ?_
      exact h (heq ▸ hmem) tag ev' hev' hother hvpn' heq
    · intro h hmem tag ev' hev' hother hvpn' heq
      exact ((h tag ev' hev' hother hvpn').mpr (heq ▸ hmem)).1 heq
  · simp [hvpn]

/-- A released address concerns no one else's events exactly when `ReleasesOwn` holds. -/
theorem onlyOwn_release_iff :
    OnlyOwn u s { s with daemon := s.daemon.releaseVPN ev } ↔ s.ReleasesOwn u ev := by
  rw [releasesOwn_iff]
  constructor
  · intro h
    exact h.addresses
  · intro h
    have hpool : (s.daemon.releaseVPN ev).eventPool = s.daemon.eventPool := by
      unfold State.releaseVPN
      split <;> rfl
    exact { onlyOwn_refl (u := u) (s := s) with
      pool := fun tag ev' _ => by rw [hpool]
      addresses := h }

/-- `SetEventStatus` leaves the statuses of the other users' rows exactly when those of the tag
have the status already. -/
theorem othersRows_setEventStatus_iff {status : Int} :
    ((s.setEventStatus evtag status).othersRows u).map OwnedEvent.status =
        (s.othersRows u).map OwnedEvent.status ↔
      ∀ r ∈ s.rows, r.tag = evtag → r.createdBy ≠ u → r.status = status := by
  have hset : (s.setEventStatus evtag status).othersRows u =
      (s.othersRows u).map fun r => if r.tag = evtag then { r with status := status } else r := by
    unfold othersRows setEventStatus
    rw [List.filter_map]
    refine congrArg _ (List.filter_congr fun r _ => ?_)
    simp only [Function.comp]
    split <;> rfl
  rw [hset, List.map_map, List.map_inj_left]
  simp only [othersRows, List.mem_filter, decide_eq_true_eq, and_imp]
  refine forall₂_congr fun r _ => ?_
  show (r.createdBy ≠ u →
    (if r.tag = evtag then { r with status := status } else r).status = r.status) ↔ _
  by_cases htag : r.tag = evtag
  · simp [htag, eq_comm]
  · simp [htag]

/-- `UpdateCloseEvent` touches no status. -/
theorem othersRows_updateCloseEvent (newTag : String) :
    ((s.updateCloseEvent evtag newTag).othersRows u).map OwnedEvent.status =
      (s.othersRows u).map OwnedEvent.status := by
  unfold othersRows updateCloseEvent
  rw [List.filter_map, List.map_map]
  have hfilter : s.rows.filter ((fun r => decide (r.createdBy ≠ u)) ∘ fun r =>
        if r.tag = evtag then { r with tag := newTag } else r) =
      s.rows.filter fun r => decide (r.createdBy ≠ u) := by
    refine List.filter_congr fun r _ => ?_
    simp only [Function.comp]
    split <;> rfl
  rw [hfilter]
  refine List.map_congr_left fun r _ => ?_
  simp only [Function.comp]
  split <;> rfl

/-- `DropEvent` takes no row of another user exactly when the booked rows of the tag are the
user's. -/
theorem othersRows_dropBooked_iff :
    ((s.dropBooked evtag).othersRows u).map OwnedEvent.status =
        (s.othersRows u).map OwnedEvent.status ↔
      ∀ r ∈ s.rows, r.tag = evtag → r.status = booked → r.createdBy = u := by
  have hswap : (s.dropBooked evtag).othersRows u =
      (s.othersRows u).filter fun r => !(r.tag == evtag && r.status == booked) := by
    unfold othersRows dropBooked
    exact List.filter_comm _ _ _
  rw [hswap]
  constructor
  · intro h r hr htag hstatus
    by_contra hother
    -- The list of the others has become shorter.
    have hlength := congrArg List.length h
    rw [List.length_map, List.length_map, List.length_filter_eq_length_iff] at hlength
    have hkept := hlength r (List.mem_filter.mpr ⟨hr, by simpa using hother⟩)
    simp [htag, hstatus] at hkept
  · intro h
    refine congrArg _ (List.filter_eq_self.mpr fun r hr => ?_)
    obtain ⟨hr, hother⟩ := List.mem_filter.mp hr
    have hother : r.createdBy ≠ u := by simpa using hother
    by_cases htag : r.tag = evtag
    · have hstatus : r.status ≠ booked := fun hb => hother (h r hr htag hb)
      simp [hstatus]
    · simp [htag]

/-- Releasing the addresses leaves the pool of events. -/
theorem eventPool_releaseVPN (d : State) (ev : EventConfig) :
    (d.releaseVPN ev).eventPool = d.eventPool := by
  unfold State.releaseVPN
  split <;> rfl

/-- The end of a user's own event. `s'` is the state after `Close`, or after `Finish`. -/
theorem onlyOwn_ended_iff (hev : s.daemon.eventPool.get? evtag = some ev)
    (hown : ev.createdBy = u)
    (hrows : (s'.othersRows u).map OwnedEvent.status =
      ((s.setEventStatus evtag closed).othersRows u).map OwnedEvent.status)
    (hdaemon : s'.daemon = (s.daemon.releaseVPN ev).removeEvent evtag)
    (hclosed : s'.closedEvents = ev :: s.closedEvents)
    (hfinished : ∀ e ∈ s'.finishedEvents, e ∈ s.finishedEvents ∨ e = ev) :
    OnlyOwn u s s' ↔ s.ReleasesOwn u ev ∧
      ∀ r ∈ s.rows, r.tag = evtag → r.createdBy ≠ u → r.status = closed := by
  rw [← othersRows_setEventStatus_iff, ← hrows, releasesOwn_iff]
  have hips : s'.daemon.vpnIPPools = (s.daemon.releaseVPN ev).vpnIPPools := by
    rw [hdaemon]
    rfl
  constructor
  · intro h
    exact ⟨by simpa only [hips] using h.addresses, h.rows⟩
  · intro h
    refine ⟨h.2, fun tag e he => ?_, fun e he => ?_, fun e he => ?_, ?_⟩
    · show s'.daemon.eventPool.get? tag = some e ↔ _
      rw [hdaemon]
      show ((s.daemon.releaseVPN ev).eventPool.delete evtag).get? tag = some e ↔ _
      rw [eventPool_releaseVPN, GoMap.get?_delete]
      split
      · next htag =>
        -- The entry that is gone was the user's.
        constructor
        · intro hnone
          cases hnone
        · intro hget
          rw [htag, hev] at hget
          exact absurd (Option.some.inj hget ▸ hown) he
      · rfl
    · rw [hclosed] at he
      rcases List.mem_cons.mp he with heq | he
      · exact .inr (heq ▸ hown)
      · exact .inl he
    · rcases hfinished e he with he | heq
      · exact .inl he
      · exact .inr (heq ▸ hown)
    · simpa only [hips] using h.1

/-- A stop of a live event. -/
theorem onlyOwn_stopLive_iff (hnp : user.npUser = true)
    (hev : s.daemon.eventPool.get? evtag = some ev) :
    OnlyOwn user.username s (s.stopLive user evtag ev c).1 ↔
      s.ReleasesOwn user.username ev ∧ s.ClosesOwn user.username evtag ev c := by
  have hmay : user.mayStop ev = true ↔ ev.createdBy = user.username := by
    simp only [Requester.mayStop, hnp, Bool.true_and, Bool.not_true, Bool.or_false, beq_iff_eq]
    exact eq_comm
  unfold stopLive ClosesOwn
  dsimp only
  split
  · next howner =>
    have hown := hmay.mp howner
    cases c.setEventStatus with
    | some err =>
      simp only [reduceCtorEq, false_imp_iff, imp_true_iff, and_true]
      exact onlyOwn_release_iff
    | none =>
      rw [imp_iff_right hown, imp_iff_right rfl]
      cases c.close with
      | some err =>
        exact onlyOwn_ended_iff hev hown rfl rfl rfl fun e he => .inl he
      | none =>
        refine onlyOwn_ended_iff hev hown ?_ rfl rfl fun e he => ?_
        · exact othersRows_updateCloseEvent _
        · exact (List.mem_cons.mp he).symm
  · next hother =>
    have hnot : ev.createdBy ≠ user.username := fun heq => hother (hmay.mpr heq)
    rw [onlyOwn_release_iff]
    exact (and_iff_left fun heq => absurd heq hnot).symm

/-- After the first successful `DropEvent` of the loop the others find nothing to drop. -/
theorem dropLoop_of_dropped {drop : Nat → Option String} {events : List OwnedEvent} {i : Nat}
    (h : s.dropBooked evtag = s) : (dropLoop u evtag drop s i events).1 = s := by
  induction events generalizing i with
  | nil => rfl
  | cons e events ih =>
    rw [dropLoop]
    split
    · unfold dropEvent
      cases drop i with
      | some err => rfl
      | none =>
        dsimp only
        rw [h]
        exact ih
    · exact ih

/-- Dropping a booked event twice is dropping it once. -/
theorem dropBooked_dropBooked : (s.dropBooked evtag).dropBooked evtag = s.dropBooked evtag := by
  unfold dropBooked
  rw [List.filter_filter]
  simp only [Bool.and_self]

/-- The loop drops the event exactly when there is an event of the user, and the first `DropEvent`
succeeds. -/
theorem dropLoop_eq {drop : Nat → Option String} {events : List OwnedEvent} {i : Nat} :
    (dropLoop u evtag drop s i events).1 =
      if (∃ e ∈ events, e.createdBy = u) ∧ drop i = none then s.dropBooked evtag else s := by
  induction events with
  | nil => simp [dropLoop]
  | cons e events ih =>
    rw [dropLoop]
    split
    · next hown =>
      have hexists : ∃ e' ∈ e :: events, e'.createdBy = u := ⟨e, List.mem_cons_self, hown⟩
      unfold dropEvent
      cases hdrop : drop i with
      | some err => simp
      | none =>
        dsimp only
        rw [if_pos ⟨hexists, rfl⟩]
        exact dropLoop_of_dropped dropBooked_dropBooked
    · next hother =>
      rw [ih]
      refine if_congr (and_congr_left fun _ => ?_) rfl rfl
      simp [hother]

/-- A stop of a booked event. -/
theorem onlyOwn_stopBooked_iff (hnp : user.npUser = true) :
    OnlyOwn user.username s (s.stopBooked user evtag c).1 ↔
      s.DropsOwn user.username evtag c := by
  unfold stopBooked DropsOwn
  rw [if_pos hnp]
  cases c.getEventByUser with
  | error err => simp [onlyOwn_refl]
  | ok events =>
    simp only [Except.ok.injEq, forall_eq', dropLoop_eq]
    split
    · next hdrops =>
      rw [imp_iff_right hdrops.1, imp_iff_right hdrops.2, ← othersRows_dropBooked_iff]
      constructor
      · intro h
        exact h.rows
      · intro h
        exact { onlyOwn_refl (u := user.username) (s := s) with rows := h }
    · next hnone =>
      refine iff_of_true onlyOwn_refl fun hexists hdrop => ?_
      exact absurd ⟨hexists, hdrop⟩ hnone

/-- Without a status nothing is stopped. -/
theorem stopsOwn_of_error {err : String} (hstatus : c.getEventStatus = .error err) :
    s.StopsOwn u evtag c where
  live := fun _ h => nomatch hstatus.symm.trans h
  booked := fun h => nomatch hstatus.symm.trans h

/-- What `StopsOwn` asks of a request whose event has this status. -/
theorem stopsOwn_iff {status : Int} (hstatus : c.getEventStatus = .ok status) :
    s.StopsOwn u evtag c ↔
      (status = running ∨ status = suspended → ∀ ev, s.daemon.eventPool.get? evtag = some ev →
        s.ReleasesOwn u ev ∧ s.ClosesOwn u evtag ev c) ∧
      (status = booked → s.DropsOwn u evtag c) := by
  constructor
  · intro h
    exact ⟨h.live status hstatus, fun hbooked => h.booked (hbooked ▸ hstatus)⟩
  · intro h
    refine ⟨fun status' hstatus' => ?_, fun hbooked => h.2 ?_⟩
    · cases hstatus.symm.trans hstatus'
      exact h.1
    · exact Except.ok.inj (hstatus.symm.trans hbooked)

end StopState

/-- A `StopEvent` of a non-privileged user changes nothing of the other users if and only if the
address that it releases is not theirs, and the rows that it closes or drops are the user's. -/
theorem stopEvent_onlyOwn_iff (s : StopState) (user : Requester) (hnp : user.npUser = true)
    (reqTag : String) (c : StopServices) :
    StopState.OnlyOwn user.username s (s.stopEvent user reqTag c).1 ↔
      (newTag reqTag = .ok reqTag → s.StopsOwn user.username reqTag c) := by
  unfold StopState.stopEvent
  cases htag : newTag reqTag with
  | error err => exact iff_of_true StopState.onlyOwn_refl nofun
  | ok evtag =>
    obtain ⟨-, rfl⟩ := Store.newTag_ok_iff.mp htag
    rw [imp_iff_right rfl]
    dsimp only
    cases hstatus : c.getEventStatus with
    | error err =>
      exact iff_of_true StopState.onlyOwn_refl (StopState.stopsOwn_of_error hstatus)
    | ok status =>
      rw [StopState.stopsOwn_iff hstatus]
      dsimp only
      by_cases hlive : status = running ∨ status = suspended
      · have hnot : status ≠ booked := by
          rcases hlive with rfl | rfl <;> decide
        rw [if_pos hlive, imp_iff_right hlive,
          and_iff_left fun hbooked : status = booked => absurd hbooked hnot]
        cases hev : s.daemon.eventPool.get? evtag with
        | none => exact iff_of_true StopState.onlyOwn_refl nofun
        | some ev =>
          dsimp only
          rw [StopState.onlyOwn_stopLive_iff hnp hev]
          simp only [Option.some.injEq, forall_eq']
      · rw [if_neg hlive, and_iff_right fun h => absurd h hlive]
        by_cases hbooked : status = booked
        · rw [if_pos hbooked, StopState.onlyOwn_stopBooked_iff hnp, imp_iff_right hbooked]
        · rw [if_neg hbooked]
          exact iff_of_true StopState.onlyOwn_refl fun h => absurd h hbooked

/-- The daemon sees of a request what `Daemon.stopEvent` says. -/
theorem stopEvent_daemon (s : StopState) (user : Requester) {reqTag evtag : String}
    (htag : newTag reqTag = .ok evtag) (c : StopServices) (drop : Option String) :
    (s.stopEvent user reqTag c).1.daemon =
      (stopEvent s.daemon user evtag ⟨c.getEventStatus, c.setEventStatus, c.close, drop⟩).1 := by
  unfold StopState.stopEvent stopEvent
  rw [htag]
  -- Both functions branch on the same answers, so that each leaf is the same state.
  dsimp only
  cases c.getEventStatus with
  | error err => rfl
  | ok status =>
    dsimp only
    split
    · cases s.daemon.eventPool.get? evtag with
      | none => rfl
      | some ev =>
        dsimp only [StopState.stopLive]
        split
        · cases c.setEventStatus with
          | some err => rfl
          | none =>
            cases c.close with
            | some err => rfl
            | none => rfl
        · rfl
    · split
      · unfold StopState.stopBooked
        split
        · cases c.getEventByUser with
          | error err => rfl
          | ok events =>
            dsimp only
            -- The loop over the events of the user differs, and `dropLoop_eq` compares the two.
            rw [StopState.dropLoop_eq]
            split <;> rfl
        · unfold StopState.dropEvent
          cases c.dropEvent 0 with
          | some err => rfl
          | none => rfl
      · rfl

/-- Two users with a booked event each. -/
def twoOwners : StopState where
  daemon := { eventPool := ∅, vpnIPPools := { ips := ∅, weights := [] } }
  rows := [⟨"demo", booked, "al"⟩, ⟨"mine", booked, "bo"⟩]
  closedEvents := []
  finishedEvents := []

/-- The store answers that the event is booked, and with the booked event of "bo". -/
def bookedServices : StopServices where
  getEventStatus := .ok booked
  setEventStatus := none
  close := none
  getEventByUser := .ok [⟨"mine", booked, "bo"⟩]
  dropEvent := fun _ => none
  now := 0

/-- "bo" stops his own booked event. -/
theorem stopEvent_onlyOwn_mine :
    StopState.OnlyOwn "bo" twoOwners
      (twoOwners.stopEvent ⟨"bo", true⟩ "mine" bookedServices).1 := by
  refine (stopEvent_onlyOwn_iff twoOwners ⟨"bo", true⟩ rfl "mine" bookedServices).mpr fun _ => ?_
  exact { live := fun _ _ _ _ hev => absurd hev (by simp [twoOwners])
          booked := fun _ _ _ _ _ => by decide }

/-- "bo" names the booked event of "al", and the store drops it. -/
theorem stopEvent_drops_foreign :
    ¬ ∀ (s : StopState) (user : Requester) (reqTag : String) (c : StopServices),
      user.npUser = true →
        StopState.OnlyOwn user.username s (s.stopEvent user reqTag c).1 := by
  intro h
  have hrows := (h twoOwners ⟨"bo", true⟩ "demo" bookedServices rfl).rows
  exact absurd hrows (by decide)

end Haaukins.Daemon
