import Haaukins.Lib.Machine
import Haaukins.Daemon.VPNSubnets

/-!
# `Haaukins.Daemon.BookedVisits`: the visits of the booked events (`daemon/event.go`)

`visitBookedEvents` fetches the booked events of the store. It starts those that are due, one
after the other, and sets their status to running. A failure of the start or of the status
update ends the visit. An event whose status update failed is live, and still booked.

`visitLoop` is the loop with a record of the events that it starts. `visitLoop_eq` says that it
is `visitBookedEvents`. `Bookings.StartedOnce` says that no visit has left out a due event whose
creation would succeed, and that no event was started twice. It holds along a run of visits
exactly when nothing that a visit should start stands behind a failing event, or is live from an
earlier visit (`VisitInLine`).
-/

set_option autoImplicit false

namespace Haaukins.Daemon

/-- The row of an event in the store. -/
structure BookedRow where
  conf : EventConfig
  startedAt : Nat
  status : Int

/-- What happens when a visit starts an event: the draws of `Get`, and the errors of
`CreateEventFromEventDB` and `SetEventStatus`. -/
structure StartAnswers where
  draws : List Draw
  host : Option String
  setStatus : Option String

/-- An event of the answer to `GetEvents`, when these things happen at its start. -/
def BookedRow.toDBEvent (row : BookedRow) (ans : StartAnswers) : DBEvent where
  conf := row.conf
  status := row.status
  startedAt := row.startedAt
  draws := ans.draws
  host := ans.host
  setStatus := ans.setStatus

/-- A call of `visitBookedEvents`. An event is its place in the table of the store. -/
structure Visit where
  now : Nat
  /-- The order in which the store returns the booked events. -/
  order : List Nat
  answers : Nat → StartAnswers

/-- What a visit leaves: the daemon, the events that it has made live, those of them whose status
update failed, the tags whose status is now running, and the error. -/
structure VisitResult where
  daemon : State
  started : List Nat
  unsaved : List Nat
  updated : List String
  err : Option String

/-- The loop of `visitBookedEvents`, with a record of the events that it starts. -/
def visitLoop (now : Nat) (d : State) (vpnAddress : String) :
    List (Nat × DBEvent) → Option VisitResult
  | [] => some { daemon := d, started := [], unsaved := [], updated := [], err := none }
  | (i, e) :: es =>
    if e.startedAt ≤ now then
      match d.createFromDB vpnAddress e with
      | none => none
      | some (_, d, some err) =>
        some { daemon := d, started := [], unsaved := [], updated := []
               err := some ("error on booked event creation " ++ err) }
      | some (vpnAddress, d, none) =>
        match e.setStatus with
        | some err =>
          some { daemon := d, started := [i], unsaved := [i], updated := []
                 err := some ("status update failed err: " ++ err) }
        | none =>
          (visitLoop now d vpnAddress es).map fun r =>
            { r with started := i :: r.started, updated := e.conf.tag :: r.updated }
    else visitLoop now d vpnAddress es

/-- The loop is the one of `visitBookedEvents`. -/
theorem visitLoop_eq (now : Nat) : ∀ (es : List (Nat × DBEvent)) (d : State)
    (vpnAddress : String), (visitLoop now d vpnAddress es).map (fun r => (r.daemon, r.err)) =
      visitBookedEvents now d vpnAddress (es.map Prod.snd) := by
  intro es
  induction es with
  | nil => exact fun d vpnAddress => rfl
  | cons ie es ih =>
    intro d vpnAddress
    obtain ⟨i, e⟩ := ie
    show _ = visitBookedEvents now d vpnAddress (e :: es.map Prod.snd)
    rw [visitLoop, visitBookedEvents]
    by_cases hdue : e.startedAt ≤ now
    · rw [if_pos hdue, if_pos hdue]
      rcases d.createFromDB vpnAddress e with - | ⟨vpnAddress, d, - | err⟩
      · rfl
      · cases e.setStatus with
        | some err => rfl
        | none => exact (Option.map_map _ _ _).trans (ih d vpnAddress)
      · rfl
    · rw [if_neg hdue, if_neg hdue]
      exact ih d vpnAddress

/-- The creation of the event succeeds. -/
def DBEvent.Creatable (e : DBEvent) : Prop := e.conf.validate = none ∧ e.host = none

instance (e : DBEvent) : Decidable e.Creatable := inferInstanceAs (Decidable (_ ∧ _))

/-- The events and the daemon over many visits. -/
structure Bookings where
  daemon : State
  rows : List BookedRow
  /-- The events that were made live. -/
  started : List Nat
  /-- Those of them whose status update failed. -/
  unsaved : List Nat
  /-- The due events whose creation would have succeeded in a visit that did not start them. -/
  missed : List Nat

namespace Bookings

variable (s : Bookings)

/-- The answer to `GetEvents` with the status `Booked`, in this order. -/
def getBooked (v : Visit) : List (Nat × DBEvent) :=
  v.order.filterMap fun i => s.rows[i]?.map fun row => (i, row.toDBEvent (v.answers i))

/-- The places of the booked events. -/
def bookedPlaces : List Nat :=
  (List.range s.rows.length).filter fun i => s.rows[i]?.any fun row => row.status == booked

/-- The status updates of a visit. -/
def setRunning (updated : List String) : List BookedRow :=
  s.rows.map fun row => if row.conf.tag ∈ updated then { row with status := running } else row

end Bookings

/-- A due event whose creation succeeds. -/
def Startable (now : Nat) (ie : Nat × DBEvent) : Prop :=
  ie.2.startedAt ≤ now ∧ ie.2.Creatable

instance (now : Nat) (ie : Nat × DBEvent) : Decidable (Startable now ie) :=
  inferInstanceAs (Decidable (_ ∧ _))

/-- The visits of the booked events, by a daemon in any state. -/
def visits : Machine Bookings Visit where
  init s := s.started = [] ∧ s.unsaved = [] ∧ s.missed = []
  step s v :=
    if v.order.Perm s.bookedPlaces then
      (visitLoop v.now s.daemon "" (s.getBooked v)).map fun r =>
        { daemon := r.daemon
          rows := s.setRunning r.updated
          started := s.started ++ r.started
          unsaved := s.unsaved ++ r.unsaved
          missed := s.missed ++ ((s.getBooked v).filter fun ie =>
            Startable v.now ie ∧ ie.1 ∉ r.started).map Prod.fst }
    else none

/-- No visit has left out a due event whose creation would have succeeded, and no event was made
live twice. -/
def Bookings.StartedOnce (s : Bookings) : Prop := s.missed = [] ∧ s.started.Nodup

/-- The first of two events of a visit does not keep it from the second one. -/
def PassesOn (now : Nat) (a b : Nat × DBEvent) : Prop :=
  a.2.startedAt ≤ now → Startable now b → a.2.Creatable ∧ a.2.setStatus = none

instance (now : Nat) (a b : Nat × DBEvent) : Decidable (PassesOn now a b) :=
  inferInstanceAs (Decidable (_ → _ → _))

/-- No due event whose creation succeeds stands behind a due event whose creation or status update
fails, and none of them is live since an earlier visit whose status update failed. -/
def Bookings.VisitInLine (s : Bookings) (v : Visit) : Prop :=
  (s.getBooked v).Pairwise (PassesOn v.now) ∧
    ∀ ie ∈ s.getBooked v, Startable v.now ie → ie.1 ∉ s.unsaved

instance (s : Bookings) (v : Visit) : Decidable (s.VisitInLine v) :=
  inferInstanceAs (Decidable (_ ∧ _))

/-! ### One visit -/

variable {now : Nat} {d d' : State} {vpnAddress addr : String} {e : DBEvent}
  {es : List (Nat × DBEvent)} {r : VisitResult}

/-- The start of an event has no error exactly when its creation succeeds. -/
theorem State.createFromDB_err {err : Option String}
    (h : d.createFromDB vpnAddress e = some (addr, d', err)) : err = none ↔ e.Creatable := by
  unfold State.createFromDB at h
  split at h
  · cases h
  next addr' d₁ haddr =>
    have hvalidate : ({ e.conf with vpnAddress := addr' } : EventConfig).validate =
        e.conf.validate := rfl
    simp only [hvalidate] at h
    unfold DBEvent.Creatable
    split at h
    · next err hinvalid =>
      cases h
      simp [hinvalid]
    · next hvalid =>
      split at h
      · next err hhost =>
        cases h
        simp [hhost]
      · next hhost =>
        cases h
        simp [hvalid, hhost]

/-- What the loop does with the first event of its list. -/
theorem visitLoop_cons {i : Nat} (h : visitLoop now d vpnAddress ((i, e) :: es) = some r) :
    (¬ e.startedAt ≤ now ∧ visitLoop now d vpnAddress es = some r) ∨
    (e.startedAt ≤ now ∧ ¬ e.Creatable ∧ r.started = [] ∧ r.unsaved = [] ∧ r.updated = []) ∨
    (Startable now (i, e) ∧ e.setStatus ≠ none ∧ r.started = [i] ∧ r.unsaved = [i] ∧
      r.updated = []) ∨
    (Startable now (i, e) ∧ e.setStatus = none ∧ ∃ d' addr r',
      visitLoop now d' addr es = some r' ∧ r.started = i :: r'.started ∧
        r.unsaved = r'.unsaved ∧ r.updated = e.conf.tag :: r'.updated) := by
  rw [visitLoop] at h
  split at h
  · next hdue =>
    split at h
    · cases h
    · next err hcreate =>
      have hnot := State.createFromDB_err hcreate
      cases h
      exact .inr (.inl ⟨hdue, fun hc => by simpa using hnot.mpr hc, rfl, rfl, rfl⟩)
    · next addr d' hcreate =>
      have hcreatable : e.Creatable := (State.createFromDB_err hcreate).mp rfl
      split at h
      · next err hset =>
        cases h
        exact .inr (.inr (.inl ⟨⟨hdue, hcreatable⟩, by simp [hset], rfl, rfl, rfl⟩))
      · next hset =>
        obtain ⟨r', hr', rfl⟩ := Option.map_eq_some_iff.mp h
        exact .inr (.inr (.inr ⟨⟨hdue, hcreatable⟩, hset, d', addr, r', hr', rfl, rfl, rfl⟩))
  · next hdue => exact .inl ⟨hdue, h⟩

/-- The loop starts due events whose creation succeeds, in the order of its list. -/
theorem visitLoop_started : ∀ {es : List (Nat × DBEvent)} {d : State} {vpnAddress : String}
    {r : VisitResult}, visitLoop now d vpnAddress es = some r →
      r.started.Sublist ((es.filter fun ie => Startable now ie).map Prod.fst) := by
  intro es
  induction es with
  | nil =>
    intro d vpnAddress r h
    cases h
    exact List.Sublist.slnil
  | cons ie es ih =>
    intro d vpnAddress r h
    obtain ⟨i, e⟩ := ie
    rcases visitLoop_cons h with ⟨hdue, h⟩ | ⟨-, -, hstarted, -⟩ | ⟨hstart, -, hstarted, -⟩ |
      ⟨hstart, -, d', addr, r', h, hstarted, -⟩
    · have hnot : ¬ Startable now (i, e) := fun hstart => hdue hstart.1
      rw [List.filter_cons_of_neg (by simpa using hnot)]
      exact ih h
    · rw [hstarted]
      exact List.nil_sublist _
    · rw [hstarted, List.filter_cons_of_pos (by simpa using hstart), List.map_cons]
      exact (List.nil_sublist _).cons_cons i
    · rw [hstarted, List.filter_cons_of_pos (by simpa using hstart), List.map_cons]
      exact (ih h).cons_cons i

/-- Nothing stands behind a failure when there is nothing to start. -/
theorem passesOn_of_not_startable (a : Nat × DBEvent) (h : ∀ ie ∈ es, ¬ Startable now ie) :
    (∀ ie ∈ es, PassesOn now a ie) ∧ es.Pairwise (PassesOn now) := by
  refine ⟨fun ie hie _ hs => absurd hs (h ie hie), ?_⟩
  exact List.pairwise_of_forall_mem_list fun ie _ je hje _ hs => absurd hs (h je hje)

/-- The loop starts all due events whose creation succeeds exactly when none of them stands behind
a failure. -/
theorem visitLoop_starts_iff : ∀ {es : List (Nat × DBEvent)} {d : State} {vpnAddress : String}
    {r : VisitResult}, (es.map Prod.fst).Nodup → visitLoop now d vpnAddress es = some r →
      ((∀ ie ∈ es, Startable now ie → ie.1 ∈ r.started) ↔ es.Pairwise (PassesOn now)) := by
  intro es
  induction es with
  | nil => simp
  | cons ie es ih =>
    intro d vpnAddress r hnodup h
    obtain ⟨i, e⟩ := ie
    rw [List.map_cons, List.nodup_cons] at hnodup
    -- The other events are at other places.
    have hne : ∀ ie ∈ es, ie.1 ≠ i := by
      intro ie hie heq
      exact hnodup.1 (List.mem_map.mpr ⟨ie, hie, heq⟩)
    rw [List.pairwise_cons, List.forall_mem_cons]
    rcases visitLoop_cons h with ⟨hdue, h⟩ | ⟨hdue, hnot, hstarted, -⟩ |
      ⟨hstart, hset, hstarted, -⟩ | ⟨hstart, hset, d', addr, r', h, hstarted, -⟩
    · rw [ih hnodup.2 h]
      refine and_congr_left fun _ => iff_of_true (fun hstart => absurd hstart.1 hdue) ?_
      exact fun ie _ hdue' => absurd hdue' hdue
    · rw [hstarted]
      constructor
      · rintro ⟨-, hall⟩
        have hnone : ∀ ie ∈ es, ¬ Startable now ie := fun ie hie hs => by
          simpa using hall ie hie hs
        exact passesOn_of_not_startable (i, e) hnone
      · rintro ⟨hall, -⟩
        refine ⟨fun hs => absurd hs.2 hnot, fun ie hie hs => ?_⟩
        exact absurd (hall ie hie hdue hs).1 hnot
    · rw [hstarted]
      constructor
      · rintro ⟨-, hall⟩
        have hnone : ∀ ie ∈ es, ¬ Startable now ie := fun ie hie hs =>
          hne ie hie (List.mem_singleton.mp (hall ie hie hs))
        exact passesOn_of_not_startable (i, e) hnone
      · rintro ⟨hall, -⟩
        refine ⟨fun _ => List.mem_singleton_self i, fun ie hie hs => ?_⟩
        exact absurd (hall ie hie hstart.1 hs).2 hset
    · rw [hstarted, ← ih hnodup.2 h]
      constructor
      · rintro ⟨-, hall⟩
        refine ⟨fun ie _ _ _ => ⟨hstart.2, hset⟩, fun ie hie hs => ?_⟩
        exact (List.mem_cons.mp (hall ie hie hs)).resolve_left (hne ie hie)
      · rintro ⟨-, hall⟩
        exact ⟨fun _ => List.mem_cons_self, fun ie hie hs =>
          List.mem_cons_of_mem i (hall ie hie hs)⟩

/-- An event that the loop has started is unsaved, or its status is running. -/
theorem visitLoop_updated : ∀ {es : List (Nat × DBEvent)} {d : State} {vpnAddress : String}
    {r : VisitResult}, visitLoop now d vpnAddress es = some r →
      r.unsaved ⊆ r.started ∧ ∀ i ∈ r.started, i ∈ r.unsaved ∨
        ∃ e, (i, e) ∈ es ∧ e.conf.tag ∈ r.updated := by
  intro es
  induction es with
  | nil =>
    intro d vpnAddress r h
    cases h
    exact ⟨List.Subset.refl _, fun i hi => absurd hi List.not_mem_nil⟩
  -- Each way through the body either goes on with the rest or ends the loop there.
  | cons ie es ih =>
    intro d vpnAddress r h
    obtain ⟨i, e⟩ := ie
    rcases visitLoop_cons h with ⟨-, h⟩ | ⟨-, -, hstarted, hunsaved, -⟩ |
      ⟨-, -, hstarted, hunsaved, -⟩ | ⟨-, -, d', addr, r', h, hstarted, hunsaved, hupdated⟩
    · obtain ⟨hsub, hall⟩ := ih h
      refine ⟨hsub, fun j hj => (hall j hj).imp_right ?_⟩
      rintro ⟨e', he', htag⟩
      exact ⟨e', List.mem_cons_of_mem _ he', htag⟩
    · rw [hstarted, hunsaved]
      exact ⟨List.Subset.refl _, fun j hj => absurd hj List.not_mem_nil⟩
    · rw [hstarted, hunsaved]
      exact ⟨List.Subset.refl _, fun j hj => .inl hj⟩
    · obtain ⟨hsub, hall⟩ := ih h
      rw [hstarted, hunsaved, hupdated]
      refine ⟨List.subset_cons_of_subset i hsub, fun j hj => ?_⟩
      rcases List.mem_cons.mp hj with rfl | hj
      · exact .inr ⟨e, List.mem_cons_self, List.mem_cons_self⟩
      · refine (hall j hj).imp_right ?_
        rintro ⟨e', he', htag⟩
        exact ⟨e', List.mem_cons_of_mem _ he', List.mem_cons_of_mem _ htag⟩

/-! ### All visits -/

namespace Bookings

variable {s t : Bookings} {v : Visit}

/-- The places of the booked rows. -/
theorem mem_bookedPlaces {i : Nat} :
    i ∈ s.bookedPlaces ↔ ∃ row, s.rows[i]? = some row ∧ row.status = booked := by
  simp only [bookedPlaces, List.mem_filter, List.mem_range, Option.any_eq_true, beq_iff_eq,
    and_iff_right_iff_imp]
  rintro ⟨row, hrow, -⟩
  exact (List.getElem?_eq_some_iff.mp hrow).1

/-- The events that a visit gets from the service. -/
theorem mem_getBooked {i : Nat} {e : DBEvent} : (i, e) ∈ s.getBooked v ↔
    i ∈ v.order ∧ ∃ row, s.rows[i]? = some row ∧ e = row.toDBEvent (v.answers i) := by
  simp only [getBooked, List.mem_filterMap, Option.map_eq_some_iff, Prod.mk.injEq]
  constructor
  · rintro ⟨j, hj, row, hrow, rfl, rfl⟩
    exact ⟨hj, row, hrow, rfl⟩
  · rintro ⟨hi, row, hrow, rfl⟩
    exact ⟨i, hi, row, hrow, rfl, rfl⟩

/-- The events of the answer are at the places of the order. -/
theorem map_fst_getBooked_sublist : ((s.getBooked v).map Prod.fst).Sublist v.order := by
  unfold getBooked
  induction v.order with
  | nil => exact List.Sublist.slnil
  | cons i order ih =>
    cases hrow : s.rows[i]? with
    | none =>
      rw [List.filterMap_cons_none (by simp [hrow])]
      exact ih.cons i
    | some row =>
      rw [List.filterMap_cons_some (by simp [hrow]; rfl), List.map_cons]
      exact ih.cons_cons i

/-- A visit gets each event once. -/
theorem nodup_getBooked (h : v.order.Perm s.bookedPlaces) :
    ((s.getBooked v).map Prod.fst).Nodup :=
  map_fst_getBooked_sublist.nodup (h.nodup_iff.mpr (List.nodup_range.filter _))

/-- The invariant behind `StartedOnce`: an event that was started and is still booked is one whose
status update failed. -/
structure Recorded (s : Bookings) : Prop where
  once : s.StartedOnce
  unsaved_started : s.unsaved ⊆ s.started
  unsaved_of_booked : ∀ i ∈ s.started, i ∈ s.bookedPlaces → i ∈ s.unsaved

/-- A step is a visit of all booked events, in some order. -/
theorem visits_step : visits.step s v = some t ↔ v.order.Perm s.bookedPlaces ∧
    ∃ r, visitLoop v.now s.daemon "" (s.getBooked v) = some r ∧
      { daemon := r.daemon
        rows := s.setRunning r.updated
        started := s.started ++ r.started
        unsaved := s.unsaved ++ r.unsaved
        missed := s.missed ++ ((s.getBooked v).filter fun ie =>
          Startable v.now ie ∧ ie.1 ∉ r.started).map Prod.fst } = t := by
  simp only [visits, Option.ite_none_right_eq_some, Option.map_eq_some_iff]

/-- A visit misses no event exactly when nothing that it should start stands behind a failure. -/
theorem missed_eq_nil_iff {r : VisitResult} (horder : v.order.Perm s.bookedPlaces)
    (hr : visitLoop v.now s.daemon "" (s.getBooked v) = some r) :
    ((s.getBooked v).filter fun ie => Startable v.now ie ∧ ie.1 ∉ r.started).map Prod.fst = [] ↔
      (s.getBooked v).Pairwise (PassesOn v.now) := by
  rw [← visitLoop_starts_iff (nodup_getBooked horder) hr, List.map_eq_nil_iff,
    List.filter_eq_nil_iff]
  refine forall₂_congr fun ie hie => ?_
  rw [decide_eq_true_iff, not_and, not_not]

/-- An event that a visit starts is a booked one whose creation succeeds. -/
theorem mem_started {r : VisitResult} {i : Nat}
    (hr : visitLoop v.now s.daemon "" (s.getBooked v) = some r) (hi : i ∈ r.started) :
    ∃ e, (i, e) ∈ s.getBooked v ∧ Startable v.now (i, e) := by
  obtain ⟨⟨j, e⟩, he, rfl⟩ := List.mem_map.mp ((visitLoop_started hr).subset hi)
  obtain ⟨hmem, hstart⟩ := List.mem_filter.mp he
  exact ⟨e, hmem, of_decide_eq_true hstart⟩

/-- A place that is booked after the status updates was booked before, under another tag. -/
theorem mem_bookedPlaces_setRunning {updated : List String} {i : Nat}
    (h : i ∈ { s with rows := s.setRunning updated }.bookedPlaces) :
    ∃ row, s.rows[i]? = some row ∧ row.status = booked ∧ row.conf.tag ∉ updated := by
  obtain ⟨row, hrow, hbooked⟩ := mem_bookedPlaces.mp h
  rw [setRunning, List.getElem?_map] at hrow
  obtain ⟨old, hold, rfl⟩ := Option.map_eq_some_iff.mp hrow
  split at hbooked
  · have hne : running ≠ booked := by decide
    exact absurd hbooked hne
  · next hnot =>
    rw [if_neg hnot] at hrow
    exact ⟨old, hold, hbooked, hnot⟩

/-- A visit in line records each event that it starts. -/
theorem Recorded.step (h : s.Recorded) (hline : s.VisitInLine v)
    (hs : visits.step s v = some t) : t.Recorded := by
  obtain ⟨horder, r, hr, rfl⟩ := visits_step.mp hs
  obtain ⟨hsub, hupdated⟩ := visitLoop_updated hr
  refine ⟨⟨?_, ?_⟩, ?_, fun i hi hbooked => ?_⟩
  · show s.missed ++ _ = []
    rw [h.once.1, (missed_eq_nil_iff horder hr).mpr hline.1, List.append_nil]
  · refine List.nodup_append.mpr ⟨h.once.2, ?_, fun i hi j hj heq => ?_⟩
    · refine (visitLoop_started hr).nodup ?_
      exact (List.filter_sublist.map Prod.fst).nodup (nodup_getBooked horder)
    · subst heq
      -- An event that was started before and is still booked is an unsaved one.
      obtain ⟨e, he, hstart⟩ := mem_started hr hj
      have hbooked : i ∈ s.bookedPlaces := horder.mem_iff.mp (mem_getBooked.mp he).1
      exact hline.2 (i, e) he hstart (h.unsaved_of_booked i hi hbooked)
  · refine List.append_subset.mpr ⟨?_, ?_⟩
    · exact List.Subset.trans h.unsaved_started (List.subset_append_left _ _)
    · exact List.Subset.trans hsub (List.subset_append_right _ _)
  · obtain ⟨row, hrow, hstatus, htag⟩ := mem_bookedPlaces_setRunning hbooked
    rcases List.mem_append.mp hi with hi | hi
    · refine List.mem_append_left _ (h.unsaved_of_booked i hi ?_)
      exact mem_bookedPlaces.mpr ⟨row, hrow, hstatus⟩
    · rcases hupdated i hi with hunsaved | ⟨e, he, hmem⟩
      · exact List.mem_append_right _ hunsaved
      · obtain ⟨-, row', hrow', rfl⟩ := mem_getBooked.mp he
        rw [hrow] at hrow'
        cases hrow'
        exact absurd hmem htag

/-- Any other visit starts an event again, or loses it. -/
theorem Recorded.not_startedOnce_step (h : s.Recorded) (hnot : ¬ s.VisitInLine v)
    (hs : visits.step s v = some t) : ¬ t.StartedOnce := by
  obtain ⟨horder, r, hr, rfl⟩ := visits_step.mp hs
  rintro ⟨hmissed, hnodup⟩
  have hline : (s.getBooked v).Pairwise (PassesOn v.now) :=
    (missed_eq_nil_iff horder hr).mp (List.append_eq_nil_iff.mp hmissed).2
  refine hnot ⟨hline, fun ie hie hstart hunsaved => ?_⟩
  -- The visit starts an event that is live since an earlier one.
  have hstarted : ie.1 ∈ r.started :=
    (visitLoop_starts_iff (nodup_getBooked horder) hr).mpr hline ie hie hstart
  exact (List.nodup_append.mp hnodup).2.2 ie.1 (h.unsaved_started hunsaved) ie.1 hstarted rfl

/-- At first nothing is started. -/
theorem recorded_init (h : visits.init s) : s.Recorded := by
  obtain ⟨hstarted, hunsaved, hmissed⟩ := h
  refine ⟨⟨hmissed, ?_⟩, ?_, ?_⟩
  · rw [hstarted]
    exact List.nodup_nil
  · rw [hunsaved]
    exact List.nil_subset _
  · rw [hstarted]
    exact fun i hi => absurd hi List.not_mem_nil

end Bookings

/-- Along a run of visits, each visit starts all due events whose creation succeeds and no event is
started twice, if and only if in each visit none of these events stands behind a failing one, and
none of them is live since an earlier visit whose status update failed. -/
theorem visits_startedOnce_iff (s : Bookings) (hs : visits.init s) (vs : List Visit) :
    visits.AllStates Bookings.StartedOnce s vs ↔ visits.AllSteps Bookings.VisitInLine s vs :=
  Machine.allStates_iff_allSteps (A := fun _ _ => True) (fun _ h => h.once)
    (fun _ _ _ h _ hline hstep => h.step hline hstep)
    (fun _ _ _ h _ hnot hstep => h.not_startedOnce_step hnot hstep)
    (Bookings.recorded_init hs) Machine.allSteps_true

/-- Two booked events without a VPN that are due at time `5`. -/
def twoBooked : Bookings where
  daemon := emptyDaemon
  rows := ["ctf", "demo"].map fun tag =>
    { conf := { (vpnRequest tag).config admin "" with onlyVPN := noVPN }
      startedAt := 5
      status := booked }
  started := []
  unsaved := []
  missed := []

/-- Two booked events are a state to begin with. -/
theorem twoBooked_init : visits.init twoBooked := ⟨rfl, rfl, rfl⟩

/-- A visit of the two events at time `6`, where creation and status update of the first one have
these errors. -/
def visitBoth (host setStatus : Option String) : Visit where
  now := 6
  order := [0, 1]
  answers i := if i = 0 then ⟨[], host, setStatus⟩ else ⟨[], none, none⟩

/-- A visit without failures. -/
theorem visits_startedOnce_both :
    visits.AllStates Bookings.StartedOnce twoBooked [visitBoth none none] :=
  (visits_startedOnce_iff twoBooked twoBooked_init _).mpr (by decide)

/-- The creation of the first event fails, and the second one is not started. -/
theorem visits_not_startedOnce :
    ¬ ∀ s, visits.init s → ∀ vs, visits.AllStates Bookings.StartedOnce s vs := by
  intro h
  have hall := h twoBooked twoBooked_init [visitBoth (some "no space left") none]
  obtain ⟨t, hmissed, hnone, -⟩ := hall.of_run (fun s => s.missed) [1] (by decide)
  rw [hmissed] at hnone
  cases hnone

/-- The status update of the first event fails, and the next visit starts it again. -/
example :
    (visits.run twoBooked [visitBoth none (some "timeout"), visitBoth none none]).map
      (fun s => (s.started, s.missed)) = some ([0, 0, 1], [1]) := by
  decide

end Haaukins.Daemon
