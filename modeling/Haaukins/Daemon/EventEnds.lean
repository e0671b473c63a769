import Haaukins.Daemon.PoolHandlers

/-!
# `Haaukins.Daemon.EventEnds`: stopping and overdue closing (`daemon/event.go`)

`StopEvent` looks its event up, sets the status of the event in the store, removes it from the
pool, closes it and finishes it. `closeEvents` starts a closer for each event of the pool, and
the closer of an overdue event does the same. An error ends `StopEvent`. A closer only notes it
and goes on, with the event that its own `GetEvent` returned.

`Ends.Safe` says that no event was closed twice, that each finished event was closed, and that no
method was called on the event of a failed `GetEvent`. A run whose closers find their events in
`GetEvent` and in `RemoveEvent` (`FindsEvents`) is safe, and a run that goes on until all threads
have ended is safe only then.

* `Ends.Accounted` holds along every run: an event that a thread has in hand is in the pool, or
  another thread closes it, or it is closed.
* `Ends.Single` is lost by exactly the steps that do not meet the condition, and never regained.
-/

set_option autoImplicit false

namespace Haaukins.Daemon

/-- The pool, with the events whose `Close` and `Finish` were called. -/
structure Ends where
  pool : EventPool EventConfig
  closed : List EventConfig
  finished : List EventConfig
  /-- A method was called on the nil event of a failed `GetEvent`. The daemon panics. -/
  nilCall : Bool

/-- The function that ends an event. -/
inductive EndJob where
  | stopEvent
  | closeEvent
  deriving DecidableEq

/-- Where a `StopEvent` or a closer is. The event `none` is the nil event of a failed
`GetEvent`. -/
inductive EndRequest where
  | idle
  /-- The status is that of a live event, and `GetEvent` of `StopEvent` is next. -/
  | looking (user : Requester) (tag : String)
  /-- A closer has an event of `GetAllEvents`, and tests whether it is overdue. -/
  | checking (ev : EventConfig)
  /-- `GetEvent` of the closer is next. -/
  | overdue (ev : EventConfig)
  /-- `SetEventStatus` is next. -/
  | setting (job : EndJob) (tag : String) (event : Option EventConfig)
  /-- `RemoveEvent` is next. -/
  | removing (job : EndJob) (tag : String) (event : Option EventConfig)
  /-- `Close` is next. -/
  | closing (job : EndJob) (event : Option EventConfig)
  /-- `Finish` is next. -/
  | finishing (event : EventConfig)
  | done (err : Option String)

/-- A step of a `StopEvent` or a closer, with the answer of the called service. -/
inductive EndStep where
  | getEventStatus (user : Requester) (tag : String) (answer : Except String Int)
  /-- `GetAllEvents` of `closeEvents`, for the closer of this event. -/
  | getAllEvents (ev : EventConfig)
  | isDelayed (now : Nat)
  | getEvent
  | setEventStatus (err : Option String)
  | removeEvent
  | close (err : Option String)
  | finish

/-- A failure ends `StopEvent`, and a closer goes on. -/
def EndJob.fails : EndJob → Option String → Option String
  | .stopEvent, err => err
  | .closeEvent, _ => none

/-- The threads of `StopEvent` and of the closers. Each event of the pool stands under its tag. -/
def eventEnds : Program Ends EndRequest EndStep where
  init d := GoMap.Keyed EventConfig.tag d.pool.events ∧ d.closed = [] ∧ d.finished = [] ∧
    d.nilCall = false
  start := .idle
  step d r a :=
    -- After a panic nothing runs any more.
    if d.nilCall then none
    else
      match r, a with
      | .idle, .getEventStatus user tag answer =>
        match answer with
        | .error err =>
          some (d, .done (some ("error happened on getting status of event, err: " ++ err)))
        | .ok status =>
          -- A booked event is dropped from the store. It is not in the pool.
          some (d, if status = running ∨ status = suspended then .looking user tag
            else .done none)
      | .looking user tag, .getEvent =>
        match d.pool.getEvent tag with
        | none => some (d, .done (some unknownEventErr))
        | some ev =>
          some (d, if user.mayStop ev then .setting .stopEvent tag (some ev)
            else .done (some ("no priviledge to stop event " ++ tag)))
      | .idle, .getAllEvents ev =>
        if ev ∈ d.pool.getAllEvents then some (d, .checking ev) else none
      | .checking ev, .isDelayed now =>
        some (d, if isDelayed ev.finishExpected now then .overdue ev else .done none)
      | .overdue ev, .getEvent =>
        some (d, .setting .closeEvent ev.tag (d.pool.getEvent ev.tag))
      | .setting job tag event, .setEventStatus err =>
        match job.fails err with
        | some err =>
          some (d, .done (some ("error happened on setting up status of event, err: " ++ err)))
        | none => some (d, .removing job tag event)
      | .removing job tag event, .removeEvent =>
        let (pool, found) := d.pool.removeEvent tag
        match job.fails (if found then none else some unknownEventErr) with
        | some err => some ({ d with pool := pool }, .done (some err))
        | none => some ({ d with pool := pool }, .closing job event)
      | .closing _ none, .close _ => some ({ d with nilCall := true }, .done none)
      | .closing job (some e), .close err =>
        some ({ d with closed := e :: d.closed },
          match job.fails err with
          | some err => .done (some err)
          | none => .finishing e)
      | .finishing e, .finish => some ({ d with finished := e :: d.finished }, .done none)
      | _, _ => none

/-- No event was closed twice, each finished event was closed, and no method was called on the
event of a failed `GetEvent`. -/
def Ends.Safe (d : Ends) : Prop :=
  d.closed.Nodup ∧ (∀ e ∈ d.finished, e ∈ d.closed) ∧ d.nilCall = false

/-- A closer still finds its event, in `GetEvent` and in `RemoveEvent`. -/
def FindsEvents (d : Ends) : EndRequest → EndStep → Prop
  | .overdue ev, .getEvent => d.pool.getEvent ev.tag ≠ none
  | .removing .closeEvent tag _, .removeEvent => d.pool.getEvent tag ≠ none
  | _, _ => True

instance (d : Ends) (r : EndRequest) (a : EndStep) : Decidable (FindsEvents d r a) := by
  unfold FindsEvents
  split <;> infer_instance

namespace EndRequest

/-- The thread has this event in hand, and did not yet remove the tag. -/
@[simp] def Holds (tag : String) (e : EventConfig) : EndRequest → Prop
  | .setting _ tag' event => tag' = tag ∧ event = some e
  | .removing _ tag' event => tag' = tag ∧ event = some e
  | _ => False

/-- The thread closes this event next. -/
@[simp] def Closes (e : EventConfig) : EndRequest → Prop
  | .closing _ event => event = some e
  | _ => False

/-- The thread goes on with the event of a failed `GetEvent`. -/
@[simp] def HasNil : EndRequest → Prop
  | .setting _ _ event => event = none
  | .removing _ _ event => event = none
  | .closing _ event => event = none
  | _ => False

/-- What a thread knows of the pool and of the closed events at its position. -/
@[simp] def Knows (d : Ends) : EndRequest → Prop
  | .setting job tag event => (event = none → job = .closeEvent ∧ d.pool.getEvent tag = none) ∧
      ∀ e, event = some e → e.tag = tag
  | .removing job tag event => (event = none → job = .closeEvent ∧ d.pool.getEvent tag = none) ∧
      ∀ e, event = some e → e.tag = tag
  | .closing _ event => ∀ e, event = some e → d.pool.getEvent e.tag = none
  | .finishing e => e ∈ d.closed
  | _ => True

/-- The thread has returned, or did not begin. -/
def Ended : EndRequest → Prop
  | .idle => True
  | .done _ => True
  | _ => False

end EndRequest

variable {d d' : Ends} {r r' : EndRequest} {a : EndStep} {s t : Threads Ends EndRequest} {i : Nat}

/-- The pool only loses events, and events stay closed. -/
theorem EndRequest.Knows.mono (h : r.Knows d)
    (hpool : ∀ tag, d.pool.getEvent tag = none → d'.pool.getEvent tag = none)
    (hclosed : ∀ e ∈ d.closed, e ∈ d'.closed) : r.Knows d' := by
  cases r with
  | setting job tag event => exact ⟨fun hnone => ⟨(h.1 hnone).1, hpool _ (h.1 hnone).2⟩, h.2⟩
  | removing job tag event => exact ⟨fun hnone => ⟨(h.1 hnone).1, hpool _ (h.1 hnone).2⟩, h.2⟩
  | closing job event => exact fun e he => hpool _ (h e he)
  | finishing e => exact hclosed e h
  | _ => trivial

/-- A request closes only events that it has taken out of the pool. -/
theorem EndRequest.Knows.getEvent_of_closes (h : r.Knows d) {e : EventConfig}
    (hc : r.Closes e) : d.pool.getEvent e.tag = none := by
  cases r with
  | closing job event => exact h e hc
  | _ => exact hc.elim

/-- What a step can do. -/
inductive EndChange (d : Ends) (r : EndRequest) (a : EndStep) (d' : Ends) (r' : EndRequest) :
    Prop where
  /-- The shared state stays. The thread has no event to close, before and after the step. -/
  | same (hd : d' = d)
      (h : r'.Knows d ∧ (∀ e, ¬ r.Closes e) ∧ (∀ e, ¬ r'.Closes e) ∧
        (∀ tag e, r'.Holds tag e → r.Holds tag e ∨ d.pool.getEvent tag = some e) ∧
        (r'.HasNil ↔ r.HasNil ∨ ¬ FindsEvents d r a))
  | remove (job : EndJob) (tag : String) (event : Option EventConfig)
      (hr : r = .removing job tag event) (ha : a = .removeEvent)
      (hstop : job = .stopEvent → d.pool.getEvent tag ≠ none)
      (hd : d' = { d with pool := (d.pool.removeEvent tag).1 }) (hr' : r' = .closing job event)
  | close (job : EndJob) (e : EventConfig) (hr : r = .closing job (some e))
      (hd : d' = { d with closed := e :: d.closed })
      (hr' : r' = .finishing e ∨ ∃ err, r' = .done err) (hfinds : FindsEvents d r a)
  /-- `Close` of a nil event. -/
  | nilCall (job : EndJob) (hr : r = .closing job none) (hd : d' = { d with nilCall := true })
      (hr' : r' = .done none)
  | finish (e : EventConfig) (hr : r = .finishing e)
      (hd : d' = { d with finished := e :: d.finished }) (hr' : r' = .done none)
      (hfinds : FindsEvents d r a)

/-- `GetEvent` of `StopEvent`, for a user who may stop the event or not. -/
theorem EndChange.looking {user : Requester} {tag : String} {ev : EventConfig}
    (htag : ev.tag = tag) (hev : d.pool.getEvent tag = some ev) :
    EndChange d (.looking user tag) .getEvent d (if user.mayStop ev
      then .setting .stopEvent tag (some ev)
      else .done (some ("no priviledge to stop event " ++ tag))) := by
  refine .same rfl ?_
  split
  · refine ⟨⟨nofun, ?_⟩, fun e => id, fun e => id, ?_, by simp [FindsEvents]⟩
    · rintro e ⟨rfl⟩
      exact htag
    · rintro tag' e ⟨rfl, ⟨rfl⟩⟩
      exact .inr hev
  · simp [FindsEvents]

/-- `GetEvent` of a closer. -/
theorem EndChange.overdue (hkeyed : GoMap.Keyed EventConfig.tag d.pool.events)
    (ev : EventConfig) :
    EndChange d (.overdue ev) .getEvent d
      (.setting .closeEvent ev.tag (d.pool.getEvent ev.tag)) := by
  have hknows : ∀ e, d.pool.getEvent ev.tag = some e → e.tag = ev.tag :=
    fun e he => hkeyed _ e he
  have hheld : ∀ tag e, ev.tag = tag → d.pool.getEvent ev.tag = some e →
      d.pool.getEvent tag = some e := by
    rintro tag e rfl he
    exact he
  exact .same rfl (by simpa [FindsEvents] using ⟨hknows, hheld⟩)

/-- `RemoveEvent` removes the tag, or its error ends `StopEvent`. -/
theorem eventEnds_removing {job : EndJob} {tag : String} {event : Option EventConfig}
    (hnil : d.nilCall = false) (hr : (EndRequest.removing job tag event).Knows d)
    (hs : eventEnds.step d (.removing job tag event) .removeEvent = some (d', r')) :
    EndChange d (.removing job tag event) .removeEvent d' r' := by
  dsimp only [eventEnds] at hs
  rw [if_neg (by simp [hnil])] at hs
  cases hpool : d.pool.getEvent tag with
  | none =>
    have hsame : d.pool.removeEvent tag = (d.pool, false) := EventPool.removeEvent_of_none hpool
    rw [hsame] at hs
    cases job with
    | stopEvent =>
      -- The pool is what it was.
      have hsome : event ≠ none := fun hnone => by simpa using (hr.1 hnone).1
      cases hs
      exact .same rfl (by simp [FindsEvents, hsome])
    | closeEvent =>
      cases hs
      exact .remove .closeEvent tag event rfl rfl nofun (by rw [hsame]) rfl
  | some ev =>
    have hfound : (d.pool.removeEvent tag).2 = true := by
      rw [EventPool.removeEvent_snd, hpool]
      rfl
    have hnone : job.fails none = none := by cases job <;> rfl
    simp only [hfound, if_true, hnone] at hs
    cases hs
    exact .remove job tag event rfl rfl (fun _ => by simp [hpool]) rfl rfl

/-- Each step is one of these changes. -/
theorem eventEnds_step (hkeyed : GoMap.Keyed EventConfig.tag d.pool.events) (hr : r.Knows d)
    (hs : eventEnds.step d r a = some (d', r')) :
    d.nilCall = false ∧ EndChange d r a d' r' := by
  have hremoving := @eventEnds_removing d d' r'
  unfold eventEnds at hs
  dsimp only at hs
  split at hs
  · cases hs
  next hnil =>
  have hnil : d.nilCall = false := by simpa using hnil
  refine ⟨hnil, ?_⟩
  -- One case for each point of a request with its action, in the order of `eventEnds`.
  split at hs
  · split at hs
    · cases hs
      exact .same rfl (by simp [FindsEvents])
    · cases hs
      refine .same rfl ?_
      split <;> simp [FindsEvents]
  · next user tag =>
    split at hs
    · cases hs
      exact .same rfl (by simp [FindsEvents])
    · next ev hev =>
      cases hs
      exact .looking (hkeyed tag ev hev) hev
  · split at hs
    · cases hs
      exact .same rfl (by simp [FindsEvents])
    · cases hs
  · cases hs
    refine .same rfl ?_
    split <;> simp [FindsEvents]
  · next ev =>
    cases hs
    exact .overdue hkeyed ev
  · next job tag event err =>
    split at hs
    · next err hfails =>
      cases hs
      cases job with
      | stopEvent =>
        have hsome : event ≠ none := fun hnone => by simpa using (hr.1 hnone).1
        exact .same rfl (by simp [FindsEvents, hsome])
      | closeEvent => cases hfails
    · cases hs
      exact .same rfl
        ⟨hr, fun e => id, fun e => id, fun tag e h => .inl h, by simp [FindsEvents]⟩
  · next job tag event =>
    refine hremoving hnil hr ?_
    dsimp only [eventEnds]
    rw [if_neg (by simp [hnil])]
    exact hs
  · next job err =>
    cases hs
    exact .nilCall job rfl rfl rfl
  · next job e err =>
    cases hs
    refine .close job e rfl rfl ?_ trivial
    split
    · exact .inr ⟨_, rfl⟩
    · exact .inl rfl
  · next e =>
    cases hs
    exact .finish e rfl rfl rfl trivial
  · cases hs

namespace Ends

/-- The invariant of every run. -/
structure Accounted (s : Threads Ends EndRequest) : Prop where
  keyed : GoMap.Keyed EventConfig.tag s.shared.pool.events
  closed_gone : ∀ e ∈ s.shared.closed, s.shared.pool.getEvent e.tag = none
  finished_closed : ∀ e ∈ s.shared.finished, e ∈ s.shared.closed
  knows : ∀ i, (s.thread i).Knows s.shared
  /-- An event in the hand of a thread is in the pool, or closed, or a thread closes it next. -/
  held : ∀ i tag e, (s.thread i).Holds tag e → s.shared.pool.getEvent tag = some e ∨
    e ∈ s.shared.closed ∨ ∃ j, (s.thread j).Closes e

/-- No event was closed twice or is about to be, and no thread goes on with a nil event. -/
structure Single (s : Threads Ends EndRequest) : Prop where
  nodup : s.shared.closed.Nodup
  no_nil_call : s.shared.nilCall = false
  no_nil : ∀ i, ¬ (s.thread i).HasNil
  not_closed : ∀ i e, (s.thread i).Closes e → e ∉ s.shared.closed
  apart : ∀ i j e, i ≠ j → (s.thread i).Closes e → ¬ (s.thread j).Closes e

/-- The event of a thread that is about to remove a tag is the one that the pool has. -/
theorem Accounted.event_eq (h : Accounted s) {job : EndJob} {tag : String}
    {event : Option EventConfig} {e : EventConfig} (hi : s.thread i = .removing job tag event)
    (he : s.shared.pool.getEvent tag = some e) : event = some e := by
  have hknows := h.knows i
  rw [hi] at hknows
  cases event with
  | none =>
    have hnone := (hknows.1 rfl).2
    rw [he] at hnone
    cases hnone
  | some e' =>
    have htag : e'.tag = tag := hknows.2 e' rfl
    have hnot : s.shared.pool.getEvent e'.tag ≠ none := by simp [htag, he]
    rcases h.held i tag e' (by simp [hi]) with hpool | hclosed | ⟨j, hj⟩
    · exact hpool.symm.trans he
    · exact absurd (h.closed_gone e' hclosed) hnot
    · -- Another thread closes the event, so its tag is no longer in the pool.
      exact absurd ((h.knows j).getEvent_of_closes hj) hnot

/-- What a step of a thread changes, as far as the invariant of the runs is concerned. -/
structure Effect (d : Ends) (r : EndRequest) (d' : Ends) (r' : EndRequest) : Prop where
  getEvent : ∀ tag e, d'.pool.getEvent tag = some e → d.pool.getEvent tag = some e
  /-- An event that leaves the pool is closed next. -/
  removed : ∀ tag e, d.pool.getEvent tag = some e →
    d'.pool.getEvent tag = some e ∨ r'.Closes e
  closed_mono : ∀ e ∈ d.closed, e ∈ d'.closed
  closed : ∀ e ∈ d'.closed, e ∈ d.closed ∨ r.Closes e
  closes : ∀ e, r.Closes e → e ∈ d'.closed
  finished : ∀ e ∈ d'.finished, e ∈ d'.closed
  knows : r'.Knows d'
  holds : ∀ tag e, r'.Holds tag e → r.Holds tag e ∨ d.pool.getEvent tag = some e

/-- A step of a request keeps the account. -/
theorem Accounted.effect (h : Accounted s)
    (hs : eventEnds.step s.shared (s.thread i) a = some (d', r')) :
    Effect s.shared (s.thread i) d' r' := by
  cases (eventEnds_step h.keyed (h.knows i) hs).2 with
  | same hd hsame =>
    obtain ⟨hknows, hnot, hnot', hholds, -⟩ := hsame
    subst hd
    exact ⟨fun _ _ => id, fun _ _ => .inl, fun _ => id, fun _ => .inl,
      fun e he => absurd he (hnot e), h.finished_closed, hknows, hholds⟩
  | remove job tag event hi ha hstop hd hr' =>
    subst hd hr'
    have hget : ∀ tag', (s.shared.pool.removeEvent tag).1.getEvent tag' =
        if tag' = tag then none else s.shared.pool.getEvent tag' :=
      fun tag' => EventPool.getEvent_removeEvent
    have hknows := h.knows i
    rw [hi] at hknows
    refine ⟨fun tag' e he => ?_, fun tag' e he => ?_, fun _ => id, fun _ => .inl,
      fun e he => ?_, h.finished_closed, fun e he => ?_, fun _ _ => False.elim⟩
    · change (s.shared.pool.removeEvent tag).1.getEvent tag' = some e at he
      rw [hget] at he
      split at he
      · cases he
      · exact he
    -- An event that is no longer in the pool is the one that the request has in hand.
    · show (s.shared.pool.removeEvent tag).1.getEvent tag' = some e ∨ event = some e
      rw [hget]
      split
      · next heq => exact .inr (h.event_eq hi (heq ▸ he))
      · exact .inl he
    · rw [hi] at he
      exact he.elim
    · show (s.shared.pool.removeEvent tag).1.getEvent e.tag = none
      rw [hget, if_pos (hknows.2 e he)]
  | close job e hi hd hr' =>
    subst hd
    have hsub : ∀ e' ∈ s.shared.closed, e' ∈ e :: s.shared.closed :=
      fun e' => List.mem_cons_of_mem e
    refine ⟨fun _ _ => id, fun _ _ => .inl, hsub, fun e' he' => ?_, fun e' he' => ?_,
      fun e' he' => hsub e' (h.finished_closed e' he'), ?_, ?_⟩
    -- What is closed now was closed before, or was being closed by this request.
    · rw [hi]
      rcases List.mem_cons.mp he' with rfl | he'
      · exact .inr rfl
      · exact .inl he'
    · rw [hi] at he'
      cases he'
      exact List.mem_cons_self
    · rcases hr' with rfl | ⟨err, rfl⟩
      · exact List.mem_cons_self
      · trivial
    · rcases hr' with rfl | ⟨err, rfl⟩ <;> exact fun _ _ => False.elim
  | nilCall job hi hd hr' =>
    subst hd hr'
    refine ⟨fun _ _ => id, fun _ _ => .inl, fun _ => id, fun _ => .inl, fun e he => ?_,
      h.finished_closed, trivial, fun _ _ => False.elim⟩
    rw [hi] at he
    cases he
  | finish e hi hd hr' =>
    subst hd hr'
    have hknows := h.knows i
    rw [hi] at hknows ⊢
    refine ⟨fun _ _ => id, fun _ _ => .inl, fun _ => id, fun _ => .inl, fun _ => False.elim,
      fun e' he' => ?_, trivial, fun _ _ => False.elim⟩
    rcases List.mem_cons.mp he' with rfl | he'
    · exact hknows
    · exact h.finished_closed e' he'

/-- Each step keeps the invariant of the runs. -/
theorem Accounted.step (h : Accounted s) (hs : eventEnds.threads.step s (i, a) = some t) :
    Accounted t := by
  -- `Effect` says what the step did to the request; the others are where they were.
  obtain ⟨hi, hothers⟩ := Program.threads_step_self hs
  have heffect := h.effect hi
  have hnone : ∀ tag, s.shared.pool.getEvent tag = none →
      t.shared.pool.getEvent tag = none := by
    intro tag htag
    rw [Option.eq_none_iff_forall_ne_some] at htag ⊢
    exact fun e he => htag e (heffect.getEvent tag e he)
  refine ⟨fun tag e he => h.keyed tag e (heffect.getEvent tag e he), fun e he => ?_,
    heffect.finished, fun j => ?_, fun j tag e hj => ?_⟩
  -- An event that is closed is not in the pool any more.
  · refine hnone e.tag ?_
    rcases heffect.closed e he with he | he
    · exact h.closed_gone e he
    · exact (h.knows i).getEvent_of_closes he
  · by_cases heq : j = i
    · rw [heq]
      exact heffect.knows
    · rw [hothers j heq]
      exact (h.knows j).mono hnone heffect.closed_mono
  · -- The event was in hand before, or `GetEvent` has just returned it.
    have hbefore : s.shared.pool.getEvent tag = some e ∨ e ∈ s.shared.closed ∨
        ∃ k, (s.thread k).Closes e := by
      by_cases heq : j = i
      · rw [heq] at hj
        rcases heffect.holds tag e hj with hj | hget
        · exact h.held i tag e hj
        · exact .inl hget
      · rw [hothers j heq] at hj
        exact h.held j tag e hj
    rcases hbefore with hget | hclosed | ⟨k, hk⟩
    · rcases heffect.removed tag e hget with hget | hcloses
      · exact .inl hget
      · exact .inr (.inr ⟨i, hcloses⟩)
    · exact .inr (.inl (heffect.closed_mono e hclosed))
    · by_cases heq : k = i
      · exact .inr (.inl (heffect.closes e (heq ▸ hk)))
      · exact .inr (.inr ⟨k, (hothers k heq).symm ▸ hk⟩)

/-- What `Single` asks of the thread of a step, and of its effect on the others. -/
theorem Single.of_thread (h : Single s) (hothers : ∀ j, j ≠ i → t.thread j = s.thread j)
    (hnodup : t.shared.closed.Nodup) (hnil : t.shared.nilCall = false)
    (hself : ¬ (t.thread i).HasNil)
    (hcloses : ∀ e, (t.thread i).Closes e →
      e ∉ t.shared.closed ∧ ∀ j, j ≠ i → ¬ (s.thread j).Closes e)
    (hclosed : ∀ j e, j ≠ i → (s.thread j).Closes e → e ∉ t.shared.closed) : Single t := by
  -- Thread `i` has moved, and the others are where they were.
  refine ⟨hnodup, hnil, fun j => ?_, fun j e hj => ?_, fun j k e hjk hj hk => ?_⟩
  · by_cases heq : j = i
    · rw [heq]
      exact hself
    · rw [hothers j heq]
      exact h.no_nil j
  · by_cases heq : j = i
    · rw [heq] at hj
      exact (hcloses e hj).1
    · rw [hothers j heq] at hj
      exact hclosed j e heq hj
  · by_cases heq : j = i
    · have hne : k ≠ i := fun hk => hjk (heq.trans hk.symm)
      rw [heq] at hj
      rw [hothers k hne] at hk
      exact (hcloses e hj).2 k hne hk
    · rw [hothers j heq] at hj
      by_cases heq' : k = i
      · rw [heq'] at hk
        exact (hcloses e hk).2 j heq hj
      · rw [hothers k heq'] at hk
        exact h.apart j k e hjk hj hk

/-- A step that meets the condition gives no event to two threads. -/
theorem Single.step (h : Single s) (hacc : Accounted s)
    (hfinds : FindsEvents s.shared (s.thread i) a)
    (hs : eventEnds.threads.step s (i, a) = some t) : Single t := by
  obtain ⟨hi, hothers⟩ := Program.threads_step_self hs
  obtain ⟨hnil, hchange⟩ := eventEnds_step hacc.keyed (hacc.knows i) hi
  cases hchange with
  | same hd hsame =>
    obtain ⟨-, -, hnot', -, hiff⟩ := hsame
    refine h.of_thread hothers (hd ▸ h.nodup) (hd ▸ hnil) ?_
      (fun e he => absurd he (hnot' e)) fun j e _ hj => hd ▸ h.not_closed j e hj
    rw [hiff]
    exact fun hor => hor.elim (h.no_nil i) fun hnot => hnot hfinds
  | remove job tag event hr ha hstop hd hr' =>
    subst ha
    have hget : s.shared.pool.getEvent tag ≠ none := by
      rw [hr] at hfinds
      cases job with
      | stopEvent => exact hstop rfl
      | closeEvent => exact hfinds
    obtain ⟨e, he⟩ := Option.ne_none_iff_exists'.mp hget
    have heq : event = some e := hacc.event_eq hr he
    have htag : e.tag = tag := hacc.keyed tag e he
    have hclosed : t.shared.closed = s.shared.closed := by rw [hd]
    refine h.of_thread hothers (hclosed ▸ h.nodup) (by rw [hd]; exact hnil) (by simp [hr', heq])
      (fun e' he' => ?_) fun j e' _ hj => hclosed ▸ h.not_closed j e' hj
    rw [hr', heq] at he'
    cases he'
    -- The event is still in the pool, so it is neither closed nor about to be.
    refine ⟨fun hmem => ?_, fun j _ hj => ?_⟩
    · have hgone := hacc.closed_gone e (hclosed ▸ hmem)
      rw [htag, he] at hgone
      cases hgone
    · have hgone := (hacc.knows j).getEvent_of_closes hj
      rw [htag, he] at hgone
      cases hgone
  | close job e hr hd hr' =>
    have hcloses : (s.thread i).Closes e := by simp [hr]
    have hclosed : t.shared.closed = e :: s.shared.closed := by rw [hd]
    refine h.of_thread hothers ?_ (by rw [hd]; exact hnil) ?_ ?_ ?_
    · rw [hclosed]
      exact List.nodup_cons.mpr ⟨h.not_closed i e hcloses, h.nodup⟩
    · rcases hr' with hr' | ⟨err, hr'⟩ <;> simp [hr']
    · rcases hr' with hr' | ⟨err, hr'⟩ <;> simp [hr']
    · intro j e' hj hcloses'
      rw [hclosed, List.mem_cons, not_or]
      refine ⟨fun heq => ?_, h.not_closed j e' hcloses'⟩
      exact h.apart j i e hj (heq ▸ hcloses') hcloses
  | nilCall job hr => exact absurd (by simp [hr]) (h.no_nil i)
  | finish e hr hd hr' =>
    have hclosed : t.shared.closed = s.shared.closed := by rw [hd]
    exact h.of_thread hothers (hclosed ▸ h.nodup) (by rw [hd]; exact hnil) (by simp [hr'])
      (by simp [hr']) fun j e' _ hj => hclosed ▸ h.not_closed j e' hj

/-- After a step that does not meet the condition, two threads have one event, or a thread goes
on with a nil event. -/
theorem not_single_step (hacc : Accounted s) (hnot : ¬ FindsEvents s.shared (s.thread i) a)
    (hs : eventEnds.threads.step s (i, a) = some t) : ¬ Single t := by
  obtain ⟨hi, hothers⟩ := Program.threads_step_self hs
  intro h
  -- Where the condition fails, a look-up finds nothing, and a removal closes what another thread
  -- closes too.
  cases (eventEnds_step hacc.keyed (hacc.knows i) hi).2 with
  | same _ hsame => exact h.no_nil i (hsame.2.2.2.2.mpr (.inr hnot))
  | remove job tag event hr ha hstop hd hr' =>
    subst ha
    have hnone : s.shared.pool.getEvent tag = none := by
      rw [hr] at hnot
      cases job with
      | stopEvent => exact absurd trivial hnot
      | closeEvent => exact not_not.mp hnot
    cases event with
    | none => exact h.no_nil i (by simp [hr'])
    | some e =>
      have hcloses : (t.thread i).Closes e := by simp [hr']
      rcases hacc.held i tag e (by simp [hr]) with hget | hclosed | ⟨j, hj⟩
      · rw [hnone] at hget
        cases hget
      · exact h.not_closed i e hcloses (by rw [hd]; exact hclosed)
      · have hne : j ≠ i := by
          rintro rfl
          rw [hr] at hj
          exact hj
        exact h.apart i j e hne.symm hcloses ((hothers j hne).symm ▸ hj)
  | close _ _ _ _ _ hfinds => exact hnot hfinds
  | nilCall job _ hd =>
    have hcall := h.no_nil_call
    rw [hd] at hcall
    cases hcall
  | finish _ _ _ _ hfinds => exact hnot hfinds

/-- What was lost before a step is lost after it. -/
theorem Single.of_step (hacc : Accounted s) (hs : eventEnds.threads.step s (i, a) = some t)
    (h : Single t) : Single s := by
  obtain ⟨hi, hothers⟩ := Program.threads_step_self hs
  have heffect := hacc.effect hi
  obtain ⟨hnil, hchange⟩ := eventEnds_step hacc.keyed (hacc.knows i) hi
  -- The event that the step closes was not closed before, since it is closed once after it.
  have hclosed : s.shared.closed.Nodup ∧ ∀ e, (s.thread i).Closes e → e ∉ s.shared.closed := by
    have hnodup := h.nodup
    cases hchange with
    | same hd hsame => exact ⟨hd ▸ hnodup, fun e he => absurd he (hsame.2.1 e)⟩
    | remove _ _ _ hr _ _ hd =>
      rw [hd] at hnodup
      exact ⟨hnodup, by simp [hr]⟩
    | close job e hr hd =>
      rw [hd] at hnodup
      obtain ⟨hmem, hnodup⟩ := List.nodup_cons.mp hnodup
      refine ⟨hnodup, fun e' he' => ?_⟩
      rw [hr] at he'
      cases he'
      exact hmem
    | nilCall _ hr hd =>
      rw [hd] at hnodup
      exact ⟨hnodup, by simp [hr]⟩
    | finish _ hr hd =>
      rw [hd] at hnodup
      exact ⟨hnodup, by simp [hr]⟩
  -- A nil event that the step had in hand would be in hand after it, or called.
  have hnot_nil : ¬ (s.thread i).HasNil := by
    intro hhas
    cases hchange with
    | same _ hsame => exact h.no_nil i (hsame.2.2.2.2.mpr (.inl hhas))
    | remove job tag event hr _ _ _ hr' =>
      rw [hr] at hhas
      exact h.no_nil i (hr'.symm ▸ hhas)
    | close _ _ hr => simp [hr] at hhas
    | nilCall _ _ hd =>
      have hcall := h.no_nil_call
      rw [hd] at hcall
      cases hcall
    | finish _ hr => simp [hr] at hhas
  refine ⟨hclosed.1, hnil, fun j => ?_, fun j e hj => ?_, fun j k e hjk hj hk => ?_⟩
  · by_cases heq : j = i
    · rw [heq]
      exact hnot_nil
    · rw [← hothers j heq]
      exact h.no_nil j
  · by_cases heq : j = i
    · exact hclosed.2 e (heq ▸ hj)
    · rw [← hothers j heq] at hj
      exact fun hmem => h.not_closed j e hj (heffect.closed_mono e hmem)
  -- Two requests that close the same event: one of them is that of the step, or both stay.
  · by_cases heq : j = i
    · have hne : k ≠ i := fun hk => hjk (heq.trans hk.symm)
      rw [← hothers k hne] at hk
      exact h.not_closed k e hk (heffect.closes e (heq ▸ hj))
    · rw [← hothers j heq] at hj
      by_cases heq' : k = i
      · exact h.not_closed j e hj (heffect.closes e (heq' ▸ hk))
      · rw [← hothers k heq'] at hk
        exact h.apart j k e hjk hj hk

/-- At first nothing is closed. -/
theorem accounted_init (hs : eventEnds.threads.init s) : Accounted s := by
  obtain ⟨⟨hkeyed, hclosed, hfinished, -⟩, hthread⟩ := hs
  refine ⟨hkeyed, ?_, ?_, fun i => ?_, fun i tag e hi => ?_⟩
  · rw [hclosed]
    exact fun e he => absurd he List.not_mem_nil
  · rw [hfinished]
    exact fun e he => absurd he List.not_mem_nil
  · rw [hthread]
    trivial
  · rw [hthread] at hi
    exact hi.elim

/-- At first each tag has one event. -/
theorem single_init (hs : eventEnds.threads.init s) : Single s := by
  obtain ⟨⟨-, hclosed, -, hnil⟩, hthread⟩ := hs
  refine ⟨?_, hnil, fun i => ?_, fun i e hi => ?_, fun i j e _ hi => ?_⟩
  · rw [hclosed]
    exact List.nodup_nil
  · rw [hthread]
    exact id
  · rw [hthread] at hi
    exact hi.elim
  · rw [hthread] at hi
    exact hi.elim

/-- A run that ends in this state gave no event to two threads if and only if all its steps met
the condition. -/
theorem single_iff_allSteps (hs : eventEnds.threads.init s) {as : List (Nat × EndStep)}
    (hrun : eventEnds.threads.run s as = some t) :
    Single t ↔ eventEnds.threads.AllSteps
      (fun s a => FindsEvents s.shared (s.thread a.1) a.2) s as := by
  have hlost : ¬ ¬ Single t ↔ eventEnds.threads.AllSteps
      (fun s a => FindsEvents s.shared (s.thread a.1) a.2) s as :=
    Machine.not_lost_iff_allSteps (I := Accounted) (L := fun s => ¬ Single s)
    (fun s a t h hstep => h.step hstep)
    (fun s a t hacc h hok hstep => not_not.mpr ((not_not.mp h).step hacc hok hstep))
    (fun s a t hacc hnot hstep => not_single_step hacc hnot hstep)
    (fun s a t hacc hnot hstep => fun h => hnot (h.of_step hacc hstep))
    (accounted_init hs) (not_not.mpr (single_init hs)) hrun
  rwa [not_not] at hlost

end Ends

/-- The threads of a run are at their ends. -/
def AllEnded (s : Threads Ends EndRequest) : Prop := ∀ i, (s.thread i).Ended

/-- When each closer finds its event in `GetEvent` and in `RemoveEvent`, the run is safe: no event
is closed twice, an event is finished only after it was closed, and no method is called on a nil
event. A run that goes on until all threads have ended is safe only then. -/
theorem eventEnds_safe_iff (s : Threads Ends EndRequest) (hs : eventEnds.threads.init s)
    (as : List (Nat × EndStep)) :
    (eventEnds.threads.AllSteps (fun s a => FindsEvents s.shared (s.thread a.1) a.2) s as →
      eventEnds.threads.AllStates (fun s => s.shared.Safe) s as) ∧
    ∀ t, eventEnds.threads.run s as = some t → AllEnded t →
      eventEnds.threads.AllStates (fun s => s.shared.Safe) s as →
      eventEnds.threads.AllSteps (fun s a => FindsEvents s.shared (s.thread a.1) a.2) s as := by
  constructor
  · intro hsteps
    refine Machine.AllSteps.allStates (I := fun s => Ends.Accounted s ∧ Ends.Single s)
      (fun s h => ⟨h.2.nodup, h.1.finished_closed, h.2.no_nil_call⟩) ?_
      ⟨Ends.accounted_init hs, Ends.single_init hs⟩ hsteps
    exact fun s a t h hok hstep => ⟨h.1.step hstep, h.2.step h.1 hok hstep⟩
  · intro t hrun hended hsafe
    obtain ⟨hnodup, -, hnil⟩ := Machine.allStates_iff.mp hsafe as t List.prefix_rfl hrun
    -- At the end no thread has an event in hand any more.
    have hthread : ∀ i, (∀ e, ¬ (t.thread i).Closes e) ∧ ¬ (t.thread i).HasNil := by
      intro i
      have hi := hended i
      revert hi
      cases t.thread i <;> simp [EndRequest.Ended]
    refine (Ends.single_iff_allSteps hs hrun).mp ⟨hnodup, hnil, fun i => (hthread i).2, ?_, ?_⟩
    · exact fun i e hi => absurd hi ((hthread i).1 e)
    · exact fun i j e _ hi => absurd hi ((hthread i).1 e)

/-- A pool with one overdue event. -/
def oneOverdue : Threads Ends EndRequest where
  shared :=
    { pool := (newEventPool "ntp-event.dk").addEvent "demo" demoEvent, closed := []
      finished := [], nilCall := false }
  thread _ := .idle

/-- The example starts with one overdue event. -/
theorem oneOverdue_init : eventEnds.threads.init oneOverdue :=
  ⟨⟨GoMap.keyed_empty.set rfl, rfl, rfl, rfl⟩, rfl⟩

/-- The steps of a `StopEvent` without errors. -/
def stopDemo (i : Nat) : List (Nat × EndStep) :=
  [(i, .getEventStatus operator "demo" (.ok running)), (i, .getEvent), (i, .setEventStatus none),
    (i, .removeEvent), (i, .close none), (i, .finish)]

/-- A closer ends the event, and a `StopEvent` that comes later does not find it. -/
theorem eventEnds_safe_sequential :
    eventEnds.threads.AllStates (fun s => s.shared.Safe) oneOverdue
      ([(0, .getAllEvents demoEvent), (0, .isDelayed 12), (0, .getEvent),
        (0, .setEventStatus none), (0, .removeEvent), (0, .close none), (0, .finish)] ++
        stopDemo 1) :=
  (eventEnds_safe_iff oneOverdue oneOverdue_init _).1 (by decide)

/-- A `StopEvent` ends the event after a closer has taken it from `GetAllEvents`. -/
def overtakenCloser : List (Nat × EndStep) :=
  [(0, .getAllEvents demoEvent), (0, .isDelayed 12)] ++ stopDemo 1 ++
    [(0, .getEvent), (0, .setEventStatus none), (0, .removeEvent), (0, .close none)]

/-- Not every run of requests that end events is safe. -/
theorem eventEnds_not_safe :
    ¬ ∀ (s : Threads Ends EndRequest) (as : List (Nat × EndStep)),
      eventEnds.threads.init s →
      eventEnds.threads.AllStates (fun s => s.shared.Safe) s as := by
  intro h
  obtain ⟨t, hcall, -, -, hnil⟩ := (h oneOverdue overtakenCloser oneOverdue_init).of_run
    (fun s => s.shared.nilCall) true (by decide)
  rw [hcall] at hnil
  cases hnil

end Haaukins.Daemon
