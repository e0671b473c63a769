import Haaukins.Lab.HubStock
import Haaukins.Guacamole.Event

/-!
# `Haaukins.Amigo.LabRequests`: the requests that take a lab (`svcs/amigo/amigo.go`)

`POST /signup`, `GET /guaclogin` and `POST /vpn/status` call the hook `reghook`, which takes a
lab from `hub.Queue()` and runs `AssignLab`. Any number of requests run at once: a request is
a number, and each step of the machine is one step of one request, or of the hub.

* The test of `IsLabAssigned`, the receive, the calls of `AssignLab` to other services, the
  entry into the lab map and the flag are separate steps. A signup makes no test.
* No step gives a lab back to the queue.

`LabRequests.Kept` is the claim on the labs that were received. It holds at the end of a run
exactly when no `AssignLab` failed, and each one entered its lab for a team that had no entry
in the lab map (`LosesNone`).
-/

set_option autoImplicit false

namespace Haaukins.Amigo

open Store Guacamole Lab

/-- Where a request is. -/
inductive Request where
  | idle
  /-- `IsLabAssigned` is tested next. -/
  | testing (team : String)
  /-- At the `select` of `reghook`. -/
  | hooked (team : String)
  /-- A lab was received, and the calls of `AssignLab` to other services are next. -/
  | connecting (team : String) (lab : Nat)
  /-- `ev.labs[t.ID()] = lab` is next. -/
  | recording (team : String) (lab : Nat)
  /-- `t.CorrectedAssignedLab()` is next. -/
  | flagging (team : String)
  | finished
  deriving DecidableEq

/-- The lab that a request has received and not yet entered. -/
def Request.lab : Request → Option Nat
  | .connecting _ l | .recording _ l => some l
  | _ => none

/-- The labs of the requests after request `i` has moved to `r`. -/
theorem Request.lab_update {request : Nat → Request} {i j : Nat} {r : Request} {l : Nat} :
    (Function.update request i r j).lab = some l ↔
      (j = i ∧ r.lab = some l) ∨ (j ≠ i ∧ (request j).lab = some l) := by
  rcases eq_or_ne j i with rfl | hne
  · simp
  · simp [hne]

/-- The hub, the event and the requests to its web application. -/
structure LabRequests (Tag : Type) where
  hub : Hub Tag
  ev : Event
  request : Nat → Request

/-- One step of the hub or of the request `i`. -/
inductive RequestAction where
  | hub (a : HubAction)
  /-- `POST /signup`, up to its hook. `NewTeam` chooses the id. -/
  | signup (i : Nat) (id name : String) (db : Option String)
  /-- `GET /guaclogin` or `POST /vpn/status`, up to the lookup of the team. -/
  | login (i : Nat) (team : String)
  | test (i : Nat)
  /-- The hook receives the lab that `via` delivers. -/
  | receive (i : Nat) (via : HubAction)
  /-- The `default` of the hook: `ErrNoAvailableLabs`. -/
  | noLab (i : Nat)
  | connect (i : Nat) (calls : AssignCalls)
  | record (i : Nat)
  | flag (i : Nat)

variable {Tag : Type}

/-- The request `i` moves to `r`. -/
def LabRequests.move (s : LabRequests Tag) (i : Nat) (r : Request) (ev : Event) :
    LabRequests Tag :=
  { s with ev := ev, request := Function.update s.request i r }

/-- The requests of an event with this hub, whose labs have these subnets. -/
def labRequests [DecidableEq Tag] (conf : HubConf Tag) (labSubnet : Nat → String) :
    Machine (LabRequests Tag) RequestAction where
  init s := s.hub = Hub.new ∧ (∀ i, s.request i = .idle) ∧
    ∃ createdBy onlyVPN capacity vpnAddress store,
      s.ev = newEvent createdBy onlyVPN capacity vpnAddress store
  step s
    | .hub a =>
      if a.inner then ((newHub conf).step s.hub a).map fun hub => { s with hub := hub }
      else none
    | .signup i id name db =>
      match s.request i with
      | .idle =>
        match s.ev.signup (newTeam id name) db with
        | (ev, some _) => some (s.move i .finished ev)
        | (ev, none) => some (s.move i (.hooked id) ev)
      | _ => none
    | .login i team =>
      match s.request i with
      | .idle =>
        match s.ev.store.getTeamByID team with
        | .error _ => some (s.move i .finished s.ev)
        | .ok t => some (s.move i (.testing t.id) s.ev)
      | _ => none
    | .test i =>
      match s.request i with
      | .testing team =>
        -- The test and the hook are not one step, so two requests can pass the test.
        (s.ev.store.teams.get? team).map fun t =>
          s.move i (if t.isLabAssigned then .finished else .hooked team) s.ev
      | _ => none
    | .receive i via =>
      match s.request i with
      | .hooked team =>
        (s.hub.take conf via).map fun (l, hub) =>
          { s with hub := hub, request := Function.update s.request i (.connecting team l) }
      | _ => none
    | .noLab i =>
      match s.request i with
      | .hooked _ => if s.hub.queue = [] then some (s.move i .finished s.ev) else none
      | _ => none
    | .connect i calls =>
      match s.request i with
      | .connecting team l =>
        match s.ev.connect team (labSubnet l) calls with
        -- `AssignLab` returns its error, and nobody gives the lab back.
        | (ev, some _) => some (s.move i .finished ev)
        | (ev, none) => some (s.move i (.recording team l) ev)
      | _ => none
    | .record i =>
      match s.request i with
      | .recording team l => some (s.move i (.flagging team) (s.ev.recordLab team l))
      | _ => none
    | .flag i =>
      match s.request i with
      | .flagging team => some (s.move i .finished (s.ev.correctedAssignedLab team))
      | _ => none

namespace LabRequests

/-- All requests have finished. -/
def Finished (s : LabRequests Tag) : Prop := ∀ i, s.request i = .idle ∨ s.request i = .finished

/-- Each lab that was received is the entry of exactly one team, or is in the queue. -/
def Kept (s : LabRequests Tag) : Prop :=
  ∀ l ∈ s.hub.delivered, (∃! t, s.ev.labs.get? t = some l) ∨ l ∈ s.hub.queue

/-- A received lab is neither with a request nor in the lab map. -/
def Lost (s : LabRequests Tag) : Prop :=
  ∃ l ∈ s.hub.delivered, (∀ i, (s.request i).lab ≠ some l) ∧ ∀ t, s.ev.labs.get? t ≠ some l

/-- A delivered lab is with a request or recorded for a team. -/
theorem not_lost_iff {s : LabRequests Tag} : ¬ s.Lost ↔
    ∀ l ∈ s.hub.delivered, (∃ i, (s.request i).lab = some l) ∨ ∃ t, s.ev.labs.get? t = some l := by
  unfold Lost
  push Not
  refine forall₂_congr fun l _ => ?_
  rw [or_iff_not_imp_left, not_exists]

/-- No `AssignLab` fails after it got its lab, and none overwrites an entry of the lab map. -/
def LosesNone (s : LabRequests Tag) : RequestAction → Prop
  | .connect i calls => ∀ team l, s.request i = .connecting team l → calls.Succeeds s.ev
  | .record i => ∀ team l, s.request i = .recording team l → s.ev.labs.get? team = none
  | _ => True

instance decidableLosesNone (s : LabRequests Tag) : ∀ a, Decidable (s.LosesNone a)
  | .connect i calls =>
    match h : s.request i with
    | .connecting _ _ => decidable_of_iff (calls.Succeeds s.ev) (by simp [LosesNone, h])
    | .idle | .testing _ | .hooked _ | .recording _ _ | .flagging _ | .finished =>
      isTrue (by simp [LosesNone, h])
  | .record i =>
    match h : s.request i with
    | .recording team _ =>
      decidable_of_iff (s.ev.labs.get? team = none) (by simp [LosesNone, h])
    | .idle | .testing _ | .hooked _ | .connecting _ _ | .flagging _ | .finished =>
      isTrue (by simp [LosesNone, h])
  | .hub _ | .signup _ _ _ _ | .login _ _ | .test _ | .receive _ _ | .noLab _ | .flag _ =>
    isTrue trivial

/-- The invariant of the requests: a received lab is with one request or in one entry of the
lab map, and the hub does not offer it again. -/
structure Traced (conf : HubConf Tag) [DecidableEq Tag] (s : LabRequests Tag) : Prop where
  stocked : s.hub.Stocked conf
  delivered : ∀ l ∈ s.hub.delivered, l ∈ s.hub.registered ∧ l ∉ s.hub.offered
  held : ∀ i l, (s.request i).lab = some l → l ∈ s.hub.delivered
  once : ∀ i j l, (s.request i).lab = some l → (s.request j).lab = some l → i = j
  entered : ∀ t l, s.ev.labs.get? t = some l →
    l ∈ s.hub.delivered ∧ ∀ i, (s.request i).lab ≠ some l
  single : ∀ t t' l, s.ev.labs.get? t = some l → s.ev.labs.get? t' = some l → t = t'

variable [DecidableEq Tag] {conf : HubConf Tag} {labSubnet : Nat → String}
  {s s' : LabRequests Tag} {a : RequestAction}

/-- At the end, the labs that are not lost have one entry each. -/
theorem Traced.kept_iff (h : s.Traced conf) (hfinished : s.Finished) :
    s.Kept ↔ ¬ s.Lost := by
  have hnone : ∀ i l, (s.request i).lab ≠ some l := by
    intro i l
    rcases hfinished i with hi | hi <;> simp [hi, Request.lab]
  constructor
  · rintro hkept ⟨l, hl, -, hout⟩
    rcases hkept l hl with ⟨t, ht, -⟩ | hqueue
    · exact hout t ht
    · -- A received lab does not get back into the queue.
      refine (h.delivered l hl).2 ?_
      simp [Hub.offered, Hub.pipeline, hqueue]
  · intro hlost l hl
    have hentry : ∃ t, s.ev.labs.get? t = some l := by
      by_contra hno
      exact hlost ⟨l, hl, fun i => hnone i l, fun t ht => hno ⟨t, ht⟩⟩
    obtain ⟨t, ht⟩ := hentry
    exact .inl ⟨t, ht, fun t' ht' => h.single t' t l ht' ht⟩

/-- At first nothing is delivered. -/
theorem traced_init (hs : (labRequests conf labSubnet).init s) : s.Traced conf := by
  obtain ⟨hhub, hidle, createdBy, onlyVPN, capacity, vpnAddress, store, hev⟩ := hs
  refine ⟨hhub ▸ Hub.stocked_new, ?_, ?_, ?_, ?_, ?_⟩ <;>
    simp [hhub, hidle, hev, Hub.new, Request.lab, newEvent]

/-- So nothing is lost. -/
theorem not_lost_init (hs : (labRequests conf labSubnet).init s) : ¬ s.Lost := by
  rintro ⟨l, hl, -⟩
  simp [hs.1, Hub.new] at hl

/-! ### What a step does to the labs -/

/-- The effect of a step, as far as the labs are concerned. -/
inductive Change (conf : HubConf Tag) (s : LabRequests Tag) (a : RequestAction)
    (s' : LabRequests Tag) : Prop where
  | hub (b : HubAction) (hub : Hub Tag) (hb : b.inner = true)
      (hstep : (newHub conf).step s.hub b = some hub) (heq : s' = { s with hub := hub })
      (hok : s.LosesNone a)
  | receive (i : Nat) (team : String) (l : Nat) (via : HubAction) (hub : Hub Tag)
      (hi : s.request i = .hooked team) (htake : s.hub.take conf via = some (l, hub))
      (heq : s' = { s with
        hub := hub, request := Function.update s.request i (.connecting team l) })
      (hok : s.LosesNone a)
  /-- The request keeps its lab, or has none. -/
  | move (i : Nat) (r : Request) (ev : Event) (hlabs : ev.labs = s.ev.labs)
      (hr : r.lab = (s.request i).lab) (heq : s' = s.move i r ev) (hok : s.LosesNone a)
  /-- `AssignLab` fails. -/
  | fail (i : Nat) (team : String) (l : Nat) (ev : Event)
      (hi : s.request i = .connecting team l) (hlabs : ev.labs = s.ev.labs)
      (heq : s' = s.move i .finished ev) (hnot : ¬ s.LosesNone a)
  | record (i : Nat) (team : String) (l : Nat) (ha : a = .record i)
      (hi : s.request i = .recording team l)
      (heq : s' = s.move i (.flagging team) (s.ev.recordLab team l))

/-- Each step is one of the changes. -/
theorem step_change (hs : (labRequests conf labSubnet).step s a = some s') :
    Change conf s a s' := by
  cases a with
  | hub b =>
    simp only [labRequests] at hs
    split at hs
    · next hb =>
      obtain ⟨hub, hstep, rfl⟩ := Option.map_eq_some_iff.mp hs
      exact .hub b hub hb hstep rfl trivial
    · cases hs
  | signup i id name db =>
    simp only [labRequests] at hs
    split at hs
    · next hi =>
      obtain ⟨es, hev, -⟩ := Event.signup_eq s.ev (newTeam id name) db
      have hlabs : (s.ev.signup (newTeam id name) db).1.labs = s.ev.labs := by rw [hev]
      split at hs
      · next h =>
        rw [h] at hlabs
        cases hs
        exact .move i _ _ hlabs (by simp [hi, Request.lab]) rfl trivial
      · next h =>
        rw [h] at hlabs
        cases hs
        exact .move i _ _ hlabs (by simp [hi, Request.lab]) rfl trivial
    · cases hs
  | login i team =>
    simp only [labRequests] at hs
    split at hs
    · next hi =>
      split at hs
      · cases hs
        exact .move i _ _ rfl (by simp [hi, Request.lab]) rfl trivial
      · cases hs
        exact .move i _ _ rfl (by simp [hi, Request.lab]) rfl trivial
    · cases hs
  | test i =>
    simp only [labRequests] at hs
    split at hs
    · next hi =>
      obtain ⟨t, -, rfl⟩ := Option.map_eq_some_iff.mp hs
      refine .move i _ _ rfl ?_ rfl trivial
      rw [hi]
      -- Whether the test passes or not, the request holds no lab.
      split <;> rfl
    · cases hs
  | receive i via =>
    simp only [labRequests] at hs
    split at hs
    · next team hi =>
      obtain ⟨⟨l, hub⟩, htake, rfl⟩ := Option.map_eq_some_iff.mp hs
      exact .receive i team l via hub hi htake rfl trivial
    · cases hs
  | noLab i =>
    simp only [labRequests] at hs
    split at hs
    · next hi =>
      split at hs
      · cases hs
        exact .move i _ _ rfl (by simp [hi, Request.lab]) rfl trivial
      · cases hs
    · cases hs
  | connect i calls =>
    simp only [labRequests] at hs
    split at hs
    · next team l hi =>
      have hlabs := Event.connect_labs s.ev team (labSubnet l) calls
      have hiff := Event.connect_eq_none_iff s.ev team (labSubnet l) calls
      split at hs
      · next h =>
        rw [h] at hlabs hiff
        cases hs
        refine .fail i team l _ hi hlabs rfl fun hok => ?_
        cases hiff.mpr (hok team l hi)
      · next h =>
        rw [h] at hlabs hiff
        cases hs
        exact .move i _ _ hlabs (by simp [hi, Request.lab]) rfl fun _ _ _ => hiff.mp rfl
    · cases hs
  | record i =>
    simp only [labRequests] at hs
    split at hs
    · next team l hi =>
      cases hs
      exact .record i team l rfl hi rfl
    · cases hs
  | flag i =>
    simp only [labRequests] at hs
    split at hs
    · next team hi =>
      cases hs
      exact .move i .finished (s.ev.correctedAssignedLab team) rfl (by simp [hi, Request.lab])
        rfl trivial
    · cases hs

/-- A request that keeps its lab or gives it up changes nothing else. -/
theorem Traced.move (h : s.Traced conf) {i : Nat} {r : Request} {ev : Event}
    (hlabs : ev.labs = s.ev.labs) (hr : r.lab = none ∨ r.lab = (s.request i).lab) :
    (s.move i r ev).Traced conf := by
  have hold : ∀ j l, (Function.update s.request i r j).lab = some l →
      (s.request j).lab = some l := by
    intro j l hl
    rcases Request.lab_update.mp hl with ⟨rfl, hnow⟩ | ⟨-, hsame⟩
    · rcases hr with hnone | hsame
      · cases hnone.symm.trans hnow
      · exact hsame ▸ hnow
    · exact hsame
  refine ⟨h.stocked, h.delivered, ?_, ?_, ?_, ?_⟩
  · exact fun j l hl => h.held j l (hold j l hl)
  · exact fun j k l hj hk => h.once j k l (hold j l hj) (hold k l hk)
  · intro t l hl
    obtain ⟨hdelivered, hout⟩ := h.entered t l (hlabs ▸ hl)
    exact ⟨hdelivered, fun j hj => hout j (hold j l hj)⟩
  · simpa only [LabRequests.move, hlabs] using h.single

/-- The lab of a request becomes the entry of its team. -/
theorem Traced.record (h : s.Traced conf) {i l : Nat} {team : String}
    (hi : s.request i = .recording team l) :
    (s.move i (.flagging team) (s.ev.recordLab team l)).Traced conf := by
  have hlab : (s.request i).lab = some l := by rw [hi]; rfl
  -- The request has given its lab to the map, and the others have what they had.
  have hold : ∀ j l', (Function.update s.request i (.flagging team) j).lab = some l' →
      j ≠ i ∧ (s.request j).lab = some l' := by
    intro j l' hl
    rcases Request.lab_update.mp hl with ⟨-, hnow⟩ | hsame
    · cases hnow
    · exact hsame
  refine ⟨h.stocked, h.delivered, ?_, ?_, ?_, ?_⟩
  · exact fun j l' hl => h.held j l' (hold j l' hl).2
  · exact fun j k l' hj hk => h.once j k l' (hold j l' hj).2 (hold k l' hk).2
  · intro t l' hl
    simp only [LabRequests.move, Event.recordLab, GoMap.get?_set] at hl
    split at hl
    · cases hl
      exact ⟨h.held i l hlab, fun j hj => (hold j l hj).1 (h.once j i l (hold j l hj).2 hlab)⟩
    · obtain ⟨hdelivered, hout⟩ := h.entered t l' hl
      exact ⟨hdelivered, fun j hj => hout j (hold j l' hj).2⟩
  · intro t t' l' ht ht'
    simp only [LabRequests.move, Event.recordLab, GoMap.get?_set] at ht ht'
    split at ht <;> split at ht'
    · next heq heq' => exact heq.trans heq'.symm
    · -- The lab was with the request, so it is no entry of another team.
      cases ht
      exact absurd hlab ((h.entered t' l ht').2 i)
    · cases ht'
      exact absurd hlab ((h.entered t l ht).2 i)
    · exact h.single t t' l' ht ht'

/-- A received lab is new to the requests and to the lab map. -/
theorem Traced.receive (h : s.Traced conf) {i l : Nat} {team : String} {via : HubAction}
    {hub : Hub Tag} (htake : s.hub.take conf via = some (l, hub)) :
    Traced conf { s with
      hub := hub, request := Function.update s.request i (.connecting team l) } := by
  have htook := Hub.take_spec h.stocked htake
  have hnew : l ∉ s.hub.delivered := fun hl => (h.delivered l hl).2 htook.offered
  have hmem : ∀ l', l' ∈ hub.delivered ↔ l' ∈ s.hub.delivered ∨ l' = l := by
    simp [htook.delivered]
  -- The request has the new lab, and the others have what they had.
  have hlab : ∀ j l', (Function.update s.request i (.connecting team l) j).lab = some l' →
      (j = i ∧ l' = l) ∨ (s.request j).lab = some l' := by
    intro j l' hl
    rcases Request.lab_update.mp hl with ⟨rfl, hnow⟩ | ⟨-, hsame⟩
    · cases hnow
      exact .inl ⟨rfl, rfl⟩
    · exact .inr hsame
  refine ⟨htook.stocked, ?_, ?_, ?_, ?_, h.single⟩
  · intro l' hl'
    rw [htook.registered]
    rcases (hmem l').mp hl' with hl' | rfl
    · obtain ⟨hreg, hnot⟩ := h.delivered l' hl'
      exact ⟨hreg, fun hoffered => hnot (htook.others hoffered)⟩
    · exact ⟨h.stocked.mem_registered htook.offered, htook.taken⟩
  · intro j l' hl
    rcases hlab j l' hl with ⟨-, rfl⟩ | hsame
    · exact (hmem l').mpr (.inr rfl)
    · exact (hmem l').mpr (.inl (h.held j l' hsame))
  · intro j k l' hj hk
    rcases hlab j l' hj with ⟨hji, hjl⟩ | hj' <;> rcases hlab k l' hk with ⟨hki, hkl⟩ | hk'
    · exact hji.trans hki.symm
    · exact absurd (h.held k l' hk') (hjl ▸ hnew)
    · exact absurd (h.held j l' hj') (hkl ▸ hnew)
    · exact h.once j k l' hj' hk'
  · intro t l' hl
    obtain ⟨hdelivered, hout⟩ := h.entered t l' hl
    refine ⟨(hmem l').mpr (.inl hdelivered), fun j hj => ?_⟩
    rcases hlab j l' hj with ⟨-, rfl⟩ | hsame
    · exact hnew hdelivered
    · exact hout j hsame

/-- The inner steps of the hub deliver nothing. -/
theorem delivered_inner {b : HubAction} {hub : Hub Tag} (hb : b.inner = true)
    (hstep : (newHub conf).step s.hub b = some hub) : hub.delivered = s.hub.delivered := by
  rw [Hub.delivered_step hstep]
  cases b <;> simp [HubAction.inner] at hb <;> simp [HubAction.delivers]

/-- The hub alone leaves the received labs where they are. -/
theorem Traced.hub (h : s.Traced conf) {b : HubAction} {hub : Hub Tag} (hb : b.inner = true)
    (hstep : (newHub conf).step s.hub b = some hub) : Traced conf { s with hub := hub } := by
  have hupdate : ∀ l, b ≠ .update l := by
    rintro l rfl
    cases hb
  have hdelivered := delivered_inner hb hstep
  refine ⟨h.stocked.step hstep fun l heq => absurd heq (hupdate l), ?_, ?_, h.once, ?_, h.single⟩
  · simp only [hdelivered]
    intro l hl
    obtain ⟨hreg, hnot⟩ := h.delivered l hl
    exact ⟨Hub.registered_step hstep hreg,
      fun hl' => hnot (h.stocked.mem_offered hstep hreg (hupdate l) hl')⟩
  · simpa only [hdelivered] using h.held
  · simpa only [hdelivered] using h.entered

/-- Each step keeps the trace. -/
theorem Traced.step (h : s.Traced conf) (hs : (labRequests conf labSubnet).step s a = some s') :
    s'.Traced conf := by
  cases step_change hs with
  | hub b hub hb hstep heq _ =>
    subst heq
    exact h.hub hb hstep
  | receive i team l via hub hi htake heq _ =>
    subst heq
    exact h.receive htake
  | move i r ev hlabs hr heq _ =>
    subst heq
    exact h.move hlabs (.inr hr)
  | fail i team l ev hi hlabs heq _ =>
    subst heq
    exact h.move hlabs (.inl rfl)
  | record i team l _ hi heq =>
    subst heq
    exact h.record hi

/-! ### Losses -/

/-- No step brings a lost lab back. -/
theorem lost_step (h : s.Traced conf) (hlost : s.Lost)
    (hs : (labRequests conf labSubnet).step s a = some s') : s'.Lost := by
  obtain ⟨l, hl, hout, hnone⟩ := hlost
  cases step_change hs with
  | hub b hub hb hstep heq _ =>
    subst heq
    exact ⟨l, (delivered_inner hb hstep).symm ▸ hl, hout, hnone⟩
  | receive i team l' via hub hi htake heq _ =>
    subst heq
    have htook := Hub.take_spec h.stocked htake
    refine ⟨l, by simp [htook.delivered, hl], fun j hj => ?_, hnone⟩
    rcases Request.lab_update.mp hj with ⟨-, hnow⟩ | ⟨-, hsame⟩
    · -- The hub does not offer the lost lab any more.
      cases hnow
      exact (h.delivered l hl).2 htook.offered
    · exact hout j hsame
  | move i r ev hlabs hr heq _ =>
    subst heq
    refine ⟨l, hl, fun j hj => ?_, fun t => hlabs ▸ hnone t⟩
    -- Only the request of the step can hold another lab than before.
    rcases Request.lab_update.mp hj with ⟨rfl, hnow⟩ | ⟨-, hsame⟩
    · exact hout j (hr ▸ hnow)
    · exact hout j hsame
  | fail i team l' ev hi hlabs heq _ =>
    subst heq
    refine ⟨l, hl, fun j hj => ?_, fun t => hlabs ▸ hnone t⟩
    rcases Request.lab_update.mp hj with ⟨-, hnow⟩ | ⟨-, hsame⟩
    · cases hnow
    · exact hout j hsame
  | record i team l' _ hi heq =>
    subst heq
    refine ⟨l, hl, fun j hj => ?_, fun t ht => ?_⟩
    · rcases Request.lab_update.mp hj with ⟨-, hnow⟩ | ⟨-, hsame⟩
      · cases hnow
      · exact hout j hsame
    · simp only [LabRequests.move, Event.recordLab, GoMap.get?_set] at ht
      -- The map has a new entry, for the lab of the request, which still held it.
      split at ht
      · cases ht
        exact hout i (by rw [hi]; rfl)
      · exact hnone t ht

/-- A step that loses no lab keeps each received lab with a request or in the lab map. -/
theorem not_lost_step (hnot : ¬ s.Lost) (hok : s.LosesNone a)
    (hs : (labRequests conf labSubnet).step s a = some s') (h : s.Traced conf) : ¬ s'.Lost := by
  rw [not_lost_iff] at hnot ⊢
  cases step_change hs with
  | hub b hub hb hstep heq _ =>
    subst heq
    simpa only [delivered_inner hb hstep] using hnot
  | receive i team l' via hub hi htake heq _ =>
    subst heq
    have htook := Hub.take_spec h.stocked htake
    intro l hl
    simp only [htook.delivered, List.mem_append, List.mem_singleton] at hl
    rcases hl with hl | rfl
    -- The request `i` was waiting, so that it is not the one that holds `l`.
    · rcases hnot l hl with ⟨j, hj⟩ | hentry
      · refine .inl ⟨j, Request.lab_update.mpr (.inr ⟨?_, hj⟩)⟩
        rintro rfl
        simp [hi, Request.lab] at hj
      · exact .inr hentry
    · exact .inl ⟨i, Request.lab_update.mpr (.inl ⟨rfl, rfl⟩)⟩
  | move i r ev hlabs hr heq _ =>
    subst heq
    intro l hl
    rcases hnot l hl with ⟨j, hj⟩ | ⟨t, ht⟩
    · refine .inl ⟨j, Request.lab_update.mpr ?_⟩
      rcases eq_or_ne j i with rfl | hne
      · exact .inl ⟨rfl, hr.trans hj⟩
      · exact .inr ⟨hne, hj⟩
    · exact .inr ⟨t, (congrArg (·.get? t) hlabs).trans ht⟩
  | fail i team l' ev hi hlabs heq hfail => exact absurd hok hfail
  | record i team l' ha hi heq =>
    subst ha heq
    have hfree : s.ev.labs.get? team = none := hok team l' hi
    intro l hl
    simp only [LabRequests.move, Event.recordLab, GoMap.get?_set]
    rcases hnot l hl with ⟨j, hj⟩ | ⟨t, ht⟩
    · rcases eq_or_ne j i with rfl | hne
      · -- The request that had the lab makes it the entry of its team.
        have : l' = l := by simpa [hi, Request.lab] using hj
        exact .inr ⟨team, by simp [this]⟩
      · exact .inl ⟨j, Request.lab_update.mpr (.inr ⟨hne, hj⟩)⟩
    -- The entry that `l` has is not overwritten, since the team had none.
    · have hne : t ≠ team := by
        rintro rfl
        cases hfree.symm.trans ht
      exact .inr ⟨t, by simp [hne, ht]⟩

/-- Every other step loses a lab: the one of the failed `AssignLab`, or the one whose entry is
overwritten. -/
theorem lost_of_not_losesNone (h : s.Traced conf) (hnot : ¬ s.LosesNone a)
    (hs : (labRequests conf labSubnet).step s a = some s') : s'.Lost := by
  cases step_change hs with
  | hub b hub hb hstep heq hok => exact absurd hok hnot
  | receive i team l via hub hi htake heq hok => exact absurd hok hnot
  | move i r ev hlabs hr heq hok => exact absurd hok hnot
  | fail i team l ev hi hlabs heq _ =>
    subst heq
    have hlab : (s.request i).lab = some l := by rw [hi]; rfl
    refine ⟨l, h.held i l hlab, fun j hj => ?_, fun t ht => ?_⟩
    · rcases Request.lab_update.mp hj with ⟨-, hnow⟩ | ⟨hne, hsame⟩
      · cases hnow
      · exact hne (h.once j i l hsame hlab)
    · exact (h.entered t l (hlabs ▸ ht)).2 i hlab
  | record i team l ha hi heq =>
    subst ha heq
    have hlab : (s.request i).lab = some l := by rw [hi]; rfl
    obtain ⟨old, hold⟩ : ∃ old, s.ev.labs.get? team = some old := by
      by_contra hnone
      refine hnot fun team' l' hi' => ?_
      cases hi.symm.trans hi'
      exact Option.eq_none_iff_forall_ne_some.mpr fun old hold => hnone ⟨old, hold⟩
    -- The old lab of the team is overwritten, and no other entry has it.
    obtain ⟨hdelivered, hout⟩ := h.entered team old hold
    refine ⟨old, hdelivered, fun j hj => ?_, fun t ht => ?_⟩
    · rcases Request.lab_update.mp hj with ⟨-, hnow⟩ | ⟨-, hsame⟩
      · cases hnow
      · exact hout j hsame
    · simp only [LabRequests.move, Event.recordLab, GoMap.get?_set] at ht
      split at ht
      · cases ht
        exact hout i hlab
      · next hne => exact hne (h.single t team old ht hold)

end LabRequests

/-- When all requests have finished, each received lab is the entry of exactly one team or in
the queue if and only if no `AssignLab` of the run failed or overwrote an entry. -/
theorem labRequests_kept_iff [DecidableEq Tag] (conf : HubConf Tag) (labSubnet : Nat → String)
    (s₀ s : LabRequests Tag) (as : List RequestAction)
    (hs : (labRequests conf labSubnet).init s₀)
    (hrun : (labRequests conf labSubnet).run s₀ as = some s) (hfinished : s.Finished) :
    s.Kept ↔ (labRequests conf labSubnet).AllSteps LabRequests.LosesNone s₀ as := by
  have htraced : s.Traced conf :=
    Machine.run_invariant (I := LabRequests.Traced conf) (A := fun _ => True)
      (fun _ _ _ h _ hstep => h.step hstep) (LabRequests.traced_init hs) (fun _ _ => trivial) hrun
  rw [htraced.kept_iff hfinished]
  exact Machine.not_lost_iff_allSteps (I := LabRequests.Traced conf)
    (fun _ _ _ h hstep => h.step hstep)
    (fun _ _ _ h hnot hok hstep => LabRequests.not_lost_step hnot hok hstep h)
    (fun _ _ _ h hnot hstep => LabRequests.lost_of_not_losesNone h hnot hstep)
    (fun _ _ _ h hlost hstep => LabRequests.lost_step h hlost hstep)
    (LabRequests.traced_init hs) (LabRequests.not_lost_init hs) hrun

/-- The subnet of each lab. -/
def someSubnet (l : Nat) : String := "77.179." ++ l.repr

/-- A new event for ten teams, without VPN. -/
def newLabRequests : LabRequests Nat where
  hub := Hub.new
  ev := newEvent "tkp" noVPN 10 "" .new
  request := fun _ => .idle

/-- A new event may start. -/
theorem newLabRequests_init : (labRequests twoLabs someSubnet).init newLabRequests :=
  ⟨rfl, fun _ => rfl, _, _, _, _, _, rfl⟩

/-- The hub makes lab 0, and the hook of the signup of the team `"a"` receives it. -/
def firstSignup : List RequestAction :=
  [.hub (.sendFirst 0), .hub (.sendSecond 1), .hub (.wgAdd 0), .hub (.newLab 0),
    .hub (.start 0 0 true), .hub (.handLabs 0 0), .signup 0 "a" "kali" none,
    .receive 0 (.handQueue 0)]

/-- All requests have finished when request `0` went through these positions alone. -/
theorem finished_of_moves {s : LabRequests Nat} (moves : List Request)
    (hs : s.request =
      Function.update (moves.foldl (fun f r => Function.update f 0 r) fun _ => .idle) 0 .finished) :
    s.Finished := by
  have hidle : ∀ (f : Nat → Request) (i : Nat), i ≠ 0 →
      moves.foldl (fun f r => Function.update f 0 r) f i = f i := by
    intro f i hne
    clear hs
    induction moves generalizing f with
    | nil => rfl
    | cons r moves ih => simp [ih, hne]
  intro i
  rcases eq_or_ne i 0 with rfl | hne
  · simp [hs]
  · simp [hs, hne, hidle]

/-- The signup of one team that gets its lab. -/
theorem labRequests_kept_signup :
    ∃ s, (labRequests twoLabs someSubnet).run newLabRequests
        (firstSignup ++ [.connect 0 allSucceed, .record 0, .flag 0]) = some s ∧
      s.Finished ∧ s.Kept := by
  have hrun : ∃ s, (labRequests twoLabs someSubnet).run newLabRequests
      (firstSignup ++ [.connect 0 allSucceed, .record 0, .flag 0]) = some s := ⟨_, rfl⟩
  obtain ⟨s, hrun⟩ := hrun
  have hfinished : s.Finished := finished_of_moves
    [.hooked "a", .connecting "a" 0, .recording "a" 0, .flagging "a"]
    (Option.some.inj ((congrArg (·.map LabRequests.request) hrun).symm.trans rfl))
  exact ⟨s, hrun, hfinished, (labRequests_kept_iff twoLabs someSubnet _ s _ newLabRequests_init
    hrun hfinished).mpr (by decide)⟩

/-- The lab of a signup whose `AssignLab` fails in Guacamole is in no entry and in no queue. -/
theorem labRequests_not_kept :
    ¬ ∀ (s₀ s : LabRequests Nat) (as : List RequestAction),
      (labRequests twoLabs someSubnet).init s₀ →
      (labRequests twoLabs someSubnet).run s₀ as = some s → s.Finished → s.Kept := by
  intro h
  have hrun : ∃ s, (labRequests twoLabs someSubnet).run newLabRequests
      (firstSignup ++ [.connect 0
        { allSucceed with guac := ⟨some "unavailable", none, [none]⟩ }]) = some s := ⟨_, rfl⟩
  obtain ⟨s, hrun⟩ := hrun
  have hfinished : s.Finished := finished_of_moves [.hooked "a", .connecting "a" 0]
    (Option.some.inj ((congrArg (·.map LabRequests.request) hrun).symm.trans rfl))
  have hout : ((labRequests twoLabs someSubnet).run newLabRequests
      (firstSignup ++ [.connect 0
        { allSucceed with guac := ⟨some "unavailable", none, [none]⟩ }])).map
      (fun s => (s.hub.delivered, s.hub.queue, s.ev.labs)) = some ([0], [], ∅) := rfl
  rw [hrun] at hout
  obtain ⟨hdelivered, hqueue, hlabs⟩ : s.hub.delivered = [0] ∧ s.hub.queue = [] ∧
      s.ev.labs = ∅ := by simpa using hout
  have hkept := h _ s _ newLabRequests_init hrun hfinished 0 (by simp [hdelivered])
  simp [hqueue, hlabs] at hkept

end Haaukins.Amigo
