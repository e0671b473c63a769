import Haaukins.Lib.Machine
import Haaukins.Daemon.AddChallenge

/-!
# `Haaukins.Daemon.ServedChallenges`: what the frontend serves (`svcs/amigo/amigo.go`)

Each call of `Handler` makes a new `FrontendData` with the challenges of the event's creation.
`SuspendEvent` calls it when it resumes the event. `AddChallenge` submits the new challenges to
the `FrontendData` that it took in the middle of the request.

* A request is two steps here, so that a resume can come between them. `added` collects the
  child tags of the requests that returned nil.
* All `FrontendData`s begin in the array of `am.challenges`, whose capacity is `cap`. A client
  that registers with an old handler can make the old `FrontendData` write into this array where
  the latest one has its own updates (`Frontends.register`).
* `Shown` compares the latest `FrontendData` with the event: the challenges that it serves, with
  the updates that wait, are the initial ones and the added ones.
* `servedEvent_shown_iff` says when this holds along a run.
-/

set_option autoImplicit false

namespace Haaukins.Daemon

open Amigo (FrontendData Frontends newFrontendData)
open Exercise (Environment)
open Store (ChildrenChalConfig TeamExercises validateTag)

/-- An event with the requests that are past `GetFrontendData`. -/
structure ServedEvent where
  event : EventState
  calls : List (AddChallengeRequest × AddChallengeCall)
  /-- The child tags of the requests that returned nil. -/
  added : List String
  /-- The handlers whose `FrontendData` has left the array of `am.challenges`. -/
  moved : List Nat

/-- The `FrontendData`s of the event. -/
def ServedEvent.frontends (s : ServedEvent) : Frontends where
  all := s.event.frontends
  moved := s.moved

/-- A step in the life of an event. -/
inductive ServedAction where
  /-- `AddChallenge` up to `GetFrontendData`. -/
  | beginAdd (req : AddChallengeRequest)
  /-- The rest of a request. -/
  | finishAdd (i : Nat)
  /-- `SuspendEvent` with `Suspend`. It changes the handler of the event pool. -/
  | suspend
  /-- `SuspendEvent` without it. `ok` says that the user may do this and `event.Resume` succeeds. -/
  | resume (ok : Bool)
  /-- A client registers on the websocket of a handler, which takes the update `i` or none. -/
  | register (handler : Nat) (i : Option Nat)
  /-- Anything that happens to labs and teams. -/
  | other (labs : List Nat) (env : Nat → Environment) (assigned : GoMap String Nat)
      (teams : GoMap String TeamExercises)

/-- The child tags of the exercises. -/
def childTagsOf (exers : List Store.Exercise) : List String :=
  exers.flatMap Store.Exercise.childTags

/-- An event after its creation. -/
def newServedEvent (exercises disabledExercises : List String) (exers : List Store.Exercise)
    (teamsDB : List (String × List (String × String))) : ServedEvent where
  event := newEventState exercises disabledExercises exers teamsDB
  calls := []
  added := []
  moved := []

/-- An event after its creation, and the steps of its life. `cap` is the capacity of
`am.challenges`, which `labConf.Flags()` chose with its calls of `append`. -/
def servedEvent (cap : Nat) : Machine ServedEvent ServedAction where
  init s := (∃ exercises disabledExercises exers teamsDB,
    s = newServedEvent exercises disabledExercises exers teamsDB) ∧
      s.event.challenges.length ≤ cap
  step s
    | .beginAdd req =>
      match s.event.beginAddChallenge req with
      -- The request returns before it has a `FrontendData`.
      | .error _ => some s
      | .ok (event, call) => some { s with event := event, calls := s.calls ++ [(req, call)] }
    | .finishAdd i =>
      match s.calls[i]? with
      | none => none
      | some (req, call) =>
        (s.event.finishAddChallenge req call).map fun (event, err) =>
          { s with
            event := event
            calls := s.calls.eraseIdx i
            added := if err = none then s.added ++ childTagsOf call.exers else s.added }
    | .suspend => some s
    | .resume ok =>
      -- `Handler` is called when `ev.Resume` succeeds.
      if ok then
        some { s with event := { s.event with
          frontends := s.event.frontends ++ [newFrontendData s.event.challenges] } }
      else some s
    | .register handler i =>
      let frontends := s.frontends.register cap handler i
      some { s with
        event := { s.event with frontends := frontends.all }
        moved := frontends.moved }
    | .other labs env assigned teams =>
      some { s with event := { s.event with
        labs := labs, env := env, assigned := assigned, teams := teams } }

/-! ### Lists of frontends -/

/-- The last element after a change of one element. -/
theorem getLast?_modify {α : Type} (l : List α) (k : Nat) (f : α → α) :
    (l.modify k f).getLast? = if k + 1 = l.length then l.getLast?.map f else l.getLast? := by
  rw [List.getLast?_eq_getElem?, List.getLast?_eq_getElem?, List.length_modify,
    List.getElem?_modify]
  by_cases hk : k + 1 = l.length
  · have heq : k = l.length - 1 := by omega
    rw [if_pos hk]
    simp [heq]
  · rw [if_neg hk]
    by_cases heq : k = l.length - 1
    · -- Then the list is empty.
      have hlength : l.length = 0 := by omega
      rw [List.length_eq_zero_iff.mp hlength]
      rfl
    · simp [heq]

/-- The exercises are appended in order. -/
theorem served_foldl (exers : List Store.Exercise) (fd : FrontendData) :
    (exers.foldl (fun fd fl => fd.updateChallenges fl.flags) fd).served =
      fd.served ++ exers.flatMap Store.Exercise.flags := by
  induction exers generalizing fd with
  | nil => simp
  | cons e exers ih => simp [ih]

namespace EventState

variable (s : EventState)

/-- The environment of the lab takes all exercises. -/
def LabTakes (l : Nat) (exers : List Store.Exercise) : Prop :=
  (∀ c ∈ exers, c.tag ≠ "" ∧ c.tag ∉ (s.env l).tags ∧
      (c.static = false → validateTag c.tag = none)) ∧
    (exers.map Store.Exercise.tag).Nodup

/-- No lab refused the exercises in the first loop, and no assigned lab will in the second. -/
def NoRefusal (call : AddChallengeCall) : Prop :=
  call.addChalError = none ∧ (call.exers = [] ∨ (s.assigned.pairs.map Prod.snd).Nodup ∧
    ∀ e ∈ s.assigned.pairs, s.LabTakes e.2 call.exers)

instance (call : AddChallengeCall) : Decidable (s.NoRefusal call) := by
  unfold NoRefusal LabTakes
  infer_instance

variable {s} {s' : EventState} {req : AddChallengeRequest} {call : AddChallengeCall}

/-- A lab takes the exercises if and only if adding them has no error. -/
theorem labTakes_iff {newFlag : String → Nat → Nat → String} {l : Nat}
    {exers : List Store.Exercise} :
    (Lab.addChallenge newFlag (s.env l) exers).2 = none ↔ s.LabTakes l exers := by
  rw [Lab.addChallenge_eq_none_iff, Environment.add_eq_none_iff]
  constructor
  · rintro ⟨⟨hall, hnodup⟩, hvalid⟩
    exact ⟨fun c hc => ⟨(hall c hc).1, (hall c hc).2, hvalid c hc⟩, hnodup⟩
  · rintro ⟨hall, hnodup⟩
    exact ⟨⟨fun c hc => ⟨(hall c hc).1, (hall c hc).2.1⟩, hnodup⟩, fun c hc => (hall c hc).2.2⟩

/-- The request returns nil exactly when no lab refuses and the store service answers. -/
theorem finishAddChallenge_eq_none_iff {err : Option String}
    (h : s.finishAddChallenge req call = some (s', err)) :
    err = none ↔ req.updateErr = none ∧ s.NoRefusal call := by
  obtain ⟨s₁, err₁, hrun, hend⟩ := finishAddChallenge_cases h
  have hloop := addToAssigned_eq_none_iff hrun
  simp only [labTakes_iff] at hloop
  rcases hend with ⟨text, hupdate, -, rfl⟩ | ⟨hupdate, rfl, -⟩
  · simp [hupdate]
  · simpa [NoRefusal, hupdate] using hloop

end EventState

namespace ServedEvent

variable (s : ServedEvent)

/-- The tags that the latest `FrontendData` serves. -/
def served : List String :=
  (s.event.frontends.getLast?.elim [] FrontendData.served).map ChildrenChalConfig.tag

/-- The tags of the initial challenges and of the successful requests. -/
def expected : List String := s.event.challenges.map ChildrenChalConfig.tag ++ s.added

/-- The latest `FrontendData` serves the initial challenges and the added ones. -/
def Shown : Prop := ∀ tag, tag ∈ s.served ↔ tag ∈ s.expected

/-- The latest `FrontendData` loses nothing when another one writes `newChs` at the place `n` of
their array: the tags under the write are served at another place as well, and those that it
brings are there already. -/
def Spares (n : Nat) (newChs : List ChildrenChalConfig) : Prop :=
  ∀ last ∈ s.event.frontends.getLast?,
    (∀ c ∈ (last.challenges.drop n).take newChs.length,
      c.tag ∈ (last.overwrite n newChs).served.map ChildrenChalConfig.tag) ∧
    ∀ c ∈ newChs.take (last.challenges.length - n), c.tag ∈ s.expected

instance (n : Nat) (newChs : List ChildrenChalConfig) : Decidable (s.Spares n newChs) := by
  unfold Spares
  infer_instance

/-- A request that gets to the updates updates the latest `FrontendData` exactly when no lab
refuses, or all its tags are there already. A resume finds no added challenge that is not an
initial one. A registration with an earlier `FrontendData` spares the challenges of the latest
one, when both are still in the array of `am.challenges`. -/
def KeepsShown (cap : Nat) : ServedAction → Prop
  | .finishAdd i =>
    match s.calls[i]? with
    | none => True
    | some (req, call) => req.updateErr = none →
        (call.frontendData + 1 = s.event.frontends.length ↔ s.event.NoRefusal call) ∨
          ∀ tag ∈ childTagsOf call.exers, tag ∈ s.expected
  | .resume true => ∀ tag ∈ s.added, tag ∈ s.event.challenges.map ChildrenChalConfig.tag
  | .register handler i => ∀ w ∈ s.frontends.writes cap handler i, s.Spares w.1 w.2
  | _ => True

instance (cap : Nat) : ∀ a, Decidable (s.KeepsShown cap a) := by
  intro a
  cases a with
  | finishAdd i =>
    dsimp only [KeepsShown]
    split <;> infer_instance
  | resume ok => cases ok <;> dsimp only [KeepsShown] <;> infer_instance
  | register handler i =>
    dsimp only [KeepsShown]
    infer_instance
  | _ => exact isTrue trivial

variable {s} {cap : Nat} {s' : ServedEvent} {a : ServedAction}

/-- At first nothing is to be shown. -/
theorem shown_init (hs : (servedEvent cap).init s) : s.Shown := by
  obtain ⟨⟨exercises, disabledExercises, exers, teamsDB, rfl⟩, -⟩ := hs
  intro tag
  simp [served, expected, newServedEvent, newEventState]

/-- After a write into its challenges, a `FrontendData` serves the same tags exactly when the
write spares them. -/
theorem overwrite_served_iff {fd : FrontendData} {n : Nat} {newChs : List ChildrenChalConfig}
    {tags : List String} (h : ∀ tag, tag ∈ fd.served.map ChildrenChalConfig.tag ↔ tag ∈ tags) :
    (∀ tag, tag ∈ (fd.overwrite n newChs).served.map ChildrenChalConfig.tag ↔ tag ∈ tags) ↔
      (∀ c ∈ (fd.challenges.drop n).take newChs.length,
        c.tag ∈ (fd.overwrite n newChs).served.map ChildrenChalConfig.tag) ∧
      ∀ c ∈ newChs.take (fd.challenges.length - n), c.tag ∈ tags := by
  -- What the write leaves, what it takes away and what it brings.
  have hold : ∀ c, c ∈ fd.served ↔ c ∈ (fd.challenges.drop n).take newChs.length ∨
      c ∈ fd.challenges.take n ∨ c ∈ fd.challenges.drop (n + newChs.length) ∨
        c ∈ fd.update.flatten := by
    intro c
    rw [FrontendData.served, List.mem_append, fd.mem_challenges_iff n newChs.length]
    tauto
  have hnew : ∀ c, c ∈ (fd.overwrite n newChs).served ↔
      c ∈ newChs.take (fd.challenges.length - n) ∨ c ∈ fd.challenges.take n ∨
        c ∈ fd.challenges.drop (n + newChs.length) ∨ c ∈ fd.update.flatten := by
    intro c
    simp only [FrontendData.served, FrontendData.overwrite, List.mem_append]
    tauto
  constructor
  · intro hsame
    -- A challenge under the write was served, and one of the new ones is served now.
    refine ⟨fun c hc => ?_, fun c hc => ?_⟩
    · rw [hsame, ← h]
      exact List.mem_map_of_mem ((hold c).mpr (.inl hc))
    · rw [← hsame]
      exact List.mem_map_of_mem ((hnew c).mpr (.inl hc))
  -- The other way: each tag comes from what is left, or from what the condition names.
  · rintro ⟨hlost, hbrought⟩ tag
    constructor
    · intro htag
      obtain ⟨c, hc, rfl⟩ := List.mem_map.mp htag
      rcases (hnew c).mp hc with hwritten | hrest
      · exact hbrought c hwritten
      · exact (h c.tag).mp (List.mem_map_of_mem ((hold c).mpr (.inr hrest)))
    · intro htag
      obtain ⟨c, hc, rfl⟩ := List.mem_map.mp ((h tag).mpr htag)
      rcases (hold c).mp hc with hunder | hrest
      · exact hlost c hunder
      · exact List.mem_map_of_mem ((hnew c).mpr (.inr hrest))

/-- A registration keeps what is served, unless another `FrontendData` writes over it. -/
theorem Shown.register_iff (h : s.Shown) {handler : Nat} {i : Option Nat}
    (hs : (servedEvent cap).step s (.register handler i) = some s') :
    s'.Shown ↔ s.KeepsShown cap (.register handler i) := by
  obtain rfl : _ = s' := Option.some.inj hs
  have hlatest : s.frontends.all.getLast? = s.event.frontends.getLast? := rfl
  simp only [Shown, served, expected, KeepsShown] at h ⊢
  cases hlast : s.event.frontends.getLast? with
  -- No `FrontendData` is there to take an update.
  | none =>
    have hempty := List.getLast?_eq_none_iff.mp hlast
    have hsame : s.frontends.register cap handler i = s.frontends := by
      simp [Frontends.register, frontends, hempty]
    have hnone : s.frontends.writes cap handler i = none := by
      simp [Frontends.writes, frontends, hempty]
    rw [hsame, hnone, hlatest]
    exact iff_of_true h (by simp)
  | some last =>
    rw [s.frontends.getLast?_register cap handler i (hlatest.trans hlast)]
    simp only [hlast, Option.elim_some] at h
    by_cases heq : handler + 1 = s.frontends.all.length
    · -- The latest `FrontendData` takes an update of its own.
      have hnone : s.frontends.writes cap handler i = none := by
        unfold Frontends.writes
        split
        · rfl
        · split
          · rfl
          · exact if_neg fun hne => hne.1 heq
      rw [if_pos heq, hnone]
      refine iff_of_true (fun tag => ?_) (by simp)
      rw [← h tag, Option.elim_some, List.mem_map, List.mem_map]
      simp only [FrontendData.mem_served_register]
    -- An older `FrontendData` takes it, and writes over the latest one if they share an array.
    · rw [if_neg heq]
      cases hwrites : s.frontends.writes cap handler i with
      | none => exact iff_of_true (by simpa using h) (by simp)
      | some w =>
        simp only [Option.elim_some, Option.mem_def, Option.some.injEq, forall_eq']
        rw [overwrite_served_iff h]
        simp [Spares, hlast, expected]

/-- The end of a request adds its tags to what is served when it updates the latest
`FrontendData`, and to what is expected when it returns nil. -/
theorem finish_step {i : Nat} {req : AddChallengeRequest} {call : AddChallengeCall}
    (hcall : s.calls[i]? = some (req, call))
    (hs : (servedEvent cap).step s (.finishAdd i) = some s') :
    (∀ tag, tag ∈ s'.served ↔ tag ∈ s.served ∨ (req.updateErr = none ∧
      call.frontendData + 1 = s.event.frontends.length) ∧ tag ∈ childTagsOf call.exers) ∧
    ∀ tag, tag ∈ s'.expected ↔ tag ∈ s.expected ∨ (req.updateErr = none ∧
      s.event.NoRefusal call) ∧ tag ∈ childTagsOf call.exers := by
  simp only [servedEvent, hcall] at hs
  obtain ⟨⟨event, err⟩, hrun, rfl⟩ := Option.map_eq_some_iff.mp hs
  have hevent := EventState.finishAddChallenge_eq_some hrun
  have hfrontends := congrArg EventState.frontends hevent
  have hchallenges : event.challenges = s.event.challenges := by rw [hevent]
  have herr := EventState.finishAddChallenge_eq_none_iff hrun
  constructor
  · intro tag
    simp only [served, hfrontends]
    cases hupdate : req.updateErr with
    | some e => simp
    | none =>
      -- The update goes to the `FrontendData` that the request took.
      simp only [getLast?_modify]
      by_cases hlast : call.frontendData + 1 = s.event.frontends.length
      · cases hfd : s.event.frontends.getLast? with
        | none =>
          rw [List.getLast?_eq_none_iff] at hfd
          simp [hfd] at hlast
        | some fd =>
          simp only [hlast, if_true, Option.map_some, Option.elim_some, served_foldl,
            List.map_append, List.mem_append, true_and, childTagsOf, List.map_flatMap]
          rfl
      · simp [hlast]
  · intro tag
    simp only [expected, hchallenges]
    split
    · next hnone => simp [herr.mp hnone, or_assoc]
    · next hsome =>
      -- The request returned an error, so its tags do not count.
      have hnot : ¬ (req.updateErr = none ∧ s.event.NoRefusal call) := mt herr.mpr hsome
      simp [hnot]

/-- After the end of a request the latest `FrontendData` shows the event exactly when the
request kept it so. -/
theorem Shown.finish_iff (h : s.Shown) {i : Nat}
    (hs : (servedEvent cap).step s (.finishAdd i) = some s') :
    s'.Shown ↔ s.KeepsShown cap (.finishAdd i) := by
  cases hcall : s.calls[i]? with
  | none =>
    simp only [servedEvent, hcall] at hs
    cases hs
  | some entry =>
    obtain ⟨req, call⟩ := entry
    obtain ⟨hserved, hexpected⟩ := finish_step hcall hs
    simp only [Shown, hserved, hexpected, h _, KeepsShown, hcall]
    -- Both sides gain the tags under different conditions.
    by_cases hupdate : req.updateErr = none
    · by_cases hlast : call.frontendData + 1 = s.event.frontends.length <;>
        by_cases hrefusal : s.event.NoRefusal call
      · simp [hupdate, hlast, hrefusal]
      · simp only [hupdate, hlast, hrefusal, true_and, and_false, false_and, or_false,
          forall_true_left, iff_false, not_true_eq_false, false_or]
        exact forall_congr' fun tag => or_iff_left_iff_imp
      · simp only [hupdate, hlast, hrefusal, true_and, and_false, false_and, or_false,
          forall_true_left, false_iff, not_true_eq_false, false_or]
        exact forall_congr' fun tag => iff_self_or
      · simp [hupdate, hlast, hrefusal]
    · simp [hupdate]

/-- A step keeps what is shown if and only if it meets the condition. -/
theorem Shown.step_iff (h : s.Shown) (hs : (servedEvent cap).step s a = some s') :
    s'.Shown ↔ s.KeepsShown cap a := by
  cases a with
  | finishAdd i => exact h.finish_iff hs
  | register handler i => exact h.register_iff hs
  | beginAdd req =>
    refine iff_of_true ?_ trivial
    simp only [servedEvent] at hs
    split at hs
    · cases hs
      exact h
    · next event call hbegin =>
      cases hs
      obtain ⟨-, -, -, hevent⟩ := EventState.beginAddChallenge_eq_ok hbegin
      intro tag
      simp only [served, expected]
      rw [hevent]
      exact h tag
  | suspend | other labs env assigned teams =>
    obtain rfl : _ = s' := Option.some.inj hs
    exact iff_of_true h trivial
  | resume ok =>
    cases ok with
    | false =>
      obtain rfl : _ = s' := Option.some.inj hs
      exact iff_of_true h trivial
    | true =>
      obtain rfl : _ = s' := Option.some.inj hs
      -- The new `FrontendData` serves the initial challenges, and no others.
      simp only [Shown, served, expected, KeepsShown, List.getLast?_append, List.getLast?_singleton,
        Option.some_or, Option.elim_some, FrontendData.served_new, List.mem_append]
      exact forall_congr' fun tag => iff_self_or

end ServedEvent

/-- Along a run, the latest `FrontendData` serves the initial challenges and those of the
successful requests if and only if each request that gets to the updates either updates the
latest one and no lab refuses, or neither, or has no new tag, each resume comes before a new tag
was added, and no earlier `FrontendData` writes its updates over those of the latest one. -/
theorem servedEvent_shown_iff (cap : Nat) (s : ServedEvent) (hs : (servedEvent cap).init s)
    (as : List ServedAction) :
    (servedEvent cap).AllStates ServedEvent.Shown s as ↔
      (servedEvent cap).AllSteps (fun s a => s.KeepsShown cap a) s as :=
  Machine.allStates_iff_allSteps (A := fun _ _ => True) (fun _ h => h)
    (fun _ _ _ h _ hkeeps hs => (h.step_iff hs).mpr hkeeps)
    (fun _ _ _ h _ hnot hs => mt (h.step_iff hs).mp hnot)
    (ServedEvent.shown_init hs) Machine.allSteps_true

/-- An event with the challenge `xss`, which has no flags. -/
def flaglessEvent : ServedEvent :=
  newServedEvent ["xss"] [] [{ tag := "xss", static := true, instances := [] }] []

/-- An event without labs: a resume, a request, a client of the old handler, and then one of
the new handler. -/
theorem servedEvent_shown_registered :
    (servedEvent 4).AllStates ServedEvent.Shown flaglessEvent
      [.suspend, .resume true, .beginAdd sqlRequest, .finishAdd 0, .register 0 (some 0),
        .register 1 (some 0)] :=
  (servedEvent_shown_iff 4 _ ⟨⟨["xss"], [], [{ tag := "xss", static := true, instances := [] }],
    [], rfl⟩, by decide⟩ _).mpr (by decide)

/-- A request succeeds, and the event is suspended and resumed. -/
theorem servedEvent_not_shown :
    ¬ ∀ (cap : Nat) (s : ServedEvent) (as : List ServedAction), (servedEvent cap).init s →
      (servedEvent cap).AllStates ServedEvent.Shown s as := by
  intro h
  have hall := h 0 flaglessEvent [.beginAdd sqlRequest, .finishAdd 0, .suspend, .resume true]
    ⟨⟨["xss"], [], [{ tag := "xss", static := true, instances := [] }], [], rfl⟩, by decide⟩
  obtain ⟨s, htags, hshown⟩ := hall.of_run (fun s => (s.served, s.expected)) ([], ["sql-1"])
    (by decide)
  obtain ⟨hserved, hexpected⟩ := Prod.mk.inj htags
  have hsql := hshown "sql-1"
  rw [hserved, hexpected] at hsql
  simp at hsql

end Haaukins.Daemon
