import Mathlib.Data.List.Perm.Basic
import Mathlib.Data.List.Basic
import Haaukins.Lib.Machine

/-!
# `Haaukins.Lib.ForkJoin`: goroutines that are waited for

A `Job` is code that makes calls. It can start goroutines and wait for them, with a wait group, and
these can do the same. `par` is two goroutines with their wait group, and `parAll` is any number.
What a job does after a call may depend on the answer.

`Job.machine` has a step for each call. The scheduler says where in the job the next call is made,
so a run is one interleaving of the goroutines.

* `Traces` are the lists of calls that the interleavings make. `run_traces` is about a run.
* `Traces.perm` says that each interleaving makes the calls of the sequential code. When the calls
  commute, a finished run ends in the state of the sequential code (`shared_of_finished`).
* `Traces.seq` and `seq_inv` keep the order of what is not in parallel.
* `exists_step` says that a job does not get stuck.
-/

set_option autoImplicit false

/-- A merge of two lists that keeps the order of each. -/
inductive Weave {α : Type*} : List α → List α → List α → Prop where
  | nil : Weave [] [] []
  | left {a : α} {as bs cs : List α} : Weave as bs cs → Weave (a :: as) bs (a :: cs)
  | right {b : α} {as bs cs : List α} : Weave as bs cs → Weave as (b :: bs) (b :: cs)

/-- Code with calls `α` that may answer an error `ε`. -/
inductive Job (α ε : Type*) where
  | done
  | call (a : α) (next : Option ε → Job α ε)
  | seq (first second : Job α ε)
  /-- Two goroutines, and the wait for both. -/
  | par (left right : Job α ε)

/-- The goroutine that makes the next call. -/
inductive Place where
  | here
  | inFirst (p : Place)
  | inSecond (p : Place)
  | inLeft (p : Place)
  | inRight (p : Place)

namespace Weave

variable {α : Type*} {as bs cs : List α}

/-- A weave with nothing on the left. -/
theorem right_nil (bs : List α) : Weave [] bs bs := by
  induction bs with
  | nil => exact .nil
  | cons b bs ih => exact .right ih

/-- One list after the other is a weave. -/
theorem append (as bs : List α) : Weave as bs (as ++ bs) := by
  induction as with
  | nil => exact right_nil bs
  | cons a as ih => exact .left ih

/-- A weave has the elements of both lists. -/
theorem perm (h : Weave as bs cs) : cs.Perm (as ++ bs) := by
  induction h with
  | nil => exact .nil
  | left _ ih => exact ih.cons _
  | right _ ih => exact (ih.cons _).trans List.perm_middle.symm

end Weave

namespace Job

variable {α ε σ : Type*}

/-- All goroutines of a loop, and the wait for them. -/
def parAll : List (Job α ε) → Job α ε
  | [] => .done
  | p :: ps => .par p (parAll ps)

/-- The loop that makes the calls one after another, and goes on after an error. -/
def callAll : List α → Job α ε
  | [] => .done
  | a :: as => .call a fun _ => callAll as

/-- There is no call left. -/
def finished : Job α ε → Bool
  | .done => true
  | .call _ _ => false
  | .seq p q => p.finished && q.finished
  | .par p q => p.finished && q.finished

variable (answer : α → Option ε)

/-- The call that is made at a place, and what is left of the job. -/
def step : Job α ε → Place → Option (α × Job α ε)
  | .call a next, .here => some (a, next (answer a))
  | .seq p q, .inFirst at_ => (p.step at_).map fun r => (r.1, .seq r.2 q)
  | .seq p q, .inSecond at_ =>
    if p.finished then (q.step at_).map fun r => (r.1, .seq p r.2) else none
  | .par p q, .inLeft at_ => (p.step at_).map fun r => (r.1, .par r.2 q)
  | .par p q, .inRight at_ => (q.step at_).map fun r => (r.1, .par p r.2)
  | _, _ => none

/-- The calls of the sequential code, where no goroutine is started. -/
def calls : Job α ε → List α
  | .done => []
  | .call a next => a :: (next (answer a)).calls
  | .seq p q => p.calls ++ q.calls
  | .par p q => p.calls ++ q.calls

/-- The lists of calls that the interleavings of a job make. -/
inductive Traces : Job α ε → List α → Prop where
  | done : Traces .done []
  | call {a : α} {next : Option ε → Job α ε} {as : List α} :
      Traces (next (answer a)) as → Traces (.call a next) (a :: as)
  | seq {p q : Job α ε} {as bs : List α} :
      Traces p as → Traces q bs → Traces (.seq p q) (as ++ bs)
  | par {p q : Job α ε} {as bs cs : List α} :
      Traces p as → Traces q bs → Weave as bs cs → Traces (.par p q) cs

variable {answer} {p q p' : Job α ε} {as bs : List α} {a : α} {at_ : Place}

/-- A trace of two jobs in sequence splits. -/
theorem Traces.seq_inv (h : Traces answer (.seq p q) bs) :
    ∃ cs ds, bs = cs ++ ds ∧ Traces answer p cs ∧ Traces answer q ds := by
  cases h with
  | seq hp hq => exact ⟨_, _, rfl, hp, hq⟩

/-- A trace of two jobs side by side is a weave. -/
theorem Traces.par_inv (h : Traces answer (.par p q) bs) :
    ∃ cs ds, Weave cs ds bs ∧ Traces answer p cs ∧ Traces answer q ds := by
  cases h with
  | par hp hq hw => exact ⟨_, _, hw, hp, hq⟩

/-- Each interleaving makes the calls of the sequential code, in some order. -/
theorem Traces.perm (h : Traces answer p as) : as.Perm (p.calls answer) := by
  induction h with
  | done => exact .nil
  | call _ ih => exact ih.cons _
  | seq _ _ ihp ihq => exact ihp.append ihq
  | par _ _ hw ihp ihq => exact hw.perm.trans (ihp.append ihq)

/-- A job that is finished makes no call. -/
theorem calls_of_finished (h : p.finished = true) : p.calls answer = [] := by
  induction p with
  | done => rfl
  | call a next => cases h
  | seq p q ihp ihq =>
    obtain ⟨hp, hq⟩ := Bool.and_eq_true_iff.mp h
    show p.calls answer ++ q.calls answer = []
    rw [ihp hp, ihq hq, List.append_nil]
  | par p q ihp ihq =>
    obtain ⟨hp, hq⟩ := Bool.and_eq_true_iff.mp h
    show p.calls answer ++ q.calls answer = []
    rw [ihp hp, ihq hq, List.append_nil]

/-- The calls in program order are one of the traces. -/
theorem traces_calls (p : Job α ε) : Traces answer p (p.calls answer) := by
  induction p with
  | done => exact .done
  | call a next ih => exact .call (ih _)
  | seq p q ihp ihq => exact .seq ihp ihq
  | par p q ihp ihq => exact .par ihp ihq (Weave.append _ _)

/-- A call, and then an interleaving of what is left, is an interleaving of the job. -/
theorem traces_step (hs : p.step answer at_ = some (a, p')) (h : Traces answer p' bs) :
    Traces answer p (a :: bs) := by
  induction p generalizing at_ p' bs with
  | done => simp [step] at hs
  | call a' next =>
    cases at_ with
    | here =>
      simp only [step, Option.some.injEq, Prod.mk.injEq] at hs
      obtain ⟨rfl, rfl⟩ := hs
      exact .call h
    | _ => simp [step] at hs
  | seq p q ihp ihq =>
    cases at_ with
    | inFirst at_ =>
      obtain ⟨⟨a', r⟩, hr, heq⟩ := Option.map_eq_some_iff.mp hs
      cases heq
      obtain ⟨cs, ds, rfl, hcs, hds⟩ := h.seq_inv
      exact .seq (ihp hr hcs) hds
    | inSecond at_ =>
      -- The first part is finished, so its trace is empty.
      rw [step] at hs
      split at hs
      · next hfinished =>
        obtain ⟨⟨a', r⟩, hr, heq⟩ := Option.map_eq_some_iff.mp hs
        cases heq
        obtain ⟨cs, ds, rfl, hcs, hds⟩ := h.seq_inv
        have hnil : cs = [] := by
          have hperm := hcs.perm
          rw [calls_of_finished hfinished] at hperm
          exact hperm.eq_nil
        subst hnil
        have hseq : Traces answer (.seq p q) ([] ++ a' :: ds) := .seq hcs (ihq hr hds)
        exact hseq
      · cases hs
    | _ => simp [step] at hs
  | par p q ihp ihq =>
    cases at_ with
    | inLeft at_ =>
      obtain ⟨⟨a', r⟩, hr, heq⟩ := Option.map_eq_some_iff.mp hs
      cases heq
      obtain ⟨cs, ds, hw, hcs, hds⟩ := h.par_inv
      exact .par (ihp hr hcs) hds (.left hw)
    | inRight at_ =>
      obtain ⟨⟨a', r⟩, hr, heq⟩ := Option.map_eq_some_iff.mp hs
      cases heq
      obtain ⟨cs, ds, hw, hcs, hds⟩ := h.par_inv
      exact .par hcs (ihq hr hds) (.right hw)
    | _ => simp [step] at hs

/-- A job with a call left can make one. -/
theorem exists_step (h : p.finished = false) : ∃ at_ r, p.step answer at_ = some r := by
  induction p with
  | done => cases h
  | call a next => exact ⟨.here, _, rfl⟩
  | seq p q ihp ihq =>
    cases hp : p.finished with
    | false =>
      obtain ⟨at_, r, hr⟩ := ihp hp
      exact ⟨.inFirst at_, _, by rw [step, hr, Option.map_some]⟩
    | true =>
      have hq : q.finished = false := by
        rw [finished, hp, Bool.true_and] at h
        exact h
      obtain ⟨at_, r, hr⟩ := ihq hq
      exact ⟨.inSecond at_, _, by rw [step, if_pos hp, hr, Option.map_some]⟩
  | par p q ihp ihq =>
    cases hp : p.finished with
    | false =>
      obtain ⟨at_, r, hr⟩ := ihp hp
      exact ⟨.inLeft at_, _, by rw [step, hr, Option.map_some]⟩
    | true =>
      have hq : q.finished = false := by
        rw [finished, hp, Bool.true_and] at h
        exact h
      obtain ⟨at_, r, hr⟩ := ihq hq
      exact ⟨.inRight at_, _, by rw [step, hr, Option.map_some]⟩

/-! ### Loops -/

/-- A list of calls is called in order. -/
@[simp] theorem calls_callAll (as : List α) : (callAll as : Job α ε).calls answer = as := by
  induction as with
  | nil => rfl
  | cons a as ih => rw [callAll, calls, ih]

/-- A loop in one goroutine makes its calls in their order. -/
theorem Traces.eq_of_callAll (h : Traces answer (callAll as : Job α ε) bs) : bs = as := by
  induction as generalizing bs with
  | nil =>
    cases h
    rfl
  | cons a as ih =>
    cases h with
    | call h => rw [ih h]

/-! ### Runs -/

/-- A job that runs on a shared state, with the calls that it has made. -/
structure State (σ α ε : Type*) where
  shared : σ
  trace : List α
  job : Job α ε

variable (answer) (exec : σ → α → σ)

/-- The interleavings of a job. `exec` is what a call does. -/
def machine (main : Job α ε) : Machine (State σ α ε) Place where
  init s := s.trace = [] ∧ s.job = main
  step s at_ := (s.job.step answer at_).map fun r =>
    { shared := exec s.shared r.1, trace := s.trace ++ [r.1], job := r.2 }

variable {answer exec} {main : Job α ε} {s t : State σ α ε}

/-- The calls of a run, and then an interleaving of what is left, are one of the job. The shared
state is what the calls have made of it. -/
theorem run_traces {places : List Place} (hrun : (machine answer exec main).run s places = some t) :
    ∃ as, t.trace = s.trace ++ as ∧ as.length = places.length ∧
      t.shared = as.foldl exec s.shared ∧
        ∀ bs, Traces answer t.job bs → Traces answer s.job (as ++ bs) := by
  induction places generalizing s with
  | nil =>
    cases hrun
    exact ⟨[], (List.append_nil _).symm, rfl, rfl, fun _ h => h⟩
  | cons at_ places ih =>
    obtain ⟨u, hu, hrun⟩ := Option.bind_eq_some_iff.mp hrun
    obtain ⟨⟨a, r⟩, hr, rfl⟩ := Option.map_eq_some_iff.mp hu
    obtain ⟨as, htrace, hlen, hshared, htraces⟩ := ih hrun
    refine ⟨a :: as, ?_, ?_, hshared, fun bs hbs => traces_step hr (htraces bs hbs)⟩
    · rw [htrace, List.append_assoc]
      rfl
    · rw [List.length_cons, List.length_cons, hlen]

/-- A run to the end makes an interleaving of the job. -/
theorem traces_of_finished {places : List Place} (hs : s.trace = [])
    (hrun : (machine answer exec main).run s places = some t) (ht : t.job.finished = true) :
    Traces answer s.job t.trace ∧ t.shared = t.trace.foldl exec s.shared := by
  obtain ⟨as, htrace, -, hshared, htraces⟩ := run_traces hrun
  rw [hs, List.nil_append] at htrace
  have hnil : Traces answer t.job [] := by
    have h : Traces answer t.job (t.job.calls answer) := traces_calls t.job
    rwa [calls_of_finished ht] at h
  have h := htraces [] hnil
  rw [List.append_nil] at h
  rw [htrace]
  exact ⟨h, hshared⟩

/-- When the calls commute, a run to the end does what the sequential code does. -/
theorem shared_of_finished {places : List Place} (hs : s.trace = [])
    (hcomm : ∀ x a b, exec (exec x a) b = exec (exec x b) a)
    (hrun : (machine answer exec main).run s places = some t) (ht : t.job.finished = true) :
    t.shared = (s.job.calls answer).foldl exec s.shared := by
  obtain ⟨htraces, hshared⟩ := traces_of_finished hs hrun ht
  rw [hshared]
  exact htraces.perm.foldl_eq' (fun a _ b _ x => hcomm x a b) s.shared

/-- No run is longer than the number of calls. -/
theorem length_run_le {places : List Place}
    (hrun : (machine answer exec main).run s places = some t) :
    places.length ≤ (s.job.calls answer).length := by
  obtain ⟨as, -, hlen, -, htraces⟩ := run_traces hrun
  have hperm := (htraces _ (traces_calls t.job)).perm
  rw [← hlen, ← hperm.length_eq, List.length_append]
  omega

/-- A run that is not at its end goes on. -/
theorem exists_next (ht : t.job.finished = false) :
    ∃ at_ u, (machine answer exec main).step t at_ = some u := by
  obtain ⟨at_, r, hr⟩ : ∃ at_ r, t.job.step answer at_ = some r := exists_step ht
  exact ⟨at_, _, congrArg (Option.map _) hr⟩

end Job
