import Mathlib.Data.List.Basic

/-!
# `Haaukins.Lib.Locks`: functions that take locks

A `Locking` function works on a state and records which reader/writer mutexes it locks and
unlocks, in order. `deferring` is a lock whose unlock is deferred, and `access` a piece of code
that takes no lock.

`runOps` runs the operations against the mutexes that are held. It ends with `none` at a mutex
that is locked while it is held, and at one that is unlocked while it is not held in this way.
`Leads held held' f s` says that `f` takes the held mutexes from `held` to `held'`, and has one
rule for each way to build a function. `Disciplined` functions start and end with no mutex. `Fails`
has the rules for the functions that `runOps` stops.
-/

set_option autoImplicit false

/-- `Lock` or `RLock`. -/
inductive LockMode where
  | write
  | read
  deriving DecidableEq, Repr

/-- An operation on a mutex. -/
inductive LockOp (μ : Type*) where
  | acquire (mode : LockMode) (m : μ)
  | release (mode : LockMode) (m : μ)
  deriving DecidableEq, Repr

/-- The calls of a function so far: its operations, the state, and what it returns unless it
panics. -/
structure Ran (μ σ α : Type*) where
  ops : List (LockOp μ)
  state : σ
  value : Option α

/-- A function that takes locks. -/
def Locking (μ σ α : Type*) := σ → Ran μ σ α

namespace Locking

variable {μ σ α β : Type}

instance : Monad (Locking μ σ) where
  pure a := fun s => { ops := [], state := s, value := some a }
  bind x f := fun s =>
    match (x s).value with
    | none => { ops := (x s).ops, state := (x s).state, value := none }
    | some a =>
      { f a (x s).state with ops := (x s).ops ++ (f a (x s).state).ops }

/-- `m.Lock()` or `m.RLock()`. -/
def acquire (mode : LockMode) (m : μ) : Locking μ σ Unit := fun s =>
  { ops := [.acquire mode m], state := s, value := some () }

/-- `m.Unlock()` or `m.RUnlock()`. -/
def release (mode : LockMode) (m : μ) : Locking μ σ Unit := fun s =>
  { ops := [.release mode m], state := s, value := some () }

/-- Code without locks. -/
def access (f : σ → α × σ) : Locking μ σ α := fun s =>
  { ops := [], state := (f s).2, value := some (f s).1 }

/-- Code that only reads. -/
def read (f : σ → α) : Locking μ σ α := access fun s => (f s, s)

/-- Code that only writes. -/
def write (f : σ → σ) : Locking μ σ Unit := access fun s => ((), f s)

/-- A method call on nil. -/
def panic : Locking μ σ α := fun s => { ops := [], state := s, value := none }

/-- `m.Lock(); defer m.Unlock()`, and the rest of the function. The unlock runs after a panic
too. -/
def deferring (mode : LockMode) (m : μ) (body : Locking μ σ α) : Locking μ σ α := fun s =>
  { body s with ops := .acquire mode m :: (body s).ops ++ [.release mode m] }

end Locking

/-! ### A function after another -/

section

variable {μ σ α β : Type} (s : σ) (mode : LockMode) (m : μ)

/-- A computation in two parts performs the operations of the first, and then those of the
second. -/
theorem ops_bind {f : Locking μ σ α} {g : α → Locking μ σ β} :
    ((f >>= g) s).ops = (f s).ops ++ ((f s).value.elim [] fun a => (g a (f s).state).ops) := by
  show (match (f s).value with
    | none => ({ ops := (f s).ops, state := (f s).state, value := none } : Ran μ σ β)
    | some a => { g a (f s).state with ops := (f s).ops ++ (g a (f s).state).ops }).ops = _
  cases (f s).value with
  | none => exact (List.append_nil _).symm
  | some a => rfl

/-- Taking a lock leaves the state alone. -/
theorem state_acquire_bind (g : Unit → Locking μ σ β) :
    ((Locking.acquire mode m >>= g) s).state = (g () s).state := rfl

/-- An access hands its state on. -/
theorem state_access_bind (f : σ → α × σ) (g : α → Locking μ σ β) :
    ((Locking.access f >>= g) s).state = (g (f s).1 (f s).2).state := rfl

end

/-! ### Discipline -/

section

variable {μ σ α β : Type} [DecidableEq μ]

/-- One operation, for the mutexes that are held. -/
def LockOp.run (held : List (μ × LockMode)) : LockOp μ → Option (List (μ × LockMode))
  | .acquire mode m => if m ∈ held.map Prod.fst then none else some ((m, mode) :: held)
  | .release mode m => if (m, mode) ∈ held then some (held.erase (m, mode)) else none

/-- The operations of a function. -/
def runOps (held : List (μ × LockMode)) (ops : List (LockOp μ)) : Option (List (μ × LockMode)) :=
  ops.foldlM LockOp.run held

/-- Two lists of operations are performed one after the other. -/
theorem runOps_append (held : List (μ × LockMode)) (ops ops' : List (LockOp μ)) :
    runOps held (ops ++ ops') = (runOps held ops).bind fun held' => runOps held' ops' :=
  List.foldlM_append

/-- The function takes the held mutexes from `held` to `held'`. -/
def Leads (held held' : List (μ × LockMode)) (f : Locking μ σ α) (s : σ) : Prop :=
  runOps held (f s).ops = some held'

instance (held held' : List (μ × LockMode)) (f : Locking μ σ α) (s : σ) :
    Decidable (Leads held held' f s) :=
  inferInstanceAs (Decidable (_ = _))

/-- The function starts and ends without a mutex, and uses each one correctly. -/
def Disciplined (f : Locking μ σ α) (s : σ) : Prop := Leads [] [] f s

instance (f : Locking μ σ α) (s : σ) : Decidable (Disciplined f s) :=
  inferInstanceAs (Decidable (_ = _))

variable {held held₁ held₂ : List (μ × LockMode)} {f : Locking μ σ α} {s : σ} {mode : LockMode}
  {m : μ}

/-- A value holds what was held. -/
theorem leads_pure (a : α) : Leads held held (pure a : Locking μ σ α) s := rfl

/-- An access holds what was held. -/
theorem leads_access (f : σ → α × σ) : Leads held held (.access f) s := rfl

/-- So does a read. -/
theorem leads_read (f : σ → α) : Leads held held (.read f) s := rfl

/-- So does a write. -/
theorem leads_write (f : σ → σ) : Leads held held (.write f) s := rfl

/-- A panic ends with what was held: no `defer` runs in between. -/
theorem leads_panic : Leads held held (.panic : Locking μ σ α) s := rfl

/-- A lock that is not held can be taken. -/
theorem leads_acquire (h : m ∉ held.map Prod.fst) :
    Leads held ((m, mode) :: held) (.acquire mode m) s := by
  show (LockOp.run held (.acquire mode m)).bind some = _
  rw [LockOp.run, if_neg h]
  rfl

/-- The lock that was taken last can be released. -/
theorem leads_release : Leads ((m, mode) :: held) held (.release mode m) s := by
  show (LockOp.run ((m, mode) :: held) (.release mode m)).bind some = _
  rw [LockOp.run, if_pos List.mem_cons_self, List.erase_cons_head]
  rfl

/-- The rule of the sequence. The second function starts where the first one ended. -/
theorem leads_bind {g : α → Locking μ σ β} {a : α} (hf : Leads held held₁ f s)
    (hvalue : (f s).value = some a) (hg : Leads held₁ held₂ (g a) (f s).state) :
    Leads held held₂ (f >>= g) s := by
  show runOps held ((f >>= g) s).ops = some held₂
  rw [ops_bind, runOps_append, hf, hvalue]
  exact hg

/-- The rule of the deferred unlock. -/
theorem leads_deferring (hm : m ∉ held.map Prod.fst)
    (hf : Leads ((m, mode) :: held) ((m, mode) :: held) f s) :
    Leads held held (f.deferring mode m) s := by
  show runOps held (([.acquire mode m] ++ (f s).ops) ++ [.release mode m]) = some held
  rw [runOps_append, runOps_append]
  have hacquire : runOps held [LockOp.acquire mode m] = some ((m, mode) :: held) :=
    leads_acquire (s := s) hm
  have hrelease : runOps ((m, mode) :: held) [LockOp.release mode m] = some held :=
    leads_release (s := s)
  have hbody : runOps ((m, mode) :: held) (f s).ops = some ((m, mode) :: held) := hf
  rw [hacquire, Option.bind_some, hbody, Option.bind_some, hrelease]

/-- Code between a lock and its unlock. -/
theorem leads_section (hm : m ∉ held.map Prod.fst) (f : σ → α × σ) (g : α → β) :
    Leads held held (do
      Locking.acquire mode m
      let a ← Locking.access f
      Locking.release mode m
      return g a) s := by
  refine leads_bind (leads_acquire hm) rfl ?_
  refine leads_bind (leads_access f) rfl ?_
  exact leads_bind leads_release rfl (leads_pure _)

/-- The rule of a function whose last operation is an unlock. -/
theorem leads_release_return (b : β) :
    Leads ((m, mode) :: held) held (do
      Locking.release mode m
      return b) s :=
  leads_bind leads_release rfl (leads_pure b)

/-- A method that defers its release is disciplined. -/
theorem disciplined_deferring (mode : LockMode) (m : μ) (f : σ → α × σ) :
    Disciplined (.deferring mode m (.access f)) s :=
  leads_deferring List.not_mem_nil (leads_access f)

/-- So is one that takes, reads, releases and returns. -/
theorem disciplined_section (mode : LockMode) (m : μ) (f : σ → α × σ) (g : α → β) :
    Disciplined (do
      Locking.acquire mode m
      let a ← Locking.access f
      Locking.release mode m
      return g a) s :=
  leads_section List.not_mem_nil f g

/-- The section of a function without a result. -/
theorem disciplined_set (mode : LockMode) (m : μ) (f : σ → Unit × σ) :
    Disciplined (do
      Locking.acquire mode m
      Locking.access f
      Locking.release mode m) s :=
  leads_bind (leads_acquire List.not_mem_nil) rfl (leads_bind (leads_access f) rfl leads_release)

/-! ### Failures -/

/-- The function locks a mutex that is held, or unlocks one that is not. -/
def Fails (held : List (μ × LockMode)) (f : Locking μ σ α) (s : σ) : Prop :=
  runOps held (f s).ops = none

/-- What fails leads nowhere. -/
theorem Fails.not_leads (h : Fails held f s) : ¬ Leads held held₁ f s := by
  intro hleads
  exact Option.some_ne_none held₁ (hleads.symm.trans h)

/-- A function ends with the same mutexes each time. -/
theorem Leads.unique (h : Leads held held₁ f s) (h' : Leads held held₂ f s) : held₁ = held₂ :=
  Option.some.inj (h.symm.trans h')

/-- A lock that is held is not taken again. -/
theorem fails_acquire (h : m ∈ held.map Prod.fst) : Fails held (.acquire mode m) s := by
  show (LockOp.run held (.acquire mode m)).bind some = none
  rw [LockOp.run, if_pos h]
  rfl

/-- A lock that is not held is not released. -/
theorem fails_release (h : (m, mode) ∉ held) : Fails held (.release mode m) s := by
  show (LockOp.run held (.release mode m)).bind some = none
  rw [LockOp.run, if_neg h]
  rfl

/-- A first part that fails is the end. -/
theorem fails_bind_left {g : α → Locking μ σ β} (hf : Fails held f s) :
    Fails held (f >>= g) s := by
  show runOps held ((f >>= g) s).ops = none
  rw [ops_bind, runOps_append, hf, Option.bind_none]

/-- A second part may fail where the first has led. -/
theorem fails_bind_right {g : α → Locking μ σ β} {a : α} (hf : Leads held held₁ f s)
    (hvalue : (f s).value = some a) (hg : Fails held₁ (g a) (f s).state) :
    Fails held (f >>= g) s := by
  show runOps held ((f >>= g) s).ops = none
  rw [ops_bind, runOps_append, hf, hvalue]
  exact hg

end
