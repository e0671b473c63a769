import Mathlib.Data.List.Basic

/-!
# `Haaukins.Lib.Lookups`: functions that look objects up and call their methods

A `Lookups κ μ α` is what a function does: the objects that it looks up and does not find, named
by `κ`, the messages that it sends, and its end. It ends with a value, with an error, or with the
call of a method on nil. After one of the last two nothing more happens.

`Safe` says that no method is called on nil, and that each object that was not found leads to an
error or to a message about it. The two halves have their own rules. `nilFree_bind` goes through
a function step by step, and `Reported.bind` and `reported_miss` collect the messages.
-/

set_option autoImplicit false

/-- How a function ends. -/
inductive Ending (α : Type) where
  | value (a : α)
  | failed (err : String)
  /-- A method is called on nil. -/
  | nilCall

/-- What a function does. -/
structure Lookups (κ μ α : Type) where
  /-- The objects that were not found. -/
  missed : List κ
  sent : List μ
  ending : Ending α

namespace Lookups

variable {κ μ α β : Type}

/-- One function after another, unless the first one ends early. -/
protected def bind (x : Lookups κ μ α) (f : α → Lookups κ μ β) : Lookups κ μ β :=
  match x.ending with
  | .value a =>
    { missed := x.missed ++ (f a).missed, sent := x.sent ++ (f a).sent, ending := (f a).ending }
  | .failed err => { missed := x.missed, sent := x.sent, ending := .failed err }
  | .nilCall => { missed := x.missed, sent := x.sent, ending := .nilCall }

instance : Monad (Lookups κ μ) where
  pure a := { missed := [], sent := [], ending := .value a }
  bind := Lookups.bind

/-- `return err`. -/
def fail (err : String) : Lookups κ μ α := { missed := [], sent := [], ending := .failed err }

/-- A message on the stream of the reply. -/
def send (m : μ) : Lookups κ μ Unit := { missed := [], sent := [m], ending := .value () }

/-- A lookup whose result is not tested. -/
def find (k : κ) (o : Option α) : Lookups κ μ (Option α) :=
  { missed := if o.isNone then [k] else [], sent := [], ending := .value o }

/-- The object that a method is called on. -/
def deref : Option α → Lookups κ μ α
  | some a => pure a
  | none => { missed := [], sent := [], ending := .nilCall }

/-- `if !ok { return err }` after a lookup. -/
def findOr (k : κ) (o : Option α) (err : String) : Lookups κ μ α := do
  match ← find k o with
  | some a => pure a
  | none => fail err

/-- `if err != nil { return err }`. -/
def check : Option String → Lookups κ μ Unit
  | some err => fail err
  | none => pure ()

/-- `if cond { return err }`. -/
def refuse (cond : Prop) [Decidable cond] (err : String) : Lookups κ μ Unit :=
  if cond then fail err else pure ()

/-- A value, or the error that comes in its place. -/
def checked : Except String α → Lookups κ μ α
  | .error err => fail err
  | .ok a => pure a

/-- The function without its value. -/
def void (x : Lookups κ μ α) : Lookups κ μ Unit := do
  let _ ← x
  pure ()

/-- The function calls a method on nil. -/
def crashes (x : Lookups κ μ α) : Bool :=
  match x.ending with
  | .nilCall => true
  | _ => false

/-- No method is called on nil. -/
def NilFree (x : Lookups κ μ α) : Prop := x.ending ≠ .nilCall

/-- Each object that was not found leads to an error, or to a message about it. -/
def Reported (reports : κ → μ → Prop) (x : Lookups κ μ α) : Prop :=
  ∀ k ∈ x.missed, (∃ err, x.ending = .failed err) ∨ ∃ m ∈ x.sent, reports k m

/-- No method is called on an object that was not found. Its absence is reported. -/
structure Safe (reports : κ → μ → Prop) (x : Lookups κ μ α) : Prop where
  nilFree : x.NilFree
  reported : x.Reported reports

variable {x : Lookups κ μ α} {f : α → Lookups κ μ β} {reports : κ → μ → Prop} {k : κ}
  {o : Option α} {err : String}

/-- A value looks nothing up. -/
@[simp] protected theorem pure_bind (a : α) : (pure a : Lookups κ μ α) >>= f = f a := rfl

/-- A lookup that finds goes on with what it finds. -/
@[simp] theorem find_some_bind (a : α) (g : Option α → Lookups κ μ β) :
    find k (some a) >>= g = g (some a) := rfl

/-- Three parts in a row. -/
protected theorem bind_assoc {γ : Type} (g : β → Lookups κ μ γ) :
    x >>= f >>= g = x >>= fun a => f a >>= g := by
  change Lookups.bind (Lookups.bind x f) g = Lookups.bind x fun a => Lookups.bind (f a) g
  unfold Lookups.bind
  cases x.ending with
  | failed err => rfl
  | nilCall => rfl
  | value a =>
    cases h : (f a).ending with
    | failed err => simp [h]
    | nilCall => simp [h]
    | value b => simp [h, List.append_assoc]

/-! ### Calls on nil -/

/-- Both parts are free of nil. -/
theorem nilFree_bind :
    (x >>= f).NilFree ↔ x.NilFree ∧ ∀ a, x.ending = .value a → (f a).NilFree := by
  obtain ⟨missed, sent, ending⟩ := x
  cases ending with
  | value a =>
    constructor
    · intro h
      refine ⟨nofun, fun a' ha => ?_⟩
      cases ha
      exact h
    · exact fun h => h.2 a rfl
  | failed err => exact iff_of_true nofun ⟨nofun, nofun⟩
  | nilCall => exact iff_of_false (fun h => h rfl) fun h => h.1 rfl

/-- A value is free of nil. -/
@[simp] theorem nilFree_pure (a : α) : (pure a : Lookups κ μ α).NilFree := nofun

/-- So is an error. -/
@[simp] theorem nilFree_fail : (fail err : Lookups κ μ α).NilFree := nofun

/-- A message does not count. -/
@[simp] theorem nilFree_send_bind {m : μ} {g : Unit → Lookups κ μ β} :
    (send m >>= g : Lookups κ μ β).NilFree ↔ (g ()).NilFree := Iff.rfl

/-- A lookup does not count: what is done with its answer does. -/
@[simp] theorem nilFree_find_bind {g : Option α → Lookups κ μ β} :
    (find k o >>= g).NilFree ↔ (g o).NilFree := Iff.rfl

/-- A use of an object needs the object. -/
@[simp] theorem nilFree_deref_bind : (deref o >>= f).NilFree ↔ ∃ a, o = some a ∧ (f a).NilFree := by
  cases o with
  | none => exact iff_of_false (fun h => h rfl) (by simp)
  | some a => simp [deref]

/-- The value does not count. -/
@[simp] theorem nilFree_void : x.void.NilFree ↔ x.NilFree := by
  simp [void, nilFree_bind]

/-! ### Reports of what was not found -/

/-- A sequence reports what its parts report. -/
theorem Reported.bind (hx : x.Reported reports)
    (hf : ∀ a, x.ending = .value a → (f a).Reported reports) : (x >>= f).Reported reports := by
  obtain ⟨missed, sent, ending⟩ := x
  cases ending with
  | failed err => exact fun _ _ => .inl ⟨err, rfl⟩
  | nilCall =>
    intro k hk
    exact (hx k hk).imp (fun ⟨_, h⟩ => nomatch h) id
  | value a =>
    intro k hk
    rcases List.mem_append.mp hk with hk | hk
    · -- The first part ended with a value, so it has sent a message about `k`.
      rcases hx k hk with ⟨_, h⟩ | ⟨m, hm, hr⟩
      · cases h
      · exact .inr ⟨m, List.mem_append_left _ hm, hr⟩
    · exact (hf a rfl k hk).imp id fun ⟨m, hm, hr⟩ => ⟨m, List.mem_append_right _ hm, hr⟩

/-- A function that misses nothing has nothing to report. -/
theorem reported_of_missed (h : x.missed = []) : x.Reported reports := by
  intro k hk
  rw [h] at hk
  cases hk

/-- A message about the object takes the place of an error. -/
theorem reported_miss {m : μ} (hm : reports k m) {y : Lookups κ μ β} (h : y.Reported reports) :
    (find k (none : Option α) >>= fun _ => send m >>= fun _ => y).Reported reports := by
  intro k' hk
  rcases List.mem_cons.mp hk with rfl | hk
  · exact .inr ⟨m, List.mem_cons_self, hm⟩
  · exact (h k' hk).imp id fun ⟨m', hm', hr⟩ => ⟨m', List.mem_cons_of_mem _ hm', hr⟩

/-! ### Safe functions -/

/-- Two safe parts in a row. -/
theorem Safe.bind (hx : x.Safe reports) (hf : ∀ a, x.ending = .value a → (f a).Safe reports) :
    (x >>= f).Safe reports where
  nilFree := nilFree_bind.mpr ⟨hx.nilFree, fun a ha => (hf a ha).nilFree⟩
  reported := hx.reported.bind fun a ha => (hf a ha).reported

/-- What looks nothing up in vain has nothing to report. -/
theorem safe_of_missed (hnil : x.NilFree) (h : x.missed = []) : x.Safe reports :=
  ⟨hnil, reported_of_missed h⟩

/-- A value is safe. -/
@[simp] theorem safe_pure (a : α) : (pure a : Lookups κ μ α).Safe reports :=
  safe_of_missed (nilFree_pure a) rfl

/-- A message is safe. -/
theorem safe_send (m : μ) : (send m : Lookups κ μ Unit).Safe reports := safe_of_missed nofun rfl

/-- An error of another call is safe. -/
@[simp] theorem safe_check (e : Option String) : (check e : Lookups κ μ Unit).Safe reports := by
  cases e with
  | none => exact safe_pure ()
  | some err => exact safe_of_missed nilFree_fail rfl

/-! The operations below send nothing, so they are safe exactly as what follows them. -/

/-- A lookup with its own error is safe when the rest is. -/
@[simp] theorem safe_findOr_bind :
    (findOr k o err >>= f).Safe reports ↔ ∀ a, o = some a → (f a).Safe reports := by
  cases o with
  | none => exact iff_of_true ⟨nofun, fun _ _ => .inl ⟨err, rfl⟩⟩ nofun
  | some a => simp [findOr]

/-- The rest runs when the call has no error. -/
@[simp] theorem safe_check_bind {e : Option String} {g : Unit → Lookups κ μ β} :
    (check e >>= g).Safe reports ↔ (e = none → (g ()).Safe reports) := by
  cases e with
  | none => simp [check]
  | some err => exact iff_of_true (safe_of_missed nofun rfl) nofun

/-- The rest runs when the request is not refused. -/
@[simp] theorem safe_refuse_bind {cond : Prop} [Decidable cond] {g : Unit → Lookups κ μ β} :
    (refuse cond err >>= g).Safe reports ↔ (¬ cond → (g ()).Safe reports) := by
  by_cases hcond : cond
  · simp only [refuse, hcond, if_true, not_true_eq_false, false_implies, iff_true]
    exact safe_of_missed nofun rfl
  · simp [refuse, hcond]

/-- The rest runs with the value of the call. -/
@[simp] theorem safe_checked_bind {e : Except String α} :
    (checked e >>= f).Safe reports ↔ ∀ a, e = .ok a → (f a).Safe reports := by
  cases e with
  | error err => exact iff_of_true (safe_of_missed nofun rfl) nofun
  | ok a => simp [checked]

/-- The value does not count for safety. -/
theorem safe_void_iff : x.void.Safe reports ↔ x.Safe reports := by
  constructor
  · intro h
    refine ⟨nilFree_void.mp h.nilFree, ?_⟩
    obtain ⟨missed, sent, ending⟩ := x
    cases ending with
    | nilCall => exact absurd rfl h.nilFree
    | failed err => exact fun _ _ => .inl ⟨err, rfl⟩
    | value a =>
      intro k hk
      rcases h.reported k (List.mem_append_left _ hk) with ⟨_, herr⟩ | ⟨m, hm, hr⟩
      · cases herr
      · exact .inr ⟨m, (List.append_nil sent) ▸ hm, hr⟩
  · exact fun h => h.bind fun _ _ => safe_pure ()

end Lookups
