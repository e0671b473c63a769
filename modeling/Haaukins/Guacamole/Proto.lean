import Mathlib.Data.Set.Defs
import Haaukins.Lib.GoBytes

/-!
# `Haaukins.Guacamole.Proto`: instructions of Guacamole (`svcs/guacamole/proto.go`)

`NewFrame` reads an instruction character by character. A dot starts an element, and a comma or a
semicolon ends it. The length before the dot is read and dropped.

`enc` is the encoding of the protocol: each element after its length in characters. What `NewFrame`
reads from it are elements without a dot, a comma and a semicolon (`plain_newFrame`), and these it
reads back (`newFrame_raw`). `readsBack_iff` is both directions for any set of instructions.
-/

set_option autoImplicit false

namespace Haaukins.Guacamole

/-- `Frame`. -/
structure Frame where
  opcode : String
  args : List String
  deriving DecidableEq, Repr

/-- An element is the opcode when there is none yet, and an argument otherwise. -/
def Frame.add (f : Frame) (s : String) : Frame :=
  if f.opcode = "" then { f with opcode := s } else { f with args := f.args ++ [s] }

/-- The variables of `NewFrame`. -/
structure Reading where
  msg : Frame
  s : String
  deriving DecidableEq, Repr

/-- The body of the loop of `NewFrame`. -/
def Reading.step (m : Reading) (r : Char) : Reading :=
  if r = '.' then { m with s := "" }
  else if r = ',' ∨ r = ';' then { msg := m.msg.add m.s, s := "" }
  else { m with s := m.s.push r }

/-- The variables before the loop. -/
def Reading.start : Reading := { msg := { opcode := "", args := [] }, s := "" }

/-- `NewFrame`. It returns no error. -/
def newFrame (rawFrame : ByteArray) : Except String Frame :=
  .ok ((GoBytes.runes rawFrame).foldl Reading.step .start).msg

/-- `InvalidOpcodeErr`. -/
def invalidOpcodeErr : String := "invalid opcode"

/-- `InvalidArgsErr`. -/
def invalidArgsErr : String := "invalid number of args"

/-- `KeyFrame`. -/
structure KeyFrame where
  key : String
  pressed : String
  deriving DecidableEq, Repr

/-- `NewKeyFrame`. -/
def newKeyFrame (f : Frame) : Except String KeyFrame :=
  if f.opcode ≠ "key" then .error invalidOpcodeErr
  else
    match f.args with
    | [key, pressed] => .ok { key := key, pressed := pressed }
    | _ => .error invalidArgsErr

/-- `MouseFrame`. -/
structure MouseFrame where
  x : String
  y : String
  button : String
  deriving DecidableEq, Repr

/-- `NewMouseFrame`. -/
def newMouseFrame (f : Frame) : Except String MouseFrame :=
  if f.opcode ≠ "mouse" then .error invalidOpcodeErr
  else
    match f.args with
    | [x, y, button] => .ok { x := x, y := y, button := button }
    | _ => .error invalidArgsErr

/-! ### The encoding -/

/-- An instruction has an opcode. -/
structure Instruction extends Frame where
  opcode_ne : opcode ≠ ""

/-- An element after its length in characters. -/
def encElement (e : String) : String := Nat.repr e.length ++ "." ++ e

/-- The encoding of the protocol. -/
def enc (f : Frame) : String := ",".intercalate ((f.opcode :: f.args).map encElement) ++ ";"

/-- The bytes of the encoding. -/
def Instruction.raw (f : Instruction) : ByteArray := (enc f.toFrame).toByteArray

/-- The characters that `NewFrame` looks for. -/
def IsDelimiter (c : Char) : Prop := c = '.' ∨ c = ',' ∨ c = ';'

instance (c : Char) : Decidable (IsDelimiter c) := inferInstanceAs (Decidable (_ ∨ _))

/-- An element without a dot, a comma and a semicolon. -/
def PlainElement (e : String) : Prop := ∀ c ∈ e.toList, ¬ IsDelimiter c

instance (e : String) : Decidable (PlainElement e) :=
  List.decidableBAll (fun c => ¬ IsDelimiter c) e.toList

/-- All elements are plain. -/
structure Frame.Plain (f : Frame) : Prop where
  opcode : PlainElement f.opcode
  args : ∀ e ∈ f.args, PlainElement e

/-- The instructions of a set are read back, and no two of them as the same frame. -/
structure ReadsBack (S : Set Instruction) : Prop where
  exact : ∀ f ∈ S, newFrame f.raw = .ok f.toFrame
  injective : ∀ f ∈ S, ∀ g ∈ S, newFrame f.raw = newFrame g.raw → f = g

/-! ### What is read is plain -/

/-- The empty element has no delimiter. -/
theorem plainElement_empty : PlainElement "" := fun c hc => absurd hc (by simp)

/-- A plain element keeps the frame plain. -/
theorem Frame.Plain.add {f : Frame} (hf : f.Plain) {s : String} (hs : PlainElement s) :
    (f.add s).Plain := by
  rw [Frame.add]
  split
  · exact ⟨hs, hf.args⟩
  · refine ⟨hf.opcode, fun e he => ?_⟩
    rcases List.mem_append.mp he with he | he
    · exact hf.args e he
    · rw [List.mem_singleton.mp he]
      exact hs

/-- A step keeps all elements plain, as the delimiters are never part of one. -/
theorem plain_step {m : Reading} (h : m.msg.Plain ∧ PlainElement m.s) (r : Char) :
    (m.step r).msg.Plain ∧ PlainElement (m.step r).s := by
  rw [Reading.step]
  split
  · exact ⟨h.1, plainElement_empty⟩
  · next hdot =>
    split
    · exact ⟨h.1.add h.2, plainElement_empty⟩
    · next hend =>
      refine ⟨h.1, fun c hc => ?_⟩
      rw [String.toList_push] at hc
      rcases List.mem_append.mp hc with hc | hc
      · exact h.2 c hc
      · rw [List.mem_singleton.mp hc]
        exact fun hdelim => hdelim.elim hdot hend

/-- All elements of what `NewFrame` reads are plain. -/
theorem plain_newFrame {raw : ByteArray} {f : Frame} (h : newFrame raw = .ok f) : f.Plain := by
  have hread : ∀ (cs : List Char) (m : Reading), m.msg.Plain ∧ PlainElement m.s →
      (cs.foldl Reading.step m).msg.Plain := by
    intro cs
    induction cs with
    | nil => exact fun m hm => hm.1
    | cons c cs ih => exact fun m hm => ih (m.step c) (plain_step hm c)
  cases h
  refine hread _ _ ⟨⟨plainElement_empty, fun e he => ?_⟩, plainElement_empty⟩
  exact absurd he List.not_mem_nil

/-! ### What is plain is read back -/

/-- Characters that are no delimiters are put behind `s`. -/
theorem foldl_step_of_plain {cs : List Char} (h : ∀ c ∈ cs, ¬ IsDelimiter c) (m : Reading) :
    cs.foldl Reading.step m = { m with s := m.s ++ String.ofList cs } := by
  induction cs generalizing m with
  | nil => simp
  | cons c cs ih =>
    have hc : ¬ IsDelimiter c := h c List.mem_cons_self
    have hstep : m.step c = { m with s := m.s.push c } := by
      rw [Reading.step, if_neg fun hdot => hc (.inl hdot), if_neg fun hend => hc (.inr hend)]
    rw [List.foldl_cons, hstep, ih fun d hd => h d (List.mem_cons_of_mem c hd)]
    simp [String.ofList_cons, ← String.append_singleton, String.append_assoc]

/-- The digits of a length are no delimiters. -/
theorem repr_plain (n : Nat) : PlainElement n.repr := by
  intro c hc hdelim
  rw [Nat.toList_repr] at hc
  have hdigit : c.isDigit = true := Nat.isDigit_of_mem_toDigits (by decide) (by decide) hc
  rcases hdelim with rfl | rfl | rfl
  · exact absurd hdigit (by decide)
  · exact absurd hdigit (by decide)
  · exact absurd hdigit (by decide)

/-- An element and the delimiter behind it add the element. -/
theorem foldl_step_element {e : String} (he : PlainElement e) {d : Char} (hd : d = ',' ∨ d = ';')
    (m : Reading) :
    ((encElement e).toList ++ [d]).foldl Reading.step m = { msg := m.msg.add e, s := "" } := by
  have hdot : d ≠ '.' := by
    rcases hd with rfl | rfl
    · decide
    · decide
  have hlist : (encElement e).toList = (Nat.repr e.length).toList ++ '.' :: e.toList := by
    simp [encElement]
  have hstart (m : Reading) : m.step '.' = { m with s := "" } := if_pos rfl
  rw [hlist, List.append_assoc, List.foldl_append, foldl_step_of_plain (repr_plain e.length),
    List.cons_append, List.foldl_cons, hstart, List.foldl_append, foldl_step_of_plain he,
    List.foldl_cons, List.foldl_nil, Reading.step, if_neg hdot, if_pos hd]
  simp

/-- The elements of an instruction are added one after another. -/
theorem foldl_step_elements {es : List String} (hne : es ≠ []) (hes : ∀ e ∈ es, PlainElement e)
    (m : Reading) :
    ((",".intercalate (es.map encElement)).toList ++ [';']).foldl Reading.step m =
      { msg := es.foldl Frame.add m.msg, s := "" } := by
  induction es generalizing m with
  | nil => exact absurd rfl hne
  | cons e es ih =>
    have he : PlainElement e := hes e List.mem_cons_self
    cases es with
    | nil =>
      rw [List.map_singleton, String.intercalate_singleton, foldl_step_element he (.inr rfl)]
      rfl
    | cons e' es =>
      have hlist : (",".intercalate ((e :: e' :: es).map encElement)).toList ++ [';'] =
          ((encElement e).toList ++ [',']) ++
            ((",".intercalate ((e' :: es).map encElement)).toList ++ [';']) := by
        simp [String.intercalate_cons_cons]
      rw [hlist, List.foldl_append, foldl_step_element he (.inl rfl),
        ih (List.cons_ne_nil e' es) fun d hd => hes d (List.mem_cons_of_mem e hd)]
      rfl

/-- Behind an opcode all elements are arguments. -/
theorem foldl_add_args {opcode : String} (h : opcode ≠ "") (args es : List String) :
    es.foldl Frame.add { opcode := opcode, args := args } =
      { opcode := opcode, args := args ++ es } := by
  induction es generalizing args with
  | nil => rw [List.foldl_nil, List.append_nil]
  | cons e es ih =>
    have hadd : Frame.add { opcode := opcode, args := args } e =
        { opcode := opcode, args := args ++ [e] } := if_neg h
    rw [List.foldl_cons, hadd, ih, List.append_assoc, List.singleton_append]

/-- What `NewFrame` reads from an encoding. -/
theorem newFrame_toByteArray (s : String) :
    newFrame s.toByteArray = .ok (s.toList.foldl Reading.step .start).msg := by
  rw [newFrame, GoBytes.runes_toByteArray]

/-- An instruction of plain elements is read back. -/
theorem newFrame_raw {f : Instruction} (h : f.Plain) : newFrame f.raw = .ok f.toFrame := by
  have hes : ∀ e ∈ f.opcode :: f.args, PlainElement e := by
    intro e he
    rcases List.mem_cons.mp he with rfl | he
    · exact h.opcode
    · exact h.args e he
  have hlist : (enc f.toFrame).toList =
      (",".intercalate ((f.opcode :: f.args).map encElement)).toList ++ [';'] := by
    simp [enc]
  rw [Instruction.raw, newFrame_toByteArray, hlist,
    foldl_step_elements (List.cons_ne_nil _ _) hes, List.foldl_cons]
  have hopcode : Reading.start.msg.add f.opcode = { opcode := f.opcode, args := [] } := if_pos rfl
  rw [hopcode, foldl_add_args f.opcode_ne]
  rfl

/-- The instructions of a set are read back if and only if all their elements are plain. -/
theorem readsBack_iff (S : Set Instruction) : ReadsBack S ↔ ∀ f ∈ S, f.Plain := by
  constructor
  · exact fun h f hf => plain_newFrame (h.exact f hf)
  · intro h
    refine ⟨fun f hf => newFrame_raw (h f hf), fun f hf g hg heq => ?_⟩
    rw [newFrame_raw (h f hf), newFrame_raw (h g hg)] at heq
    cases f
    cases g
    cases heq
    rfl

/-- An argument with a comma is read as two, and one with a dot as what follows the dot. -/
theorem not_readsBack :
    let comma : Instruction := { opcode := "key", args := ["a,b"], opcode_ne := by decide }
    let dot : Instruction := { opcode := "key", args := ["a.b"], opcode_ne := by decide }
    let plain : Instruction := { opcode := "key", args := ["b"], opcode_ne := by decide }
    newFrame comma.raw = .ok { opcode := "key", args := ["a", "b"] } ∧
      newFrame dot.raw = newFrame plain.raw ∧ ¬ ReadsBack Set.univ := by
  intro comma dot plain
  have hcomma : newFrame comma.raw = .ok { opcode := "key", args := ["a", "b"] } := by
    rw [Instruction.raw, newFrame_toByteArray]
    decide
  have hdot : newFrame dot.raw = newFrame plain.raw := by
    rw [Instruction.raw, Instruction.raw, newFrame_toByteArray, newFrame_toByteArray]
    decide
  refine ⟨hcomma, hdot, fun h => ?_⟩
  have hexact := h.exact comma trivial
  rw [hcomma] at hexact
  exact absurd hexact (by decide)

end Haaukins.Guacamole
