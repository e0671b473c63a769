import Mathlib.Data.List.Basic

/-!
# `Haaukins.Lib.GoBytes`: texts as bytes

A Go string is a sequence of bytes, and a loop over a string or `utf8.DecodeRune` reads its
characters from their encodings. A byte that starts no encoding is read as `runeError`.

The bytes of a text read back as its characters (`runes_toByteArray`). A slice is `none` when its
bound is out of range.
-/

set_option autoImplicit false

namespace GoBytes

/-- `utf8.RuneError`. -/
def runeError : Char := '\uFFFD'

/-- `utf8.DecodeRune` of bytes that are not empty. -/
def decodeRune (b : ByteArray) : Char × Nat :=
  match b.utf8DecodeChar? 0 with
  | some c => (c, c.utf8Size)
  | none => (runeError, 1)

/-- At most `n` characters from the beginning. -/
def runesUpTo : Nat → ByteArray → List Char
  | 0, _ => []
  | n + 1, b =>
    if b.size = 0 then []
    else (decodeRune b).1 :: runesUpTo n (b.extract (decodeRune b).2 b.size)

/-- The characters of `for _, c := range b`. Each of them takes a byte at least. -/
def runes (b : ByteArray) : List Char := runesUpTo b.size b

/-- `b[:len(b)-n]`. -/
def dropLast (b : ByteArray) (n : Nat) : Option ByteArray :=
  if n ≤ b.size then some (b.extract 0 (b.size - n)) else none

/-- `b[:n]`. -/
def slice (b : ByteArray) (n : Nat) : Option ByteArray :=
  if n ≤ b.size then some (b.extract 0 n) else none

/-- One character in bytes. -/
theorem size_utf8Encode_singleton (c : Char) : [c].utf8Encode.size = c.utf8Size := by
  rw [List.utf8Encode_singleton, List.size_toByteArray, String.length_utf8EncodeChar]

/-- A text of `n` characters has `n` bytes at least. -/
theorem le_size_utf8Encode (cs : List Char) : cs.length ≤ cs.utf8Encode.size := by
  induction cs with
  | nil => exact Nat.zero_le _
  | cons c cs ih =>
    have hpos : 0 < c.utf8Size := c.utf8Size_pos
    rw [List.utf8Encode_cons, ByteArray.size_append, size_utf8Encode_singleton, List.length_cons]
    omega

/-- Reading the bytes of characters gives the characters. -/
theorem runesUpTo_utf8Encode {n : Nat} {cs : List Char} (h : cs.length ≤ n) :
    runesUpTo n cs.utf8Encode = cs := by
  induction cs generalizing n with
  | nil =>
    cases n with
    | zero => rfl
    | succ n => rfl
  | cons c cs ih =>
    cases n with
    | zero => exact absurd h (by simp)
    | succ n =>
      have hpos : 0 < c.utf8Size := c.utf8Size_pos
      have hdecode : decodeRune (c :: cs).utf8Encode = (c, c.utf8Size) := by
        rw [decodeRune, List.utf8DecodeChar?_utf8Encode_cons]
      have hsize : (c :: cs).utf8Encode.size = c.utf8Size + cs.utf8Encode.size := by
        rw [List.utf8Encode_cons, ByteArray.size_append, size_utf8Encode_singleton]
      have hrest : (c :: cs).utf8Encode.extract c.utf8Size (c :: cs).utf8Encode.size =
          cs.utf8Encode := by
        rw [hsize, List.utf8Encode_cons]
        refine ByteArray.extract_append_eq_right (size_utf8Encode_singleton c).symm ?_
        rw [size_utf8Encode_singleton]
      rw [runesUpTo, if_neg (by omega), hdecode, hrest,
        ih (Nat.le_of_succ_le_succ (by simpa using h))]

/-- The bytes of a text read back as its characters. -/
theorem runes_toByteArray (s : String) : runes s.toByteArray = s.toList := by
  rw [runes, ← String.utf8Encode_toList]
  exact runesUpTo_utf8Encode (le_size_utf8Encode s.toList)

/-- The slice takes a suffix off again. -/
theorem dropLast_append (a b : ByteArray) : dropLast (a ++ b) b.size = some a := by
  have hsize : (a ++ b).size - b.size = a.size := by
    rw [ByteArray.size_append]
    omega
  rw [dropLast, if_pos (by rw [ByteArray.size_append]; omega), hsize,
    ByteArray.extract_append_eq_left rfl]

/-- The slice takes `n` bytes off. -/
theorem size_of_dropLast {a b : ByteArray} {n : Nat} (h : dropLast b n = some a) :
    a.size + n = b.size := by
  rw [dropLast] at h
  split at h
  · next hle =>
    cases h
    rw [ByteArray.size_extract]
    omega
  · cases h

/-- The slice is out of range for bytes that are too few. -/
theorem dropLast_eq_none {b : ByteArray} {n : Nat} : dropLast b n = none ↔ b.size < n := by
  rw [dropLast]
  split <;> simp <;> omega

/-- A text begins with the bytes of another one if and only if it begins with its characters. -/
theorem slice_toByteArray_iff (p s : String) :
    slice s.toByteArray p.toByteArray.size = some p.toByteArray ↔ p.toList <+: s.toList := by
  constructor
  · intro h
    rw [slice] at h
    split at h
    · next hle =>
      have hfirst : s.toByteArray.extract 0 p.toByteArray.size = p.toByteArray :=
        Option.some.inj h
      have hsplit : p.toByteArray ++ s.toByteArray.extract p.toByteArray.size s.toByteArray.size =
          s.toByteArray := by
        nth_rewrite 1 [← hfirst]
        rw [ByteArray.extract_append_extract, Nat.min_eq_left (Nat.zero_le _),
          Nat.max_eq_right hle, ByteArray.extract_zero_size]
      rw [← String.utf8Encode_toList, ← String.utf8Encode_toList] at hsplit
      exact List.isPrefix_of_utf8Encode_append_eq_utf8Encode _ hsplit
    · cases h
  · rintro ⟨rest, hrest⟩
    have hbytes : s.toByteArray = p.toByteArray ++ rest.utf8Encode := by
      rw [← String.utf8Encode_toList, ← hrest, List.utf8Encode_append, String.utf8Encode_toList]
    rw [slice, hbytes, if_pos (by rw [ByteArray.size_append]; omega),
      ByteArray.extract_append_eq_left rfl]

end GoBytes
