import Mathlib.Data.List.Basic
import Mathlib.Order.Nat

/-!
# `Haaukins.Lib.SharedFile`: writers of one text in one file

Several writers may have the same file open, each with its own offset, and write the same text
into it piece by piece. A file that is created again loses what it had, and a write behind the end
of the file leaves a gap of zeros. So while the writers are at work the file may have gaps, and may
end too early.

* `Within text file` says that each byte of the file is that of the text or a gap.
* `Agrees text file n` says that the first `n` bytes are there.

A write of a piece at its place keeps both (`Within.writeAt`, `Agrees.writeAt`), and
`Agrees.writeAt_self` says what the writer has then written. `Within.eq_of_agrees` is about a
writer that has come to the end.
-/

set_option autoImplicit false

namespace SharedFile

variable {β : Type*}

/-- The file after a write at an offset. -/
def writeAt (zero : β) (file : List β) (offset : Nat) (data : List β) : List β :=
  (file ++ List.replicate (offset - file.length) zero).take offset ++ data ++
    file.drop (offset + data.length)

/-- Each byte of the file is that of the text, or a gap. -/
structure Within (zero : β) (text file : List β) : Prop where
  length_le : file.length ≤ text.length
  byte : ∀ i, i < file.length → file[i]? = text[i]? ∨ file[i]? = some zero

/-- The first `n` bytes of the text are there. -/
def Agrees (text file : List β) (n : Nat) : Prop := ∀ i, i < n → file[i]? = text[i]?

/-- The data stand in the text at the offset. -/
structure Piece (text data : List β) (offset : Nat) : Prop where
  length_le : offset + data.length ≤ text.length
  byte : ∀ i, i < data.length → data[i]? = text[offset + i]?

variable {zero : β} {text file data : List β} {offset n i : Nat}

/-- A write makes the file as long as needed. -/
theorem length_writeAt : (writeAt zero file offset data).length =
    max file.length (offset + data.length) := by
  simp only [writeAt, List.length_append, List.length_take, List.length_replicate,
    List.length_drop]
  omega

/-- Before the offset a file keeps its bytes, and a gap has zeros. -/
theorem getElem?_writeAt_of_lt (h : i < offset) : (writeAt zero file offset data)[i]? =
    if i < file.length then file[i]? else some zero := by
  have hlen : i < ((file ++ List.replicate (offset - file.length) zero).take offset).length := by
    simp only [List.length_take, List.length_append, List.length_replicate]
    omega
  rw [writeAt, List.append_assoc, List.getElem?_append_left hlen, List.getElem?_take_of_lt h]
  split
  · next hfile => rw [List.getElem?_append_left hfile]
  · next hfile =>
    rw [List.getElem?_append_right (by omega), List.getElem?_replicate, if_pos (by omega)]

/-- The data are at the offset. -/
theorem getElem?_writeAt_add (h : i < data.length) :
    (writeAt zero file offset data)[offset + i]? = data[i]? := by
  have hlen :
      ((file ++ List.replicate (offset - file.length) zero).take offset).length = offset := by
    simp only [List.length_take, List.length_append, List.length_replicate]
    omega
  rw [writeAt, List.append_assoc, List.getElem?_append_right (by omega), hlen,
    Nat.add_sub_cancel_left, List.getElem?_append_left h]

/-- Behind the data a file keeps its bytes. -/
theorem getElem?_writeAt_of_le (h : offset + data.length ≤ i) :
    (writeAt zero file offset data)[i]? = file[i]? := by
  have hlen : ((file ++ List.replicate (offset - file.length) zero).take offset ++ data).length =
      offset + data.length := by
    simp only [List.length_append, List.length_take, List.length_replicate]
    omega
  rw [writeAt, List.getElem?_append_right (by omega), hlen, List.getElem?_drop]
  congr 1
  omega

/-- The empty file is within every text. -/
theorem within_nil (zero : β) (text : List β) : Within zero text [] where
  length_le := Nat.zero_le _
  byte i hi := absurd hi (Nat.not_lt_zero i)

/-- Nothing needs to agree up to the beginning. -/
theorem agrees_zero (text file : List β) : Agrees text file 0 := fun i hi =>
  absurd hi (Nat.not_lt_zero i)

/-- The beginning of a piece is a piece. -/
theorem Piece.take (h : Piece text data offset) (n : Nat) : Piece text (data.take n) offset where
  length_le := by
    have hlen := h.length_le
    rw [List.length_take]
    omega
  byte i hi := by
    rw [List.length_take] at hi
    rw [List.getElem?_take_of_lt (by omega)]
    exact h.byte i (by omega)

/-- A write of a piece at its place leaves bytes of the text and gaps. -/
theorem Within.writeAt (h : Within zero text file) (hpiece : Piece text data offset) :
    Within zero text (writeAt zero file offset data) where
  length_le := by
    rw [length_writeAt]
    exact max_le h.length_le hpiece.length_le
  byte i hi := by
    rw [length_writeAt] at hi
    by_cases hlt : i < offset
    · rw [getElem?_writeAt_of_lt hlt]
      split
      · next hfile => exact h.byte i hfile
      · exact .inr rfl
    · by_cases hdata : i < offset + data.length
      · obtain ⟨j, rfl⟩ := Nat.exists_eq_add_of_le (Nat.le_of_not_lt hlt)
        have hj : j < data.length := by omega
        rw [getElem?_writeAt_add hj]
        exact .inl (hpiece.byte j hj)
      · rw [getElem?_writeAt_of_le (Nat.le_of_not_lt hdata)]
        exact h.byte i (by omega)

/-- A write of a piece at its place keeps what is there. -/
theorem Agrees.writeAt (h : Agrees text file n) (hpiece : Piece text data offset) :
    Agrees text (writeAt zero file offset data) n := by
  intro i hi
  have htext := hpiece.length_le
  by_cases hlt : i < offset
  · rw [getElem?_writeAt_of_lt hlt, if_pos, h i hi]
    -- The byte is in the text, so it is in the file.
    by_contra hfile
    have hnone := h i hi
    rw [List.getElem?_eq_none (by omega), eq_comm, List.getElem?_eq_none_iff] at hnone
    omega
  · by_cases hdata : i < offset + data.length
    · obtain ⟨j, rfl⟩ := Nat.exists_eq_add_of_le (Nat.le_of_not_lt hlt)
      have hj : j < data.length := by omega
      rw [getElem?_writeAt_add hj, hpiece.byte j hj]
    · rw [getElem?_writeAt_of_le (Nat.le_of_not_lt hdata), h i hi]

/-- The writer that comes to the offset has then written the piece too. -/
theorem Agrees.writeAt_self (h : Agrees text file offset) (hpiece : Piece text data offset) :
    Agrees text (SharedFile.writeAt zero file offset data) (offset + data.length) := by
  intro i hi
  by_cases hlt : i < offset
  · exact h.writeAt hpiece i hlt
  · obtain ⟨j, rfl⟩ := Nat.exists_eq_add_of_le (Nat.le_of_not_lt hlt)
    have hj : j < data.length := by omega
    rw [getElem?_writeAt_add hj, hpiece.byte j hj]

/-- A writer at the end of the text leaves the text. -/
theorem Within.eq_of_agrees (h : Within zero text file) (hagrees : Agrees text file text.length) :
    file = text := by
  refine List.ext_getElem? fun i => ?_
  by_cases hi : i < text.length
  · exact hagrees i hi
  · have hlen := h.length_le
    rw [List.getElem?_eq_none (by omega), List.getElem?_eq_none (by omega)]

/-! ### A text in pieces -/

/-- The offset of a writer that has written the first `k` pieces. -/
def offsetOf (pieces : List (List β)) (k : Nat) : Nat := (pieces.take k).flatten.length

/-- The next piece begins where this one ends. -/
theorem offsetOf_succ {pieces : List (List β)} {k : Nat} (h : pieces[k]? = some data) :
    offsetOf pieces (k + 1) = offsetOf pieces k + data.length := by
  rw [offsetOf, List.take_add_one, h]
  simp [offsetOf]

/-- A piece stands in the text behind those before it. -/
theorem piece_offsetOf {pieces : List (List β)} {k : Nat} (h : pieces[k]? = some data) :
    Piece pieces.flatten data (offsetOf pieces k) := by
  obtain ⟨hk, rfl⟩ := List.getElem?_eq_some_iff.mp h
  have hsplit : pieces.flatten =
      (pieces.take k).flatten ++ (pieces[k] ++ (pieces.drop (k + 1)).flatten) := by
    rw [← List.flatten_cons, ← List.drop_eq_getElem_cons hk, ← List.flatten_append,
      List.take_append_drop]
  constructor
  · rw [hsplit, offsetOf]
    simp only [List.length_append]
    omega
  · intro i hi
    rw [hsplit, offsetOf, List.getElem?_append_right (by omega), Nat.add_sub_cancel_left,
      List.getElem?_append_left hi]

end SharedFile
