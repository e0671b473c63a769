import Mathlib.Algebra.Group.Nat.Defs
import Mathlib.Data.List.Basic
import Mathlib.Data.List.DropRight
import Mathlib.Data.List.TakeDrop
import Std.Data.String.ToNat

/-!
# `Haaukins.Lib.GoStrings`: replacing text in strings

`replace` and `replaceAll` are `strings.Replace` and `strings.ReplaceAll` of Go for a text
`old` that is not empty. They work on the list of characters from left to right; `skip` counts
the characters of a replaced occurrence that are still to be dropped.

`split` is `strings.Split` at one character. It takes a join apart again (`split_intercalate`).
`splitFirst` is `strings.SplitN` with two parts (`splitFirst_eq_some`). `trimSpace` and
`toLower` are the functions of these names.
`dropLastBytes` is the slice `s[:len(s)-n]`, which counts bytes. `IsDecimal` has the texts of
digits, and `decimalValue` their numbers.

The rule `replace_append` covers the use with a suffix: when the suffix has a character that
the rest has not, the suffix is the first occurrence. `append_cons_inj` splits two texts at
the first occurrence of a separator.
-/

set_option autoImplicit false

namespace GoStrings

/-- Replace the first `n` occurrences of `old`, after dropping `skip` characters. -/
def replaceChars (old new : List Char) : Nat → Nat → List Char → List Char
  | _, _, [] => []
  | n, skip + 1, _ :: cs => replaceChars old new n skip cs
  | 0, 0, c :: cs => c :: cs
  | n + 1, 0, c :: cs =>
    if old.isPrefixOf (c :: cs) then new ++ replaceChars old new n (old.length - 1) cs
    else c :: replaceChars old new (n + 1) 0 cs

/-- `strings.Replace(s, old, new, n)` for a text `old` that is not empty. -/
def replace (s old new : String) (n : Nat) : String :=
  String.ofList (replaceChars old.toList new.toList n 0 s.toList)

/-- `strings.ReplaceAll(s, old, new)` for a text `old` that is not empty. -/
def replaceAll (s old new : String) : String := replace s old new s.length

/-- Dropping a whole list leaves nothing. -/
theorem replaceChars_skip (old new : List Char) (n : Nat) (cs : List Char) :
    replaceChars old new n cs.length cs = [] := by
  induction cs with
  | nil => simp [replaceChars]
  | cons c cs ih => simpa [replaceChars] using ih

/-- Text before the only occurrence is copied. -/
theorem replaceChars_append {old new : List Char} {c : Char} (hold : c ∈ old) (n : Nat) :
    ∀ {s : List Char}, c ∉ s → replaceChars old new (n + 1) 0 (s ++ old) = s ++ new := by
  intro s
  induction s with
  | nil =>
    intro _
    cases old with
    | nil => cases hold
    | cons x xs => simp [replaceChars, replaceChars_skip]
  | cons a s ih =>
    intro hs
    rw [List.mem_cons, not_or] at hs
    have hnot : ¬ old <+: a :: s ++ old := by
      rintro ⟨r, hr⟩
      -- The first `c` would stand at two different places.
      have hout : c ∉ a :: s := by simp [hs]
      have hleft : (old ++ r).idxOf c = old.idxOf c := List.idxOf_append_of_mem hold
      have hright : (a :: s ++ old).idxOf c = (a :: s).length + old.idxOf c :=
        List.idxOf_append_of_notMem hout
      rw [hr] at hleft
      rw [hleft] at hright
      simp only [List.length_cons] at hright
      omega
    simp only [List.cons_append] at hnot ⊢
    simp only [replaceChars, List.isPrefixOf_iff_prefix, hnot, if_false, ih hs.2]

/-- A suffix with a character that the rest has not is the first occurrence of itself. -/
theorem replace_append {s old : String} (new : String) {c : Char} (hold : c ∈ old.toList)
    (hs : c ∉ s.toList) (n : Nat) : replace (s ++ old) old new (n + 1) = s ++ new := by
  rw [replace, String.toList_append, replaceChars_append hold n hs]
  simp

/-- An ending that occurs once is replaced. -/
theorem replaceAll_append {s old : String} (new : String) {c : Char} (hold : c ∈ old.toList)
    (hs : c ∉ s.toList) : replaceAll (s ++ old) old new = s ++ new := by
  have hpos : (s ++ old).length ≠ 0 := by
    have := List.length_pos_of_mem hold
    simp only [String.length_append, String.length_toList] at *
    omega
  obtain ⟨n, hn⟩ := Nat.exists_eq_succ_of_ne_zero hpos
  rw [replaceAll, hn]
  exact replace_append new hold hs n

/-- Two texts with a separator agree before and after its first occurrence. -/
theorem append_cons_inj {c : Char} :
    ∀ {xs xs' ys ys' : List Char}, c ∉ xs → c ∉ xs' → xs ++ c :: ys = xs' ++ c :: ys' →
      xs = xs' ∧ ys = ys'
  | [], [], _, _, _, _, h => by simpa using h
  | [], x :: xs', _, _, _, h', h => by
    simp only [List.nil_append, List.cons_append, List.cons.injEq] at h
    exact absurd (h.1 ▸ List.mem_cons_self) h'
  | x :: xs, [], _, _, h', _, h => by
    simp only [List.nil_append, List.cons_append, List.cons.injEq] at h
    exact absurd (h.1 ▸ List.mem_cons_self) h'
  | x :: xs, x' :: xs', _, _, hx, hx', h => by
    simp only [List.cons_append, List.cons.injEq] at h
    rw [List.mem_cons, not_or] at hx hx'
    obtain ⟨rfl, hys⟩ := append_cons_inj hx.2 hx'.2 h.2
    exact ⟨by rw [h.1], hys⟩

/-- `strings.Split(s, sep)` for a separator of one character. -/
def split (s : String) (sep : Char) : List String :=
  (s.toList.splitOn sep).map String.ofList

/-- Splitting at a separator splits the texts on both of its sides. -/
theorem split_append (s t : String) (sep : Char) :
    split (s ++ (String.singleton sep ++ t)) sep = split s sep ++ split t sep := by
  have hlist : (s ++ (String.singleton sep ++ t)).toList = s.toList ++ sep :: t.toList := by
    simp
  rw [split, hlist, List.splitOn_append_cons_self, List.map_append]
  rfl

/-- Splitting takes a join apart again, when no text has the separator. -/
theorem split_intercalate {sep : Char} {ss : List String} (hsep : ∀ s ∈ ss, sep ∉ s.toList)
    (hne : ss ≠ []) : split ((String.singleton sep).intercalate ss) sep = ss := by
  have hchars : ∀ l ∈ ss.map String.toList, sep ∉ l := by simpa using hsep
  rw [split, String.toList_intercalate, String.toList_singleton,
    List.splitOn_intercalate sep hchars (by simpa using hne), List.map_map]
  simp

/-- A text without the separator is one part. -/
theorem split_of_notMem {s : String} {sep : Char} (h : sep ∉ s.toList) : split s sep = [s] := by
  have hparts : ∀ s' ∈ [s], sep ∉ s'.toList := fun s' hs' => by
    rwa [List.mem_singleton.mp hs']
  simpa using split_intercalate hparts (by simp)

/-- The parts do not contain the separator. -/
theorem notMem_of_mem_splitOn {α : Type*} [BEq α] [LawfulBEq α] {sep : α} :
    ∀ {xs part : List α}, part ∈ xs.splitOn sep → sep ∉ part := by
  intro xs
  induction xs with
  | nil => simp
  | cons x xs ih =>
    intro part hpart
    obtain ⟨first, rest, hsplit⟩ := List.exists_cons_of_ne_nil (List.splitOn_ne_nil sep xs)
    rw [List.splitOn_cons_eq_if_modifyHead, hsplit] at hpart
    rw [hsplit] at ih
    split at hpart
    · rcases List.mem_cons.mp hpart with rfl | hpart
      · exact List.not_mem_nil
      · exact ih hpart
    · next hne =>
      rcases List.mem_cons.mp hpart with rfl | hpart
      · rw [List.mem_cons, not_or]
        exact ⟨fun heq => hne (beq_iff_eq.mpr heq.symm), ih List.mem_cons_self⟩
      · exact ih (List.mem_cons_of_mem _ hpart)

/-- Splitting takes a join apart again exactly when there is a text and no text has the
separator. -/
theorem split_intercalate_iff {sep : Char} {ss : List String} :
    split ((String.singleton sep).intercalate ss) sep = ss ↔
      ss ≠ [] ∧ ∀ s ∈ ss, sep ∉ s.toList := by
  constructor
  · intro h
    rw [← h]
    refine ⟨by simp [split, List.splitOn_ne_nil], fun s hs => ?_⟩
    obtain ⟨part, hpart, rfl⟩ := List.mem_map.mp hs
    rw [String.toList_ofList]
    exact notMem_of_mem_splitOn hpart
  · rintro ⟨hne, hsep⟩
    exact split_intercalate hsep hne

/-- A join puts a text together again. -/
theorem intercalate_split (s : String) (sep : Char) :
    (String.singleton sep).intercalate (split s sep) = s := by
  apply String.toList_injective
  rw [String.toList_intercalate, split, List.map_map, String.toList_singleton]
  simp [Function.comp_def]

/-- A text has one part more than it has separators. -/
theorem length_split (s : String) (sep : Char) :
    (split s sep).length = s.toList.count sep + 1 := by
  have hchars : ∀ cs : List Char, (cs.splitOn sep).length = cs.count sep + 1 := by
    intro cs
    induction cs with
    | nil => rfl
    | cons c cs ih =>
      rw [List.splitOn_cons_eq_if_modifyHead, List.count_cons, ← Nat.add_right_comm, ← ih]
      split <;> simp
  rw [split, List.length_map, hchars]

/-- A join comes apart into at least as many parts, and each separator inside a text makes one
more. -/
theorem length_add_count_le_length_split {sep : Char} :
    ∀ {ss : List String}, ∀ s ∈ ss,
      ss.length + s.toList.count sep ≤
        (split ((String.singleton sep).intercalate ss) sep).length := by
  intro ss
  induction ss with
  | nil => simp
  | cons first ss ih =>
    intro s hs
    cases ss with
    | nil =>
      rw [List.mem_singleton.mp hs, length_split]
      simp [Nat.add_comm]
    | cons second ss =>
      have hjoin : (split ((String.singleton sep).intercalate (first :: second :: ss)) sep).length =
          first.toList.count sep + 1 +
            (split ((String.singleton sep).intercalate (second :: ss)) sep).length := by
        rw [length_split, length_split, String.intercalate_cons_cons]
        simp only [String.toList_append, String.toList_singleton, List.count_append,
          List.count_singleton_self]
        omega
      have hrest := ih second List.mem_cons_self
      rw [hjoin, List.length_cons]
      rcases List.mem_cons.mp hs with rfl | hs
      · omega
      · have := ih s hs
        omega

/-- A character that is in no part and is not the separator is not in the join. -/
theorem notMem_intercalate {c sep : Char} (hc : c ≠ sep) :
    ∀ {ss : List String}, (∀ s ∈ ss, c ∉ s.toList) →
      c ∉ ((String.singleton sep).intercalate ss).toList := by
  intro ss
  induction ss with
  | nil => simp
  | cons s ss ih =>
    intro hss
    have hs : c ∉ s.toList := hss s List.mem_cons_self
    have hrest := ih fun s' hs' => hss s' (List.mem_cons_of_mem s hs')
    cases ss with
    | nil => simpa using hs
    | cons s' ss =>
      rw [String.intercalate_cons_cons]
      simp only [String.toList_append, List.mem_append, not_or]
      exact ⟨⟨hs, by simpa using hc⟩, hrest⟩

/-- `strings.SplitN(s, sep, 2)` for a separator of one character: the texts before and after its
first occurrence, or `none` when there is no occurrence. -/
def splitFirst (s : String) (sep : Char) : Option (String × String) :=
  match s.toList.span (· ≠ sep) with
  | (_, []) => none
  | (before, _ :: after) => some (String.ofList before, String.ofList after)

/-- The split at the first separator gives the texts on both of its sides. -/
theorem splitFirst_append {before : String} {sep : Char} (hbefore : sep ∉ before.toList)
    (after : String) :
    splitFirst (before ++ (String.singleton sep ++ after)) sep = some (before, after) := by
  have htext : (before ++ (String.singleton sep ++ after)).toList =
      before.toList ++ sep :: after.toList := by simp
  have hall : ∀ c ∈ before.toList, decide (c ≠ sep) = true := fun c hc =>
    decide_eq_true fun heq => hbefore (heq ▸ hc)
  rw [splitFirst, htext, List.span_eq_takeWhile_dropWhile,
    List.takeWhile_append_of_pos hall, List.dropWhile_append_of_pos hall]
  simp

/-- A text without the separator is not split. -/
theorem splitFirst_of_notMem {s : String} {sep : Char} (h : sep ∉ s.toList) :
    splitFirst s sep = none := by
  have hall : ∀ c ∈ s.toList, decide (c ≠ sep) = true := fun c hc =>
    decide_eq_true fun heq => h (heq ▸ hc)
  rw [splitFirst, List.span_eq_takeWhile_dropWhile, List.dropWhile_eq_nil_iff.mpr hall]

/-- The first part has no separator, and the text is put together from both parts. -/
theorem splitFirst_eq_some {s before after : String} {sep : Char} :
    splitFirst s sep = some (before, after) ↔
      sep ∉ before.toList ∧ s = before ++ (String.singleton sep ++ after) := by
  constructor
  · intro h
    have hmem : sep ∈ s.toList := by
      by_contra hnot
      rw [splitFirst_of_notMem hnot] at h
      cases h
    obtain ⟨xs, ys, hs, hxs⟩ := List.eq_append_cons_of_mem hmem
    have htext : s = String.ofList xs ++ (String.singleton sep ++ String.ofList ys) :=
      String.toList_injective (by simpa using hs)
    have hbefore : sep ∉ (String.ofList xs).toList := by simpa using hxs
    rw [htext, splitFirst_append hbefore, Option.some.injEq, Prod.mk.injEq] at h
    rw [← h.1, ← h.2]
    exact ⟨hbefore, htext⟩
  · rintro ⟨hbefore, rfl⟩
    exact splitFirst_append hbefore after

/-- `unicode.IsSpace`. -/
def isSpace (c : Char) : Bool :=
  (9 ≤ c.toNat && c.toNat ≤ 13) || c.toNat == 0x20 || c.toNat == 0x85 || c.toNat == 0xA0 ||
    c.toNat == 0x1680 || (0x2000 ≤ c.toNat && c.toNat ≤ 0x200A) || c.toNat == 0x2028 ||
    c.toNat == 0x2029 || c.toNat == 0x202F || c.toNat == 0x205F || c.toNat == 0x3000

/-- `strings.TrimSpace(s)`. -/
def trimSpace (s : String) : String :=
  String.ofList ((s.toList.dropWhile isSpace).reverse.dropWhile isSpace).reverse

/-- A list that does not start with a dropped element still does not when its end is cut. -/
theorem dropWhile_of_prefix {α : Type*} {p : α → Bool} {xs ys : List α} (h : xs <+: ys)
    (hys : ys.dropWhile p = ys) : xs.dropWhile p = xs := by
  rw [List.dropWhile_eq_self_iff] at hys ⊢
  intro hpos
  rw [h.getElem hpos]
  exact hys (hpos.trans_le h.length_le)

/-- A trimmed text has nothing to trim. -/
theorem trimSpace_trimSpace (s : String) : trimSpace (trimSpace s) = trimSpace s := by
  have htrim : ∀ cs : List Char, trimSpace (String.ofList cs) =
      String.ofList ((cs.dropWhile isSpace).rdropWhile isSpace) := fun cs => by
    rw [trimSpace, String.toList_ofList]
    rfl
  have hs : trimSpace s = String.ofList ((s.toList.dropWhile isSpace).rdropWhile isSpace) := rfl
  have hfront : ((s.toList.dropWhile isSpace).rdropWhile isSpace).dropWhile isSpace =
      (s.toList.dropWhile isSpace).rdropWhile isSpace :=
    dropWhile_of_prefix (List.rdropWhile_prefix _ _) (List.dropWhile_idempotent _ _)
  rw [hs, htrim, hfront, List.rdropWhile_idempotent]

/-- A text has nothing to trim when it begins and ends with characters that are not spaces. -/
theorem trimSpace_of_ends {s : String} {first last : Char} {mid : List Char}
    (h : s.toList = first :: mid ++ [last]) (hfirst : isSpace first = false)
    (hlast : isSpace last = false) : trimSpace s = s := by
  have hfront : (first :: mid ++ [last]).dropWhile isSpace = first :: mid ++ [last] :=
    List.dropWhile_cons_of_neg (by simp [hfirst])
  have hback : (first :: mid ++ [last]).rdropWhile isSpace = first :: mid ++ [last] :=
    List.rdropWhile_concat_neg _ _ _ (by simp [hlast])
  rw [trimSpace, h, hfront]
  show String.ofList ((first :: mid ++ [last]).rdropWhile isSpace) = s
  rw [hback, ← h, String.ofList_toList]

/-- `unicode.ToLower`, for the characters whose lower case is a letter from `a` to `z`. -/
def toLowerChar (c : Char) : Char :=
  if c.toNat = 0x130 then 'i' else if c.toNat = 0x212A then 'k' else c.toLower

/-- `strings.ToLower(s)`, up to letters outside the range from `a` to `z`. -/
def toLower (s : String) : String := String.ofList (s.toList.map toLowerChar)

/-- Drop characters with `n` bytes in all. -/
def dropBytes : Nat → List Char → Option (List Char)
  | 0, cs => some cs
  | _ + 1, [] => none
  | n + 1, c :: cs => if c.utf8Size ≤ n + 1 then dropBytes (n + 1 - c.utf8Size) cs else none

/-- `s[:len(s)-n]`. The result is `none` when the text is too short, and the slice panics, or when
it ends inside a character. -/
def dropLastBytes (s : String) (n : Nat) : Option String :=
  (dropBytes n s.toList.reverse).map fun cs => String.ofList cs.reverse

/-- The order of the characters does not change the number of bytes. -/
theorem utf8ByteSize_ofList_reverse (cs : List Char) :
    (String.ofList cs.reverse).utf8ByteSize = (String.ofList cs).utf8ByteSize := by
  induction cs with
  | nil => rfl
  | cons c cs ih =>
    have hlast : String.ofList [c] = String.singleton c := String.singleton_eq_ofList.symm
    rw [List.reverse_cons, String.ofList_append, hlast, String.ofList_cons,
      String.utf8ByteSize_append, String.utf8ByteSize_append, ih, Nat.add_comm]

/-- Dropping the bytes of the beginning leaves the rest. -/
theorem dropBytes_append (cs rest : List Char) :
    dropBytes (String.ofList cs).utf8ByteSize (cs ++ rest) = some rest := by
  induction cs with
  | nil => simp [dropBytes]
  | cons c cs ih =>
    have hpos : 0 < c.utf8Size := c.utf8Size_pos
    have hsize : (String.ofList (c :: cs)).utf8ByteSize =
        c.utf8Size + (String.ofList cs).utf8ByteSize := by
      rw [String.ofList_cons, String.utf8ByteSize_append, String.utf8ByteSize_singleton]
    obtain ⟨n, hn⟩ : ∃ n, c.utf8Size + (String.ofList cs).utf8ByteSize = n + 1 :=
      ⟨c.utf8Size + (String.ofList cs).utf8ByteSize - 1, by omega⟩
    rw [hsize, hn, List.cons_append, dropBytes, if_pos (by omega), ← hn, Nat.add_sub_cancel_left,
      ih]

/-- The slice takes a suffix off again. -/
theorem dropLastBytes_append (s suffix : String) :
    dropLastBytes (s ++ suffix) suffix.utf8ByteSize = some s := by
  have hsize : suffix.utf8ByteSize = (String.ofList suffix.toList.reverse).utf8ByteSize := by
    rw [utf8ByteSize_ofList_reverse, String.ofList_toList]
  rw [dropLastBytes, String.toList_append, List.reverse_append, hsize, dropBytes_append]
  simp

/-- What is dropped is whole characters. -/
theorem dropBytes_eq_some {n : Nat} {cs rest : List Char} (h : dropBytes n cs = some rest) :
    ∃ taken, cs = taken ++ rest ∧ (String.ofList taken).utf8ByteSize = n := by
  induction cs generalizing n with
  | nil =>
    cases n with
    | zero =>
      cases h
      exact ⟨[], rfl, rfl⟩
    | succ n => cases h
  | cons c cs ih =>
    cases n with
    | zero =>
      cases h
      exact ⟨[], rfl, rfl⟩
    | succ n =>
      rw [dropBytes] at h
      split at h
      · next hle =>
        obtain ⟨taken, rfl, hsize⟩ := ih h
        refine ⟨c :: taken, rfl, ?_⟩
        rw [String.ofList_cons, String.utf8ByteSize_append, String.utf8ByteSize_singleton, hsize]
        omega
      · cases h

/-- What the slice takes off is a suffix. -/
theorem dropLastBytes_eq_some {s t : String} {n : Nat} (h : dropLastBytes s n = some t) :
    ∃ suffix : String, s = t ++ suffix ∧ suffix.utf8ByteSize = n := by
  obtain ⟨cs, hcs, rfl⟩ := Option.map_eq_some_iff.mp h
  obtain ⟨taken, htaken, hsize⟩ := dropBytes_eq_some hcs
  refine ⟨String.ofList taken.reverse, ?_, ?_⟩
  · rw [← String.ofList_append, ← List.reverse_append, ← htaken, List.reverse_reverse,
      String.ofList_toList]
  · rw [utf8ByteSize_ofList_reverse, hsize]

/-- The decimal digits of a number contain no other character. -/
theorem notMem_repr {c : Char} (hc : c.isDigit = false) (n : Nat) : c ∉ n.repr.toList := by
  rw [Nat.toList_repr]
  intro hmem
  simp [Nat.isDigit_of_mem_toDigits (by decide) (by decide) hmem] at hc

/-- A decimal number: digits, and at least one. -/
structure IsDecimal (s : String) : Prop where
  ne : s ≠ ""
  digits : ∀ c ∈ s.toList, c.isDigit = true

/-- The number of a text of digits. -/
def decimalValue (s : String) : Nat := Nat.ofDigitChars 10 s.toList 0

/-- A decimal text has digits only. -/
theorem IsDecimal.notMem {s : String} (h : IsDecimal s) {c : Char} (hc : c.isDigit = false) :
    c ∉ s.toList := by
  intro hmem
  rw [h.digits c hmem] at hc
  cases hc

/-- Two decimal texts beside each other are one. -/
theorem IsDecimal.append {s t : String} (hs : IsDecimal s) (ht : IsDecimal t) :
    IsDecimal (s ++ t) := by
  constructor
  · intro hempty
    exact hs.ne (String.append_eq_empty_iff.mp hempty).1
  · intro c hc
    rw [String.toList_append, List.mem_append] at hc
    rcases hc with hc | hc
    · exact hs.digits c hc
    · exact ht.digits c hc

/-- Digits behind a number move it up by as many places. -/
theorem decimalValue_append (s t : String) :
    decimalValue (s ++ t) = decimalValue s * 10 ^ t.length + decimalValue t := by
  rw [decimalValue, String.toList_append, Nat.ofDigitChars_append,
    Nat.ofDigitChars_eq_ofDigitChars_zero, String.length_toList, Nat.mul_comm]
  rfl

/-- The value is bounded by the number of digits. -/
theorem IsDecimal.value_lt {s : String} (h : IsDecimal s) : decimalValue s < 10 ^ s.length := by
  have hlt : ∀ cs : List Char, (∀ c ∈ cs, c.isDigit = true) →
      Nat.ofDigitChars 10 cs 0 < 10 ^ cs.length := by
    intro cs
    induction cs with
    | nil => simp
    | cons c cs ih =>
      intro hcs
      have hc := Char.isDigit_iff_toNat.mp (hcs c List.mem_cons_self)
      have hrest := ih fun c' hc' => hcs c' (List.mem_cons_of_mem c hc')
      have hdigit : c.toNat - '0'.toNat ≤ 9 := by
        have hzero : '0'.toNat = 48 := rfl
        have hnine : '9'.toNat = 57 := rfl
        omega
      rw [Nat.ofDigitChars_cons, Nat.ofDigitChars_eq_ofDigitChars_zero, List.length_cons,
        Nat.pow_succ, Nat.mul_zero, Nat.zero_add]
      have := Nat.mul_le_mul_left (10 ^ cs.length) hdigit
      omega
  rw [← String.length_toList]
  exact hlt s.toList h.digits

/-- The texts `""`, `"a"`, `"aa"` and so on. -/
def letters (n : Nat) : String := String.ofList (List.replicate n 'a')

/-- The length tells the number. -/
theorem letters_injective : Function.Injective letters := by
  intro m n h
  have := congrArg String.toList h
  simpa [letters] using congrArg List.length this

end GoStrings
