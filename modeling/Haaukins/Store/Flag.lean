import Haaukins.Lib.GoStrings

/-!
# `Haaukins.Store.Flag`: generated flags (`store/flag.go`)

`randCharBytes` fills its bytes from the last one. It takes six bits of a random number after the
other, ten times, before it draws the next number, and skips those that are not the index of a
letter. So it does not end for every random source. `fuel` bounds the turns of the loop, and
`int63` has the numbers that the source gives, one after the other.

All texts here are ASCII, so a byte is a character. An index or a slice out of range is a panic.
`newFlag_isFlagOf` says that there is none, and what the text of a flag is.
-/

set_option autoImplicit false

namespace Haaukins.Store

/-! ## Bytes -/

/-- Why there is no result: the loop has not ended yet, or an index was out of range. -/
inductive Stop where
  | outOfFuel
  | panic
  deriving DecidableEq

/-- `b[i] = c`. -/
def assignAt (b : List Char) (i : Nat) (c : Char) : Except Stop (List Char) :=
  if i < b.length then .ok (b.set i c) else .error .panic

/-- `s[lo:hi]`. -/
def sliceOf (s : List Char) (lo hi : Nat) : Except Stop (List Char) :=
  if lo ≤ hi ∧ hi ≤ s.length then .ok ((s.drop lo).take (hi - lo)) else .error .panic

/-- `copy(arr[:], s)`. -/
def copyBytes (arr s : List Char) : List Char := s.take arr.length ++ arr.drop s.length

/-- `make([]byte, n)`, and the value of an array of bytes before its first assignment. -/
def zeroBytes (n : Nat) : List Char := List.replicate n '\x00'

/-! ## The code -/

/-- The characters of a flag. -/
def letterBytes : List Char :=
  "abcdefghijklmnopqrstuvwxyzABCDEFGHIJKLMNOPQRSTUVWXYZ12345679".toList

/-- 6 bits represent a letter index. -/
def letterIdxBits : Nat := 6

/-- All 1-bits, as many as `letterIdxBits`. -/
def letterIdxMask : Nat := 1 <<< letterIdxBits - 1

/-- The number of letter indices that fit into 63 bits. -/
def letterIdxMax : Nat := 63 / letterIdxBits

/-- How many of them are drawn. -/
def flagUniqueChars : Nat := 10

/-- The length of a flag with its frame. -/
def flagNumCharsFormat : Nat := 15

/-- The bits that `randCharBytes` still has. `drawn` is the number of values that the source has
given. -/
structure LetterCache where
  drawn : Nat
  cache : Nat
  remain : Nat

namespace LetterCache

variable (int63 : Nat → Nat)

/-- `flagSrc.Int63()`, when the source has given `drawn` values. -/
def draw (drawn : Nat) : LetterCache :=
  { drawn := drawn + 1, cache := int63 drawn, remain := letterIdxMax }

/-- `if remain == 0 { cache, remain = flagSrc.Int63(), letterIdxMax }`. -/
def refill (s : LetterCache) : LetterCache := if s.remain = 0 then draw int63 s.drawn else s

/-- `idx`. -/
def idx (s : LetterCache) : Nat := s.cache &&& letterIdxMask

/-- `cache >>= letterIdxBits` and `remain--`. -/
def shift (s : LetterCache) : LetterCache :=
  { s with cache := s.cache >>> letterIdxBits, remain := s.remain - 1 }

end LetterCache

/-- The loop of `randCharBytes`, where `left` is `i + 1`. It returns the bytes and the number of
values that the source has given then. -/
def fillBytes (int63 : Nat → Nat) :
    (fuel : Nat) → LetterCache → (left : Nat) → List Char → Except Stop (List Char × Nat)
  | _, s, 0, b => .ok (b, s.drawn)
  | 0, _, _ + 1, _ => .error .outOfFuel
  | fuel + 1, s, left + 1, b =>
    if h : (s.refill int63).idx < letterBytes.length then
      match assignAt b left (letterBytes.get ⟨(s.refill int63).idx, h⟩) with
      | .error stop => .error stop
      | .ok b => fillBytes int63 fuel (s.refill int63).shift left b
    else fillBytes int63 fuel (s.refill int63).shift (left + 1) b

/-- `randCharBytes`, when the source has given `drawn` values before. -/
def randCharBytes (int63 : Nat → Nat) (fuel drawn n : Nat) : Except Stop (List Char × Nat) :=
  fillBytes int63 fuel (.draw int63 drawn) n (zeroBytes n)

/-- The loop of `formatFlag` from the index `k` on. -/
def writeBytes (formattedFlag : List Char) : Nat → List Char → Except Stop (List Char)
  | _, [] => .ok formattedFlag
  | k, v :: vs =>
    match assignAt formattedFlag k v with
    | .error stop => .error stop
    | .ok formattedFlag => writeBytes formattedFlag (k + 1) vs

/-- `formatFlag`. -/
def formatFlag (arr : List Char) : Except Stop (List Char) :=
  writeBytes (zeroBytes flagNumCharsFormat) 0 ("HKN\x7b".toList ++ arr ++ "\x7d".toList)

/-- `NewFlag`: the flag, and the number of values that the source has given then. -/
def newFlag (int63 : Nat → Nat) (fuel drawn : Nat) : Except Stop (List Char × Nat) :=
  match randCharBytes int63 fuel drawn 10 with
  | .error stop => .error stop
  | .ok (s, drawn) =>
    match formatFlag (copyBytes (zeroBytes flagUniqueChars) s) with
    | .error stop => .error stop
    | .ok flag => .ok (flag, drawn)

/-- `fmt.Sprintf("HKN{%s}", a+"-"+b+"-"+c)`. -/
def flagText (a b c : List Char) : String :=
  "HKN\x7b" ++ (String.ofList a ++ "-" ++ String.ofList b ++ "-" ++ String.ofList c) ++ "\x7d"

/-- `Flag.String`. `r` and `r'` are what the two calls of `rand.Intn(2)` return. -/
def flagString (f : List Char) (r r' : Fin 2) : Except Stop String := do
  let str ← sliceOf f 4 (flagNumCharsFormat - 1)
  let i := 2 + r.val
  let j := i + 2 + r'.val
  let a ← sliceOf str 0 i
  let b ← sliceOf str i j
  let c ← sliceOf str j str.length
  return flagText a b c

/-! ## The letters -/

/-- The loop keeps the number of bytes, has no index out of range, and leaves letters from the
byte at which it began. -/
theorem fillBytes_spec (int63 : Nat → Nat) :
    ∀ {fuel left : Nat} {s : LetterCache} {b : List Char}, left ≤ b.length →
      (∀ c ∈ b.drop left, c ∈ letterBytes) →
      fillBytes int63 fuel s left b = .error .outOfFuel ∨
        ∃ b' drawn, fillBytes int63 fuel s left b = .ok (b', drawn) ∧ b'.length = b.length ∧
          ∀ c ∈ b', c ∈ letterBytes := by
  -- The induction is on the fuel, since a draw that gives no letter does not move the index.
  intro fuel
  induction fuel with
  | zero =>
    intro left s b hleft hb
    cases left with
    | zero => exact .inr ⟨b, s.drawn, rfl, rfl, hb⟩
    | succ left => exact .inl rfl
  | succ fuel ih =>
    intro left s b hleft hb
    cases left with
    | zero => exact .inr ⟨b, s.drawn, rfl, rfl, hb⟩
    | succ left =>
      rw [fillBytes]
      by_cases hidx : (s.refill int63).idx < letterBytes.length
      · -- The letter is put at the index `left`, in front of those that are there.
        have hassign : assignAt b left (letterBytes.get ⟨_, hidx⟩) =
            .ok (b.set left (letterBytes.get ⟨_, hidx⟩)) := if_pos hleft
        have hlength : (b.set left (letterBytes.get ⟨_, hidx⟩)).length = b.length :=
          List.length_set
        have hletters : ∀ c ∈ (b.set left (letterBytes.get ⟨_, hidx⟩)).drop left,
            c ∈ letterBytes := by
          have hdrop : (b.set left (letterBytes.get ⟨_, hidx⟩)).drop left =
              letterBytes.get ⟨_, hidx⟩ :: b.drop (left + 1) := by
            rw [List.drop_eq_getElem_cons (by rwa [hlength]), List.getElem_set_self,
              List.drop_set_of_lt (Nat.lt_add_one left)]
          rw [hdrop]
          intro c hc
          rcases List.mem_cons.mp hc with rfl | hc
          · exact List.get_mem _ _
          · exact hb c hc
        rw [dif_pos hidx, hassign]
        dsimp only
        have hrest := ih (s := (s.refill int63).shift) (by omega) hletters
        rwa [hlength] at hrest
      · -- The six bits are no letter, and the next ones are for the same byte.
        rw [dif_neg hidx]
        exact ih hleft hb

/-- When `randCharBytes` ends, it returns `n` letters. -/
theorem randCharBytes_spec (int63 : Nat → Nat) (fuel drawn n : Nat) :
    randCharBytes int63 fuel drawn n = .error .outOfFuel ∨
      ∃ s drawn', randCharBytes int63 fuel drawn n = .ok (s, drawn') ∧ s.length = n ∧
        ∀ c ∈ s, c ∈ letterBytes := by
  have hlength : (zeroBytes n).length = n := List.length_replicate
  have hnone : ∀ c ∈ (zeroBytes n).drop n, c ∈ letterBytes := by simp [zeroBytes]
  unfold randCharBytes
  rcases fillBytes_spec int63 hlength.ge hnone with hfuel | ⟨s, drawn', hs, hslength, hletters⟩
  · exact .inl hfuel
  · exact .inr ⟨s, drawn', hs, hslength.trans hlength, hletters⟩

/-! ## The format -/

/-- The loop writes its bytes over the ones from the index `k` on, when there are enough. -/
theorem writeBytes_eq :
    ∀ {vs flag : List Char} {k : Nat}, k + vs.length ≤ flag.length →
      writeBytes flag k vs = .ok (flag.take k ++ vs ++ flag.drop (k + vs.length)) := by
  intro vs
  induction vs with
  | nil =>
    intro flag k _
    simp [writeBytes]
  | cons v vs ih =>
    intro flag k hlength
    rw [List.length_cons] at hlength
    have hassign : assignAt flag k v = .ok (flag.set k v) := if_pos (by omega)
    have htake : (flag.set k v).take (k + 1) = flag.take k ++ [v] := by
      rw [List.take_add_one, List.take_set_of_le le_rfl, List.getElem?_set_self (by omega)]
      rfl
    have hdrop : (flag.set k v).drop (k + 1 + vs.length) = flag.drop (k + (vs.length + 1)) := by
      rw [List.drop_set_of_lt (by omega), Nat.add_assoc, Nat.add_comm 1]
    rw [writeBytes, hassign]
    dsimp only
    rw [ih (by rw [List.length_set]; omega), htake, hdrop, List.append_assoc (flag.take k)]
    rfl

/-- The format takes the ten characters, and nothing of it is cut off. -/
theorem formatFlag_eq {arr : List Char} (h : arr.length = 10) :
    formatFlag arr = .ok ("HKN\x7b".toList ++ arr ++ "\x7d".toList) := by
  have hlength : ("HKN\x7b".toList ++ arr ++ "\x7d".toList).length = 15 := by
    simp [h]
  rw [formatFlag, writeBytes_eq (by rw [hlength]; decide)]
  rw [hlength]
  simp [zeroBytes, flagNumCharsFormat]

/-- A text of the same length replaces the whole array. -/
theorem copyBytes_eq {arr s : List Char} (h : s.length = arr.length) : copyBytes arr s = s := by
  rw [copyBytes, List.take_of_length_le h.le, h, List.drop_length, List.append_nil]

/-- `newFlag` fails only when `randCharBytes` does. -/
theorem newFlag_eq {int63 : Nat → Nat} {fuel drawn drawn' : Nat} {s : List Char}
    (h : randCharBytes int63 fuel drawn 10 = .ok (s, drawn')) (hs : s.length = 10) :
    newFlag int63 fuel drawn = .ok ("HKN\x7b".toList ++ s ++ "\x7d".toList, drawn') := by
  have hcopy : copyBytes (zeroBytes flagUniqueChars) s = s := copyBytes_eq hs
  rw [newFlag, h]
  dsimp only
  rw [hcopy, formatFlag_eq hs]

/-! ## The text of a flag -/

/-- The text is a flag of these characters, which are letters: they come in three groups, the
first two of two or three characters. -/
def IsFlagOf (drawn : List Char) (text : String) : Prop :=
  ∃ a b c : List Char, text = flagText a b c ∧ (a.length = 2 ∨ a.length = 3) ∧
    (b.length = 2 ∨ b.length = 3) ∧ (∀ x ∈ a ++ b ++ c, x ∈ letterBytes) ∧ a ++ b ++ c = drawn

/-- The slice between two bounds that fit. -/
theorem sliceOf_eq {s : List Char} {lo hi : Nat} (hlo : lo ≤ hi) (hhi : hi ≤ s.length) :
    sliceOf s lo hi = .ok ((s.drop lo).take (hi - lo)) :=
  if_pos ⟨hlo, hhi⟩

/-- The text has the ten characters of the flag, whatever the two random numbers are. -/
theorem flagString_eq {s : List Char} (h : s.length = 10) (r r' : Fin 2) :
    flagString ("HKN\x7b".toList ++ s ++ "\x7d".toList) r r' =
      .ok (flagText (s.take (2 + r.val)) ((s.drop (2 + r.val)).take (2 + r'.val))
        (s.drop (2 + r.val + 2 + r'.val))) := by
  have hstr : sliceOf ("HKN\x7b".toList ++ s ++ "\x7d".toList) 4 (flagNumCharsFormat - 1) =
      .ok s := by
    have hdrop : ("HKN\x7b".toList ++ s ++ "\x7d".toList).drop 4 = s ++ "\x7d".toList := rfl
    rw [sliceOf_eq (by decide) (by simp [h, flagNumCharsFormat]), hdrop,
      show flagNumCharsFormat - 1 - 4 = s.length from h.symm, List.take_left]
  have hr := r.isLt
  have hr' := r'.isLt
  have ha : sliceOf s 0 (2 + r.val) = .ok (s.take (2 + r.val)) :=
    sliceOf_eq (Nat.zero_le _) (by omega)
  have hb : sliceOf s (2 + r.val) (2 + r.val + 2 + r'.val) =
      .ok ((s.drop (2 + r.val)).take (2 + r'.val)) := by
    rw [sliceOf_eq (by omega) (by omega),
      show 2 + r.val + 2 + r'.val - (2 + r.val) = 2 + r'.val by omega]
  have hc : sliceOf s (2 + r.val + 2 + r'.val) s.length =
      .ok (s.drop (2 + r.val + 2 + r'.val)) := by
    rw [sliceOf_eq (by omega) le_rfl, List.take_of_length_le (by rw [List.length_drop])]
  unfold flagString
  rw [hstr]
  show (do
    let a ← sliceOf s 0 (2 + r.val)
    let b ← sliceOf s (2 + r.val) (2 + r.val + 2 + r'.val)
    let c ← sliceOf s (2 + r.val + 2 + r'.val) s.length
    return flagText a b c) = _
  rw [ha, hb, hc]
  rfl

/-- The text of a flag begins and ends with characters that are not spaces. -/
theorem trimSpace_flagText (a b c : List Char) :
    GoStrings.trimSpace (flagText a b c) = flagText a b c := by
  obtain ⟨mid, hmid⟩ : ∃ mid, (flagText a b c).toList = 'H' :: mid ++ ['\x7d'] :=
    ⟨"KN\x7b".toList ++ (String.ofList a ++ "-" ++ String.ofList b ++ "-" ++
      String.ofList c).toList, by simp [flagText]⟩
  exact GoStrings.trimSpace_of_ends hmid rfl rfl

/-- When the generator ends, it gives a flag, with no index out of range. The text of the flag has
the ten characters that were drawn, and nothing to trim. -/
theorem newFlag_isFlagOf (int63 : Nat → Nat) (fuel drawn : Nat) (r r' : Fin 2)
    (h : newFlag int63 fuel drawn ≠ .error .outOfFuel) :
    ∃ s drawn' flag text, randCharBytes int63 fuel drawn 10 = .ok (s, drawn') ∧
      newFlag int63 fuel drawn = .ok (flag, drawn') ∧ flagString flag r r' = .ok text ∧
      s.length = 10 ∧ IsFlagOf s text ∧ GoStrings.trimSpace text = text := by
  rcases randCharBytes_spec int63 fuel drawn 10 with hfuel | ⟨s, drawn', hs, hlength, hletters⟩
  · refine absurd ?_ h
    rw [newFlag, hfuel]
  · have hr := r.isLt
    have hr' := r'.isLt
    have happend : s.take (2 + r.val) ++ (s.drop (2 + r.val)).take (2 + r'.val) ++
        s.drop (2 + r.val + 2 + r'.val) = s := by
      have hdrop : s.drop (2 + r.val + 2 + r'.val) = (s.drop (2 + r.val)).drop (2 + r'.val) := by
        rw [List.drop_drop, Nat.add_assoc (2 + r.val)]
      rw [hdrop, List.append_assoc, List.take_append_drop, List.take_append_drop]
    refine ⟨s, drawn', _, _, hs, newFlag_eq hs hlength, flagString_eq hlength r r', hlength,
      ⟨_, _, _, rfl, ?_, ?_, ?_, happend⟩, trimSpace_flagText _ _ _⟩
    · rw [List.length_take]
      omega
    · rw [List.length_take, List.length_drop]
      omega
    · rwa [happend]

/-- A source that repeats one number, with six bits that are no letter among them. -/
theorem newFlag_of_constant_source :
    ∃ s drawn' flag text,
      randCharBytes (fun _ => 0x7f123456789abcde) 40 0 10 = .ok (s, drawn') ∧
        newFlag (fun _ => 0x7f123456789abcde) 40 0 = .ok (flag, drawn') ∧
        flagString flag ⟨1, Nat.one_lt_two⟩ ⟨0, Nat.two_pos⟩ = .ok text ∧ s.length = 10 ∧
        IsFlagOf s text ∧ GoStrings.trimSpace text = text :=
  newFlag_isFlagOf (fun _ => 0x7f123456789abcde) 40 0 ⟨1, Nat.one_lt_two⟩ ⟨0, Nat.two_pos⟩
    (by decide)

end Haaukins.Store
