import Haaukins.Amigo.ClientInput
import Mathlib.Data.Prod.Lex

/-!
# `Haaukins.Client.Version`: the version check of the client (`client/cli/version.go`)

`isClientVersionLessThan` writes the major and the minor number one after the other and compares
the two integers. So `2.0` comes before `1.10`, as 20 before 110.

The digits of a version are also those of another one whose minor number has `k` digits
(`Version.misread`). The check compares a version with the other one so misread
(`joined_lt_iff`). It keeps the order of the versions exactly in `KeepsOrder`
(`isClientVersionLessThan_iff`): always when the minor numbers have equally many digits and both
integers fit.
-/

set_option autoImplicit false

namespace Haaukins.Client

open GoStrings
open Haaukins.Amigo (NumErr parseUint parseInt atoi)

/-! ## The code -/

/-- `IncorrectVersonFmt`. -/
structure IncorrectVersonFmt where
  src : String
  fmt : String
  deriving DecidableEq

/-- `IncorrectVersonFmt.Error`. -/
def IncorrectVersonFmt.error (ivf : IncorrectVersonFmt) : String :=
  "Unexpected version format (version: \"" ++ ivf.fmt ++ "\") from " ++ ivf.src

/-- `isClientVersionLessThan`. `version` is the variable `Version` of the client. -/
def isClientVersionLessThan (version srv : String) : Bool × Option IncorrectVersonFmt :=
  if version = "" then (false, none)
  else
    match split version '.' with
    | cliMajor :: cliMinor :: _ =>
      match split srv '.' with
      | srvMajor :: srvMinor :: _ =>
        match atoi (cliMajor ++ cliMinor) with
        | (_, some _) => (false, some { src := "client", fmt := version })
        | (intCliV, none) =>
          match atoi (srvMajor ++ srvMinor) with
          -- The error for the daemon has the version of the client.
          | (_, some _) => (false, some { src := "daemon", fmt := version })
          | (intSrvV, none) => (decide (intSrvV > intCliV), none)
      | _ => (false, some { src := "daemon", fmt := srv })
    | _ => (false, some { src := "client", fmt := version })

/-! ## Versions -/

/-- A version `major.minor[.rest]`. -/
structure Version where
  major : String
  minor : String
  rest : Option String
  major_decimal : IsDecimal major
  minor_decimal : IsDecimal minor

namespace Version

variable (v : Version)

/-- The version as it is written. -/
def text : String :=
  match v.rest with
  | none => v.major ++ "." ++ v.minor
  | some rest => v.major ++ "." ++ v.minor ++ "." ++ rest

/-- The major and the minor number. Pairs are compared by the major number first. -/
def number : Nat ×ₗ Nat := toLex (decimalValue v.major, decimalValue v.minor)

/-- The number of digits of the minor number. -/
def minorDigits : Nat := v.minor.length

/-- The integer with the digits of both numbers. -/
def joined : Nat := decimalValue (v.major ++ v.minor)

/-- The integer fits into an `int`. -/
def Fits : Prop := v.joined < 2 ^ 63

/-- The version that has the same digits, `k` of them in its minor number. -/
def misread (k : Nat) : Nat ×ₗ Nat := toLex (v.joined / 10 ^ k, v.joined % 10 ^ k)

end Version

/-- The client is older than the daemon for the check. -/
def OlderThan (client daemon : Version) : Prop :=
  isClientVersionLessThan client.text daemon.text = (true, none)

/-- The check answers by the numbers of the versions. -/
def ComparesNumerically (client daemon : Version) : Prop :=
  OlderThan client daemon ↔ client.number < daemon.number

/-- Both integers fit and the minor numbers have equally many digits, or the version with fewer of
them does not lie between the other one and its misreading. When an integer does not fit, the
daemon is not newer. -/
def KeepsOrder (client daemon : Version) : Prop :=
  (client.Fits ∧ daemon.Fits ∧
    (client.minorDigits = daemon.minorDigits ∨
      (client.minorDigits < daemon.minorDigits ∧
        (client.number < daemon.number ∨
          daemon.misread client.minorDigits ≤ client.number)) ∨
      (daemon.minorDigits < client.minorDigits ∧
        (daemon.number ≤ client.number ∨
          client.misread daemon.minorDigits < daemon.number)))) ∨
  (¬ (client.Fits ∧ daemon.Fits) ∧ daemon.number ≤ client.number)

/-! ## The integers -/

/-- The loop reads a text of digits, unless the number gets too large on the way. -/
theorem parseUint_of_digits :
    ∀ {cs : List Char} {n : Nat}, (∀ c ∈ cs, c.isDigit = true) → n < 2 ^ 64 →
      parseUint n cs =
        if Nat.ofDigitChars 10 cs n < 2 ^ 64 then .ok (Nat.ofDigitChars 10 cs n)
        else .error .tooLarge := by
  -- The induction is on the digits, with the number that was read before them.
  intro cs
  induction cs with
  | nil =>
    intro n _ hn
    rw [Nat.ofDigitChars_nil, if_pos hn]
    rfl
  | cons c cs ih =>
    intro n hcs hn
    have hc : c.isDigit = true := hcs c List.mem_cons_self
    have hrest : ∀ c' ∈ cs, c'.isDigit = true := fun c' hc' => hcs c' (List.mem_cons_of_mem c hc')
    rw [Nat.ofDigitChars_cons]
    by_cases hlarge : 10 * n + (c.toNat - '0'.toNat) ≥ 2 ^ 64
    · -- What is too large already only grows.
      have hgrows : 10 * n + (c.toNat - '0'.toNat) ≤
          Nat.ofDigitChars 10 cs (10 * n + (c.toNat - '0'.toNat)) := by
        rw [Nat.ofDigitChars_eq_ofDigitChars_zero]
        have := Nat.le_mul_of_pos_left (10 * n + (c.toNat - '0'.toNat))
          (Nat.pow_pos (n := cs.length) (show 0 < 10 by omega))
        omega
      rw [if_neg (by omega), parseUint, if_neg (by simp [hc]), if_pos hlarge]
    · rw [parseUint, if_neg (by simp [hc]), if_neg hlarge, ih hrest (by omega)]

/-- `Atoi` of digits is their value, or the largest number with an error. -/
theorem atoi_of_decimal {s : String} (h : IsDecimal s) :
    atoi s = if decimalValue s < 2 ^ 63 then ((decimalValue s : Int), none)
      else (2 ^ 63 - 1, some .tooLarge) := by
  have hne : s.toList ≠ [] := by
    intro hnil
    exact h.ne (String.toList_injective (by rw [hnil]; rfl))
  -- A digit is no sign.
  have hsign : atoi s = parseInt false s.toList := by
    unfold atoi
    split
    · next cs heq => exact absurd (heq ▸ List.mem_cons_self) (h.notMem (c := '-') rfl)
    · next cs heq => exact absurd (heq ▸ List.mem_cons_self) (h.notMem (c := '+') rfl)
    · rfl
  have hparse := parseUint_of_digits h.digits (show 0 < 2 ^ 64 by omega)
  rw [hsign, parseInt, if_neg hne, hparse]
  show _ = if Nat.ofDigitChars 10 s.toList 0 < 2 ^ 63 then _ else _
  by_cases hfits : Nat.ofDigitChars 10 s.toList 0 < 2 ^ 63
  · rw [if_pos (by omega), if_pos hfits]
    show (if _ then _ else _) = _
    rw [if_neg]
    · rfl
    · show ¬ ((Nat.ofDigitChars 10 s.toList 0 : Int) < -2 ^ 63 ∨
        (Nat.ofDigitChars 10 s.toList 0 : Int) > 2 ^ 63 - 1)
      omega
  · rw [if_neg hfits]
    -- Between the two bounds the number is read, and cut down to the largest one.
    by_cases hlarge : Nat.ofDigitChars 10 s.toList 0 < 2 ^ 64
    · rw [if_pos hlarge]
      show (if _ then _ else _) = _
      rw [if_pos]
      · rfl
      · show (Nat.ofDigitChars 10 s.toList 0 : Int) < -2 ^ 63 ∨
          (Nat.ofDigitChars 10 s.toList 0 : Int) > 2 ^ 63 - 1
        omega
    · rw [if_neg hlarge]
      rfl

namespace Version

variable (v : Version)

/-- Both numbers without their dot are digits. -/
theorem joined_decimal : IsDecimal (v.major ++ v.minor) :=
  v.major_decimal.append v.minor_decimal

/-- Their value. -/
theorem joined_eq :
    v.joined = decimalValue v.major * 10 ^ v.minorDigits + decimalValue v.minor :=
  decimalValue_append v.major v.minor

/-- The minor number is bounded by its digits. -/
theorem minor_lt : decimalValue v.minor < 10 ^ v.minorDigits := v.minor_decimal.value_lt

/-- A version is not empty. -/
theorem text_ne : v.text ≠ "" := by
  intro hempty
  have hchars := congrArg String.toList hempty
  unfold text at hchars
  cases hrest : v.rest with
  | none => simp [hrest] at hchars
  | some rest => simp [hrest] at hchars

/-- The first two parts are the major and the minor number. -/
theorem split_text : ∃ parts, split v.text '.' = v.major :: v.minor :: parts := by
  have hdot : '.'.isDigit = false := rfl
  have hmajor : split v.major '.' = [v.major] := split_of_notMem (v.major_decimal.notMem hdot)
  have hminor : split v.minor '.' = [v.minor] := split_of_notMem (v.minor_decimal.notMem hdot)
  unfold text
  cases v.rest with
  | none =>
    refine ⟨[], ?_⟩
    show split (v.major ++ "." ++ v.minor) '.' = _
    rw [String.append_assoc, show "." = String.singleton '.' from rfl, split_append, hmajor,
      hminor]
    rfl
  | some rest =>
    refine ⟨split rest '.', ?_⟩
    show split (v.major ++ "." ++ v.minor ++ "." ++ rest) '.' = _
    rw [String.append_assoc, String.append_assoc, String.append_assoc,
      show "." = String.singleton '.' from rfl, split_append, split_append, hmajor, hminor]
    rfl

end Version

/-- The check compares the integers, when the larger one fits. -/
theorem olderThan_iff {client daemon : Version} :
    OlderThan client daemon ↔ client.joined < daemon.joined ∧ daemon.Fits := by
  obtain ⟨cliParts, hcli⟩ := client.split_text
  obtain ⟨srvParts, hsrv⟩ := daemon.split_text
  have hcliV : atoi (client.major ++ client.minor) =
      if client.joined < 2 ^ 63 then ((client.joined : Int), none)
      else (2 ^ 63 - 1, some .tooLarge) := atoi_of_decimal client.joined_decimal
  have hsrvV : atoi (daemon.major ++ daemon.minor) =
      if daemon.joined < 2 ^ 63 then ((daemon.joined : Int), none)
      else (2 ^ 63 - 1, some .tooLarge) := atoi_of_decimal daemon.joined_decimal
  unfold OlderThan isClientVersionLessThan Version.Fits
  rw [if_neg client.text_ne, hcli, hsrv]
  dsimp only
  rw [hcliV, hsrvV]
  by_cases hc : client.joined < 2 ^ 63
  · by_cases hd : daemon.joined < 2 ^ 63
    · rw [if_pos hc, if_pos hd]
      simp only [Prod.mk.injEq, decide_eq_true_eq, and_true, hd]
      omega
    · rw [if_pos hc, if_neg hd]
      simp only [Prod.mk.injEq, Bool.false_eq_true, false_and, hd, and_false]
  · -- An integer that does not fit is not the smaller of two that do.
    rw [if_neg hc]
    simp only [Prod.mk.injEq, Bool.false_eq_true, false_and, false_iff, not_and]
    omega

/-! ## The order -/

/-- Digits behind a shorter number keep the order up to equality. -/
theorem toLex_le_of_le {m q m' q' b : Nat} (hq' : q' < b) (h : m * b + q ≤ m' * b + q') :
    toLex (m, q) ≤ toLex (m', q') := by
  rw [Prod.Lex.toLex_le_toLex]
  have hmajor : m ≤ m' := by
    by_contra hgt
    have := Nat.mul_le_mul_right b (show m' + 1 ≤ m by omega)
    rw [Nat.add_mul, Nat.one_mul] at this
    omega
  rcases Nat.lt_or_eq_of_le hmajor with hlt | rfl
  · exact .inl hlt
  · exact .inr ⟨rfl, by omega⟩

/-- Numbers with equally many digits behind them are in the order of the pairs. -/
theorem toLex_lt_iff {m q m' q' b : Nat} (hq : q < b) (hq' : q' < b) :
    toLex (m, q) < toLex (m', q') ↔ m * b + q < m' * b + q' := by
  constructor
  · intro hlt
    by_contra hge
    exact absurd hlt (not_lt_of_ge (toLex_le_of_le hq (Nat.le_of_not_lt hge)))
  · intro hlt
    apply lt_of_le_of_ne (toLex_le_of_le hq' hlt.le)
    intro heq
    have hpair : (m, q) = (m', q') := toLex.injective heq
    rw [Prod.mk.injEq] at hpair
    rw [hpair.1, hpair.2] at hlt
    exact absurd hlt (lt_irrefl _)

namespace Version

variable (v : Version)

/-- A number is its part before `k` digits and its part behind. -/
theorem joined_eq_misread (k : Nat) : v.joined = v.joined / 10 ^ k * 10 ^ k + v.joined % 10 ^ k :=
  (Nat.div_add_mod' v.joined (10 ^ k)).symm

/-- The check compares a version with the misreading of the other one. -/
theorem lt_misread_iff (w : Version) :
    v.number < w.misread v.minorDigits ↔ v.joined < w.joined := by
  have hmod : w.joined % 10 ^ v.minorDigits < 10 ^ v.minorDigits :=
    Nat.mod_lt _ (Nat.pow_pos (by omega))
  rw [v.joined_eq, w.joined_eq_misread v.minorDigits]
  exact toLex_lt_iff v.minor_lt hmod

/-- The comparison of the code, as one of numbers without a dot. -/
theorem misread_lt_iff (w : Version) :
    v.misread w.minorDigits < w.number ↔ v.joined < w.joined := by
  have hmod : v.joined % 10 ^ w.minorDigits < 10 ^ w.minorDigits :=
    Nat.mod_lt _ (Nat.pow_pos (by omega))
  rw [w.joined_eq, v.joined_eq_misread w.minorDigits]
  exact toLex_lt_iff hmod w.minor_lt

/-- With fewer digits in the minor number a version does not get smaller. -/
theorem number_le_misread {k : Nat} (hk : k ≤ v.minorDigits) : v.number ≤ v.misread k := by
  have hpow : 10 ^ k ≤ 10 ^ v.minorDigits := Nat.pow_le_pow_right (by omega) hk
  have hmod : v.joined % 10 ^ k < 10 ^ k := Nat.mod_lt _ (Nat.pow_pos (by omega))
  apply toLex_le_of_le hmod
  rw [← v.joined_eq_misread k, v.joined_eq]
  have := Nat.mul_le_mul_left (decimalValue v.major) hpow
  omega

end Version

/-- Where both integers fit, only the digits of the minor numbers can put versions out of
order. -/
theorem joined_lt_iff_number_lt (client daemon : Version) :
    (client.joined < daemon.joined ↔ client.number < daemon.number) ↔
      client.minorDigits = daemon.minorDigits ∨
      (client.minorDigits < daemon.minorDigits ∧
        (client.number < daemon.number ∨
          daemon.misread client.minorDigits ≤ client.number)) ∨
      (daemon.minorDigits < client.minorDigits ∧
        (daemon.number ≤ client.number ∨
          client.misread daemon.minorDigits < daemon.number)) := by
  rcases Nat.lt_trichotomy client.minorDigits daemon.minorDigits with hlen | hlen | hlen
  · -- The daemon is misread, as a version that is not older.
    have hle := daemon.number_le_misread hlen.le
    have hright : (client.joined < daemon.joined ↔ client.number < daemon.number) ↔
        client.number < daemon.number ∨
          daemon.misread client.minorDigits ≤ client.number := by
      rw [← client.lt_misread_iff daemon]
      constructor
      · intro h
        by_cases hlt : client.number < daemon.misread client.minorDigits
        · exact .inl (h.mp hlt)
        · exact .inr (not_lt.mp hlt)
      · rintro (hlt | hge)
        · exact iff_of_true (lt_of_lt_of_le hlt hle) hlt
        · exact iff_of_false (not_lt_of_ge hge) (not_lt_of_ge (hle.trans hge))
    rw [hright]
    simp only [hlen, hlen.ne, not_lt_of_gt hlen, true_and, false_and, false_or, or_false]
  · have hright : client.joined < daemon.joined ↔ client.number < daemon.number := by
      rw [client.joined_eq, daemon.joined_eq, hlen]
      exact (toLex_lt_iff (hlen ▸ client.minor_lt) daemon.minor_lt).symm
    simp only [hright, hlen, true_or]
  · -- The client is misread, as a version that is not older.
    have hle := client.number_le_misread hlen.le
    have hright : (client.joined < daemon.joined ↔ client.number < daemon.number) ↔
        daemon.number ≤ client.number ∨
          client.misread daemon.minorDigits < daemon.number := by
      rw [← client.misread_lt_iff daemon]
      constructor
      · intro h
        by_cases hlt : client.number < daemon.number
        · exact .inr (h.mpr hlt)
        · exact .inl (not_lt.mp hlt)
      · rintro (hge | hlt)
        · exact iff_of_false (not_lt_of_ge (hge.trans hle)) (not_lt_of_ge hge)
        · exact iff_of_true hlt (lt_of_le_of_lt hle hlt)
    rw [hright]
    simp only [hlen, hlen.ne', not_lt_of_gt hlen, true_and, false_and, false_or]

/-- No version is older than itself. -/
theorem OlderThan.irrefl (v : Version) : ¬ OlderThan v v := by
  rw [olderThan_iff]
  omega

/-- Being older is transitive. -/
theorem OlderThan.trans {u v w : Version} (huv : OlderThan u v) (hvw : OlderThan v w) :
    OlderThan u w := by
  rw [olderThan_iff] at huv hvw ⊢
  exact ⟨huv.1.trans hvw.1, hvw.2⟩

/-- The check answers by the numbers of the versions exactly in `KeepsOrder`. It is irreflexive
and transitive for all versions. -/
theorem isClientVersionLessThan_iff (client daemon : Version) :
    (ComparesNumerically client daemon ↔ KeepsOrder client daemon) ∧
      ¬ OlderThan client client ∧
      ∀ newer : Version, OlderThan client daemon → OlderThan daemon newer →
        OlderThan client newer := by
  refine ⟨?_, OlderThan.irrefl client, fun newer => OlderThan.trans⟩
  unfold ComparesNumerically KeepsOrder
  rw [olderThan_iff, ← joined_lt_iff_number_lt]
  by_cases hfits : client.Fits ∧ daemon.Fits
  · simp only [hfits.1, hfits.2, and_true, true_and, not_true_eq_false, false_and, or_false]
  · have hnot : ¬ (client.joined < daemon.joined ∧ daemon.Fits) := fun h =>
      hfits ⟨h.1.trans h.2, h.2⟩
    simp only [hnot, hfits, ← and_assoc, false_and, not_false_eq_true, true_and, false_or,
      false_iff, not_lt]

/-- A client `2.0` and a daemon `1.10`. -/
def client20 : Version where
  major := "2"
  minor := "0"
  rest := none
  major_decimal := ⟨by decide, List.all_eq_true.mp (by decide)⟩
  minor_decimal := ⟨by decide, List.all_eq_true.mp (by decide)⟩

/-- Version 1.10 of the daemon. -/
def daemon110 : Version where
  major := "1"
  minor := "10"
  rest := none
  major_decimal := ⟨by decide, List.all_eq_true.mp (by decide)⟩
  minor_decimal := ⟨by decide, List.all_eq_true.mp (by decide)⟩

/-- The client `2.0` is told to update to `1.10`. -/
theorem client20_olderThan_daemon110 :
    isClientVersionLessThan "2.0" "1.10" = (true, none) ∧
      ¬ ComparesNumerically client20 daemon110 := by
  have holder : OlderThan client20 daemon110 := by
    show isClientVersionLessThan "2.0" "1.10" = (true, none)
    decide
  refine ⟨by decide, fun h => ?_⟩
  have hlt : client20.number < daemon110.number := h.mp holder
  exact absurd hlt (by decide)

end Haaukins.Client
