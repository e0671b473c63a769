import Mathlib.Data.Int.Init
import Mathlib.Data.List.Basic
import Mathlib.Tactic.IntervalCases

/-!
# `Haaukins.Lib.GoDate`: calendar days of any year

A `Date` is a day of the calendar that `time.Date` uses, with the Gregorian rule for leap years
in all years, also before year 1.

* `next` is `AddDate(0, 0, 1)`, and `dayNumber` counts the days, as the seconds of a `time.Time`
  at midnight do. `dayNumber_next` connects them.
* `le_iff_dayNumber` says that the count orders the days as the calendar does, so a day is
  determined by its number.
* `sub` is `Sub` of two midnights. A `Duration` has 64 bits, so it ends at 292 years.
* `format` is the text of a midnight in the layout `2006-01-02 15:04:05`. Different days have
  different texts (`format_injective`), also where a year does not have four digits.
-/

set_option autoImplicit false

namespace Date

/-- The Gregorian rule. -/
def isLeap (year : Int) : Bool := year % 4 = 0 && (year % 100 ≠ 0 || year % 400 = 0)

/-- The number of days of a month. -/
def daysIn (month : Nat) (year : Int) : Nat :=
  if month = 2 then if isLeap year then 29 else 28
  else if month = 4 ∨ month = 6 ∨ month = 9 ∨ month = 11 then 30 else 31

/-- The ranges of the fields of a `Date`. -/
structure InRange (year : Int) (month day : Nat) : Prop where
  month_mem : 1 ≤ month ∧ month ≤ 12
  day_mem : 1 ≤ day ∧ day ≤ daysIn month year

instance (year : Int) (month day : Nat) : Decidable (InRange year month day) :=
  decidable_of_iff ((1 ≤ month ∧ month ≤ 12) ∧ 1 ≤ day ∧ day ≤ daysIn month year)
    ⟨fun ⟨h₁, h₂⟩ => ⟨h₁, h₂⟩, fun ⟨h₁, h₂⟩ => ⟨h₁, h₂⟩⟩

end Date

/-- A day of the calendar. -/
structure Date where
  year : Int
  month : Nat
  day : Nat
  inRange : Date.InRange year month day
  deriving DecidableEq

namespace Date

/-- Each month has 28 days at least. -/
theorem daysIn_pos (month : Nat) (year : Int) : 28 ≤ daysIn month year := by
  unfold daysIn
  split_ifs <;> omega

/-- The day after, `AddDate(0, 0, 1)`. -/
def next (d : Date) : Date :=
  if hday : d.day < daysIn d.month d.year then
    { d with
      day := d.day + 1
      inRange := ⟨d.inRange.month_mem, by omega, hday⟩ }
  else if hmonth : d.month < 12 then
    { d with
      month := d.month + 1
      day := 1
      inRange := ⟨⟨by omega, hmonth⟩, le_rfl, by have := daysIn_pos (d.month + 1) d.year; omega⟩ }
  else
    { year := d.year + 1
      month := 1
      day := 1
      inRange := ⟨by decide, le_rfl, by have := daysIn_pos 1 (d.year + 1); omega⟩ }

/-- The days from the first day of year 1 to the first day of a year. -/
def daysBeforeYear (year : Int) : Int :=
  365 * (year - 1) + (year - 1) / 4 - (year - 1) / 100 + (year - 1) / 400

/-- The days of a year before a month. -/
def daysBeforeMonth (year : Int) : Nat → Nat
  | 0 => 0
  | 1 => 0
  | month + 1 => daysBeforeMonth year month + daysIn month year

/-- The number of a day. The first day of year 1 has the number 0. -/
def dayNumber (d : Date) : Int :=
  daysBeforeYear d.year + daysBeforeMonth d.year d.month + (d.day - 1)

/-- The order of the calendar. -/
def le (d d' : Date) : Prop :=
  d.year < d'.year ∨ d.year = d'.year ∧
    (d.month < d'.month ∨ d.month = d'.month ∧ d.day ≤ d'.day)

instance (d d' : Date) : Decidable (d.le d') := by
  unfold le
  infer_instance

/-! ### The number of a day -/

/-- A month begins after the days of the one before. -/
theorem daysBeforeMonth_succ (year : Int) {month : Nat} (h : 1 ≤ month) :
    daysBeforeMonth year (month + 1) = daysBeforeMonth year month + daysIn month year := by
  cases month with
  | zero => omega
  | succ month => rfl

/-- The twelve months make 365 or 366 days. -/
theorem daysBeforeMonth_year (year : Int) :
    daysBeforeMonth year 12 + daysIn 12 year = if isLeap year then 366 else 365 := by
  have hfebruary : daysIn 2 year = if isLeap year then 29 else 28 := rfl
  show 0 + 31 + daysIn 2 year + 31 + 30 + 31 + 30 + 31 + 31 + 30 + 31 + 30 + 31 = _
  rw [hfebruary]
  split <;> rfl

/-- The next year begins after all days of the year. -/
theorem daysBeforeYear_succ (year : Int) :
    daysBeforeYear (year + 1) = daysBeforeYear year + if isLeap year then 366 else 365 := by
  simp only [daysBeforeYear, isLeap, Bool.and_eq_true, Bool.or_eq_true, decide_eq_true_eq]
  split_ifs <;> omega

/-- The next day has the next number. -/
theorem dayNumber_next (d : Date) : d.next.dayNumber = d.dayNumber + 1 := by
  obtain ⟨⟨hmonth, hmonth'⟩, hday, hday'⟩ := d.inRange
  unfold next
  split
  · simp only [dayNumber]
    omega
  · next hlast =>
    split
    · have hsucc := daysBeforeMonth_succ d.year hmonth
      simp only [dayNumber, hsucc]
      omega
    · -- The last day of December.
      have hdecember : d.month = 12 := by omega
      have hyear := daysBeforeMonth_year d.year
      simp only [dayNumber, daysBeforeYear_succ, hdecember] at hlast hday' ⊢
      have hjanuary : daysBeforeMonth (d.year + 1) 1 = 0 := rfl
      rw [hjanuary]
      split at hyear <;> simp_all <;> omega

/-- Later months begin later. -/
theorem daysBeforeMonth_mono (year : Int) {month month' : Nat} (h : 1 ≤ month)
    (hle : month ≤ month') : daysBeforeMonth year month ≤ daysBeforeMonth year month' := by
  induction hle with
  | refl => exact le_rfl
  | @step month' hle ih =>
    rw [daysBeforeMonth_succ year (h.trans hle)]
    omega

/-- A day lies before the first day of each later month. -/
theorem dayNumber_lt_of_month (d : Date) {month : Nat} (h : d.month < month) :
    d.dayNumber < daysBeforeYear d.year + daysBeforeMonth d.year month := by
  have hday := d.inRange.day_mem
  have hsucc := daysBeforeMonth_succ d.year d.inRange.month_mem.1
  have hmono := daysBeforeMonth_mono d.year (Nat.le_add_left 1 d.month) h
  unfold dayNumber
  omega

/-- Later years begin later. -/
theorem daysBeforeYear_mono {year year' : Int} (h : year ≤ year') :
    daysBeforeYear year ≤ daysBeforeYear year' := by
  unfold daysBeforeYear
  omega

/-- A day lies in its year. -/
theorem dayNumber_mem_year (d : Date) :
    daysBeforeYear d.year ≤ d.dayNumber ∧ d.dayNumber < daysBeforeYear (d.year + 1) := by
  have hday := d.inRange.day_mem
  constructor
  · unfold dayNumber
    omega
  · have hmonth := d.inRange.month_mem
    have hlt := dayNumber_lt_of_month d (Nat.lt_add_one d.month)
    have hmono := daysBeforeMonth_mono d.year (Nat.le_add_left 1 d.month)
      (Nat.add_le_add_right hmonth.2 1)
    have hyear := daysBeforeMonth_year d.year
    rw [daysBeforeMonth_succ d.year (by decide : 1 ≤ 12), hyear] at hmono
    rw [daysBeforeYear_succ]
    split at hmono <;> simp_all <;> omega

/-- A date of an earlier year has a smaller number. -/
theorem dayNumber_lt_of_year {d d' : Date} (h : d.year < d'.year) : d.dayNumber < d'.dayNumber :=
  calc d.dayNumber < daysBeforeYear (d.year + 1) := (dayNumber_mem_year d).2
    _ ≤ daysBeforeYear d'.year := daysBeforeYear_mono h
    _ ≤ d'.dayNumber := (dayNumber_mem_year d').1

/-- So has a date of an earlier month. -/
theorem dayNumber_lt_of_same_year {d d' : Date} (hyear : d.year = d'.year)
    (h : d.month < d'.month) : d.dayNumber < d'.dayNumber := by
  have hlt := dayNumber_lt_of_month d h
  have hday := d'.inRange.day_mem
  rw [hyear] at hlt
  unfold dayNumber at hlt ⊢
  omega

/-- The numbers are in the order of the calendar. -/
theorem le_iff_dayNumber {d d' : Date} : d.le d' ↔ d.dayNumber ≤ d'.dayNumber := by
  unfold le
  rcases lt_trichotomy d.year d'.year with hlt | heq | hgt
  · have := dayNumber_lt_of_year hlt
    exact iff_of_true (.inl hlt) this.le
  · rcases lt_trichotomy d.month d'.month with hmlt | hmeq | hmgt
    · have := dayNumber_lt_of_same_year heq hmlt
      exact iff_of_true (.inr ⟨heq, .inl hmlt⟩) this.le
    · simp only [heq, hmeq, lt_irrefl, false_or, true_and, dayNumber]
      omega
    · have := dayNumber_lt_of_same_year heq.symm hmgt
      exact iff_of_false (by omega) (by omega)
  · have := dayNumber_lt_of_year hgt
    exact iff_of_false (by omega) (by omega)

/-- The number tells the date. -/
theorem dayNumber_injective {d d' : Date} (h : d.dayNumber = d'.dayNumber) : d = d' := by
  have hle := le_iff_dayNumber.mpr h.le
  have hge := le_iff_dayNumber.mpr h.ge
  unfold le at hle hge
  cases d with
  | mk year month day inRange =>
    cases d' with
    | mk year' month' day' inRange' =>
      simp only at hle hge
      simp only [mk.injEq]
      omega

/-! ### The time between two days -/

/-- The nanoseconds of a day. -/
def nsPerDay : Int := 24 * 60 * 60 * 10 ^ 9

/-- `Sub` of the midnights of two days. -/
def sub (d d' : Date) : Int :=
  max (-2 ^ 63) (min (2 ^ 63 - 1) ((d.dayNumber - d'.dayNumber) * nsPerDay))

/-! ### The text of a day -/

/-- `appendInt(b, n, width)` of a number that is not negative. -/
def padded (width n : Nat) : List Char :=
  List.replicate (width - (Nat.toDigits 10 n).length) '0' ++ Nat.toDigits 10 n

/-- `appendInt(b, year, 4)`. -/
def yearText (year : Int) : List Char :=
  if year < 0 then '-' :: padded 4 year.natAbs else padded 4 year.natAbs

/-- `Format("2006-01-02 15:04:05")` of the midnight of a day. -/
def format (d : Date) : String :=
  String.ofList (yearText d.year ++ '-' :: (padded 2 d.month ++ '-' ::
    (padded 2 d.day ++ " 00:00:00".toList)))

/-- Padding with zeros loses nothing. -/
theorem padded_injective {width n n' : Nat} (h : padded width n = padded width n') : n = n' := by
  have hvalue : ∀ n, Nat.ofDigitChars 10 (padded width n) 0 = n := fun n => by
    rw [padded, Nat.ofDigitChars_append, Nat.ofDigitChars_replicate_zero, Nat.mul_zero,
      Nat.ofDigitChars_ten_toDigits]
  rw [← hvalue n, h, hvalue]

/-- A number of at most two digits takes two. -/
theorem length_padded_two {n : Nat} (h : n < 100) : (padded 2 n).length = 2 := by
  have hlength : (Nat.toDigits 10 n).length ≤ 2 :=
    (Nat.length_toDigits_le_iff (by decide) (by decide)).mpr h
  rw [padded, List.length_append, List.length_replicate]
  omega

/-- Padding adds digits only. -/
theorem isDigit_of_mem_padded {width n : Nat} {c : Char} (h : c ∈ padded width n) :
    c.isDigit = true := by
  rcases List.mem_append.mp h with hzero | hdigit
  · rw [List.eq_of_mem_replicate hzero]
    rfl
  · exact Nat.isDigit_of_mem_toDigits (by decide) (by decide) hdigit

/-- The sign of a year cannot be taken for one of its digits. -/
theorem cons_ne_padded (width n : Nat) (cs : List Char) : '-' :: cs ≠ padded width n := by
  intro heq
  have hdigit := isDigit_of_mem_padded (heq ▸ List.mem_cons_self : '-' ∈ padded width n)
  revert hdigit
  decide

/-- The text of a year tells the year. -/
theorem yearText_injective {year year' : Int} (h : yearText year = yearText year') :
    year = year' := by
  unfold yearText at h
  split at h
  · split at h
    · have hnat := padded_injective (List.cons.inj h).2
      omega
    · exact (cons_ne_padded _ _ _ h).elim
  · split at h
    · exact (cons_ne_padded _ _ _ h.symm).elim
    · have hnat := padded_injective h
      omega

/-- A day has two digits. -/
theorem day_lt (d : Date) : d.day < 100 := by
  have hday := d.inRange.day_mem
  have hmonth : daysIn d.month d.year ≤ 31 := by
    unfold daysIn
    split_ifs <;> omega
  omega

/-- The text of a date tells the date. -/
theorem format_injective {d d' : Date} (h : d.format = d'.format) : d = d' := by
  have hchars := String.ofList_injective h
  have hmonth := length_padded_two (n := d.month) (by have := d.inRange.month_mem; omega)
  have hmonth' := length_padded_two (n := d'.month) (by have := d'.inRange.month_mem; omega)
  have hday := length_padded_two d.day_lt
  have hday' := length_padded_two d'.day_lt
  -- All that follows the year has the same length in both texts.
  obtain ⟨hyear, hrest⟩ := List.append_inj' hchars (by simp [hmonth, hmonth', hday, hday'])
  obtain ⟨hmonths, hrest⟩ := List.append_inj (List.cons.inj hrest).2 (hmonth.trans hmonth'.symm)
  obtain ⟨hdays, -⟩ := List.append_inj (List.cons.inj hrest).2 (hday.trans hday'.symm)
  have hy := yearText_injective hyear
  have hm := padded_injective hmonths
  have hd := padded_injective hdays
  cases d
  cases d'
  simp only at hy hm hd
  subst hy hm hd
  rfl

example : (⟨2023, 2, 28, by decide⟩ : Date).next.format = "2023-03-01 00:00:00" := by decide

end Date
