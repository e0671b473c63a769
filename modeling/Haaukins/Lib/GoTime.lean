import Mathlib.Tactic.IntervalCases

/-!
# `Haaukins.Lib.GoTime`: times and their RFC 3339 texts

A `Time` is a time as a clock shows it: the date and the time of the day, with the offset of
its zone from UTC in minutes. Its fields carry their ranges.

* `format` is `Format(time.RFC3339)`. It drops the fraction of the second.
* `parse` is `Parse(time.RFC3339, ..)`, without the text of its error. It reads a text from
  the left, and each of its parts takes what it needs and passes on the rest. A part is
  proved to read back what `format` writes in front of any rest.
* `formatDB` and `parseDB` are `Format` and `Parse` for the layout `2006-01-02 15:04:05` of the
  database, which has no zone.
* `instant` puts times in order, and `before` is `Before`.
* `parse_format` is the round trip: `parse` reads the text of a time as the same time
  truncated to seconds.
-/

set_option autoImplicit false

/-- The number of days of a month. -/
def daysIn (month year : Nat) : Nat :=
  if month = 2 then if year % 4 = 0 ∧ (year % 100 ≠ 0 ∨ year % 400 = 0) then 29 else 28
  else if month = 4 ∨ month = 6 ∨ month = 9 ∨ month = 11 then 30 else 31

/-- The ranges of the fields of a `Time`. -/
structure Time.InRange (year month day hour minute second nanosecond : Nat) (offset : Int) :
    Prop where
  year_lt : year < 10000
  month_mem : 1 ≤ month ∧ month ≤ 12
  day_mem : 1 ≤ day ∧ day ≤ daysIn month year
  hour_lt : hour < 24
  minute_lt : minute < 60
  second_lt : second < 60
  nanosecond_lt : nanosecond < 10 ^ 9
  offset_lt : offset.natAbs < 25 * 60

instance (year month day hour minute second nanosecond : Nat) (offset : Int) :
    Decidable (Time.InRange year month day hour minute second nanosecond offset) :=
  decidable_of_iff (year < 10000 ∧ (1 ≤ month ∧ month ≤ 12) ∧
      (1 ≤ day ∧ day ≤ daysIn month year) ∧ hour < 24 ∧ minute < 60 ∧ second < 60 ∧
      nanosecond < 10 ^ 9 ∧ offset.natAbs < 25 * 60)
    ⟨fun ⟨h₁, h₂, h₃, h₄, h₅, h₆, h₇, h₈⟩ => ⟨h₁, h₂, h₃, h₄, h₅, h₆, h₇, h₈⟩,
      fun ⟨h₁, h₂, h₃, h₄, h₅, h₆, h₇, h₈⟩ => ⟨h₁, h₂, h₃, h₄, h₅, h₆, h₇, h₈⟩⟩

/-- `time.Time`, of a year that has at most four digits. `offset` is the offset of the zone in
minutes, positive to the east. -/
structure Time where
  year : Nat
  month : Nat
  day : Nat
  hour : Nat
  minute : Nat
  second : Nat
  nanosecond : Nat
  offset : Int
  inRange : Time.InRange year month day hour minute second nanosecond offset
  deriving DecidableEq

namespace Time

/-- The zero value of `time.Time`, `0001-01-01T00:00:00Z`. -/
def zero : Time := ⟨1, 1, 1, 0, 0, 0, 0, 0, by decide⟩

/-- `Truncate(time.Second)`. -/
def truncate (t : Time) : Time :=
  { t with nanosecond := 0, inRange := { t.inRange with nanosecond_lt := by decide } }

/-- A time without fractions stays as it is. -/
@[simp] theorem truncate_truncate (t : Time) : t.truncate.truncate = t.truncate := rfl

/-! ### Writing a time -/

/-- `appendInt(b, n, 2)` for a number below 100. -/
def pad2 (n : Nat) : List Char := [Nat.digitChar (n / 10 % 10), Nat.digitChar (n % 10)]

/-- `appendInt(b, n, 4)` for a number below 10000. -/
def pad4 (n : Nat) : List Char := pad2 (n / 100) ++ pad2 (n % 100)

/-- The element `Z07:00` of the layout. -/
def formatZone (offset : Int) : List Char :=
  if offset = 0 then ['Z']
  else
    (if offset < 0 then '-' else '+') ::
      (pad2 (offset.natAbs / 60) ++ ':' :: pad2 (offset.natAbs % 60))

/-- `Format(time.RFC3339)`, the layout `2006-01-02T15:04:05Z07:00`. -/
def format (t : Time) : String :=
  String.ofList (pad4 t.year ++ '-' :: (pad2 t.month ++ '-' :: (pad2 t.day ++ 'T' ::
    (pad2 t.hour ++ ':' :: (pad2 t.minute ++ ':' :: (pad2 t.second ++ formatZone t.offset))))))

/-- `Format` for the layout `2006-01-02 15:04:05`. It drops the zone, too. -/
def formatDB (t : Time) : String :=
  String.ofList (pad4 t.year ++ '-' :: (pad2 t.month ++ '-' :: (pad2 t.day ++ ' ' ::
    (pad2 t.hour ++ ':' :: (pad2 t.minute ++ ':' :: pad2 t.second)))))

/-! ### Reading a time -/

/-- The value of a digit. -/
def digitValue (c : Char) : Nat := c.toNat - '0'.toNat

/-- `getnum`: two digits, or one digit when the width is not fixed. -/
def getnum (fixed : Bool) : List Char → Option (Nat × List Char)
  | a :: b :: s =>
    if !a.isDigit then none
    else if b.isDigit then some (digitValue a * 10 + digitValue b, s)
    else if fixed then none
    else some (digitValue a, b :: s)
  | [a] => if a.isDigit && !fixed then some (digitValue a, []) else none
  | [] => none

/-- The element `2006` of the layout. -/
def getYear (s : List Char) : Option (Nat × List Char) := do
  let (hi, s) ← getnum true s
  let (lo, s) ← getnum true s
  return (hi * 100 + lo, s)

/-- `skip` for one character of the layout. -/
def skip (c : Char) : List Char → Option (List Char)
  | a :: s => if a = c then some s else none
  | [] => none

/-- A fraction of the second is read although the layout has none. Digits after the ninth do
not count. -/
def getFraction : List Char → Nat × List Char
  | c :: s =>
    if (c = '.' ∨ c = ',') ∧ s.head?.any Char.isDigit then
      let digits := (s.takeWhile Char.isDigit).take 9
      (digits.foldl (fun n d => n * 10 + digitValue d) 0 * 10 ^ (9 - digits.length),
        s.dropWhile Char.isDigit)
    else (0, c :: s)
  | [] => (0, [])

/-- The element `Z07:00` of the layout. -/
def getZone : List Char → Option (Int × List Char)
  | sign :: s =>
    if sign = 'Z' then some (0, s)
    else do
      let (hr, s) ← getnum true s
      let s ← skip ':' s
      let (mm, s) ← getnum true s
      if 24 < hr ∨ 60 < mm then none
      else if sign = '+' then some ((hr * 60 + mm : Nat), s)
      else if sign = '-' then some (-(hr * 60 + mm : Nat), s)
      else none
  | [] => none

/-- The elements `2006-01-02T` of the layout. -/
def getDate (s : List Char) : Option ((Nat × Nat × Nat) × List Char) := do
  let (year, s) ← getYear s
  let s ← skip '-' s
  let (month, s) ← getnum true s
  let s ← skip '-' s
  let (day, s) ← getnum true s
  let s ← skip 'T' s
  return ((year, month, day), s)

/-- The elements `15:04:05` of the layout. -/
def getClock (s : List Char) : Option ((Nat × Nat × Nat) × List Char) := do
  let (hour, s) ← getnum false s
  let s ← skip ':' s
  let (minute, s) ← getnum true s
  let s ← skip ':' s
  let (second, s) ← getnum true s
  return ((hour, minute, second), s)

/-- `Parse(time.RFC3339, s)`, or `none` for its error. -/
def parse (s : String) : Option Time := do
  let ((year, month, day), s) ← getDate s.toList
  let ((hour, minute, second), s) ← getClock s
  let (nanosecond, s) := getFraction s
  let (offset, s) ← getZone s
  if s ≠ [] then none
  else if h : InRange year month day hour minute second nanosecond offset then
    some ⟨year, month, day, hour, minute, second, nanosecond, offset, h⟩
  else none

/-- `skip` for the blank of a layout, which stands for any number of blanks. At the end of the
text there is nothing to skip. -/
def skipBlanks : List Char → Option (List Char)
  | a :: s => if a = ' ' then some (s.dropWhile (· = ' ')) else none
  | [] => some []

/-- The elements `2006-01-02 ` of the layout. -/
def getDateDB (s : List Char) : Option ((Nat × Nat × Nat) × List Char) := do
  let (year, s) ← getYear s
  let s ← skip '-' s
  let (month, s) ← getnum true s
  let s ← skip '-' s
  let (day, s) ← getnum true s
  let s ← skipBlanks s
  return ((year, month, day), s)

/-- `Parse` for the layout `2006-01-02 15:04:05`, or `none` for its error. The time is in UTC. -/
def parseDB (s : String) : Option Time := do
  let ((year, month, day), s) ← getDateDB s.toList
  let ((hour, minute, second), s) ← getClock s
  let (nanosecond, s) := getFraction s
  if s ≠ [] then none
  else if h : InRange year month day hour minute second nanosecond 0 then
    some ⟨year, month, day, hour, minute, second, nanosecond, 0, h⟩
  else none

/-! ### Comparing times -/

/-- The number of days from the first of January of the year `0` to this date. -/
def dayNumber (year month day : Nat) : Nat :=
  365 * year + (year + 3) / 4 - (year + 99) / 100 + (year + 399) / 400 +
    ((List.range month).map fun m => if m = 0 then 0 else daysIn m year).sum + day - 1

/-- The nanoseconds from the first of January of the year `0` in UTC. -/
def instant (t : Time) : Int :=
  ((((dayNumber t.year t.month t.day * 24 + t.hour : Nat) : Int) * 60 + t.minute - t.offset) * 60 +
    t.second) * 10 ^ 9 + t.nanosecond

/-- `t.Before(u)`. -/
def before (t u : Time) : Bool := t.instant < u.instant

/-! ### The round trip -/

/-- The character of a digit is a digit. -/
theorem isDigit_digitChar {n : Nat} (h : n < 10) : (Nat.digitChar n).isDigit = true := by
  interval_cases n <;> rfl

/-- It has the value of the digit. -/
theorem digitValue_digitChar {n : Nat} (h : n < 10) : digitValue (Nat.digitChar n) = n := by
  interval_cases n <;> rfl

/-- Two digits are read back. -/
@[simp] theorem getnum_pad2 {n : Nat} (h : n < 100) (fixed : Bool) (s : List Char) :
    getnum fixed (pad2 n ++ s) = some (n, s) := by
  have hhi : n / 10 % 10 < 10 := Nat.mod_lt _ (by decide)
  have hlo : n % 10 < 10 := Nat.mod_lt _ (by decide)
  simp only [pad2, List.cons_append, List.nil_append, getnum, isDigit_digitChar hhi,
    isDigit_digitChar hlo, digitValue_digitChar hhi, digitValue_digitChar hlo, Bool.not_true,
    Bool.false_eq_true, if_false, if_true, Option.some.injEq, Prod.mk.injEq, and_true]
  omega

/-- Four digits are read back. -/
@[simp] theorem getYear_pad4 {n : Nat} (h : n < 10000) (s : List Char) :
    getYear (pad4 n ++ s) = some (n, s) := by
  have hhi : n / 100 < 100 := by omega
  have hlo : n % 100 < 100 := Nat.mod_lt _ (by decide)
  rw [pad4, List.append_assoc, getYear, getnum_pad2 hhi]
  simp only [Option.bind_eq_bind, Option.bind_some, getnum_pad2 hlo, Option.pure_def,
    Option.some.injEq, Prod.mk.injEq, and_true]
  omega

/-- The expected character is passed. -/
@[simp] theorem skip_cons (c : Char) (s : List Char) : skip c (c :: s) = some s := by
  simp [skip]

/-- A zone does not start like a fraction. -/
@[simp] theorem getFraction_formatZone (offset : Int) (s : List Char) :
    getFraction (formatZone offset ++ s) = (0, formatZone offset ++ s) := by
  unfold formatZone
  split
  · simp [getFraction]
  · split <;> simp [getFraction]

/-- A zone is read back. -/
@[simp] theorem getZone_formatZone {offset : Int} (h : offset.natAbs < 25 * 60)
    (s : List Char) : getZone (formatZone offset ++ s) = some (offset, s) := by
  have hhr : offset.natAbs / 60 < 100 := by omega
  have hmm : offset.natAbs % 60 < 100 := by omega
  have hrange : ¬ (24 < offset.natAbs / 60 ∨ 60 < offset.natAbs % 60) := by omega
  have hnat : offset.natAbs / 60 * 60 + offset.natAbs % 60 = offset.natAbs := by omega
  unfold formatZone
  split
  · next hzero => simp [getZone, hzero]
  · next hzero =>
    have hsign : ∀ sign : Char, sign ≠ 'Z' →
        getZone (sign :: (pad2 (offset.natAbs / 60) ++ ':' :: pad2 (offset.natAbs % 60)) ++ s) =
          if sign = '+' then some ((offset.natAbs : Int), s)
          else if sign = '-' then some (-(offset.natAbs : Int), s) else none := by
      intro sign hne
      simp only [List.cons_append, List.append_assoc, getZone, if_neg hne, Option.bind_eq_bind,
        getnum_pad2 hhr, getnum_pad2 hmm, Option.bind_some, skip_cons, if_neg hrange, hnat]
    split
    · next hneg =>
      have habs : -(offset.natAbs : Int) = offset := by omega
      rw [hsign '-' (by decide), if_neg (by decide), if_pos rfl, habs]
    · next hpos =>
      have habs : (offset.natAbs : Int) = offset := by omega
      rw [hsign '+' (by decide), if_pos rfl, habs]

/-- A date is read back. -/
theorem getDate_format {year month day : Nat} (hyear : year < 10000) (hmonth : month < 100)
    (hday : day < 100) (s : List Char) :
    getDate (pad4 year ++ '-' :: (pad2 month ++ '-' :: (pad2 day ++ 'T' :: s))) =
      some ((year, month, day), s) := by
  simp only [getDate, getYear_pad4 hyear, getnum_pad2 hmonth, getnum_pad2 hday, skip_cons,
    Option.bind_eq_bind, Option.bind_some, Option.pure_def]

/-- A time of day is read back. -/
theorem getClock_format {hour minute second : Nat} (hhour : hour < 100) (hminute : minute < 100)
    (hsecond : second < 100) (s : List Char) :
    getClock (pad2 hour ++ ':' :: (pad2 minute ++ ':' :: (pad2 second ++ s))) =
      some ((hour, minute, second), s) := by
  simp only [getClock, getnum_pad2 hhour, getnum_pad2 hminute, getnum_pad2 hsecond, skip_cons,
    Option.bind_eq_bind, Option.bind_some, Option.pure_def]

/-- `Parse` reads the text of a time as the same time, truncated to seconds. -/
theorem parse_format (t : Time) : parse t.format = some t.truncate := by
  have hrange := t.inRange
  have hmonth : t.month < 100 := by have := hrange.month_mem; omega
  have hday : t.day < 100 := by
    have hle : daysIn t.month t.year ≤ 31 := by
      unfold daysIn
      split <;> split <;> omega
    have := hrange.day_mem
    omega
  have hhour : t.hour < 100 := by have := hrange.hour_lt; omega
  have hminute : t.minute < 100 := by have := hrange.minute_lt; omega
  have hsecond : t.second < 100 := by have := hrange.second_lt; omega
  have hzone : getZone (formatZone t.offset) = some (t.offset, []) := by
    simpa using getZone_formatZone hrange.offset_lt []
  have hfraction : getFraction (formatZone t.offset) = (0, formatZone t.offset) := by
    simpa using getFraction_formatZone t.offset []
  -- Each part of the text is read by its own part of `parse`.
  simp only [parse, format, String.toList_ofList, getDate_format hrange.year_lt hmonth hday,
    getClock_format hhour hminute hsecond, hfraction, hzone, Option.bind_eq_bind,
    Option.bind_some]
  exact dif_pos t.truncate.inRange

/-- The 29th of February is the day before the first of March, in a zone and in UTC. -/
example :
    let t : Time := ⟨2020, 3, 1, 1, 0, 0, 0, 120, by decide⟩
    (parseDB "2020-02-29 23:00:00").map instant = some t.instant := by
  decide

/-- A time of a zone two hours east of UTC, with half a second that `format` drops. -/
example :
    let t : Time := ⟨2021, 5, 1, 9, 30, 7, 500000000, 120, by decide⟩
    t.format = "2021-05-01T09:30:07+02:00" ∧ parse t.format = some t.truncate := by
  decide

end Time
