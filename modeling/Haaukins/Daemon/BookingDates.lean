import Haaukins.Daemon.TimeSeries

/-!
# `Haaukins.Daemon.BookingDates`: the days of a booking, as times (`daemon/daemon.go`)

`getDates` of `Haaukins.Daemon.TimeSeries` lists days. Here it is with the times that the code
works on: `zeroTime` moves a time to midnight of its own day, in UTC, `Sub` gives a `Duration`,
and `AddDate` moves on to the next midnight. The two agree (`getTimes_eq`), because between
midnights in UTC there are whole days.

A `Duration` ends at 292 years and some months. For days that are less than 292 years apart the
number of days is exact, so each of them is listed once, in order (`getTimes_listsDays`).
-/

set_option autoImplicit false

namespace Date

/-- `d'` comes before the day of the same month and number that lies `years` years after `d`. -/
def LessYearsApart (years : Nat) (d d' : Date) : Prop :=
  d'.year < d.year + years ∨ d'.year = d.year + years ∧
    (d'.month < d.month ∨ d'.month = d.month ∧ d'.day < d.day)

instance (years : Nat) (d d' : Date) : Decidable (d.LessYearsApart years d') :=
  inferInstanceAs (Decidable (_ ∨ _))

/-- In a leap year a month begins one day later than in another year, or on the same day. -/
theorem daysBeforeMonth_le_succ (year year' : Int) (month : Nat) :
    daysBeforeMonth year month ≤ daysBeforeMonth year' month + 1 := by
  have hfebruary : daysIn 2 year ≤ daysIn 2 year' + 1 := by
    simp only [daysIn]
    split_ifs <;> omega
  by_cases hmonth : month ≤ 2
  · interval_cases month <;> simp [daysBeforeMonth, daysIn]
  · -- From March on, the months before have February among them.
    have hsame : ∀ m, m ≠ 2 → daysIn m year = daysIn m year' := fun m hm => by
      simp [daysIn, hm]
    obtain ⟨n, rfl⟩ := Nat.exists_eq_add_of_lt (not_le.mp hmonth)
    clear hmonth
    induction n with
    | zero =>
      show 0 + daysIn 1 year + daysIn 2 year ≤ 0 + daysIn 1 year' + daysIn 2 year' + 1
      have := hsame 1 (by decide)
      omega
    | succ n ih =>
      rw [show 2 + (n + 1) + 1 = 2 + n + 1 + 1 by omega,
        daysBeforeMonth_succ year (by omega), daysBeforeMonth_succ year' (by omega),
        hsame (2 + n + 1) (by omega)]
      omega

/-- In 292 years there are 73 leap years at most. -/
theorem daysBeforeYear_add (year : Int) :
    daysBeforeYear (year + 292) ≤ daysBeforeYear year + 292 * 365 + 73 := by
  unfold daysBeforeYear
  omega

/-- Days that are less than 292 years apart are fewer days apart than a `Duration` can have. -/
theorem dayNumber_lt_of_lessYearsApart {d d' : Date} (h : d.LessYearsApart 292 d') :
    d'.dayNumber < d.dayNumber + (292 * 365 + 75) := by
  have hyears := daysBeforeYear_add d.year
  have hday := d.inRange.day_mem
  have hfirst := (dayNumber_mem_year d).1
  have hmonth := daysBeforeMonth_le_succ d'.year d.year d.month
  simp only [LessYearsApart, Nat.cast_ofNat] at h
  rcases h with hyear | ⟨hyear, hmonth' | ⟨hmonth', hday'⟩⟩
  · have hlt : d'.dayNumber < daysBeforeYear (d'.year + 1) := (dayNumber_mem_year d').2
    have hmono : daysBeforeYear (d'.year + 1) ≤ daysBeforeYear (d.year + 292) :=
      daysBeforeYear_mono (by omega)
    omega
  · have hlt := dayNumber_lt_of_month d' hmonth'
    rw [hyear] at hlt hmonth
    unfold dayNumber at *
    omega
  · unfold dayNumber
    rw [hyear, hmonth']
    rw [hyear] at hmonth
    unfold dayNumber at hfirst
    omega

end Date

namespace Haaukins.Daemon

/-! ## The code, with times -/

namespace DateTime

/-- `time.Date(y, m, d, 0, 0, 0, 0, time.UTC)`. -/
def midnight (d : Date) : DateTime := { date := d, clock := 0, offset := 0 }

/-- The nanoseconds since the first day of year 1, in UTC. The offset is in nanoseconds. -/
def instant (t : DateTime) : Int := t.date.dayNumber * Date.nsPerDay + t.clock - t.offset

/-- `Sub`. A `Duration` has 64 bits. -/
def sub (t u : DateTime) : Int := max (-2 ^ 63) (min (2 ^ 63 - 1) (t.instant - u.instant))

/-- `AddDate(0, 0, 1)`. -/
def nextDay (t : DateTime) : DateTime := { t with date := t.date.next }

end DateTime

/-- `zeroTime`. -/
def zeroDateTime (t : DateTime) : DateTime := DateTime.midnight (zeroTime t)

/-- `daysInDates` of two times. -/
def daysInTimes (sT fT : DateTime) : Int := roundDays (fT.sub sT)

/-- The loop of `getDates`, with the rounds that are left. -/
def timesFrom (sT : DateTime) : Nat → List DateTime
  | 0 => []
  | rounds + 1 => sT :: timesFrom sT.nextDay rounds

/-- `getDates`, with the times that it returns. -/
def getTimes (sT fT : DateTime) : List DateTime :=
  timesFrom (zeroDateTime sT) (daysInTimes (zeroDateTime sT) (zeroDateTime fT) + 1).toNat

/-! ## The days -/

/-- Between midnights in UTC there are whole days. -/
theorem sub_midnight (d d' : Date) :
    (DateTime.midnight d).sub (DateTime.midnight d') = d.sub d' := by
  unfold DateTime.sub DateTime.instant Date.sub
  show max _ (min _ (d.dayNumber * Date.nsPerDay + 0 - 0 - (d'.dayNumber * Date.nsPerDay + 0 - 0)))
    = _
  rw [Int.sub_mul]
  simp only [Int.add_zero, Int.sub_zero]

/-- From midnight on the times are the midnights of the days. -/
theorem timesFrom_midnight (d : Date) (rounds : Nat) :
    timesFrom (DateTime.midnight d) rounds = (datesFrom d rounds).map DateTime.midnight := by
  induction rounds generalizing d with
  | zero => rfl
  | succ rounds ih =>
    rw [timesFrom, datesFrom, List.map_cons, ← ih d.next]
    rfl

/-- The times are the midnights of the days that `getDates` lists. -/
theorem getTimes_eq (sT fT : DateTime) :
    getTimes sT fT = (getDates sT fT).map DateTime.midnight := by
  have hdays : daysInTimes (zeroDateTime sT) (zeroDateTime fT) =
      daysInDates (zeroTime sT) (zeroTime fT) := by
    rw [daysInTimes, daysInDates, ← sub_midnight]
    rfl
  rw [getTimes, getDates, hdays]
  exact timesFrom_midnight (zeroTime sT) _

/-- The days are listed in the order of the calendar. -/
theorem pairwise_datesFrom (sT : Date) (rounds : Nat) :
    (datesFrom sT rounds).Pairwise fun d d' => d.dayNumber < d'.dayNumber := by
  induction rounds generalizing sT with
  | zero => exact List.Pairwise.nil
  | succ rounds ih =>
    rw [datesFrom, List.pairwise_cons]
    refine ⟨fun d hd => ?_, ih sT.next⟩
    have hlater := (mem_datesFrom.mp hd).1
    rw [Date.dayNumber_next] at hlater
    omega

/-- The times are the midnights, in UTC, of the days from `first` to `last`: each of these days
once, in the order of the calendar. -/
structure ListsDays (times : List DateTime) (first last : Date) : Prop where
  midnight : ∀ t ∈ times, t = DateTime.midnight t.date
  ascending : times.Pairwise fun t u => t.date.le u.date ∧ t.date ≠ u.date
  listed : ∀ d : Date, DateTime.midnight d ∈ times ↔ first.le d ∧ d.le last
  once : (times.map DateTime.date).Nodup

/-- `getDates` lists the days from the one of `sT` to the one of `fT`. -/
theorem getTimes_listsDays (sT fT : DateTime) :
    (sT.date.le fT.date ∧ sT.date.LessYearsApart 292 fT.date →
      ListsDays (getTimes sT fT) sT.date fT.date) ∧
      (¬ sT.date.le fT.date → getTimes sT fT = []) := by
  rw [getTimes_eq]
  constructor
  · rintro ⟨horder, hyears⟩
    have hclose := Date.dayNumber_lt_of_lessYearsApart hyears
    -- `maxDays` is the number of whole days in a `Duration`, so that dates as close as these lose
    -- no day.
    have hmem : ∀ d, d ∈ getDates sT fT ↔ sT.date.le d ∧ d.le fT.date := by
      intro d
      have hmax : maxDays = 106752 := rfl
      rw [mem_getDates, Date.le_iff_dayNumber, Date.le_iff_dayNumber, hmax]
      omega
    have hdates : ((getDates sT fT).map DateTime.midnight).map DateTime.date = getDates sT fT := by
      rw [List.map_map]
      exact List.map_id _
    constructor
    · intro t ht
      obtain ⟨d, -, rfl⟩ := List.mem_map.mp ht
      rfl
    · rw [List.pairwise_map]
      refine (pairwise_datesFrom _ _).imp fun {d d'} hlt => ?_
      refine ⟨Date.le_iff_dayNumber.mpr hlt.le, ?_⟩
      rintro rfl
      exact lt_irrefl _ hlt
    · intro d
      rw [← hmem d]
      constructor
      · intro ht
        obtain ⟨d', hd', heq⟩ := List.mem_map.mp ht
        have hday : d' = d := congrArg DateTime.date heq
        rwa [← hday]
      · exact List.mem_map_of_mem
    · rw [hdates]
      exact nodup_datesFrom _ _
  -- The number of days is negative, and the loop makes no round.
  · intro horder
    rw [Date.le_iff_dayNumber, not_le] at horder
    have hdays := daysInDates_neg sT.date fT.date horder
    have hrounds : (daysInDates (zeroTime sT) (zeroTime fT) + 1).toNat = 0 := by
      unfold zeroTime
      omega
    rw [getDates, hrounds]
    rfl

/-- The 28th of February 2024, shortly before midnight in a zone two hours to the east. -/
def lateFebruary : DateTime where
  date := { year := 2024, month := 2, day := 28, inRange := by decide }
  clock := 86399 * 10 ^ 9
  offset := 7200 * 10 ^ 9

/-- The first of March 2024. -/
def earlyMarch : DateTime :=
  DateTime.midnight { year := 2024, month := 3, day := 1, inRange := by decide }

/-- The end of a February, forwards and backwards. -/
theorem getTimes_lateFebruary :
    ListsDays (getTimes lateFebruary earlyMarch) lateFebruary.date earlyMarch.date ∧
      getTimes earlyMarch lateFebruary = [] :=
  ⟨(getTimes_listsDays lateFebruary earlyMarch).1 (by decide),
    (getTimes_listsDays earlyMarch lateFebruary).2 (by decide)⟩

end Haaukins.Daemon
