import Haaukins.Lib.GoDate
import Haaukins.Lib.GoMap

/-!
# `Haaukins.Daemon.TimeSeries`: the free days of a booking (`daemon/daemon.go`)

`isFree` adds the capacity to the time series of the store, day by day, and stops at a day that
gets more than 90. The numbers have 32 bits, and the map of an answer without days is nil.

* `getDates` lists the days from one time to another one. Their number comes from a `Duration`,
  so at most 106753 days are listed (`mem_getDates`).
* `isFree_eq` reads the loop as a question about the listed days: whether a sum of 32 bits is
  above 90.
* `isFree_decides_iff` compares this with the exact sums. The answers differ where a sum leaves
  the 32 bits, where a day is not listed, and on a nil map, where the loop panics.
-/

set_option autoImplicit false

namespace Haaukins.Daemon

/-- `time.Time`, as its clock shows it. -/
structure DateTime where
  date : Date
  /-- The nanoseconds since midnight. -/
  clock : Nat
  /-- The offset of the zone. -/
  offset : Int

/-- `zeroTime`: midnight of the day that the clock shows, in UTC. -/
def zeroTime (t : DateTime) : Date := t.date

/-- `math.Round` of `Hours() / 24`. No `Duration` of two midnights is an odd number of half
days. -/
def roundDays (duration : Int) : Int := (2 * duration + Date.nsPerDay) / (2 * Date.nsPerDay)

/-- `daysInDates`. -/
def daysInDates (sT fT : Date) : Int := roundDays (fT.sub sT)

/-- The loop of `getDates`, with the rounds that are left. -/
def datesFrom (sT : Date) : Nat → List Date
  | 0 => []
  | rounds + 1 => sT :: datesFrom sT.next rounds

/-- `getDates`. -/
def getDates (sT fT : DateTime) : List Date :=
  datesFrom (zeroTime sT) (daysInDates (zeroTime sT) (zeroTime fT) + 1).toNat

/-- The error for a day without resources. -/
def notAvailableErr : String :=
  "Not available resource to book/create the event!, you may choose different date range "

/-- `m.Timeseries[time.Format(dbTimeFormat)]`, where an absent key has the value 0. -/
def seriesAt (m : GoMap String Int32) (d : Date) : Int32 := (m.get? d.format).getD 0

/-- The loop of `isFree`, where the outer `none` is a panic. -/
def checkDays (capacity : Int32) :
    Option (GoMap String Int32) → List Date → Option (Except String Bool)
  | _, [] => some (.ok true)
  -- The map is nil, and the assignment to its entry panics.
  | none, _ :: _ => none
  | some m, d :: rest =>
    let m := m.set d.format (seriesAt m d + capacity)
    if 90 < seriesAt m d then some (.error notAvailableErr) else checkDays capacity (some m) rest

/-- `isFree`. `getTimeSeries` is the answer of the store. -/
def isFree (getTimeSeries : Except String (Option (GoMap String Int32))) (sT fT : DateTime)
    (capacity : Int32) : Option (Except String Bool) :=
  match getTimeSeries with
  | .error err => some (.error err)
  | .ok m => checkDays capacity m (getDates sT fT)

/-! ### The listed days -/

/-- The last day that is listed, when the time between the two is longer than a `Duration`. -/
def maxDays : Nat := 106752

/-- The rounded number of days is that between the dates, up to the maximum. -/
theorem daysInDates_eq (sT fT : Date) (h : sT.dayNumber ≤ fT.dayNumber) :
    daysInDates sT fT = min (fT.dayNumber - sT.dayNumber) maxDays := by
  have hday : Date.nsPerDay = 86400000000000 := rfl
  unfold daysInDates roundDays Date.sub maxDays
  rw [hday]
  omega

/-- It is negative when the end is before the start. -/
theorem daysInDates_neg (sT fT : Date) (h : fT.dayNumber < sT.dayNumber) :
    daysInDates sT fT < 0 := by
  have hday : Date.nsPerDay = 86400000000000 := rfl
  unfold daysInDates roundDays Date.sub
  rw [hday]
  omega

/-- The days of the loop. -/
theorem mem_datesFrom {sT d : Date} {rounds : Nat} :
    d ∈ datesFrom sT rounds ↔
      sT.dayNumber ≤ d.dayNumber ∧ d.dayNumber < sT.dayNumber + rounds := by
  induction rounds generalizing sT with
  | zero =>
    simp only [datesFrom, List.not_mem_nil, false_iff]
    omega
  | succ rounds ih =>
    rw [datesFrom, List.mem_cons, ih, Date.dayNumber_next]
    constructor
    · rintro (rfl | h)
      · omega
      · omega
    · intro h
      by_cases heq : d.dayNumber = sT.dayNumber
      · exact .inl (Date.dayNumber_injective heq)
      · right
        omega

/-- No day is listed twice. -/
theorem nodup_datesFrom (sT : Date) (rounds : Nat) : (datesFrom sT rounds).Nodup := by
  induction rounds generalizing sT with
  | zero => exact List.nodup_nil
  | succ rounds ih =>
    refine List.nodup_cons.mpr ⟨fun hmem => ?_, ih sT.next⟩
    have hlater := (mem_datesFrom.mp hmem).1
    rw [Date.dayNumber_next] at hlater
    omega

/-- The days from `sT` to `fT` are listed, up to the length of a `Duration`. -/
theorem mem_getDates {sT fT : DateTime} {d : Date} :
    d ∈ getDates sT fT ↔ sT.date.le d ∧ d.le fT.date ∧
      d.dayNumber ≤ sT.date.dayNumber + maxDays := by
  rw [getDates, mem_datesFrom, Date.le_iff_dayNumber, Date.le_iff_dayNumber, zeroTime, zeroTime]
  by_cases h : sT.date.dayNumber ≤ fT.date.dayNumber
  · have hdays := daysInDates_eq sT.date fT.date h
    omega
  · have hdays := daysInDates_neg sT.date fT.date (by omega)
    omega

/-! ### The loop over the days -/

/-- The value that the loop compares with 90 for a day. -/
def wrappedSum (m : GoMap String Int32) (capacity : Int32) (d : Date) : Int32 :=
  seriesAt m d + capacity

/-- The series with one day set. -/
theorem seriesAt_set (m : GoMap String Int32) (d d' : Date) (value : Int32) :
    seriesAt (m.set d.format value) d' = if d' = d then value else seriesAt m d' := by
  rw [seriesAt, GoMap.get?_set]
  by_cases heq : d' = d
  · rw [if_pos heq, if_pos (congrArg Date.format heq), Option.getD_some]
  · rw [if_neg heq, if_neg fun h => heq (Date.format_injective h)]
    rfl

/-- Each day has its own entry, so a round changes nothing for the days after it. -/
theorem checkDays_eq (capacity : Int32) {m : GoMap String Int32} {days : List Date}
    (hnodup : days.Nodup) :
    checkDays capacity (some m) days =
      if ∃ d ∈ days, 90 < wrappedSum m capacity d then some (.error notAvailableErr)
      else some (.ok true) := by
  induction days generalizing m with
  | nil => simp [checkDays]
  | cons d rest ih =>
    obtain ⟨hd, hnodup⟩ := List.nodup_cons.mp hnodup
    have hothers : (∃ d' ∈ rest,
        90 < wrappedSum (m.set d.format (seriesAt m d + capacity)) capacity d') ↔
          ∃ d' ∈ rest, 90 < wrappedSum m capacity d' := by
      refine exists_congr fun d' => and_congr_right fun hd' => ?_
      rw [wrappedSum, seriesAt_set, if_neg fun heq : d' = d => hd (heq ▸ hd')]
      rfl
    simp only [checkDays, ih hnodup, hothers, seriesAt_set, if_true, List.exists_mem_cons_iff]
    by_cases hfull : 90 < seriesAt m d + capacity
    · rw [if_pos hfull, if_pos (.inl hfull)]
    · rw [if_neg hfull]
      refine if_congr ?_ rfl rfl
      show _ ↔ 90 < seriesAt m d + capacity ∨ _
      rw [or_iff_right hfull]

/-- `isFree` refuses just when a listed day gets more than 90 in 32 bits. -/
theorem isFree_eq (m : GoMap String Int32) (sT fT : DateTime) (capacity : Int32) :
    isFree (.ok (some m)) sT fT capacity =
      if ∃ d ∈ getDates sT fT, 90 < wrappedSum m capacity d then some (.error notAvailableErr)
      else some (.ok true) :=
  checkDays_eq capacity (nodup_datesFrom _ _)

/-! ### The exact sums -/

/-- The exact sum for a day. The absent map has no days. -/
def exactSum (m : Option (GoMap String Int32)) (capacity : Int32) (d : Date) : Int :=
  (match m with
    | some m => (seriesAt m d).toInt
    | none => 0) + capacity.toInt

/-- Each day from `sT` to `fT` gets at most 90. -/
def Available (m : Option (GoMap String Int32)) (sT fT : DateTime) (capacity : Int32) : Prop :=
  ∀ d : Date, sT.date.le d → d.le fT.date → exactSum m capacity d ≤ 90

/-- The answer is `(true, nil)` when the days are available, and an error otherwise. -/
def Decides (answer : Option (Except String Bool)) (available : Prop) : Prop :=
  match answer with
  | some (.ok free) => free = true ∧ available
  | some (.error _) => ¬ available
  | none => False

/-- The sum of a day is above 90, and has 32 bits. -/
def RightlyFull (sum : Int) : Prop := 90 < sum ∧ sum < 2 ^ 31

/-- The sum of a day is so far below 0 that 32 bits of it are above 90. -/
def WrapsToFull (sum : Int) : Prop := 90 - 2 ^ 32 < sum ∧ sum < -2 ^ 31

/-- There is no day to look at. Or the map is not nil, and a listed day is rightly found full, or
some day is full and not found so just when some free day is found full. -/
def AnswersRightly (m : Option (GoMap String Int32)) (sT fT : DateTime) (capacity : Int32) :
    Prop :=
  ¬ sT.date.le fT.date ∨ m ≠ none ∧
    ((∃ d ∈ getDates sT fT, RightlyFull (exactSum m capacity d)) ∨
      ((∃ d : Date, sT.date.le d ∧ d.le fT.date ∧
          (2 ^ 31 ≤ exactSum m capacity d ∨
            sT.date.dayNumber + maxDays < d.dayNumber ∧ 90 < exactSum m capacity d)) ↔
        ∃ d ∈ getDates sT fT, WrapsToFull (exactSum m capacity d)))

/-- The sum in 32 bits is over the limit if the right one is, or if it wraps. -/
theorem wrappedSum_iff (m : GoMap String Int32) (capacity : Int32) (d : Date) :
    90 < wrappedSum m capacity d ↔
      RightlyFull (exactSum (some m) capacity d) ∨ WrapsToFull (exactSum (some m) capacity d) := by
  rw [Int32.lt_iff_toInt_lt, wrappedSum, Int32.toInt_add]
  have hlo := Int32.le_toInt (seriesAt m d)
  have hhi := Int32.toInt_lt (seriesAt m d)
  have hlo' := Int32.le_toInt capacity
  have hhi' := Int32.toInt_lt capacity
  have hninety : (90 : Int32).toInt = 90 := rfl
  rw [hninety]
  show _ ↔ RightlyFull ((seriesAt m d).toInt + capacity.toInt) ∨
    WrapsToFull ((seriesAt m d).toInt + capacity.toInt)
  generalize (seriesAt m d).toInt = value at *
  generalize capacity.toInt = added at *
  unfold RightlyFull WrapsToFull
  rw [Int.bmod_def]
  split <;> omega

/-- For each answer of the store `isFree` decides exactly when the days are available, if and only
if the interval is empty, or the map is not nil and no sum that leaves 32 bits and no day that is
not listed changes the answer. -/
theorem isFree_decides_iff (m : Option (GoMap String Int32)) (sT fT : DateTime)
    (capacity : Int32) :
    Decides (isFree (.ok m) sT fT capacity) (Available m sT fT capacity) ↔
      AnswersRightly m sT fT capacity := by
  by_cases hle : sT.date.le fT.date
  swap
  · -- No day lies between the two, and the loop makes no round.
    have hnone : ∀ d : Date, sT.date.le d → ¬ d.le fT.date := fun d hs hf => by
      rw [Date.le_iff_dayNumber] at hs hf hle
      omega
    have hdates : getDates sT fT = [] :=
      List.eq_nil_iff_forall_not_mem.mpr fun d hd =>
        hnone d (mem_getDates.mp hd).1 (mem_getDates.mp hd).2.1
    have hfree : isFree (.ok m) sT fT capacity = some (.ok true) := by
      rw [isFree, hdates]
      cases m <;> rfl
    rw [hfree]
    exact iff_of_true ⟨rfl, fun d hs hf => absurd hf (hnone d hs)⟩ (.inl hle)
  cases m with
  | none =>
    -- The first round assigns to the nil map.
    have hfirst : sT.date ∈ getDates sT fT := by
      refine mem_getDates.mpr ⟨?_, hle, by omega⟩
      rw [Date.le_iff_dayNumber]
    have hpanic : isFree (.ok none) sT fT capacity = none := by
      rw [isFree]
      cases hdates : getDates sT fT with
      | nil => rw [hdates] at hfirst; cases hfirst
      | cons d rest => rfl
    rw [hpanic]
    exact iff_of_false id fun h => h.elim (fun hnot => hnot hle) fun h => h.1 rfl
  | some m =>
    have hdecides : Decides (isFree (.ok (some m)) sT fT capacity)
          (Available (some m) sT fT capacity) ↔
        ((∃ d ∈ getDates sT fT, 90 < wrappedSum m capacity d) ↔
          ∃ d : Date, sT.date.le d ∧ d.le fT.date ∧ 90 < exactSum (some m) capacity d) := by
      have hnot : ¬ Available (some m) sT fT capacity ↔
          ∃ d : Date, sT.date.le d ∧ d.le fT.date ∧ 90 < exactSum (some m) capacity d := by
        simp only [Available, not_forall, not_le, exists_prop]
      rw [isFree_eq, ← hnot]
      split
      · next hfull => exact (iff_true_left hfull).symm
      · next hfree => simp [Decides, hfree]
    rw [hdecides]
    simp only [AnswersRightly, hle, not_true_eq_false, false_or, ne_eq, reduceCtorEq,
      not_false_eq_true, true_and]
    have hfound : (∃ d ∈ getDates sT fT, 90 < wrappedSum m capacity d) ↔
        (∃ d ∈ getDates sT fT, RightlyFull (exactSum (some m) capacity d)) ∨
          ∃ d ∈ getDates sT fT, WrapsToFull (exactSum (some m) capacity d) := by
      simp only [wrappedSum_iff, and_or_left, exists_or]
    -- The full days are the ones found, the ones whose sum wraps, and the ones not listed.
    have hfull : (∃ d : Date, sT.date.le d ∧ d.le fT.date ∧ 90 < exactSum (some m) capacity d) ↔
        (∃ d ∈ getDates sT fT, RightlyFull (exactSum (some m) capacity d)) ∨
          ∃ d : Date, sT.date.le d ∧ d.le fT.date ∧
            (2 ^ 31 ≤ exactSum (some m) capacity d ∨
              sT.date.dayNumber + maxDays < d.dayNumber ∧ 90 < exactSum (some m) capacity d) := by
      constructor
      · rintro ⟨d, hs, hf, hsum⟩
        by_cases hlisted : d.dayNumber ≤ sT.date.dayNumber + maxDays
        · by_cases hbits : exactSum (some m) capacity d < 2 ^ 31
          · exact .inl ⟨d, mem_getDates.mpr ⟨hs, hf, hlisted⟩, hsum, hbits⟩
          · exact .inr ⟨d, hs, hf, .inl (by omega)⟩
        · exact .inr ⟨d, hs, hf, .inr ⟨by omega, hsum⟩⟩
      · rintro (⟨d, hd, hsum, -⟩ | ⟨d, hs, hf, hsum | ⟨-, hsum⟩⟩)
        · exact ⟨d, (mem_getDates.mp hd).1, (mem_getDates.mp hd).2.1, hsum⟩
        · exact ⟨d, hs, hf, by omega⟩
        · exact ⟨d, hs, hf, hsum⟩
    rw [hfound, hfull]
    by_cases hright : ∃ d ∈ getDates sT fT, RightlyFull (exactSum (some m) capacity d)
    · exact iff_of_true (iff_of_true (.inl hright) (.inl hright)) (.inl hright)
    · rw [or_iff_right hright, or_iff_right hright, or_iff_right hright]
      exact iff_comm

/-- A morning of the year 2023. -/
def newYear : DateTime where
  date := ⟨2023, 1, 1, by decide⟩
  clock := 0
  offset := 0

/-- The store has no event yet, and the booking of one day panics. -/
theorem isFree_nil_map :
    ¬ ∀ (m : Option (GoMap String Int32)) (sT fT : DateTime) (capacity : Int32),
      Decides (isFree (.ok m) sT fT capacity) (Available m sT fT capacity) := by
  intro h
  have hdecides := h none newYear newYear 10
  have hpanic : isFree (.ok none) newYear newYear 10 = none := rfl
  rw [hpanic] at hdecides
  exact hdecides

end Haaukins.Daemon
