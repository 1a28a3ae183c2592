import IncidentTriage.Library.FixedWidth
import IncidentTriage.Python.Json
import Mathlib.Tactic.IntervalCases

/-! # Python's datetimes in UTC

A `datetime` of the proleptic Gregorian calendar to the microsecond, the instant it stands for,
and the two spellings the program gives it.
-/

namespace IncidentTriage.Python

open FixedWidth

/-! ## The calendar -/

/-- `calendar.isleap`. -/
def isLeap (year : Nat) : Bool := year % 4 == 0 && (year % 100 != 0 || year % 400 == 0)

/-- `_days_in_month`. -/
def daysInMonth (year month : Nat) : Nat :=
  if month == 2 && isLeap year then 29
  else [0, 31, 28, 31, 30, 31, 30, 31, 31, 30, 31, 30, 31].getD month 0

/-- `_days_before_year`. -/
def daysBeforeYear (year : Nat) : Nat :=
  let y := year - 1
  y * 365 + y / 4 - y / 100 + y / 400

/-- `_days_before_month`. -/
def daysBeforeMonth (year month : Nat) : Nat :=
  [0, 0, 31, 59, 90, 120, 151, 181, 212, 243, 273, 304, 334].getD month 0 +
    if 2 < month && isLeap year then 1 else 0

/-- A `datetime` whose time zone is UTC. -/
structure Datetime where
  year : Nat
  month : Nat
  day : Nat
  hour : Nat
  minute : Nat
  second : Nat
  microsecond : Nat
  year_pos : 1 ≤ year
  year_le : year ≤ 9999
  month_pos : 1 ≤ month
  month_le : month ≤ 12
  day_pos : 1 ≤ day
  day_le : day ≤ daysInMonth year month
  hour_lt : hour < 24
  minute_lt : minute < 60
  second_lt : second < 60
  microsecond_lt : microsecond < 1000000
  deriving DecidableEq

namespace Datetime

/-- `toordinal`: the first day of the calendar is day 1. -/
def toOrdinal (d : Datetime) : Nat := daysBeforeYear d.year + daysBeforeMonth d.year d.month + d.day

/-- The seconds since the day before the calendar began. -/
def seconds (d : Datetime) : Nat :=
  ((d.toOrdinal * 24 + d.hour) * 60 + d.minute) * 60 + d.second

/-- The instant; 1970 began on day 719163. -/
def instant (d : Datetime) : Time :=
  ((d.seconds : Int) - 719163 * 86400) * 1000000 + d.microsecond

/-- The months of the calendar, counted through the years. -/
def months (d : Datetime) : Nat := d.year * 13 + d.month

end Datetime

theorem daysBeforeYear_succ {year : Nat} (pos : 1 ≤ year) :
    daysBeforeYear (year + 1) = daysBeforeYear year + 365 + if isLeap year then 1 else 0 := by
  obtain ⟨y, rfl⟩ := Nat.exists_eq_add_of_le' pos
  have fewer : y / 100 ≤ y / 4 := Nat.div_le_div_left (by decide) (by decide)
  simp only [daysBeforeYear, isLeap, Nat.add_sub_cancel, Nat.succ_div, Nat.dvd_iff_mod_eq_zero,
    Bool.and_eq_true, Bool.or_eq_true, beq_iff_eq, bne_iff_ne]
  by_cases four : (y + 1) % 4 = 0
  · by_cases hundred : (y + 1) % 100 = 0
    · by_cases fourHundred : (y + 1) % 400 = 0
      · simp only [four, hundred, fourHundred, if_true, ne_eq, not_true, true_and, false_or]
        omega
      · simp only [four, hundred, fourHundred, if_true, if_false, ne_eq, not_true, or_false,
          and_false]
        omega
    · have fourHundred : (y + 1) % 400 ≠ 0 := by omega
      simp only [four, hundred, fourHundred, if_true, if_false, ne_eq, not_false_iff, true_or,
        and_true]
      omega
  · have hundred : (y + 1) % 100 ≠ 0 := by omega
    have fourHundred : (y + 1) % 400 ≠ 0 := by omega
    simp only [four, hundred, fourHundred, if_false, false_and]
    omega

theorem daysBeforeYear_mono {y z : Nat} (pos : 1 ≤ y) (before : y < z) :
    daysBeforeYear y + 365 + (if isLeap y then 1 else 0) ≤ daysBeforeYear z := by
  induction z, before using Nat.le_induction with
  | base => rw [daysBeforeYear_succ pos]
  | succ z later ih =>
    rw [daysBeforeYear_succ (by omega)]
    omega

/-- A later month of the year begins when the earlier one is over. -/
theorem daysBeforeMonth_mono (year : Nat) {m n : Nat} (pos : 1 ≤ m) (before : m < n)
    (last : n ≤ 12) : daysBeforeMonth year m + daysInMonth year m ≤ daysBeforeMonth year n := by
  unfold daysBeforeMonth daysInMonth
  cases isLeap year <;> interval_cases n <;> interval_cases m <;> decide

theorem days_le_year (year : Nat) {m : Nat} (pos : 1 ≤ m) (last : m ≤ 12) :
    daysBeforeMonth year m + daysInMonth year m ≤ 365 + if isLeap year then 1 else 0 := by
  unfold daysBeforeMonth daysInMonth
  cases isLeap year <;> interval_cases m <;> decide

theorem daysInMonth_lt (year month : Nat) : daysInMonth year month < 10 ^ 2 := by
  unfold daysInMonth
  split
  · decide
  · rcases Nat.lt_or_ge month 13 with small | large
    · interval_cases month <;> decide
    · rw [List.getD_eq_getElem?_getD, List.getElem?_eq_none (by simpa using large)]
      decide

namespace Datetime

/-- A day is later than another if its month is, or in the same month. -/
theorem toOrdinal_decides (a b : Datetime) :
    a.toOrdinal < b.toOrdinal ↔ a.months < b.months ∨ a.months = b.months ∧ a.day < b.day := by
  have earlier : ∀ a b : Datetime, a.months < b.months → a.toOrdinal < b.toOrdinal := by
    intro a b less
    have hda := a.day_le
    have hdb := b.day_pos
    have hma := a.month_le
    have hmb := b.month_le
    unfold months at less
    unfold toOrdinal
    rcases Nat.lt_trichotomy a.year b.year with year | year | year
    · have years := daysBeforeYear_mono a.year_pos year
      have within := days_le_year a.year a.month_pos a.month_le
      omega
    · have month : a.month < b.month := by omega
      have within := daysBeforeMonth_mono a.year a.month_pos month b.month_le
      rw [← year]
      omega
    · omega
  rcases Nat.lt_trichotomy a.months b.months with less | same | more
  · exact ⟨fun _ => .inl less, fun _ => earlier a b less⟩
  · have hma := a.month_le
    have hmb := b.month_le
    have year : a.year = b.year := by
      unfold months at same
      omega
    have month : a.month = b.month := by
      unfold months at same
      omega
    simp only [same, lt_irrefl, true_and, false_or, toOrdinal, year, month]
    omega
  · have later := earlier b a more
    omega

/-! ## Spellings -/

/-- Year, month and day as `isoformat` writes them. -/
def isoDate (d : Datetime) : List Char :=
  digits 4 d.year ++ ['-'] ++ digits 2 d.month ++ ['-'] ++ digits 2 d.day

/-- Down to the second. -/
def isoSeconds (d : Datetime) : List Char :=
  d.isoDate ++ ['T'] ++ digits 2 d.hour ++ [':'] ++ digits 2 d.minute ++ [':'] ++ digits 2 d.second

/-- The fraction of a second, which is left out where there is none. -/
def fraction (d : Datetime) : List Char :=
  if d.microsecond = 0 then [] else '.' :: digits 6 d.microsecond

/-- `value.isoformat()`. -/
def isoformat (d : Datetime) : List Char :=
  d.isoSeconds ++ d.fraction ++ ['+', '0', '0', ':', '0', '0']

/-- What `model_dump(mode="json")` makes of a `datetime`. -/
def modelDump (d : Datetime) : List Char := d.isoSeconds ++ d.fraction ++ ['Z']

theorem orders_isoDate : OrdersBy isoDate toOrdinal := by
  have year : OrdersBy (fun d : Datetime => digits 4 d.year ++ ['-']) Datetime.year :=
    (orders_digits fun d => by have := d.year_le; omega).mark ['-']
  have month : OrdersBy (fun d : Datetime => digits 2 d.month) Datetime.month :=
    orders_digits fun d => by have := d.month_le; omega
  have day : OrdersBy (fun d : Datetime => digits 2 d.day) Datetime.day :=
    orders_digits fun d => d.day_le.trans_lt (daysInMonth_lt d.year d.month)
  have months :
      OrdersBy (fun d : Datetime => digits 4 d.year ++ ['-'] ++ digits 2 d.month) months :=
    year.append month (radix_decides fun d => Nat.lt_succ_of_le d.month_le)
  exact (months.mark ['-']).append day toOrdinal_decides

theorem orders_isoSeconds : OrdersBy isoSeconds seconds := by
  have hour : OrdersBy (fun d : Datetime => digits 2 d.hour) Datetime.hour :=
    orders_digits fun d => by have := d.hour_lt; omega
  have minute : OrdersBy (fun d : Datetime => digits 2 d.minute) Datetime.minute :=
    orders_digits fun d => by have := d.minute_lt; omega
  have second : OrdersBy (fun d : Datetime => digits 2 d.second) Datetime.second :=
    orders_digits fun d => by have := d.second_lt; omega
  have hours := (orders_isoDate.mark ['T']).append hour (radix_decides fun d => d.hour_lt)
  have minutes := (hours.mark [':']).append minute (radix_decides fun d => d.minute_lt)
  exact (minutes.mark [':']).append second (radix_decides fun d => d.second_lt)

/-- Of two instants the earlier one is in an earlier second, or in the same one at a lesser
fraction. -/
theorem instant_lt (a b : Datetime) :
    a.instant < b.instant ↔
      a.seconds < b.seconds ∨ a.seconds = b.seconds ∧ a.microsecond < b.microsecond := by
  have ha := a.microsecond_lt
  have hb := b.microsecond_lt
  unfold instant Time
  omega

end Datetime

end IncidentTriage.Python
