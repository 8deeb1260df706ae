import ComputedColumns.Proofs.Calendar.Text
import ComputedColumns.Proofs.Text.Order
import Mathlib.Data.Int.Order.Basic

namespace ComputedColumns

open Text

/-- The days from the year 0 to the beginning of a year: one for each leap year in between are added to 365
a year. -/
def daysBeforeYear (year : Int) : Int :=
  365 * year + (year + 3) / 4 - (year + 99) / 100 + (year + 399) / 400

def daysInMonths (year : Int) : Nat → Nat
  | 0 => 0
  | month + 1 => daysInMonths year month + daysInMonth year (month + 1)

def Date.dayNumber (d : Date) : Int := daysBeforeYear d.year + daysInMonths d.year (d.month - 1) + d.day

/-- The minutes since midnight; seconds do not count. -/
def TimeOfDay.minuteNumber (t : TimeOfDay) : Nat := 60 * t.hour + t.minute

def DateTime.minuteNumber (m : DateTime) : Int := 1440 * m.date.dayNumber + m.time.minuteNumber

def Date.HasPlainYear (d : Date) : Prop := 0 ≤ d.year ∧ d.year ≤ 9999

theorem daysInMonths_year (year : Int) : daysInMonths year 12 = if isLeapYear year then 366 else 365 := by
  simp only [daysInMonths, daysInMonth]
  cases isLeapYear year <;> rfl

theorem daysBeforeYear_succ (year : Int) :
    daysBeforeYear (year + 1) = daysBeforeYear year + daysInMonths year 12 := by
  rw [daysInMonths_year]
  by_cases leap : isLeapYear year = true
  · rw [if_pos leap]
    simp only [isLeapYear, Bool.and_eq_true, Bool.or_eq_true, decide_eq_true_eq] at leap
    simp only [daysBeforeYear]
    omega
  · rw [if_neg leap]
    simp only [isLeapYear, Bool.and_eq_true, Bool.or_eq_true, decide_eq_true_eq] at leap
    simp only [daysBeforeYear]
    omega

theorem daysBeforeYear_mono {year later : Int} (order : year ≤ later) :
    daysBeforeYear year ≤ daysBeforeYear later := by
  simp only [daysBeforeYear]
  omega

theorem daysInMonths_mono (year : Int) {month later : Nat} (order : month ≤ later) :
    daysInMonths year month ≤ daysInMonths year later := by
  induction order with
  | refl => exact Nat.le_refl _
  | step _ ih => exact Nat.le_trans ih (Nat.le_add_right _ _)

namespace Date

theorem dayInMonth (d : Date) :
    daysInMonths d.year (d.month - 1) + d.day ≤ daysInMonths d.year d.month := by
  obtain ⟨-, -, firstMonth, -, -, days⟩ := d.valid
  obtain ⟨month, last⟩ : ∃ month, d.month = month + 1 := Nat.exists_eq_add_of_le' firstMonth
  rw [last] at days ⊢
  exact Nat.add_le_add_left days _

theorem dayNumber_le_of_month (d : Date) {later : Nat} (order : d.month ≤ later) :
    d.dayNumber ≤ daysBeforeYear d.year + daysInMonths d.year later := by
  have inside := d.dayInMonth
  have months := daysInMonths_mono d.year order
  rw [dayNumber]
  omega

theorem lt_dayNumber (d : Date) :
    daysBeforeYear d.year + daysInMonths d.year (d.month - 1) < d.dayNumber := by
  have firstDay : 1 ≤ d.day := d.valid.2.2.2.2.1
  rw [dayNumber]
  omega

theorem dayNumber_lt_of_year {d e : Date} (less : d.year < e.year) : d.dayNumber < e.dayNumber := by
  have inside := d.dayNumber_le_of_month d.valid.2.2.2.1
  have years := daysBeforeYear_mono (Int.add_one_le_of_lt less)
  have above := e.lt_dayNumber
  rw [daysBeforeYear_succ] at years
  omega

theorem dayNumber_lt_of_month {d e : Date} (same : d.year = e.year) (less : d.month < e.month) :
    d.dayNumber < e.dayNumber := by
  have before : d.month ≤ e.month - 1 := Nat.le_sub_one_of_lt less
  have inside := d.dayNumber_le_of_month before
  have above := e.lt_dayNumber
  rw [same] at inside
  omega

theorem compare_dayNumber (d e : Date) :
    compare d.dayNumber e.dayNumber =
      (compare d.year e.year).then ((compare d.month e.month).then (compare d.day e.day)) := by
  apply compare_eq_then dayNumber_lt_of_year dayNumber_lt_of_year
  intro year
  apply compare_eq_then (dayNumber_lt_of_month year) (dayNumber_lt_of_month year.symm)
  intro month
  have start : d.dayNumber = daysBeforeYear e.year + daysInMonths e.year (e.month - 1) + d.day := by
    rw [dayNumber, year, month]
  rw [start, dayNumber]
  apply compare_eq_compare
  · omega
  · omega
  · omega

end Date

namespace Date

variable {d e : Date}

theorem text_of_plainYear (plain : d.HasPlainYear) :
    d.text = padded 4 d.year.natAbs ++ '-' :: (padded 2 d.month ++ '-' :: (padded 2 d.day ++ [])) := by
  have ordinary : 0 ≤ d.year ∧ d.year ≤ 9999 := plain
  simp [text, yearText, ordinary]

theorem fields_lt (plain : d.HasPlainYear) :
    d.year.natAbs < 10 ^ 4 ∧ d.month < 10 ^ 2 ∧ d.day < 10 ^ 2 := by
  obtain ⟨-, -, -, lastMonth, -, lastDay⟩ := d.valid
  have longest := daysInMonth_le d.year d.month
  have first := plain.1
  have last := plain.2
  omega

theorem length_text (plain : d.HasPlainYear) : d.text.length = 10 := by
  obtain ⟨year, month, day⟩ := fields_lt plain
  simp [text_of_plainYear plain, length_padded _ year, length_padded _ month, length_padded _ day]

theorem compareChars_text (dPlain : d.HasPlainYear) (ePlain : e.HasPlainYear) :
    compareChars d.text e.text = compare d.dayNumber e.dayNumber := by
  obtain ⟨dYear, dMonth, dDay⟩ := fields_lt dPlain
  obtain ⟨eYear, eMonth, eDay⟩ := fields_lt ePlain
  have years : compare d.year.natAbs e.year.natAbs = compare d.year e.year := by
    have dFirst := dPlain.1
    have eFirst := ePlain.1
    apply compare_eq_compare
    · omega
    · omega
    · omega
  rw [text_of_plainYear dPlain, text_of_plainYear ePlain, compareChars_padded (by decide) dYear eYear,
    compareChars_cons_self, compareChars_padded (by decide) dMonth eMonth, compareChars_cons_self,
    compareChars_padded (by decide) dDay eDay, compareChars_self, Ordering.then_eq, years,
    compare_dayNumber]

end Date

theorem TimeOfDay.compareChars_text (t u : TimeOfDay) :
    compareChars t.text u.text = compare t.minuteNumber u.minuteNumber := by
  have written (t : TimeOfDay) : t.text = padded 2 t.hour ++ ':' :: (padded 2 t.minute ++ []) := by
    simp [text]
  have tHour : t.hour.val < 10 ^ 2 := by omega
  have uHour : u.hour.val < 10 ^ 2 := by omega
  have tMinute : t.minute.val < 10 ^ 2 := by omega
  have uMinute : u.minute.val < 10 ^ 2 := by omega
  rw [written t, written u, compareChars_padded (by decide) tHour uHour, compareChars_cons_self,
    compareChars_padded (by decide) tMinute uMinute, compareChars_self, Ordering.then_eq, minuteNumber,
    minuteNumber]
  symm
  apply compare_eq_then
  · omega
  · omega
  · intro hour
    apply compare_eq_compare
    · omega
    · omega
    · omega

theorem TimeOfDay.minuteNumber_lt (t : TimeOfDay) : t.minuteNumber < 1440 := by
  rw [minuteNumber]
  omega

theorem DateTime.compareChars_text {m n : DateTime} (mPlain : m.date.HasPlainYear)
    (nPlain : n.date.HasPlainYear) : compareChars m.text n.text = compare m.minuteNumber n.minuteNumber := by
  have even : m.date.text.length = n.date.text.length := by
    rw [Date.length_text mPlain, Date.length_text nPlain]
  have mTime := m.time.minuteNumber_lt
  have nTime := n.time.minuteNumber_lt
  rw [text, text, compareChars_append even, Date.compareChars_text mPlain nPlain, compareChars_cons_self,
    TimeOfDay.compareChars_text, minuteNumber, minuteNumber]
  symm
  apply compare_eq_then
  · omega
  · omega
  · intro day
    apply compare_eq_compare
    · omega
    · omega
    · omega

end ComputedColumns
