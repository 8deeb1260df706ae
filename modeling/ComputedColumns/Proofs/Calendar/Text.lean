import ComputedColumns.Calendar.Text
import ComputedColumns.Proofs.Text.Numeral

namespace ComputedColumns

open Text

theorem daysInMonth_le (year : Int) (month : Nat) : daysInMonth year month ≤ 31 := by
  unfold daysInMonth
  split
  · split <;> omega
  · split <;> omega

namespace Calendar

theorem digitsUpTo_of_digits {ds rest : List Char} {width : Nat} (present : ds ≠ [])
    (all : ∀ d ∈ ds, isDigit d = true) (fits : ds.length ≤ width)
    (ends : ds.length = width ∨ ∀ c cs, rest = c :: cs → isDigit c = false) :
    digitsUpTo width (ds ++ rest) = some (ofDigits ds, rest) := by
  have stops : ∀ c cs, rest.take (width - ds.length) = c :: cs → isDigit c = false := by
    intro c cs taken
    rcases ends with full | ends
    · rw [full, Nat.sub_self, List.take_zero] at taken
      cases taken
    · cases rest with
      | nil => cases List.take_nil.symm.trans taken
      | cons d rest =>
        cases places : width - ds.length with
        | zero =>
          rw [places] at taken
          cases taken
        | succ places' =>
          rw [places, List.take_succ_cons] at taken
          cases taken
          exact ends c rest rfl
  have run : ((ds ++ rest).take width).takeWhile isDigit = ds := by
    rw [List.take_append, List.take_of_length_le fits, (takeWhile_run all stops).1]
  have filled : ds.isEmpty = false := by simpa using present
  simp only [digitsUpTo, run, filled, Bool.false_eq_true, if_false, List.drop_left]

theorem readNumber_padded {n : Nat} (bound : n < 100) (rest : List Char) :
    readNumber (padded 2 n ++ rest) = some (n, rest) := by
  have all : ∀ d ∈ padded 2 n, isDigit d = true := fun d member => isDigit_of_mem_padded member
  have length : (padded 2 n).length = 2 := length_padded (by decide) bound
  rw [readNumber, trimStart_of_digits (padded_ne_nil 2 n) all,
    digitsUpTo_of_digits (padded_ne_nil 2 n) all (Nat.le_of_eq length) (.inl length),
    ofDigits_padded]

theorem readYear_of_digits {ds rest : List Char} (present : ds ≠ [])
    (all : ∀ d ∈ ds, isDigit d = true) (four : ds.length = 4) :
    readYear (ds ++ rest) = some ((ofDigits ds : Int), rest) := by
  have read : digitsUpTo 4 (ds ++ rest) = some (ofDigits ds, rest) :=
    digitsUpTo_of_digits present all (Nat.le_of_eq four) (.inl four)
  rw [readYear, trimStart_of_digits present all]
  split
  · rename_i minus
    obtain ⟨d, ds, rfl⟩ := List.exists_cons_of_ne_nil present
    cases minus
    exact absurd (all '-' List.mem_cons_self) (by decide)
  · rename_i plus
    obtain ⟨d, ds, rfl⟩ := List.exists_cons_of_ne_nil present
    cases plus
    exact absurd (all '+' List.mem_cons_self) (by decide)
  · rw [read]
    rfl

theorem readYear_yearText (year : Int) (rest : List Char) :
    readYear (Date.yearText year ++ '-' :: rest) = some (year, '-' :: rest) := by
  have all : ∀ d ∈ padded 4 year.natAbs, isDigit d = true := fun d member =>
    isDigit_of_mem_padded member
  have present := padded_ne_nil 4 year.natAbs
  have dash : ∀ c cs, '-' :: rest = c :: cs → isDigit c = false := by
    rintro c cs same
    cases same
    rfl
  -- Behind a sign the year may be of any length.
  have signed : digitsUpTo (padded 4 year.natAbs ++ '-' :: rest).length
      (padded 4 year.natAbs ++ '-' :: rest) = some (ofDigits (padded 4 year.natAbs), '-' :: rest) :=
    digitsUpTo_of_digits present all (by simp) (.inr dash)
  unfold Date.yearText
  by_cases ordinary : 0 ≤ year ∧ year ≤ 9999
  · have four : (padded 4 year.natAbs).length = 4 := length_padded (by decide) (by omega)
    have value : (year.natAbs : Int) = year := by omega
    rw [if_pos ordinary, readYear_of_digits present all four, ofDigits_padded, value]
  · rw [if_neg ordinary, List.cons_append]
    by_cases negative : year < 0
    · have value : -(year.natAbs : Int) = year := by omega
      have minus : trimStart ('-' :: (padded 4 year.natAbs ++ '-' :: rest)) =
          '-' :: (padded 4 year.natAbs ++ '-' :: rest) := rfl
      simp only [if_pos negative, readYear, minus, signed, Option.map_some, ofDigits_padded, value]
    · have value : (year.natAbs : Int) = year := by omega
      have plus : trimStart ('+' :: (padded 4 year.natAbs ++ '-' :: rest)) =
          '+' :: (padded 4 year.natAbs ++ '-' :: rest) := rfl
      simp only [if_neg negative, readYear, plus, signed, Option.map_some, ofDigits_padded, value]

theorem date_of?_self (d : Date) : Date.of? d.year d.month d.day = some d := by
  rw [Date.of?, dif_pos d.valid]

theorem timeOfDay_of?_self (t : TimeOfDay) :
    TimeOfDay.of? t.hour t.minute 0 = some { t with second := 0 } := by
  rw [TimeOfDay.of?, dif_pos ⟨t.hour.isLt, t.minute.isLt, by decide⟩]
  rfl

theorem readDate_text (d : Date) (rest : List Char) :
    readDate (d.text ++ rest) = some (d, rest) := by
  obtain ⟨_, _, _, lastMonth, _, days⟩ := d.valid
  have longest := daysInMonth_le d.year d.month
  have month : d.month < 100 := by omega
  have day : d.day < 100 := by omega
  have written : d.text ++ rest =
      Date.yearText d.year ++ '-' :: (padded 2 d.month ++ '-' :: (padded 2 d.day ++ rest)) := by
    simp [Date.text]
  simp only [readDate, written, readYear_yearText, expect, if_true, readNumber_padded month,
    readNumber_padded day, date_of?_self, Option.bind_eq_bind, Option.bind_some]

theorem readTime_text (t : TimeOfDay) (rest : List Char) :
    readTime false (t.text ++ rest) = some ({ t with second := 0 }, rest) := by
  have hour : t.hour.val < 100 := by omega
  have minute : t.minute.val < 100 := by omega
  have written : t.text ++ rest =
      padded 2 t.hour ++ ':' :: (padded 2 t.minute ++ rest) := by simp [TimeOfDay.text]
  simp only [readTime, written, expect, if_true, readNumber_padded hour, readNumber_padded minute,
    Bool.false_eq_true, if_false, timeOfDay_of?_self, Option.bind_eq_bind, Option.bind_some]

theorem date?_text (d : Date) : date? d.text = some d := by
  have read := readDate_text d []
  rw [List.append_nil] at read
  rw [date?, read, complete]

theorem time?_text (t : TimeOfDay) : time? false t.text = some { t with second := 0 } := by
  have read := readTime_text t []
  rw [List.append_nil] at read
  rw [time?, read, complete]

theorem dateTime?_text (m : DateTime) :
    dateTime? .letter false m.text = some ⟨m.date, { m.time with second := 0 }⟩ := by
  have read := readTime_text m.time []
  rw [List.append_nil] at read
  simp only [dateTime?, readDateTime, DateTime.text, readDate_text, readSeparator, expect, if_true,
    read, Option.bind_eq_bind, Option.bind_some, complete]

end Calendar

end ComputedColumns
