import ComputedColumns.Proofs.Calendar.Text
import Mathlib.Data.List.DropRight

namespace ComputedColumns

open Text

namespace Text

theorem mem_trimStart {c : Char} (visible : isBlank c = false) {cs : List Char} :
    c ∈ trimStart cs ↔ c ∈ cs := by
  have blanks : c ∉ cs.takeWhile isBlank := by
    intro member
    rw [List.mem_takeWhile_imp member] at visible
    cases visible
  have split : cs.takeWhile isBlank ++ trimStart cs = cs := List.takeWhile_append_dropWhile
  constructor
  · exact fun member => (List.dropWhile_suffix isBlank).subset member
  · intro member
    rw [← split] at member
    exact (List.mem_append.mp member).resolve_left blanks

theorem trimStart_trimStart (cs : List Char) : trimStart (trimStart cs) = trimStart cs :=
  List.dropWhile_idempotent isBlank cs

def EndsInDigit (cs : List Char) : Prop := ∃ d, isDigit d = true ∧ [d] <:+ cs

theorem EndsInDigit.of_suffix {cs ds : List Char} (ends : EndsInDigit ds) (behind : ds <:+ cs) :
    EndsInDigit cs := by
  obtain ⟨d, digit, last⟩ := ends
  exact ⟨d, digit, last.trans behind⟩

theorem EndsInDigit.trim_eq {cs : List Char} (ends : EndsInDigit cs) : trim cs = trimStart cs := by
  obtain ⟨d, digit, last⟩ := ends
  have visible := isBlank_of_digit digit
  have member : d ∈ trimStart cs := (mem_trimStart visible).mpr (last.subset List.mem_cons_self)
  have left : [d] <:+ trimStart cs :=
    List.suffix_of_suffix_length_le last (List.dropWhile_suffix isBlank) (List.length_pos_of_mem member)
  obtain ⟨front, same⟩ := left
  rw [trim, ← same]
  exact List.rdropWhile_concat_neg isBlank front d (by simp [visible])

end Text

namespace Calendar

variable {cs rest : List Char}

theorem digitsUpTo_eq_some {width n : Nat} (read : digitsUpTo width cs = some (n, rest)) :
    ∃ ds, ds ≠ [] ∧ (∀ d ∈ ds, isDigit d = true) ∧ cs = ds ++ rest := by
  unfold digitsUpTo at read
  dsimp only at read
  split at read
  · cases read
  · rename_i present
    cases read
    have inside : (cs.take width).takeWhile isDigit <+: cs :=
      (List.takeWhile_prefix _).trans (List.take_prefix _ _)
    refine ⟨(cs.take width).takeWhile isDigit, ?_, fun d member => List.mem_takeWhile_imp member, ?_⟩
    · simpa only [List.isEmpty_iff] using present
    · exact (List.prefix_iff_eq_append.mp inside).symm

theorem readNumber_eq_some {n : Nat} (read : readNumber cs = some (n, rest)) :
    ∃ ds, ds ≠ [] ∧ (∀ d ∈ ds, isDigit d = true) ∧ trimStart cs = ds ++ rest :=
  digitsUpTo_eq_some read

theorem readNumber_suffix {n : Nat} (read : readNumber cs = some (n, rest)) : rest <:+ cs := by
  obtain ⟨ds, -, -, front⟩ := readNumber_eq_some read
  have behind : rest <:+ trimStart cs := ⟨ds, front.symm⟩
  exact behind.trans (List.dropWhile_suffix isBlank)

theorem mem_of_readNumber {n : Nat} {mark : Char} (visible : isBlank mark = false)
    (noDigit : isDigit mark = false) (read : readNumber cs = some (n, rest)) :
    mark ∈ cs ↔ mark ∈ rest := by
  obtain ⟨ds, -, all, front⟩ := readNumber_eq_some read
  have outside : mark ∉ ds := by
    intro member
    rw [all mark member] at noDigit
    cases noDigit
  rw [← mem_trimStart visible, front, List.mem_append]
  exact ⟨fun member => member.resolve_left outside, .inr⟩

theorem endsInDigit_of_readNumber {n : Nat} (read : readNumber cs = some (n, [])) :
    EndsInDigit cs := by
  obtain ⟨ds, present, all, front⟩ := readNumber_eq_some read
  have last : [ds.getLast present] <:+ ds := ⟨ds.dropLast, List.dropLast_append_getLast present⟩
  have inside : ds <:+ trimStart cs := by simp [front]
  refine ⟨ds.getLast present, all _ (List.getLast_mem present), ?_⟩
  exact (last.trans inside).trans (List.dropWhile_suffix isBlank)

theorem readYear_eq_some {year : Int} (read : readYear cs = some (year, rest)) :
    ∃ sign ds, sign ∈ [[], ['-'], ['+']] ∧ (∀ d ∈ ds, isDigit d = true) ∧
      trimStart cs = sign ++ (ds ++ rest) := by
  unfold readYear at read
  split at read
  · rename_i behind front
    obtain ⟨⟨n, after⟩, digits, same⟩ := Option.map_eq_some_iff.mp read
    cases same
    obtain ⟨ds, -, all, split⟩ := digitsUpTo_eq_some digits
    exact ⟨['-'], ds, by simp, all, by rw [front, split]; rfl⟩
  · rename_i behind front
    obtain ⟨⟨n, after⟩, digits, same⟩ := Option.map_eq_some_iff.mp read
    cases same
    obtain ⟨ds, -, all, split⟩ := digitsUpTo_eq_some digits
    exact ⟨['+'], ds, by simp, all, by rw [front, split]; rfl⟩
  · obtain ⟨⟨n, after⟩, digits, same⟩ := Option.map_eq_some_iff.mp read
    cases same
    obtain ⟨ds, -, all, split⟩ := digitsUpTo_eq_some digits
    exact ⟨[], ds, by simp, all, split⟩

theorem readYear_suffix {year : Int} (read : readYear cs = some (year, rest)) : rest <:+ cs := by
  obtain ⟨sign, ds, -, -, front⟩ := readYear_eq_some read
  have behind : rest <:+ trimStart cs := ⟨sign ++ ds, by rw [front, List.append_assoc]⟩
  exact behind.trans (List.dropWhile_suffix isBlank)

theorem colon_mem_of_readYear {year : Int} (read : readYear cs = some (year, rest)) :
    ':' ∈ cs ↔ ':' ∈ rest := by
  obtain ⟨sign, ds, signs, all, front⟩ := readYear_eq_some read
  have visible : isBlank ':' = false := rfl
  have noSign : ':' ∉ sign := by
    simp only [List.mem_cons, List.not_mem_nil, or_false] at signs
    rcases signs with rfl | rfl | rfl <;> decide
  have noDigit : ':' ∉ ds := fun member => absurd (all ':' member) (by decide)
  rw [← mem_trimStart visible, front, List.mem_append, List.mem_append]
  exact ⟨fun member => (member.resolve_left noSign).resolve_left noDigit, fun member => .inr (.inr member)⟩

theorem expect_eq_some_iff {c : Char} : expect c cs = some rest ↔ cs = c :: rest := by
  cases cs with
  | nil => simp [expect]
  | cons d cs => simp [expect]

theorem date_of?_eq_some_iff {year : Int} {month day : Nat} {d : Date} :
    Date.of? year month day = some d ↔ d.year = year ∧ d.month = month ∧ d.day = day := by
  unfold Date.of?
  split
  · constructor
    · intro found
      cases found
      exact ⟨rfl, rfl, rfl⟩
    · rintro ⟨rfl, rfl, rfl⟩
      rfl
  · rename_i invalid
    constructor
    · nofun
    · rintro ⟨rfl, rfl, rfl⟩
      exact absurd d.valid invalid

theorem timeOfDay_of?_eq_some_iff {hour minute second : Nat} {t : TimeOfDay} :
    TimeOfDay.of? hour minute second = some t ↔
      t.hour = hour ∧ t.minute = minute ∧ t.second = second := by
  unfold TimeOfDay.of?
  split
  · constructor
    · intro found
      cases found
      exact ⟨rfl, rfl, rfl⟩
    · rintro ⟨rfl, rfl, rfl⟩
      rfl
  · rename_i invalid
    constructor
    · nofun
    · rintro ⟨rfl, rfl, rfl⟩
      exact absurd ⟨t.hour.isLt, t.minute.isLt, t.second.isLt⟩ invalid

theorem readDate_eq_some_iff {d : Date} :
    readDate cs = some (d, rest) ↔ ∃ behindYear behindMonth,
      readYear cs = some (d.year, '-' :: behindYear) ∧
      readNumber behindYear = some (d.month, '-' :: behindMonth) ∧
      readNumber behindMonth = some (d.day, rest) := by
  simp only [readDate, Option.bind_eq_bind, Option.bind_eq_some_iff, expect_eq_some_iff,
    date_of?_eq_some_iff, Option.some.injEq, Prod.mk.injEq, ↓existsAndEq, true_and, Prod.exists,
    exists_eq_right_right, and_true, exists_and_left]

theorem readTime_eq_some_iff {t : TimeOfDay} :
    readTime false cs = some (t, rest) ↔ ∃ behindHour,
      readNumber cs = some (t.hour.val, ':' :: behindHour) ∧
      readNumber behindHour = some (t.minute.val, rest) ∧ t.second = 0 := by
  simp only [readTime, Bool.false_eq_true, if_false, Option.bind_eq_bind, Option.bind_some,
    Option.bind_eq_some_iff, expect_eq_some_iff, timeOfDay_of?_eq_some_iff, Fin.val_eq_zero_iff,
    Option.some.injEq, Prod.mk.injEq, ↓existsAndEq, true_and, Prod.exists, exists_eq_right_right]

theorem readTime_seconds_eq_some_iff {t : TimeOfDay} :
    readTime true cs = some (t, rest) ↔ ∃ behindHour behindMinute,
      readNumber cs = some (t.hour.val, ':' :: behindHour) ∧
      readNumber behindHour = some (t.minute.val, ':' :: behindMinute) ∧
      readNumber behindMinute = some (t.second.val, rest) := by
  simp only [readTime, if_true, Option.bind_eq_bind, Option.bind_eq_some_iff, expect_eq_some_iff,
    timeOfDay_of?_eq_some_iff, Option.some.injEq, Prod.mk.injEq, ↓existsAndEq, true_and, Prod.exists,
    exists_eq_right_right, and_true, exists_and_left]

theorem readDateTime_eq_some_iff {separator : Separator} {seconds : Bool} {m : DateTime} :
    readDateTime separator seconds cs = some (m, rest) ↔ ∃ behindDate atTime,
      readDate cs = some (m.date, behindDate) ∧ readSeparator separator behindDate = some atTime ∧
      readTime seconds atTime = some (m.time, rest) := by
  obtain ⟨date, time⟩ := m
  simp only [readDateTime, Option.bind_eq_bind, Option.bind_eq_some_iff, Option.some.injEq, Prod.mk.injEq,
    DateTime.mk.injEq, ↓existsAndEq, and_true, Prod.exists, exists_eq_right_right, exists_and_left]

theorem complete_eq_some_iff {α : Type} {outcome : Option (α × List Char)} {a : α} :
    complete outcome = some a ↔ outcome = some (a, []) := by
  unfold complete
  split
  · simp
  · rename_i other
    exact ⟨nofun, fun same => absurd same (other a)⟩

theorem colon_mem_of_readDate {d : Date} (read : readDate cs = some (d, rest)) :
    ':' ∈ cs ↔ ':' ∈ rest := by
  obtain ⟨behindYear, behindMonth, year, month, day⟩ := readDate_eq_some_iff.mp read
  have dash : ∀ cs : List Char, ':' ∈ '-' :: cs ↔ ':' ∈ cs := by simp
  rw [colon_mem_of_readYear year, dash, mem_of_readNumber rfl rfl month, dash,
    mem_of_readNumber rfl rfl day]

theorem dash_mem_of_readDate {d : Date} (read : readDate cs = some (d, rest)) : '-' ∈ cs := by
  obtain ⟨behindYear, behindMonth, year, -, -⟩ := readDate_eq_some_iff.mp read
  exact (readYear_suffix year).subset List.mem_cons_self

theorem colon_mem_of_readTime {seconds : Bool} {t : TimeOfDay}
    (read : readTime seconds cs = some (t, rest)) : ':' ∈ cs := by
  cases seconds with
  | false =>
    obtain ⟨behindHour, hour, -, -⟩ := readTime_eq_some_iff.mp read
    exact (readNumber_suffix hour).subset List.mem_cons_self
  | true =>
    obtain ⟨behindHour, behindMinute, hour, -, -⟩ := readTime_seconds_eq_some_iff.mp read
    exact (readNumber_suffix hour).subset List.mem_cons_self

theorem dash_mem_of_readTime {seconds : Bool} {t : TimeOfDay}
    (read : readTime seconds cs = some (t, rest)) : '-' ∈ cs ↔ '-' ∈ rest := by
  have colon : ∀ cs : List Char, '-' ∈ ':' :: cs ↔ '-' ∈ cs := by simp
  cases seconds with
  | false =>
    obtain ⟨behindHour, hour, minute, -⟩ := readTime_eq_some_iff.mp read
    rw [mem_of_readNumber rfl rfl hour, colon, mem_of_readNumber rfl rfl minute]
  | true =>
    obtain ⟨behindHour, behindMinute, hour, minute, second⟩ := readTime_seconds_eq_some_iff.mp read
    rw [mem_of_readNumber rfl rfl hour, colon, mem_of_readNumber rfl rfl minute, colon,
      mem_of_readNumber rfl rfl second]

theorem readSeparator_suffix {separator : Separator} (read : readSeparator separator cs = some rest) :
    rest <:+ cs := by
  cases separator with
  | letter =>
    rw [expect_eq_some_iff.mp read]
    exact List.suffix_cons 'T' rest
  | blanks =>
    cases read
    exact List.dropWhile_suffix isBlank

theorem date?_marks {d : Date} (read : date? cs = some d) : '-' ∈ cs ∧ ':' ∉ cs := by
  have read := complete_eq_some_iff.mp read
  exact ⟨dash_mem_of_readDate read, by simp [colon_mem_of_readDate read]⟩

theorem time?_marks {seconds : Bool} {t : TimeOfDay} (read : time? seconds cs = some t) :
    '-' ∉ cs ∧ ':' ∈ cs := by
  have read := complete_eq_some_iff.mp read
  exact ⟨by simp [dash_mem_of_readTime read], colon_mem_of_readTime read⟩

theorem dateTime?_marks {separator : Separator} {seconds : Bool} {m : DateTime}
    (read : dateTime? separator seconds cs = some m) : '-' ∈ cs ∧ ':' ∈ cs := by
  obtain ⟨behindDate, atTime, date, between, time⟩ :=
    readDateTime_eq_some_iff.mp (complete_eq_some_iff.mp read)
  have colon := (readSeparator_suffix between).subset (colon_mem_of_readTime time)
  exact ⟨dash_mem_of_readDate date, (colon_mem_of_readDate date).mpr colon⟩

theorem readNumber_trimStart (cs : List Char) : readNumber (trimStart cs) = readNumber cs := by
  rw [readNumber, trimStart_trimStart, readNumber]

theorem readDate_trimStart (cs : List Char) : readDate (trimStart cs) = readDate cs := by
  have year : readYear (trimStart cs) = readYear cs := by
    unfold readYear
    rw [trimStart_trimStart]
  rw [readDate, year, readDate]

theorem readTime_trimStart (seconds : Bool) (cs : List Char) :
    readTime seconds (trimStart cs) = readTime seconds cs := by
  rw [readTime, readNumber_trimStart, readTime]

theorem readDate_suffix {d : Date} (read : readDate cs = some (d, rest)) : rest <:+ cs := by
  obtain ⟨behindYear, behindMonth, year, month, day⟩ := readDate_eq_some_iff.mp read
  have behindYear := (List.suffix_cons '-' _).trans (readYear_suffix year)
  have behindMonth := (List.suffix_cons '-' _).trans (readNumber_suffix month)
  exact (readNumber_suffix day).trans (behindMonth.trans behindYear)

theorem endsInDigit_of_readDate {d : Date} (read : readDate cs = some (d, [])) : EndsInDigit cs := by
  obtain ⟨behindYear, behindMonth, year, month, day⟩ := readDate_eq_some_iff.mp read
  have behindYear := (List.suffix_cons '-' _).trans (readYear_suffix year)
  have behindMonth := (List.suffix_cons '-' _).trans (readNumber_suffix month)
  exact (endsInDigit_of_readNumber day).of_suffix (behindMonth.trans behindYear)

theorem endsInDigit_of_readTime {t : TimeOfDay} (read : readTime false cs = some (t, [])) :
    EndsInDigit cs := by
  obtain ⟨behindHour, hour, minute, -⟩ := readTime_eq_some_iff.mp read
  have behindHour := (List.suffix_cons ':' _).trans (readNumber_suffix hour)
  exact (endsInDigit_of_readNumber minute).of_suffix behindHour

theorem date?_trim {d : Date} (read : date? cs = some d) : date? (trim cs) = some d := by
  have ends := endsInDigit_of_readDate (complete_eq_some_iff.mp read)
  rwa [ends.trim_eq, date?, readDate_trimStart]

theorem time?_trim {t : TimeOfDay} (read : time? false cs = some t) :
    time? false (trim cs) = some t := by
  have ends := endsInDigit_of_readTime (complete_eq_some_iff.mp read)
  rwa [ends.trim_eq, time?, readTime_trimStart]

theorem dateTime?_trim {separator : Separator} {m : DateTime}
    (read : dateTime? separator false cs = some m) : dateTime? separator false (trim cs) = some m := by
  obtain ⟨behindDate, atTime, date, between, time⟩ :=
    readDateTime_eq_some_iff.mp (complete_eq_some_iff.mp read)
  have behind := (readSeparator_suffix between).trans (readDate_suffix date)
  have ends := (endsInDigit_of_readTime time).of_suffix behind
  rwa [ends.trim_eq, dateTime?, readDateTime, readDate_trimStart]

theorem readTime_seconds_eq_none {t : TimeOfDay} (read : readTime false cs = some (t, [])) :
    readTime true cs = none := by
  obtain ⟨behindHour, hour, minute, -⟩ := readTime_eq_some_iff.mp read
  simp [readTime, hour, minute, expect]

theorem time?_seconds_eq_none {t : TimeOfDay} (read : time? false cs = some t) :
    time? true cs = none := by
  have none := readTime_seconds_eq_none (complete_eq_some_iff.mp read)
  rw [time?, none]
  rfl

theorem dateTime?_seconds_eq_none {separator : Separator} {m : DateTime}
    (read : dateTime? separator false cs = some m) : dateTime? separator true cs = none := by
  obtain ⟨behindDate, atTime, date, between, time⟩ :=
    readDateTime_eq_some_iff.mp (complete_eq_some_iff.mp read)
  have none := readTime_seconds_eq_none time
  simp [dateTime?, readDateTime, date, between, none, complete]

theorem whole_of_readTime {t : TimeOfDay} (read : readTime false cs = some (t, rest)) :
    { t with second := 0 } = t := by
  obtain ⟨behindHour, -, -, second⟩ := readTime_eq_some_iff.mp read
  rw [← second]

theorem whole_of_time? {t : TimeOfDay} (read : time? false cs = some t) : { t with second := 0 } = t :=
  whole_of_readTime (complete_eq_some_iff.mp read)

theorem whole_of_dateTime? {separator : Separator} {m : DateTime}
    (read : dateTime? separator false cs = some m) : { m.time with second := 0 } = m.time := by
  obtain ⟨behindDate, atTime, date, between, time⟩ :=
    readDateTime_eq_some_iff.mp (complete_eq_some_iff.mp read)
  exact whole_of_readTime time

end Calendar

end ComputedColumns
