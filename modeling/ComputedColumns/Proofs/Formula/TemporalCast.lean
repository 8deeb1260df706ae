import ComputedColumns.Formula.Storage
import ComputedColumns.Proofs.Calendar.Reading
import ComputedColumns.Proofs.Formula.Evaluation
import ComputedColumns.Proofs.Outcome
import ComputedColumns.Proofs.Text.Blank
import ComputedColumns.Formula.Call

namespace ComputedColumns

open Text Calendar

theorem visible_padded (width n : Nat) : ∀ c ∈ padded width n, isBlank c = false :=
  fun _ member => isBlank_of_digit (isDigit_of_mem_padded member)

theorem Date.visible_text (d : Date) : ∀ c ∈ d.text, isBlank c = false := by
  have year : ∀ c ∈ yearText d.year, isBlank c = false := by
    unfold yearText
    split
    · exact visible_padded 4 _
    · have digits := visible_padded 4 d.year.natAbs
      intro c member
      rcases List.mem_cons.mp member with rfl | member
      · split <;> rfl
      · exact digits c member
  have month := visible_padded 2 d.month
  have day := visible_padded 2 d.day
  have dash : isBlank '-' = false := rfl
  simp only [text, List.forall_mem_append, List.forall_mem_cons]
  exact ⟨⟨year, dash, month⟩, dash, day⟩

theorem TimeOfDay.visible_text (t : TimeOfDay) : ∀ c ∈ t.text, isBlank c = false := by
  have hour := visible_padded 2 t.hour
  have minute := visible_padded 2 t.minute
  have colon : isBlank ':' = false := rfl
  simp only [text, List.forall_mem_append, List.forall_mem_cons]
  exact ⟨hour, colon, minute⟩

theorem DateTime.visible_text (m : DateTime) : ∀ c ∈ m.text, isBlank c = false := by
  have date := m.date.visible_text
  have time := m.time.visible_text
  have letter : isBlank 'T' = false := rfl
  simp only [text, List.forall_mem_append, List.forall_mem_cons]
  exact ⟨date, letter, time⟩

namespace Temporal

def cast : Temporal → Function
  | date => .date
  | time => .time
  | datetime => .datetime

inductive Written : Temporal → List Char → Prop where
  | date (d : Date) : Written date d.text
  | time (t : TimeOfDay) : Written time t.text
  | datetime (m : DateTime) : Written datetime m.text

theorem readAs_eq_ok_iff {α : Type} {t : Temporal} {read : List Char → Option α} {cs : List Char}
    {a : α} : t.readAs read cs = .ok a ↔ trim cs ≠ [] ∧ read (trim cs) = some a := by
  by_cases blank : trim cs = []
  · simp [readAs, nonBlank, blank, invalid, Bind.bind, Except.bind]
  · cases found : read (trim cs) <;>
      simp [readAs, nonBlank, blank, found, invalid, Bind.bind, Except.bind]

theorem readAs_visible {α : Type} {t : Temporal} {read : List Char → Option α} {cs : List Char} {a : α}
    (visible : ∀ c ∈ cs, isBlank c = false) (present : cs ≠ []) (found : read cs = some a) :
    t.readAs read cs = .ok a := by
  rw [readAs_eq_ok_iff, trim_of_visible visible]
  exact ⟨present, found⟩

theorem text_ne_nil {t : Temporal} {text : List Char} (written : t.Written text) : text ≠ [] := by
  cases written with
  | date d => simp [Date.text]
  | time t => simp [TimeOfDay.text]
  | datetime m => simp [DateTime.text]

theorem dateTimeOnly?_text (m : DateTime) :
    dateTimeOnly? m.text = some ⟨m.date, { m.time with second := 0 }⟩ := by
  have read := dateTime?_text m
  rw [dateTimeOnly?, dateTime?_seconds_eq_none read, read]
  rfl

theorem readDate_dateText (d : Date) : readDate d.text = .ok d := by
  have found : anyDate? d.text = some d := by
    rw [anyDate?, date?_text]
    rfl
  exact readAs_visible d.visible_text (text_ne_nil (.date d)) found

theorem readTime_timeText (t : TimeOfDay) : readTime t.text = .ok { t with second := 0 } := by
  have read := time?_text t
  have found : anyTime? t.text = some { t with second := 0 } := by
    rw [anyTime?, time?_seconds_eq_none read, read]
    rfl
  exact readAs_visible t.visible_text (text_ne_nil (.time t)) found

theorem readDateTime_dateTimeText (m : DateTime) :
    readDateTime m.text = .ok ⟨m.date, { m.time with second := 0 }⟩ := by
  have found : anyDateTime? m.text = some ⟨m.date, { m.time with second := 0 }⟩ := by
    rw [anyDateTime?, dateTimeOnly?_text]
    rfl
  exact readAs_visible m.visible_text (text_ne_nil (.datetime m)) found

theorem canonical_of_written {t : Temporal} {text : List Char} (written : t.Written text) :
    t.canonical text = .ok text := by
  cases written with
  | date d =>
    rw [canonical, readDate_dateText]
    rfl
  | time t =>
    rw [canonical, readTime_timeText]
    rfl
  | datetime m =>
    rw [canonical, readDateTime_dateTimeText]
    rfl

theorem stored_of_written {t : Temporal} {text : List Char} (written : t.Written text) :
    (t.value text).stored = ⟨String.ofList text, t.columnType⟩ := by
  have kept : t.stored text = text := by rw [stored, canonical_of_written written]
  have inside : (Value.text (String.ofList text)).plain = .text (String.ofList text) := rfl
  rw [value, Value.stored, Value.storedText, Value.ofChars, inside, Value.display,
    String.toList_ofList, kept]
  rfl

theorem written_of_apply {t : Temporal} {args : List Value} {v : Value}
    (done : t.cast.apply args = .ok v) : ∃ text, t.Written text ∧ v = t.value text := by
  cases t with
  | date =>
    change Function.castDate args = .ok v at done
    unfold Function.castDate at done
    split at done <;>
    · obtain ⟨d, _, last⟩ := bind_eq_ok.mp done
      cases last
      exact ⟨_, .date d, rfl⟩
  | time =>
    change Function.castTime args = .ok v at done
    unfold Function.castTime at done
    split at done <;>
    · obtain ⟨t, _, last⟩ := bind_eq_ok.mp done
      cases last
      exact ⟨_, .time t, rfl⟩
  | datetime =>
    change Function.castDateTime args = .ok v at done
    unfold Function.castDateTime at done
    split at done
    · obtain ⟨d, _, rest⟩ := bind_eq_ok.mp done
      obtain ⟨t, _, last⟩ := bind_eq_ok.mp rest
      cases last
      exact ⟨_, .datetime ⟨d, t⟩, rfl⟩
    · obtain ⟨m, _, last⟩ := bind_eq_ok.mp done
      cases last
      exact ⟨_, .datetime m, rfl⟩

theorem written_of_cast {t : Temporal} {args : List Value} {v : Value}
    (done : t.cast.call args = .ok v) : ∃ text, t.Written text ∧ v = t.value text := by
  obtain ⟨_, _, applied⟩ := bind_eq_ok.mp done
  exact written_of_apply applied

abbrev Meaning : Temporal → Type
  | date => Date
  | time => TimeOfDay
  | datetime => DateTime

def reading : (t : Temporal) → List Char → Except FormulaError t.Meaning
  | date => readDate
  | time => readTime
  | datetime => readDateTime

def textOf : (t : Temporal) → t.Meaning → List Char
  | date => Date.text
  | time => TimeOfDay.text
  | datetime => DateTime.text

theorem written_textOf {t : Temporal} (meant : t.Meaning) : t.Written (t.textOf meant) := by
  cases t with
  | date => exact .date meant
  | time => exact .time meant
  | datetime => exact .datetime meant

theorem cast_value (t : Temporal) (v : Value) :
    t.cast.call [v] = (t.canonical v.display.toList).map t.value := by
  have shown : Function.textArg [v] 0 = v.display.toList := rfl
  rw [Function.call_eq_apply (by cases t <;> rfl)]
  cases t with
  | date =>
    have one : ¬ [v].length = 3 := by simp
    rw [cast, Function.apply, Function.castDate, if_neg one, shown, canonical]
    cases readDate v.display.toList <;> rfl
  | time =>
    have one : ¬ [v].length = 2 := by simp
    rw [cast, Function.apply, Function.castTime, if_neg one, shown, canonical]
    cases readTime v.display.toList <;> rfl
  | datetime =>
    have one : ¬ [v].length = 2 := by simp
    rw [cast, Function.apply, Function.castDateTime, if_neg one, shown, canonical]
    cases readDateTime v.display.toList <;> rfl

theorem canonical_eq (t : Temporal) (cs : List Char) :
    t.canonical cs = (t.reading cs).map t.textOf := by
  cases t <;> rfl

theorem cast_eq_ok_iff {t : Temporal} {v w : Value} :
    t.cast.call [v] = .ok w ↔
      ∃ meant, t.reading v.display.toList = .ok meant ∧ t.value (t.textOf meant) = w := by
  simp only [cast_value, canonical_eq, map_eq_ok, exists_exists_and_eq_and]

theorem cast_of_written {t : Temporal} {text : List Char} (written : t.Written text) :
    t.cast.call [.ofChars text] = .ok (t.value text) := by
  have shown : (Value.ofChars text).display.toList = text := String.toList_ofList
  rw [cast_value, shown, canonical_of_written written]
  rfl

/-- What a cast gives is stored as the text inside, and casting this text gives it again. All canonical
texts of the calendar come out of casts. -/
theorem cast_again (t : Temporal) :
    (∀ args v, t.cast.call args = .ok v →
      ∃ text, t.Written text ∧ v = .typed (.temporal t) (.text (String.ofList text)) ∧
        v.stored = ⟨String.ofList text, t.columnType⟩ ∧
        t.cast.call [.text (String.ofList text)] = .ok v) ∧
    ∀ text, t.Written text →
      t.cast.call [.text (String.ofList text)] =
        .ok (.typed (.temporal t) (.text (String.ofList text))) := by
  constructor
  · intro args v done
    obtain ⟨text, written, rfl⟩ := written_of_cast done
    exact ⟨text, written, rfl, stored_of_written written, cast_of_written written⟩
  · intro text written
    exact cast_of_written written

/-- A leap second of a year before the common era, with blanks around its parts. -/
def leapSecond : Value := .text "  -44- 3-15  23:59:60 "

theorem cast_again_leapSecond :
    datetime.cast.call [leapSecond] = .ok (datetime.value "-0044-03-15T23:59".toList) ∧
      ∃ text, datetime.Written text ∧
        datetime.value "-0044-03-15T23:59".toList =
          .typed (.temporal datetime) (.text (String.ofList text)) ∧
        (datetime.value "-0044-03-15T23:59".toList).stored = ⟨String.ofList text, .datetime⟩ ∧
        datetime.cast.call [.text (String.ofList text)] =
          .ok (datetime.value "-0044-03-15T23:59".toList) := by
  have done : datetime.cast.call [leapSecond] =
      .ok (datetime.value "-0044-03-15T23:59".toList) := by decide +kernel
  exact ⟨done, (cast_again datetime).1 _ _ done⟩

end Temporal

end ComputedColumns
