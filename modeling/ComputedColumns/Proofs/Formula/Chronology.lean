import ComputedColumns.Proofs.Calendar.Order
import ComputedColumns.Proofs.Formula.TemporalCast

namespace ComputedColumns

open Text

namespace Temporal

variable {t : Temporal} {args args' : List Value} {v w : Value}

/-- What the arguments of a cast stand for: one text that says all, or the parts. -/
def given : (t : Temporal) → List Value → Except FormulaError t.Meaning
  | date, args =>
    if args.length = 3 then
      dateOfNumbers (Function.intArg args 0).toInt (Function.intArg args 1).toInt
        (Function.intArg args 2).toInt
    else readDate (Function.textArg args 0)
  | time, args =>
    if args.length = 2 then timeOfNumbers (Function.intArg args 0).toInt (Function.intArg args 1).toInt
    else readTime (Function.textArg args 0)
  | datetime, args =>
    if args.length = 2 then do
      let d ← readDate (Function.textArg args 0)
      let t ← readTime (Function.textArg args 1)
      pure ⟨d, t⟩
    else readDateTime (Function.textArg args 0)

def HasPlainYear : (t : Temporal) → t.Meaning → Prop
  | date, d => d.HasPlainYear
  | time, _ => True
  | datetime, m => m.date.HasPlainYear

/-- The place in time: days for dates, else minutes. -/
def moment : (t : Temporal) → t.Meaning → Int
  | date, d => d.dayNumber
  | time, t => t.minuteNumber
  | datetime, m => m.minuteNumber

theorem apply_cast (t : Temporal) (args : List Value) :
    t.cast.apply args = (t.given args).map fun meant => t.value (t.textOf meant) := by
  cases t with
  | date =>
    change Function.castDate args = _
    rw [Function.castDate, given]
    split
    · cases dateOfNumbers _ _ _ <;> rfl
    · cases readDate _ <;> rfl
  | time =>
    change Function.castTime args = _
    rw [Function.castTime, given]
    split
    · cases timeOfNumbers _ _ <;> rfl
    · cases readTime _ <;> rfl
  | datetime =>
    change Function.castDateTime args = _
    rw [Function.castDateTime, given]
    split
    · cases readDate _ with
      | error e => rfl
      | ok d => cases readTime _ <;> rfl
    · cases readDateTime _ <;> rfl

theorem given_of_cast (done : t.cast.call args = .ok v) :
    ∃ meant, t.given args = .ok meant ∧ v = t.value (t.textOf meant) := by
  obtain ⟨_, _, applied⟩ := bind_eq_ok.mp done
  rw [apply_cast, map_eq_ok] at applied
  obtain ⟨meant, said, rfl⟩ := applied
  exact ⟨meant, said, rfl⟩

theorem compareChars_textOf {m n : t.Meaning} (mPlain : t.HasPlainYear m) (nPlain : t.HasPlainYear n) :
    compareChars (t.textOf m) (t.textOf n) = compare (t.moment m) (t.moment n) := by
  cases t with
  | date => exact Date.compareChars_text mPlain nPlain
  | time =>
    change compareChars (TimeOfDay.text m) (TimeOfDay.text n) =
      compare (TimeOfDay.minuteNumber m : Int) (TimeOfDay.minuteNumber n)
    rw [TimeOfDay.compareChars_text]
    symm
    apply compare_eq_compare
    · omega
    · omega
    · omega
  | datetime => exact DateTime.compareChars_text mPlain nPlain

theorem compare?_value (t : Temporal) (cs ds : List Char) :
    (t.value cs).compare? (t.value ds) = some (compareChars cs ds) := by
  simp [value, Value.ofChars, Value.compare?, Value.plain, Value.display]

theorem equal_value (t : Temporal) (cs ds : List Char) :
    (t.value cs).equal (t.value ds) = (compareChars cs ds == .eq) := by
  have texts : (t.value cs).equal (t.value ds) = decide (String.ofList cs = String.ofList ds) := rfl
  rw [texts, Bool.eq_iff_iff, decide_eq_true_iff, beq_iff_eq, String.ofList_inj, compareChars_eq_iff]

/-- Two results of one cast, with years of four digits, compare as the calendar values that the arguments
stand for, to the minute. -/
theorem operators_chronological (done : t.cast.call args = .ok v) (done' : t.cast.call args' = .ok w) :
    ∃ m n, t.given args = .ok m ∧ t.given args' = .ok n ∧
      (t.HasPlainYear m → t.HasPlainYear n →
        BinaryOp.less.apply v w = .ok (.boolean (t.moment m < t.moment n)) ∧
        BinaryOp.lessEqual.apply v w = .ok (.boolean (t.moment m ≤ t.moment n)) ∧
        BinaryOp.greater.apply v w = .ok (.boolean (t.moment m > t.moment n)) ∧
        BinaryOp.greaterEqual.apply v w = .ok (.boolean (t.moment m ≥ t.moment n)) ∧
        BinaryOp.equal.apply v w = .ok (.boolean (t.moment m = t.moment n)) ∧
        BinaryOp.notEqual.apply v w = .ok (.boolean (t.moment m ≠ t.moment n))) := by
  obtain ⟨m, said, rfl⟩ := given_of_cast done
  obtain ⟨n, said', rfl⟩ := given_of_cast done'
  refine ⟨m, n, said, said', ?_⟩
  intro mPlain nPlain
  have order := compareChars_textOf mPlain nPlain
  simp only [BinaryOp.apply, compare?_value, equal_value, order]
  rcases lt_trichotomy (t.moment m) (t.moment n) with less | same | more
  · rw [compare_lt_iff_lt.mpr less]
    simp [less, less.le, less.ne, less.not_ge, less.not_gt]
  · rw [compare_eq_iff_eq.mpr same]
    simp [same]
  · rw [compare_gt_iff_gt.mpr more]
    simp [more, more.le, more.ne', more.not_ge, more.not_gt]

/-- The last minute of the year 987 in two parts, with a leap second. -/
def lastMinute : List Value := [.text "987-12-31", .text " 23:59:60"]

def nextYear : List Value := [.text "988-1-1"]

theorem operators_chronological_years :
    datetime.cast.call lastMinute = .ok (datetime.value "0987-12-31T23:59".toList) ∧
      datetime.cast.call nextYear = .ok (datetime.value "0988-01-01T00:00".toList) ∧
      BinaryOp.less.apply (datetime.value "0987-12-31T23:59".toList)
        (datetime.value "0988-01-01T00:00".toList) = .ok (.boolean true) ∧
      BinaryOp.equal.apply (datetime.value "0987-12-31T23:59".toList)
        (datetime.value "0988-01-01T00:00".toList) = .ok (.boolean false) := by
  have first : datetime.cast.call lastMinute = .ok (datetime.value "0987-12-31T23:59".toList) := by
    decide +kernel
  have second : datetime.cast.call nextYear = .ok (datetime.value "0988-01-01T00:00".toList) := by
    decide +kernel
  have firstSaid : datetime.given lastMinute =
      .ok (⟨⟨987, 12, 31, by decide⟩, ⟨23, 59, 60⟩⟩ : DateTime) := by decide +kernel
  have secondSaid : datetime.given nextYear =
      .ok (⟨⟨988, 1, 1, by decide⟩, .midnight⟩ : DateTime) := by decide +kernel
  obtain ⟨m, n, said, said', order⟩ := operators_chronological first second
  cases firstSaid.symm.trans said
  cases secondSaid.symm.trans said'
  obtain ⟨less, -, -, -, equal, -⟩ := order ⟨by decide, by decide⟩ ⟨by decide, by decide⟩
  exact ⟨first, second, less, equal⟩

end Temporal

end ComputedColumns
