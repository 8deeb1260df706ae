import ComputedColumns.Proofs.Formula.TemporalCast
import ComputedColumns.Proofs.Formula.Transparency

namespace ComputedColumns

open Calendar Text

namespace Temporal

variable {cs : List Char} {d : Date} {t : TimeOfDay}

theorem dateTimeOnly?_marks {m : DateTime} (read : dateTimeOnly? cs = some m) : '-' ∈ cs ∧ ':' ∈ cs := by
  simp only [dateTimeOnly?, Option.orElse_eq_orElse, Option.orElse_eq_or, Option.or_eq_some_iff] at read
  rcases read with read | ⟨-, read | ⟨-, read | ⟨-, read⟩⟩⟩ <;> exact dateTime?_marks read

theorem anyDate?_cases (read : anyDate? cs = some d) :
    date? cs = some d ∨ ∃ m, dateTimeOnly? cs = some m ∧ m.date = d := by
  simp only [anyDate?, Option.orElse_eq_orElse, Option.orElse_eq_or, Option.or_eq_some_iff,
    Option.map_eq_some_iff] at read
  exact read.imp_right And.right

theorem anyTime?_cases (read : anyTime? cs = some t) :
    (∃ seconds, time? seconds cs = some t) ∨ ∃ m, dateTimeOnly? cs = some m ∧ m.time = t := by
  simp only [anyTime?, Option.orElse_eq_orElse, Option.orElse_eq_or, Option.or_eq_some_iff,
    Option.map_eq_some_iff] at read
  rcases read with read | ⟨-, read | ⟨-, both⟩⟩
  · exact .inl ⟨true, read⟩
  · exact .inl ⟨false, read⟩
  · exact .inr both

theorem anyDateTime?_of_both (day : anyDate? cs = some d) (clock : anyTime? cs = some t) :
    anyDateTime? cs = some ⟨d, t⟩ := by
  rcases anyDate?_cases day with bare | ⟨m, both, rfl⟩
  · have noColon := (date?_marks bare).2
    rcases anyTime?_cases clock with ⟨seconds, bare⟩ | ⟨m, both, -⟩
    · exact absurd (time?_marks bare).2 noColon
    · exact absurd (dateTimeOnly?_marks both).2 noColon
  · rcases anyTime?_cases clock with ⟨seconds, bare⟩ | ⟨m', same, rfl⟩
    · exact absurd (dateTimeOnly?_marks both).1 (time?_marks bare).1
    · cases both.symm.trans same
      rw [anyDateTime?, both]
      rfl

theorem readDateTime_of_both (day : readDate cs = .ok d) (clock : readTime cs = .ok t) :
    readDateTime cs = .ok ⟨d, t⟩ := by
  obtain ⟨present, day⟩ := readAs_eq_ok_iff.mp day
  obtain ⟨-, clock⟩ := readAs_eq_ok_iff.mp clock
  exact readAs_eq_ok_iff.mpr ⟨present, anyDateTime?_of_both day clock⟩

theorem readDate_dateTimeText (m : DateTime) : readDate m.text = .ok m.date := by
  have found : anyDate? m.text = some m.date := by
    have noDate : date? m.text = none := by
      cases read : date? m.text with
      | none => rfl
      | some d =>
        have colon := (dateTime?_marks (dateTime?_text m)).2
        exact absurd colon (date?_marks read).2
    rw [anyDate?, noDate, dateTimeOnly?_text]
    rfl
  exact readAs_visible m.visible_text (text_ne_nil (.datetime m)) found

theorem readTime_dateTimeText (m : DateTime) :
    readTime m.text = .ok { m.time with second := 0 } := by
  have noTime (seconds : Bool) : time? seconds m.text = none := by
    cases read : time? seconds m.text with
    | none => rfl
    | some t =>
      have dash := (dateTime?_marks (dateTime?_text m)).1
      exact absurd dash (time?_marks read).1
  have found : anyTime? m.text = some { m.time with second := 0 } := by
    rw [anyTime?, noTime, noTime, dateTimeOnly?_text]
    rfl
  exact readAs_visible m.visible_text (text_ne_nil (.datetime m)) found

theorem cast_pair {v w : Value} (day : readDate v.display.toList = .ok d)
    (clock : readTime w.display.toList = .ok t) :
    datetime.cast.call [v, w] = .ok (datetime.value (DateTime.text ⟨d, t⟩)) := by
  have first : Function.textArg [v, w] 0 = v.display.toList := rfl
  have second : Function.textArg [v, w] 1 = w.display.toList := rfl
  have two : [v, w].length = 2 := rfl
  rw [Function.call_eq_apply rfl, cast, Function.apply, Function.castDateTime, if_pos two, first, second,
    day, clock]
  rfl

theorem display_value (kind : Temporal) (cs : List Char) :
    (kind.value cs).plain.display.toList = cs := by
  rw [Value.display_plain]
  exact String.toList_ofList

def castOf (kind : Temporal) (args : List Expr) : Expr := .call kind.cast.name args

theorem evaluate_castOf (kind : Temporal) (args : List Expr) (env : Environment) :
    (kind.castOf args).evaluate env = Expr.evaluateAll env args >>= kind.cast.call := by
  have known : Function.lookup kind.cast.name = .ok kind.cast := by cases kind <;> decide +kernel
  rw [castOf, Expr.evaluate, known]
  rfl

variable {env : Environment}

theorem evaluate_castOf_one {kind : Temporal} {e : Expr} {w : Value} :
    (kind.castOf [e]).evaluate env = .ok w ↔
      ∃ v, e.evaluate env = .ok v ∧ kind.cast.call [v.plain] = .ok w := by
  simp [evaluate_castOf, Expr.evaluateAll, bind_eq_ok]

theorem evaluate_castOf_two {kind : Temporal} {e f : Expr} {w : Value} :
    (kind.castOf [e, f]).evaluate env = .ok w ↔
      ∃ u v, e.evaluate env = .ok u ∧ f.evaluate env = .ok v ∧
        kind.cast.call [u.plain, v.plain] = .ok w := by
  simp [evaluate_castOf, Expr.evaluateAll, bind_eq_ok]

/-- What has a date and what has a time make a date and time that has the same date and the same time. What
has both is a date and time by itself, the one that its date and its time make. -/
theorem datetime_of_date_time (env : Environment) :
    (∀ d t day clock, (date.castOf [d]).evaluate env = .ok day →
      (time.castOf [t]).evaluate env = .ok clock →
      ∃ moment, (datetime.castOf [d, t]).evaluate env = .ok moment ∧
        (date.castOf [datetime.castOf [d, t]]).evaluate env = .ok day ∧
        (time.castOf [datetime.castOf [d, t]]).evaluate env = .ok clock) ∧
    ∀ x day clock, (date.castOf [x]).evaluate env = .ok day →
      (time.castOf [x]).evaluate env = .ok clock →
      ∃ moment, (datetime.castOf [x]).evaluate env = .ok moment ∧
        (datetime.castOf [date.castOf [x], time.castOf [x]]).evaluate env = .ok moment := by
  constructor
  · intro d t day clock hasDate hasTime
    obtain ⟨u, first, castDate⟩ := evaluate_castOf_one.mp hasDate
    obtain ⟨v, second, castTime⟩ := evaluate_castOf_one.mp hasTime
    obtain ⟨ofDay, read, rfl⟩ := cast_eq_ok_iff.mp castDate
    obtain ⟨ofClock, readClock, rfl⟩ := cast_eq_ok_iff.mp castTime
    have both : (datetime.castOf [d, t]).evaluate env =
        .ok (datetime.value (DateTime.text ⟨ofDay, ofClock⟩)) :=
      evaluate_castOf_two.mpr ⟨u, v, first, second, cast_pair read readClock⟩
    refine ⟨_, both, ?_, ?_⟩
    · refine evaluate_castOf_one.mpr ⟨_, both, cast_eq_ok_iff.mpr ⟨ofDay, ?_, rfl⟩⟩
      rw [display_value]
      exact readDate_dateTimeText ⟨ofDay, ofClock⟩
    · -- The text of the moment drops the seconds, as that of the time does.
      refine evaluate_castOf_one.mpr
        ⟨_, both, cast_eq_ok_iff.mpr ⟨{ ofClock with second := 0 }, ?_, rfl⟩⟩
      rw [display_value]
      exact readTime_dateTimeText ⟨ofDay, ofClock⟩
  · intro x day clock hasDate hasTime
    obtain ⟨v, given, castDate⟩ := evaluate_castOf_one.mp hasDate
    obtain ⟨v', same, castTime⟩ := evaluate_castOf_one.mp hasTime
    cases given.symm.trans same
    obtain ⟨ofDay, read, rfl⟩ := cast_eq_ok_iff.mp castDate
    obtain ⟨ofClock, readClock, rfl⟩ := cast_eq_ok_iff.mp castTime
    refine ⟨datetime.value (DateTime.text ⟨ofDay, ofClock⟩), ?_, ?_⟩
    · have both := readDateTime_of_both read readClock
      exact evaluate_castOf_one.mpr ⟨v, given, cast_eq_ok_iff.mpr ⟨_, both, rfl⟩⟩
    · refine evaluate_castOf_two.mpr ⟨_, _, hasDate, hasTime, ?_⟩
      apply cast_pair (t := { ofClock with second := 0 })
      · rw [display_value]
        exact readDate_dateText ofDay
      · rw [display_value]
        exact readTime_timeText ofClock

def dayOfText : Expr := .text " +12345-6-07 8:09"

/-- A time behind a date, in the last second of a minute of sixty-one. -/
def clockOfText : Expr := .text "-44-3-15T 23: 59:60 "

theorem datetime_of_date_time_loose :
    (date.castOf [dayOfText]).evaluate .empty = .ok (date.value "+12345-06-07".toList) ∧
      (time.castOf [clockOfText]).evaluate .empty = .ok (time.value "23:59".toList) ∧
      (∃ moment, (datetime.castOf [dayOfText, clockOfText]).evaluate .empty = .ok moment ∧
        (date.castOf [datetime.castOf [dayOfText, clockOfText]]).evaluate .empty =
          .ok (date.value "+12345-06-07".toList) ∧
        (time.castOf [datetime.castOf [dayOfText, clockOfText]]).evaluate .empty =
          .ok (time.value "23:59".toList)) ∧
      (date.castOf [clockOfText]).evaluate .empty = .ok (date.value "-0044-03-15".toList) ∧
      ∃ moment, (datetime.castOf [clockOfText]).evaluate .empty = .ok moment ∧
        (datetime.castOf [date.castOf [clockOfText], time.castOf [clockOfText]]).evaluate .empty =
          .ok moment := by
  have day : (date.castOf [dayOfText]).evaluate .empty = .ok (date.value "+12345-06-07".toList) := by
    decide +kernel
  have clock : (time.castOf [clockOfText]).evaluate .empty = .ok (time.value "23:59".toList) := by
    decide +kernel
  have dayToo : (date.castOf [clockOfText]).evaluate .empty =
      .ok (date.value "-0044-03-15".toList) := by decide +kernel
  obtain ⟨pair, whole⟩ := datetime_of_date_time .empty
  exact ⟨day, clock, pair _ _ _ _ day clock, dayToo, whole _ _ _ dayToo clock⟩

end Temporal

end ComputedColumns
