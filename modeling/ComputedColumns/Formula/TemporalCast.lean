import ComputedColumns.Calendar.Text
import ComputedColumns.Formula.Error

namespace ComputedColumns

open Calendar Text

namespace Temporal

def invalid {α : Type} (t : Temporal) (problem : String) : Except FormulaError α :=
  .error (.invalidTemporal t problem)

def nonBlank (t : Temporal) (cs : List Char) : Except FormulaError (List Char) :=
  if (trim cs).isEmpty then t.invalid "blank input" else .ok (trim cs)

def readAs {α : Type} (t : Temporal) (read : List Char → Option α) (cs : List Char) :
    Except FormulaError α := do
  let cs ← t.nonBlank cs
  match read cs with
  | some a => .ok a
  | none => t.invalid (String.ofList cs)

def dateTimeOnly? (cs : List Char) : Option DateTime :=
  dateTime? .letter true cs <|> dateTime? .letter false cs <|>
    dateTime? .blanks true cs <|> dateTime? .blanks false cs

def anyDate? (cs : List Char) : Option Date := date? cs <|> (dateTimeOnly? cs).map (·.date)

def anyTime? (cs : List Char) : Option TimeOfDay :=
  time? true cs <|> time? false cs <|> (dateTimeOnly? cs).map (·.time)

def anyDateTime? (cs : List Char) : Option DateTime :=
  dateTimeOnly? cs <|> (date? cs).map (⟨·, .midnight⟩)

def readDate (cs : List Char) : Except FormulaError Date := date.readAs anyDate? cs

def readTime (cs : List Char) : Except FormulaError TimeOfDay := time.readAs anyTime? cs

def readDateTime (cs : List Char) : Except FormulaError DateTime := datetime.readAs anyDateTime? cs

def canonical (t : Temporal) (cs : List Char) : Except FormulaError (List Char) :=
  match t with
  | date => (readDate cs).map Date.text
  | time => (readTime cs).map TimeOfDay.text
  | datetime => (readDateTime cs).map DateTime.text

def dateOfNumbers (year month day : Int) : Except FormulaError Date :=
  let found := if 0 ≤ month ∧ 0 ≤ day then Date.of? year month.toNat day.toNat else none
  match found with
  | some d => .ok d
  | none =>
    date.invalid (String.ofList
      (paddedInt 4 year ++ '-' :: paddedInt 2 month ++ '-' :: paddedInt 2 day))

def timeOfNumbers (hour minute : Int) : Except FormulaError TimeOfDay :=
  let found := if 0 ≤ hour ∧ 0 ≤ minute then TimeOfDay.of? hour.toNat minute.toNat 0 else none
  match found with
  | some t => .ok t
  | none => time.invalid (String.ofList (paddedInt 2 hour ++ ':' :: paddedInt 2 minute))

def value (t : Temporal) (text : List Char) : Value := .typed (.temporal t) (.ofChars text)

end Temporal

end ComputedColumns
