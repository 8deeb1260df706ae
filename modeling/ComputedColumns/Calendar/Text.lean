import ComputedColumns.Calendar.Date
import ComputedColumns.Text.Blank
import ComputedColumns.Text.Numeral

namespace ComputedColumns

open Text

namespace Date

def yearText (year : Int) : List Char :=
  if 0 ≤ year ∧ year ≤ 9999 then padded 4 year.natAbs
  else (if year < 0 then '-' else '+') :: padded 4 year.natAbs

def text (d : Date) : List Char :=
  yearText d.year ++ '-' :: padded 2 d.month ++ '-' :: padded 2 d.day

end Date

def TimeOfDay.text (t : TimeOfDay) : List Char := padded 2 t.hour ++ ':' :: padded 2 t.minute

def DateTime.text (m : DateTime) : List Char := m.date.text ++ 'T' :: m.time.text

namespace Calendar

def digitsUpTo (width : Nat) (cs : List Char) : Option (Nat × List Char) :=
  let ds := (cs.take width).takeWhile isDigit
  if ds.isEmpty then none else some (ofDigits ds, cs.drop ds.length)

def readNumber (cs : List Char) : Option (Nat × List Char) := digitsUpTo 2 (trimStart cs)

/-- A year has up to four digits, or any number of them behind a sign. -/
def readYear (cs : List Char) : Option (Int × List Char) :=
  match trimStart cs with
  | '-' :: cs => (digitsUpTo cs.length cs).map fun (n, rest) => (-(n : Int), rest)
  | '+' :: cs => (digitsUpTo cs.length cs).map fun (n, rest) => ((n : Int), rest)
  | cs => (digitsUpTo 4 cs).map fun (n, rest) => ((n : Int), rest)

def expect (c : Char) : List Char → Option (List Char)
  | d :: cs => if d = c then some cs else none
  | [] => none

def readDate (cs : List Char) : Option (Date × List Char) := do
  let (year, cs) ← readYear cs
  let cs ← expect '-' cs
  let (month, cs) ← readNumber cs
  let cs ← expect '-' cs
  let (day, cs) ← readNumber cs
  let date ← Date.of? year month day
  some (date, cs)

def readTime (seconds : Bool) (cs : List Char) : Option (TimeOfDay × List Char) := do
  let (hour, cs) ← readNumber cs
  let cs ← expect ':' cs
  let (minute, cs) ← readNumber cs
  let (second, cs) ←
    if seconds then do
      let cs ← expect ':' cs
      readNumber cs
    else some (0, cs)
  let time ← TimeOfDay.of? hour minute second
  some (time, cs)

inductive Separator where
  | letter
  | blanks

def readSeparator : Separator → List Char → Option (List Char)
  | .letter, cs => expect 'T' cs
  | .blanks, cs => some (trimStart cs)

def readDateTime (separator : Separator) (seconds : Bool) (cs : List Char) :
    Option (DateTime × List Char) := do
  let (date, cs) ← readDate cs
  let cs ← readSeparator separator cs
  let (time, cs) ← readTime seconds cs
  some (⟨date, time⟩, cs)

def complete {α : Type} : Option (α × List Char) → Option α
  | some (a, []) => some a
  | _ => none

def date? (cs : List Char) : Option Date := complete (readDate cs)

def time? (seconds : Bool) (cs : List Char) : Option TimeOfDay := complete (readTime seconds cs)

def dateTime? (separator : Separator) (seconds : Bool) (cs : List Char) : Option DateTime :=
  complete (readDateTime separator seconds cs)

end Calendar

end ComputedColumns
