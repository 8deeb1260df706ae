import ComputedColumns.Binary64.Decimal
import ComputedColumns.Binary64.Reader
import ComputedColumns.Formula.Number
import ComputedColumns.Table.ColumnType
import ComputedColumns.Text.Blank
import ComputedColumns.Text.Order

namespace ComputedColumns

inductive Temporal where
  | date
  | time
  | datetime
  deriving DecidableEq

inductive Kind where
  | currency
  | temporal (t : Temporal)
  deriving DecidableEq

namespace Temporal

def name : Temporal → String
  | date => "date"
  | time => "time"
  | datetime => "datetime"

def columnType : Temporal → ColumnType
  | date => .date
  | time => .time
  | datetime => .datetime

end Temporal

namespace Kind

def name : Kind → String
  | currency => "currency"
  | temporal t => t.name

def columnType : Kind → ColumnType
  | currency => .currency
  | temporal t => t.columnType

end Kind

/-- A currency wraps a number, a date or time its canonical text. -/
inductive Value where
  | number (n : Number)
  | text (s : String)
  | boolean (b : Bool)
  | nil
  | typed (kind : Kind) (inner : Value)
  deriving DecidableEq

namespace Value

def ofChars (cs : List Char) : Value := text (String.ofList cs)

def plain : Value → Value
  | typed _ inner => inner.plain
  | v => v

def isNil (v : Value) : Bool := v.plain = nil

def isNumeric (v : Value) : Bool :=
  match v.plain with
  | number _ => true
  | _ => false

def readNumber (cs : List Char) : Number :=
  let cs := Text.trim cs
  if cs.contains '.' then .float ((Binary64.read cs).getD (.zero false))
  else .int ((Text.readInt64 cs).getD 0)

def toNumber : Value → Number
  | number n => n
  | text s => readNumber s.toList
  | boolean b => .int (if b then 1 else 0)
  | nil => .int 0
  | typed _ inner => inner.toNumber

def isTruthy : Value → Bool
  | number n => !n.isZero
  | text s => !(s = "" || s = "0")
  | boolean b => b
  | nil => false
  | typed _ inner => inner.isTruthy

/-- Whole floats below 10^16 show one decimal. -/
def floatText (x : Binary64) : List Char :=
  match x with
  | .finite _ e f =>
    if x.isIntegral && Binary64.magnitude e f < 10000000000000000 * Binary64.unit then x.fixed 1
    else x.display
  | _ => x.display

def numberText : Number → List Char
  | .int n => Text.intDigits n.toInt
  | .float x => floatText x

def display : Value → String
  | number n => String.ofList (numberText n)
  | text s => s
  | boolean true => "true"
  | boolean false => "false"
  | nil => ""
  | typed _ inner => inner.display

def typeName : Value → String
  | number (.int _) => "integer"
  | number (.float _) => "float"
  | text _ => "text"
  | boolean _ => "boolean"
  | nil => "nil"
  | typed kind _ => kind.name

def columnType : Value → ColumnType
  | number (.int _) => .number
  | number (.float _) => .decimal
  | text _ => .text
  | boolean _ => .boolean
  | nil => .text
  | typed kind _ => kind.columnType

def equal (v w : Value) : Bool :=
  match v.plain, w.plain with
  | number m, number n => m.compare? n == some .eq
  | text s, text t => s = t
  | boolean b, boolean c => b = c
  | nil, nil => true
  | _, _ => false

/-- Numbers compare by value, all else as text by code points; none when a number is NaN. -/
def compare? (v w : Value) : Option Ordering :=
  match v.plain, w.plain with
  | number m, number n => m.compare? n
  | _, _ => some (Text.compareChars v.display.toList w.display.toList)

end Value

end ComputedColumns
