import ComputedColumns.Decimal
import ComputedColumns.Formula.TemporalCast

namespace ComputedColumns

structure Stored where
  text : String
  type : ColumnType
  deriving DecidableEq

def currencyText (amount : Binary64) : List Char :=
  match Decimal.ofBinary64? amount with
  | some d => ((d.round 2).extend (2 - (d.round 2).scale)).text
  | none => amount.fixed 2

def Temporal.stored (t : Temporal) (cs : List Char) : List Char :=
  match t.canonical cs with
  | .ok text => text
  | .error _ => cs

namespace Value

def storedText : Value → String
  | typed .currency inner => String.ofList (currencyText inner.toNumber.toFloat)
  | typed (.temporal t) inner => String.ofList (t.stored inner.plain.display.toList)
  | boolean true => "1"
  | boolean false => "0"
  | v => v.display

def stored (v : Value) : Stored := ⟨v.storedText, v.columnType⟩

/-- The value of a cell by the type of its column. A boolean is true only for `1`; text that does not
fit the type, an empty text and an empty cell are nil. -/
def ofCell (type : ColumnType) (cell : Option String) : Value :=
  match type with
  | .boolean => boolean (cell == some "1")
  | .number =>
    match cell.bind fun s => Text.readInt64 (Text.trim s.toList) with
    | some n => number (.int n)
    | none => nil
  | .decimal | .currency =>
    match cell.bind fun s => Binary64.read (Text.trim s.toList) with
    | some x => number (.float x)
    | none => nil
  | _ =>
    match cell with
    | some s => if s = "" then nil else text s
    | none => nil

end Value

end ComputedColumns
