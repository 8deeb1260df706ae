import ComputedColumns.Text.Blank

namespace ComputedColumns

inductive ColumnType where
  | text
  | number
  | decimal
  | currency
  | boolean
  | date
  | time
  | datetime
  | email
  | url
  | select
  | link
  deriving DecidableEq

namespace ColumnType

def all : List ColumnType :=
  [text, number, decimal, currency, boolean, date, time, datetime, email, url, select, link]

def name : ColumnType → String
  | text => "text"
  | number => "number"
  | decimal => "decimal"
  | currency => "currency"
  | boolean => "boolean"
  | date => "date"
  | time => "time"
  | datetime => "datetime"
  | email => "email"
  | url => "url"
  | select => "select"
  | link => "link"

def isNumeric : ColumnType → Bool
  | number | decimal | currency => true
  | _ => false

/-- Blanks around a name and the case of its ASCII letters do not matter. -/
def ofName? (s : String) : Option ColumnType :=
  let lower := String.ofList ((Text.trim s.toList).map Char.toLower)
  all.find? fun t => t.name = lower

end ColumnType

end ComputedColumns
