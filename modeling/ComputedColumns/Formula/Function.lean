import ComputedColumns.Text.Numeral

namespace ComputedColumns

inductive Function where
  | conditional
  | upper
  | lower
  | trim
  | len
  | left
  | right
  | replace
  | contains
  | concat
  | split
  | and
  | or
  | not
  | round
  | abs
  | floor
  | ceil
  | min
  | max
  | sum
  | coalesce
  | number
  | text
  | boolean
  | currency
  | date
  | time
  | datetime
  deriving DecidableEq

inductive Arity where
  | exactly (n : Nat)
  | between (least most : Nat)
  | atLeast (least : Nat)
  | either (a b : Nat)
  deriving DecidableEq

namespace Arity

def accepts : Arity → Nat → Bool
  | exactly n, count => count == n
  | between least most, count => least ≤ count && count ≤ most
  | atLeast least, count => least ≤ count
  | either a b, count => count == a || count == b

def describe : Arity → String
  | exactly n => Nat.repr n
  | between least most => Nat.repr least ++ " to " ++ Nat.repr most
  | atLeast least => "at least " ++ Nat.repr least
  | either a b => Nat.repr a ++ " or " ++ Nat.repr b

end Arity

inductive Category where
  | control
  | text
  | logical
  | numeric
  | utility
  | cast
  | typedCast
  deriving DecidableEq

def Category.name : Category → String
  | control => "control"
  | text => "text"
  | logical => "logical"
  | numeric => "numeric"
  | utility => "utility"
  | cast => "cast"
  | typedCast => "typed cast"

namespace Function

def all : List Function :=
  [conditional, upper, lower, trim, len, left, right, replace, contains, concat, split, and, or, not,
    round, abs, floor, ceil, min, max, sum, coalesce, number, text, boolean, currency, date, time,
    datetime]

def name : Function → String
  | conditional => "IF"
  | upper => "UPPER"
  | lower => "LOWER"
  | trim => "TRIM"
  | len => "LEN"
  | left => "LEFT"
  | right => "RIGHT"
  | replace => "REPLACE"
  | contains => "CONTAINS"
  | concat => "CONCAT"
  | split => "SPLIT"
  | and => "AND"
  | or => "OR"
  | not => "NOT"
  | round => "ROUND"
  | abs => "ABS"
  | floor => "FLOOR"
  | ceil => "CEIL"
  | min => "MIN"
  | max => "MAX"
  | sum => "SUM"
  | coalesce => "COALESCE"
  | number => "NUMBER"
  | text => "TEXT"
  | boolean => "BOOLEAN"
  | currency => "CURRENCY"
  | date => "DATE"
  | time => "TIME"
  | datetime => "DATETIME"

def ofName? (name : String) : Option Function :=
  let upper := String.ofList (name.toList.map Char.toUpper)
  all.find? fun f => f.name = upper

def arity : Function → Arity
  | conditional => .between 2 3
  | upper | lower | trim | len => .exactly 1
  | left | right | contains => .exactly 2
  | replace => .between 3 4
  | concat => .atLeast 1
  | split => .exactly 3
  | and | or => .atLeast 2
  | not => .exactly 1
  | round => .between 1 2
  | abs | floor | ceil => .exactly 1
  | min | max => .atLeast 2
  | sum | coalesce => .atLeast 1
  | number | text | boolean | currency => .exactly 1
  | date => .either 1 3
  | time | datetime => .between 1 2

def category : Function → Category
  | conditional => .control
  | upper | lower | trim | len | left | right | replace | contains | concat | split => .text
  | and | or | not => .logical
  | round | abs | floor | ceil | min | max | sum => .numeric
  | coalesce => .utility
  | number | text | boolean => .cast
  | currency | date | time | datetime => .typedCast

def signature : Function → String
  | conditional => "IF(cond, then[, else])"
  | upper => "UPPER(text)"
  | lower => "LOWER(text)"
  | trim => "TRIM(text)"
  | len => "LEN(text)"
  | left => "LEFT(text, n)"
  | right => "RIGHT(text, n)"
  | replace => "REPLACE(text, old, new[, count])"
  | contains => "CONTAINS(text, needle)"
  | concat => "CONCAT(value, ...)"
  | split => "SPLIT(text, delimiter, index)"
  | and => "AND(a, b, ...)"
  | or => "OR(a, b, ...)"
  | not => "NOT(a)"
  | round => "ROUND(n[, decimals])"
  | abs => "ABS(n)"
  | floor => "FLOOR(n)"
  | ceil => "CEIL(n)"
  | min => "MIN(a, b, ...)"
  | max => "MAX(a, b, ...)"
  | sum => "SUM(a, ...)"
  | coalesce => "COALESCE(a, ...)"
  | number => "NUMBER(x)"
  | text => "TEXT(x)"
  | boolean => "BOOLEAN(x)"
  | currency => "CURRENCY(x)"
  | date => "DATE(text) | DATE(year, month, day)"
  | time => "TIME(text) | TIME(hour, minute)"
  | datetime => "DATETIME(text) | DATETIME(date, time)"

end Function

end ComputedColumns
