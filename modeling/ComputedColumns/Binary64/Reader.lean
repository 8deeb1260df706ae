import ComputedColumns.Binary64.Basic
import ComputedColumns.Text.Numeral

namespace ComputedColumns.Binary64

open Text

/-- The number nearest to `coefficient * 10^exponent`. A value of at least 10^310 is infinite and one
below 10^-330 is zero, which keeps the powers small. -/
def ofScientific (negative : Bool) (coefficient : Nat) (exponent : Int) : Binary64 :=
  let top := ((digits coefficient).length : Int) + exponent
  if coefficient = 0 then zero negative
  else if 310 < top then infinite negative
  else if top < -330 then zero negative
  else if 0 ≤ exponent then nearest negative (coefficient * Nat.pow 10 exponent.toNat * unit) 1
  else nearest negative (coefficient * unit) (Nat.pow 10 exponent.natAbs)

def readExponent : List Char → Option Int
  | [] => some 0
  | c :: cs => if c = 'e' || c = 'E' then integer? cs else none

def readUnsigned (negative : Bool) (cs : List Char) : Option Binary64 :=
  let whole := cs.takeWhile isDigit
  let rest := cs.dropWhile isDigit
  let (decimals, rest) := match rest with
    | '.' :: rest => (rest.takeWhile isDigit, rest.dropWhile isDigit)
    | rest => ([], rest)
  if whole.isEmpty && decimals.isEmpty then none
  else (readExponent rest).map fun x =>
    ofScientific negative (ofDigits (whole ++ decimals)) (x - decimals.length)

def read (cs : List Char) : Option Binary64 :=
  let (negative, body) := splitSign cs
  match body.map Char.toLower with
  | ['i', 'n', 'f'] => some (infinite negative)
  | ['i', 'n', 'f', 'i', 'n', 'i', 't', 'y'] => some (infinite negative)
  | ['n', 'a', 'n'] => some nan
  | _ => readUnsigned negative body

end ComputedColumns.Binary64
