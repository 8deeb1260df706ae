import ComputedColumns.Binary64.Arithmetic
import ComputedColumns.Binary64.Integral
import ComputedColumns.Text.Numeral

namespace ComputedColumns

open Text

inductive Number where
  | int (n : Int64)
  | float (x : Binary64)
  deriving DecidableEq

namespace Number

def toFloat : Number → Binary64
  | int n => .ofInt n.toInt
  | float x => x

def toInt64 : Number → Int64
  | int n => n
  | float x => x.toInt64

def isZero : Number → Bool
  | int n => n == 0
  | float x => x.isZero

def exactOr (exact : Int → Int → Option Int) (rounded : Binary64 → Binary64 → Binary64)
    (x y : Number) : Number :=
  match x, y with
  | int a, int b =>
    match (exact a.toInt b.toInt).bind int64? with
    | some n => int n
    | none => float (rounded x.toFloat y.toFloat)
  | _, _ => float (rounded x.toFloat y.toFloat)

def add : Number → Number → Number := exactOr (fun a b => some (a + b)) .add

def sub : Number → Number → Number := exactOr (fun a b => some (a - b)) .sub

def mul : Number → Number → Number := exactOr (fun a b => some (a * b)) .mul

def quotient? (a b : Int) : Option Int := if b ∣ a then some (a / b) else none

def div? (x y : Number) : Option Number :=
  if y.isZero then none else some (exactOr quotient? .div x y)

def neg : Number → Number
  | int n =>
    match int64? (-n.toInt) with
    | some m => int m
    | none => float (Binary64.neg (.ofInt n.toInt))
  | float x => float x.neg

def abs : Number → Number
  | int n =>
    match int64? n.toInt.natAbs with
    | some m => int m
    | none => float (Binary64.abs (.ofInt n.toInt))
  | float x => float x.abs

def compare? : Number → Number → Option Ordering
  | int a, int b => some (compare a.toInt b.toInt)
  | x, y => x.toFloat.compare? y.toFloat

/-- Whole floats of a size below 9 * 10^15 become integers. -/
def ofIntegral (x : Binary64) : Number :=
  match x with
  | .finite s e f =>
    let m := Binary64.magnitude e f
    if x.isIntegral && m < 9000000000000000 * Binary64.unit then
      int (Int64.ofInt (Binary64.signed s (m / Binary64.unit)))
    else float x
  | _ => float x

end Number

end ComputedColumns
