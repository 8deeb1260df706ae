import ComputedColumns.Binary64.Integral
import ComputedColumns.Text.Numeral

namespace ComputedColumns.Binary64

open Text

def fives : Nat := Nat.pow 5 1074

structure Scientific where
  coefficient : Nat
  exponent : Int
  deriving DecidableEq

def spacing (exponent : Fin 2047) : Nat :=
  if exponent.val = 0 then 1 else pow2 (exponent.val - 1)

/-- The reals that round to a positive finite number, scaled by four times 10^1074. Both ends belong
to them when the significand is even; below a power of two the spacing is half as wide. -/
structure Basin where
  low : Nat
  high : Nat
  closed : Bool

def basin (exponent : Fin 2047) (fraction : Fin 4503599627370496) : Basin :=
  let m := magnitude exponent fraction
  let s := spacing exponent
  let below := if fraction.val = 0 ∧ 1 < exponent.val then s else 2 * s
  { low := (4 * m - below) * fives
    high := (4 * m + 2 * s) * fives
    closed := fraction.val % 2 == 0 }

def Basin.holds (b : Basin) (x : Nat) : Bool :=
  if b.closed then b.low ≤ 4 * x && 4 * x ≤ b.high else b.low < 4 * x && 4 * x < b.high

def nearestOnGrid (b : Basin) (exact grid : Nat) : Option Nat :=
  let lower := exact / grid * grid
  let upper := lower + grid
  match b.holds lower, b.holds upper with
  | true, true => some (if upper - exact ≤ exact - lower then upper else lower)
  | true, false => some lower
  | false, true => some upper
  | false, false => none

/-- Seventeen digits always suffice. -/
def shortest (exponent : Fin 2047) (fraction : Fin 4503599627370496) : Scientific :=
  let b := basin exponent fraction
  let exact := magnitude exponent fraction * fives
  let length := (digits exact).length
  let found := (List.range 17).findSome? fun i =>
    let grid := Nat.pow 10 (length - (i + 1))
    (nearestOnGrid b exact grid).map fun x =>
      { coefficient := x / grid, exponent := (length : Int) - (i + 1) - 1074 : Scientific }
  let s := found.getD { coefficient := exact, exponent := -1074 }
  if s.coefficient % 10 = 0 then
    { coefficient := s.coefficient / 10, exponent := s.exponent + 1 }
  else s

def withPoint (ds : List Char) (places : Nat) : List Char :=
  if places = 0 then ds
  else
    let ds := List.replicate (places + 1 - ds.length) '0' ++ ds
    ds.take (ds.length - places) ++ '.' :: ds.drop (ds.length - places)

def Scientific.positional (s : Scientific) : List Char :=
  if 0 ≤ s.exponent then digits s.coefficient ++ List.replicate s.exponent.toNat '0'
  else withPoint (digits s.coefficient) s.exponent.natAbs

def withSign (negative : Bool) (cs : List Char) : List Char := if negative then '-' :: cs else cs

def display : Binary64 → List Char
  | nan => ['N', 'a', 'N']
  | infinite s => withSign s ['i', 'n', 'f']
  | finite s e f =>
    withSign s (if magnitude e f = 0 then ['0'] else (shortest e f).positional)

def fixed (places : Nat) : Binary64 → List Char
  | finite s e f =>
    withSign s (withPoint (digits (quotientToEven (magnitude e f * Nat.pow 10 places) unit)) places)
  | x => display x

end ComputedColumns.Binary64
