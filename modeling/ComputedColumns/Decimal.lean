import ComputedColumns.Binary64.Arithmetic
import ComputedColumns.Binary64.Decimal
import ComputedColumns.Binary64.Reader

namespace ComputedColumns

open Text

structure Decimal where
  negative : Bool
  coefficient : Nat
  scale : Nat
  deriving DecidableEq

namespace Decimal

def bound : Nat := Nat.pow 2 96

def maxScale : Nat := 28

def ofSigned (negative : Bool) (coefficient scale : Nat) : Decimal :=
  ⟨negative && coefficient != 0, coefficient, scale⟩

/-- Ends the coefficient by rounding off the digit that finds no place, five and more upwards. If the
step up finds no place either, one decimal more is given up. -/
def roundOff (coefficient scale digit : Nat) : Option (Nat × Nat) :=
  if digit < 5 then some (coefficient, scale)
  else if coefficient + 1 < bound then some (coefficient + 1, scale)
  -- The step up finds no place, so one decimal more is given up.
  else if scale = 0 then none
  else some ((coefficient + 5) / 10, scale - 1)

def takeDecimals (coefficient scale : Nat) : List Char → Option (Nat × Nat)
  | [] => some (coefficient, scale)
  | d :: ds =>
    let next := 10 * coefficient + digitValue d
    if scale < maxScale ∧ next < bound then takeDecimals next (scale + 1) ds
    else roundOff coefficient scale (digitValue d)

def ofParts (negative : Bool) (whole decimals : List Char) : Option Decimal :=
  if ofDigits whole < bound then
    (takeDecimals (ofDigits whole) 0 decimals).map fun (coefficient, scale) =>
      ofSigned negative coefficient scale
  else none

def ofBinary64? (x : Binary64) : Option Decimal :=
  if x.isFinite then
    let (negative, cs) := splitSign x.display
    ofParts negative (cs.takeWhile isDigit) ((cs.dropWhile isDigit).drop 1)
  else none

def round (places : Nat) (d : Decimal) : Decimal :=
  if d.scale ≤ places then d
  else
    let step := Nat.pow 10 (d.scale - places)
    ofSigned d.negative ((2 * d.coefficient + step) / (2 * step)) places

def extend : Nat → Decimal → Decimal
  | 0, d => d
  | places + 1, d =>
    if 10 * d.coefficient < bound then
      extend places { d with coefficient := 10 * d.coefficient, scale := d.scale + 1 }
    else d

def text (d : Decimal) : List Char :=
  Binary64.withSign (d.negative && d.coefficient != 0) (Binary64.withPoint (digits d.coefficient) d.scale)

/-- The whole part and the decimals become floats of their own; their sum is rounded to the decimals. -/
def toBinary64 (d : Decimal) : Binary64 :=
  if d.scale = 0 then .ofInt (applySign d.negative d.coefficient)
  else
    let power := Nat.pow 10 d.scale
    let whole := Binary64.ofInt (d.coefficient / power)
    let rest := Binary64.div (.ofInt (d.coefficient % power)) (.ofInt power)
    let size :=
      if rest.isZero then whole
      else Binary64.div (Binary64.mul (whole.add rest) (.powTen d.scale)).round (.powTen d.scale)
    if d.negative then size.neg else size

end Decimal

end ComputedColumns
