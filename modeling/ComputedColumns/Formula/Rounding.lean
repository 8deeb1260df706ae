import ComputedColumns.Decimal
import ComputedColumns.Formula.Number

namespace ComputedColumns

namespace Binary64

/-- Rounds by the digits of the shortest text where a decimal holds them, else by scaling. -/
def roundPlaces (x : Binary64) (places : Int64) : Binary64 :=
  let places := places.toInt
  if 0 ≤ places then
    let count := min places.toNat 28
    match Decimal.ofBinary64? x with
    | some d => (d.round count).toBinary64
    | none => ((x.mul (powTen count)).round).div (powTen count)
  else
    let factor := powTen (min places.natAbs 308)
    ((x.div factor).round).mul factor

end Binary64

namespace Number

def round (n : Number) (places : Int64) : Number :=
  match n with
  | int i =>
    if 0 ≤ places.toInt then int i else ofIntegral ((Binary64.ofInt i.toInt).roundPlaces places)
  | float x =>
    if 0 < places.toInt then float (x.roundPlaces places) else ofIntegral (x.roundPlaces places)

def floor : Number → Number
  | int i => int i
  | float x => ofIntegral x.floor

def ceil : Number → Number
  | int i => int i
  | float x => ofIntegral x.ceil

end Number

end ComputedColumns
