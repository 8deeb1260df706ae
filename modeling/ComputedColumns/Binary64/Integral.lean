import ComputedColumns.Binary64.Basic

namespace ComputedColumns.Binary64

def isIntegral : Binary64 → Bool
  | finite _ e f => magnitude e f % unit == 0
  | _ => false

def roundWith (whole : Bool → Nat → Nat) : Binary64 → Binary64
  | finite s e f => ofMagnitude s (whole s (magnitude e f) * unit)
  | x => x

def floor : Binary64 → Binary64 :=
  roundWith fun negative m => if negative then (m + unit - 1) / unit else m / unit

def ceil : Binary64 → Binary64 :=
  roundWith fun negative m => if negative then m / unit else (m + unit - 1) / unit

def round : Binary64 → Binary64 := roundWith fun _ m => (2 * m + unit) / (2 * unit)

def toInt64 : Binary64 → Int64
  | nan => 0
  | infinite negative => if negative then Int64.minValue else Int64.maxValue
  | finite s e f =>
    let n := signed s (magnitude e f / unit)
    Int64.ofInt (min (max n Int64.minValue.toInt) Int64.maxValue.toInt)

end ComputedColumns.Binary64
