namespace ComputedColumns

/-- A finite number with biased exponent 0 is `fraction` times 2^-1074; with exponent `e` above 0
it is `2^52 + fraction` times 2^(e - 1075). -/
inductive Binary64 where
  | nan
  | infinite (negative : Bool)
  | finite (negative : Bool) (exponent : Fin 2047) (fraction : Fin 4503599627370496)
  deriving DecidableEq

namespace Binary64

def pow2 (n : Nat) : Nat := Nat.pow 2 n

/-- One, counted in multiples of 2^-1074. -/
def unit : Nat := pow2 1074

def zero (negative : Bool) : Binary64 := finite negative 0 0

def magnitude (exponent : Fin 2047) (fraction : Fin 4503599627370496) : Nat :=
  if exponent.val = 0 then fraction.val
  else (4503599627370496 + fraction.val) * pow2 (exponent.val - 1)

def signed (negative : Bool) (n : Nat) : Int := if negative then -(n : Int) else n

def ofMagnitude (negative : Bool) (m : Nat) : Binary64 :=
  if m < 4503599627370496 then finite negative 0 (Fin.ofNat _ m)
  else
    let shift := m.log2 - 52
    if h : shift + 1 < 2047 then
      finite negative ⟨shift + 1, h⟩ (Fin.ofNat _ (m / pow2 shift))
    else infinite negative

def quotientToEven (num den : Nat) : Nat :=
  let q := num / den
  let r := num % den
  if 2 * r < den then q else if den < 2 * r then q + 1 else q + q % 2

def nearest (negative : Bool) (num den : Nat) : Binary64 :=
  let step := pow2 ((num / den).log2 - 52)
  ofMagnitude negative (quotientToEven num (den * step) * step)

def ofInt (n : Int) : Binary64 := nearest (n < 0) (n.natAbs * unit) 1

def isZero : Binary64 → Bool
  | finite _ e f => magnitude e f == 0
  | _ => false

def isFinite : Binary64 → Bool
  | finite .. => true
  | _ => false

def toBits : Binary64 → Nat
  | nan => 2047 * pow2 52 + pow2 51
  | infinite s => s.toNat * pow2 63 + 2047 * pow2 52
  | finite s e f => s.toNat * pow2 63 + e.val * pow2 52 + f.val

def ofBits (bits : Nat) : Binary64 :=
  let negative := (bits / pow2 63) % 2 == 1
  let exponent := (bits / pow2 52) % 2048
  let fraction := bits % pow2 52
  if h : exponent < 2047 then finite negative ⟨exponent, h⟩ (Fin.ofNat _ fraction)
  else if fraction == 0 then infinite negative else nan

end Binary64

end ComputedColumns
