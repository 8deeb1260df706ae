namespace ComputedColumns.Text

def isDigit (c : Char) : Bool := '0' ≤ c && c ≤ '9'

def digitValue (c : Char) : Nat := c.toNat - 48

def ofDigitsFrom (high : Nat) (ds : List Char) : Nat :=
  ds.foldl (fun n d => 10 * n + digitValue d) high

def ofDigits (ds : List Char) : Nat := ofDigitsFrom 0 ds

def digitChar (n : Nat) : Char := Char.ofNat (48 + n)

def digitsOnto (n : Nat) (known : List Char) : List Char :=
  if n < 10 then digitChar n :: known else digitsOnto (n / 10) (digitChar (n % 10) :: known)

def digits (n : Nat) : List Char := digitsOnto n []

def padded (width n : Nat) : List Char :=
  let ds := digits n
  List.replicate (width - ds.length) '0' ++ ds

def intDigits (n : Int) : List Char :=
  if n < 0 then '-' :: digits n.natAbs else digits n.natAbs

/-- A width counts the sign too. -/
def paddedInt (width : Nat) (n : Int) : List Char :=
  if n < 0 then '-' :: padded (width - 1) n.natAbs else padded width n.natAbs

def natural? (cs : List Char) : Option Nat :=
  if !cs.isEmpty && cs.all isDigit then some (ofDigits cs) else none

def splitSign : List Char → Bool × List Char
  | '-' :: cs => (true, cs)
  | '+' :: cs => (false, cs)
  | cs => (false, cs)

def applySign (negative : Bool) (n : Nat) : Int := if negative then -(n : Int) else n

def integer? (cs : List Char) : Option Int :=
  let (negative, ds) := splitSign cs
  (natural? ds).map (applySign negative)

def int64? (n : Int) : Option Int64 :=
  if Int64.minValue.toInt ≤ n ∧ n ≤ Int64.maxValue.toInt then some (Int64.ofInt n) else none

def readInt64 (cs : List Char) : Option Int64 := (integer? cs).bind int64?

def indexBound : Nat := 18446744073709551616

def readIndex (cs : List Char) : Option Nat :=
  (natural? cs).bind fun n => if n < indexBound then some n else none

end ComputedColumns.Text
