import ComputedColumns.Text.Numeral

namespace ComputedColumns

/-- Without an index, the first column of the name is meant. -/
structure Reference where
  name : String
  index : Option Nat
  deriving DecidableEq

namespace Reference

def indexText (i : Nat) : String := "[" ++ String.ofList (Text.digits i) ++ "]"

def key (r : Reference) : String :=
  match r.index with
  | some i => r.name ++ indexText i
  | none => r.name

def source (r : Reference) : String :=
  let name := "\x7b" ++ r.name ++ "\x7d"
  match r.index with
  | some i => name ++ indexText i
  | none => name

end Reference

end ComputedColumns
