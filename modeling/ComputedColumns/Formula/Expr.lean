import ComputedColumns.Formula.Number
import ComputedColumns.Formula.Reference

namespace ComputedColumns

inductive BinaryOp where
  | add
  | subtract
  | multiply
  | divide
  | equal
  | notEqual
  | less
  | lessEqual
  | greater
  | greaterEqual
  | concat
  deriving DecidableEq

def BinaryOp.source : BinaryOp → String
  | add => "+"
  | subtract => "-"
  | multiply => "*"
  | divide => "/"
  | equal => "="
  | notEqual => "!="
  | less => "<"
  | lessEqual => "<="
  | greater => ">"
  | greaterEqual => ">="
  | concat => "&"

inductive Expr where
  | number (n : Number)
  | text (s : String)
  | boolean (b : Bool)
  | reference (r : Reference)
  | binary (op : BinaryOp) (left right : Expr)
  | negate (operand : Expr)
  | call (name : String) (args : List Expr)

namespace Expr

mutual

def occurrences : Expr → List Reference
  | reference r => [r]
  | binary _ left right => left.occurrences ++ right.occurrences
  | negate operand => operand.occurrences
  | call _ args => occurrencesAll args
  | _ => []

def occurrencesAll : List Expr → List Reference
  | [] => []
  | e :: es => e.occurrences ++ occurrencesAll es

end

end Expr

def Reference.distinct : List Reference → List Reference
  | [] => []
  | r :: rs => r :: (Reference.distinct rs).filter (· ≠ r)

def Expr.references (e : Expr) : List Reference := Reference.distinct e.occurrences

end ComputedColumns
