import ComputedColumns.Formula.Function
import ComputedColumns.Formula.SyntaxError
import ComputedColumns.Formula.Value

namespace ComputedColumns

inductive FormulaError where
  | malformed (e : SyntaxError)
  | divisionByZero
  | unknownFunction (name : String)
  | argumentCount (function : Function) (count : Nat)
  | invalidTemporal (temporal : Temporal) (problem : String)
  deriving DecidableEq

namespace FormulaError

def message : FormulaError → String
  | malformed e => e.message
  | divisionByZero => "Division by zero"
  | unknownFunction name => "Unknown function: " ++ name
  | argumentCount f count =>
    "Wrong number of arguments for " ++ f.name ++ ": expected " ++ f.arity.describe ++ ", got " ++
      Nat.repr count
  | invalidTemporal t problem => "Invalid " ++ t.name ++ ": " ++ problem

def isMalformed : FormulaError → Bool
  | malformed _ => true
  | _ => false

end FormulaError

namespace Function

def lookup (name : String) : Except FormulaError Function :=
  match ofName? name with
  | some f => .ok f
  | none => .error (.unknownFunction name)

def checkArity (f : Function) (count : Nat) : Except FormulaError Unit :=
  if f.arity.accepts count then .ok () else .error (.argumentCount f count)

end Function

end ComputedColumns
