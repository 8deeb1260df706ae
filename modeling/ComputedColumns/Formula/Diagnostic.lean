import ComputedColumns.Formula.Error
import ComputedColumns.Formula.Parser
import ComputedColumns.Formula.Template

namespace ComputedColumns

inductive Diagnostic where
  | malformed (e : SyntaxError)
  | unknownFunction (name : String)
  | argumentCount (function : Function) (count : Nat)
  | unknownColumn (r : Reference)
  deriving DecidableEq

def Diagnostic.message : Diagnostic → String
  | malformed e => "Syntax error: " ++ e.message
  | unknownFunction name => (FormulaError.unknownFunction name).message
  | argumentCount f count => (FormulaError.argumentCount f count).message
  | unknownColumn r => "Unknown column: " ++ r.source

def checkCall (name : String) (count : Nat) : List Diagnostic :=
  match Function.ofName? name with
  | none => [.unknownFunction name]
  | some f => if f.arity.accepts count then [] else [.argumentCount f count]

namespace Expr

mutual

def checkCalls : Expr → List Diagnostic
  | call name args => checkCall name args.length ++ checkCallsAll args
  | binary _ left right => left.checkCalls ++ right.checkCalls
  | negate operand => operand.checkCalls
  | _ => []

def checkCallsAll : List Expr → List Diagnostic
  | [] => []
  | e :: es => e.checkCalls ++ checkCallsAll es

end

end Expr

def Reference.isKnown (known : List String) (r : Reference) : Bool :=
  r.index.getD 0 < known.count r.name

def unknownColumns (known : List String) (rs : List Reference) : List Diagnostic :=
  (rs.filter fun r => !r.isKnown known).map .unknownColumn

def checkFormula (source : String) (known : List String) : List Diagnostic :=
  if isFormula source then
    match parseFormula source with
    | .error e => [.malformed e]
    | .ok e => e.checkCalls ++ unknownColumns known e.references
  else unknownColumns known (Reference.distinct (templateReferences source))

end ComputedColumns
