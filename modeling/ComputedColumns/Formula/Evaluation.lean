import ComputedColumns.Formula.Call
import ComputedColumns.Formula.Environment
import ComputedColumns.Formula.Parser
import ComputedColumns.Formula.Template

namespace ComputedColumns

/-- Operators see through types; the quotient is the one that can be missing. -/
def BinaryOp.apply (op : BinaryOp) (v w : Value) : Except FormulaError Value :=
  match op with
  | .add => .ok (.number (v.toNumber.add w.toNumber))
  | .subtract => .ok (.number (v.toNumber.sub w.toNumber))
  | .multiply => .ok (.number (v.toNumber.mul w.toNumber))
  | .divide =>
    match v.toNumber.div? w.toNumber with
    | some n => .ok (.number n)
    | none => .error .divisionByZero
  | .equal => .ok (.boolean (v.equal w))
  | .notEqual => .ok (.boolean (!v.equal w))
  | .less => .ok (.boolean (v.compare? w == some .lt))
  | .lessEqual => .ok (.boolean (v.compare? w == some .lt || v.compare? w == some .eq))
  | .greater => .ok (.boolean (v.compare? w == some .gt))
  | .greaterEqual => .ok (.boolean (v.compare? w == some .gt || v.compare? w == some .eq))
  | .concat => .ok (.text (v.display ++ w.display))

namespace Expr

mutual

/-- Operands and arguments are evaluated from left to right, all of them, and the first error wins. -/
def evaluate (env : Environment) : Expr → Except FormulaError Value
  | number n => .ok (.number n)
  | text s => .ok (.text s)
  | boolean b => .ok (.boolean b)
  | reference r => .ok (env.lookup r)
  | binary op left right => do
    let v ← left.evaluate env
    let w ← right.evaluate env
    op.apply v w
  | negate operand => do
    let v ← operand.evaluate env
    .ok (.number v.toNumber.neg)
  | call name args => do
    let vs ← evaluateAll env args
    let f ← Function.lookup name
    f.call vs

def evaluateAll (env : Environment) : List Expr → Except FormulaError (List Value)
  | [] => .ok []
  | e :: es => do
    let v ← e.evaluate env
    let vs ← evaluateAll env es
    .ok (v.plain :: vs)

end

end Expr

def tryEvaluate (source : String) (env : Environment) : Except FormulaError Value :=
  if isFormula source then
    match parseFormula source with
    | .ok e => e.evaluate env
    | .error e => .error (.malformed e)
  else .ok (.text (evaluateTemplate source env))

def errorMark : String := "#ERROR: "

def Value.isErrorMarker : Value → Bool
  | .text s => errorMark.toList.isPrefixOf s.toList
  | _ => false

def FormulaError.marker (e : FormulaError) : Value := .text (errorMark ++ e.message)

def evaluate (source : String) (env : Environment) : Value :=
  match tryEvaluate source env with
  | .ok v => v
  | .error e => e.marker

end ComputedColumns
