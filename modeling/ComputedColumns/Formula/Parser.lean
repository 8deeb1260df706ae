import ComputedColumns.Formula.Expr
import ComputedColumns.Formula.Lexer

namespace ComputedColumns

namespace Symbol

def comparison? : Symbol → Option BinaryOp
  | equal => some .equal
  | notEqual => some .notEqual
  | less => some .less
  | lessEqual => some .lessEqual
  | greater => some .greater
  | greaterEqual => some .greaterEqual
  | _ => none

def addition? : Symbol → Option BinaryOp
  | plus => some .add
  | minus => some .subtract
  | ampersand => some .concat
  | _ => none

def multiplication? : Symbol → Option BinaryOp
  | times => some .multiply
  | slash => some .divide
  | _ => none

end Symbol

namespace Parser

abbrev Reader := List Token → Except SyntaxError (Expr × List Token)

/-- The readers of each level, for one allowance of nesting. The `Rest` readers continue a chain whose
left side has been read. -/
structure Levels where
  comparison : Reader
  comparisonRest : Expr → Reader
  addition : Reader
  additionRest : Expr → Reader
  multiplication : Reader
  multiplicationRest : Expr → Reader
  unary : Reader

def argumentsFrom (argument : Reader) :
    Nat → List Token → Except SyntaxError (List Expr × List Token)
  | 0, _ => .error .unexpectedEnd
  | count + 1, tokens => do
    let (e, rest) ← argument tokens
    match rest with
    | .symbol .comma :: rest =>
      let (es, rest) ← argumentsFrom argument count rest
      .ok (e :: es, rest)
    | rest => .ok ([e], rest)

def callArguments (argument : Reader) (tokens : List Token) :
    Except SyntaxError (List Expr × List Token) :=
  match tokens with
  | .symbol .rightParen :: rest => .ok ([], rest)
  | _ => do
    let (args, rest) ← argumentsFrom argument (tokens.length + 1) tokens
    match rest with
    | .symbol .rightParen :: rest => .ok (args, rest)
    | _ => .error .unclosedCall

def primary (deeper : Except SyntaxError Levels) : Reader
  | [] => .error .unexpectedEnd
  | .number n :: rest => .ok (.number n, rest)
  | .text s :: rest => .ok (.text s, rest)
  | .boolean b :: rest => .ok (.boolean b, rest)
  | .reference r :: rest => .ok (.reference r, rest)
  | .function name :: rest => do
    let inner ← deeper
    match rest with
    | .symbol .leftParen :: rest =>
      let (args, rest) ← callArguments inner.comparison rest
      .ok (.call name args, rest)
    | _ => .error (.unopenedCall name)
  | .symbol .leftParen :: rest => do
    let inner ← deeper
    let (e, rest) ← inner.comparison rest
    match rest with
    | .symbol .rightParen :: rest => .ok (e, rest)
    | _ => .error .unclosedParen
  | token :: _ => .error (.unexpectedToken token)

def unary (deeper : Except SyntaxError Levels) : Reader
  | .symbol .minus :: rest => do
    let inner ← deeper
    let (e, rest) ← inner.unary rest
    .ok (.negate e, rest)
  | tokens => primary deeper tokens

def multiplicationRest (deeper : Except SyntaxError Levels) (left : Expr) : Reader
  | .symbol s :: rest =>
    match s.multiplication? with
    | some op => do
      let inner ← deeper
      let (right, rest) ← inner.unary rest
      inner.multiplicationRest (.binary op left right) rest
    | none => .ok (left, .symbol s :: rest)
  | tokens => .ok (left, tokens)

def multiplication (deeper : Except SyntaxError Levels) : Reader := fun tokens => do
  let (left, rest) ← unary deeper tokens
  multiplicationRest deeper left rest

def additionStep? : List Token → Option (BinaryOp × List Token)
  | .symbol s :: rest =>
    match s.addition? with
    | some op => some (op, rest)
    | none => if s = .leftParen then some (.concat, .symbol s :: rest) else none
  | [] => none
  | tokens => some (.concat, tokens)

def additionRest (deeper : Except SyntaxError Levels) (left : Expr) : Reader := fun tokens =>
  match additionStep? tokens with
  | some (op, rest) => do
    let inner ← deeper
    let (right, rest) ← inner.multiplication rest
    inner.additionRest (.binary op left right) rest
  | none => .ok (left, tokens)

def addition (deeper : Except SyntaxError Levels) : Reader := fun tokens => do
  let (left, rest) ← multiplication deeper tokens
  additionRest deeper left rest

def comparisonRest (deeper : Except SyntaxError Levels) (left : Expr) : Reader
  | .symbol s :: rest =>
    match s.comparison? with
    | some op => do
      let inner ← deeper
      let (right, rest) ← inner.addition rest
      inner.comparisonRest (.binary op left right) rest
    | none => .ok (left, .symbol s :: rest)
  | tokens => .ok (left, tokens)

def comparison (deeper : Except SyntaxError Levels) : Reader := fun tokens => do
  let (left, rest) ← addition deeper tokens
  comparisonRest deeper left rest

def Levels.above (deeper : Except SyntaxError Levels) : Levels where
  comparison := Parser.comparison deeper
  comparisonRest := Parser.comparisonRest deeper
  addition := Parser.addition deeper
  additionRest := Parser.additionRest deeper
  multiplication := Parser.multiplication deeper
  multiplicationRest := Parser.multiplicationRest deeper
  unary := Parser.unary deeper

def levels : Nat → Levels
  | 0 => .above (.error .tooDeep)
  | allowance + 1 => .above (.ok (levels allowance))

def maxNesting : Nat := 256

end Parser

def parse (tokens : List Token) : Except SyntaxError Expr := do
  let (e, rest) ← (Parser.levels Parser.maxNesting).comparison tokens
  match rest with
  | [] => .ok e
  | token :: _ => .error (.unexpectedToken token)

def isFormula (source : String) : Bool := source.toList.head? == some '='

def parseFormula (formula : String) : Except SyntaxError Expr :=
  match Text.trimStart formula.toList with
  | '=' :: body => do
    let tokens ← Lexer.tokensOf body
    parse tokens
  | _ => .error .missingEquals

end ComputedColumns
