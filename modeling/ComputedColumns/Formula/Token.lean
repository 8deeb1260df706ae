import ComputedColumns.Binary64.Decimal
import ComputedColumns.Formula.Number
import ComputedColumns.Formula.Reference

namespace ComputedColumns

inductive Symbol where
  | plus
  | minus
  | times
  | slash
  | ampersand
  | equal
  | notEqual
  | less
  | lessEqual
  | greater
  | greaterEqual
  | leftParen
  | rightParen
  | comma
  deriving DecidableEq

inductive Token where
  | number (n : Number)
  | text (s : String)
  | boolean (b : Bool)
  | reference (r : Reference)
  | function (name : String)
  | symbol (s : Symbol)
  deriving DecidableEq

def Symbol.source : Symbol → String
  | plus => "+"
  | minus => "-"
  | times => "*"
  | slash => "/"
  | ampersand => "&"
  | equal => "="
  | notEqual => "!="
  | less => "<"
  | lessEqual => "<="
  | greater => ">"
  | greaterEqual => ">="
  | leftParen => "("
  | rightParen => ")"
  | comma => ","

namespace Token

def source : Token → String
  | number (.int n) => String.ofList (Text.intDigits n.toInt)
  | number (.float x) => String.ofList x.display
  | text s => "\"" ++ s ++ "\""
  | boolean true => "TRUE"
  | boolean false => "FALSE"
  | reference r => r.source
  | function name => name
  | symbol s => s.source

end Token

end ComputedColumns
