import ComputedColumns.Formula.Token

namespace ComputedColumns

inductive SyntaxError where
  | missingEquals
  | unterminatedReference
  | unterminatedIndex
  | invalidIndex (digits : String)
  | unterminatedText
  | invalidNumber (text : String)
  | unexpectedCharacter (c : Char)
  | unexpectedToken (token : Token)
  | unexpectedEnd
  | unopenedCall (name : String)
  | unclosedCall
  | unclosedParen
  | tooDeep
  deriving DecidableEq

def SyntaxError.message : SyntaxError → String
  | missingEquals => "Formula must start with '='"
  | unterminatedReference => "Unterminated column reference"
  | unterminatedIndex => "Unterminated index"
  | invalidIndex digits => "Invalid index: " ++ digits
  | unterminatedText => "Unterminated string"
  | invalidNumber text => "Invalid number: " ++ text
  | unexpectedCharacter c => "Unexpected character: " ++ String.singleton c
  | unexpectedToken token => "Unexpected token: " ++ token.source
  | unexpectedEnd => "Unexpected end of expression"
  | unopenedCall name => "Expected ( after function " ++ name
  | unclosedCall => "Expected ) after function arguments"
  | unclosedParen => "Expected ) after expression"
  | tooDeep => "Formula is nested too deeply"

end ComputedColumns
