import ComputedColumns.Binary64.Reader
import ComputedColumns.Calendar.Text
import ComputedColumns.Pattern.Compiled
import ComputedColumns.Table.ColumnType
import ComputedColumns.Table.Shape

namespace ComputedColumns

inductive ValueFormat where
  | pattern (source : String)
  | email
  | url
  deriving DecidableEq

inductive Rejection where
  | wrongType (type : ColumnType)
  | tooLong
  | timedOut
  | invalidPattern (report : Option String)
  | noMatch (source : String)
  | notEmail
  | notUrl
  deriving DecidableEq

def Rejection.message : Rejection → String
  | wrongType type => "Expected a " ++ type.name ++ " value"
  | tooLong => "Pattern check timed out: value too long"
  | timedOut => "Pattern check timed out"
  | invalidPattern none => "Invalid pattern"
  | invalidPattern (some report) => "Invalid pattern: " ++ report
  | noMatch source => "Value does not match pattern " ++ source
  | notEmail => "Not a valid email address"
  | notUrl => "Not a valid URL"

namespace ColumnType

/-- The written forms of a type. Blanks around them do not belong to them. -/
def fits (type : ColumnType) (cs : List Char) : Bool :=
  match type with
  | number => (Text.readInt64 cs).isSome
  | decimal | currency => (Binary64.read cs).isSome
  | boolean => cs == ['1'] || cs == ['0']
  | date => (Calendar.date? cs).isSome
  | time => (Calendar.time? false cs).isSome
  | datetime => (Calendar.dateTime? .letter false cs).isSome
  | text | email | url | select | link => true

def check (type : ColumnType) (value : String) : Except Rejection Unit :=
  if value = "" || type.fits value.toList then .ok () else .error (.wrongType type)

end ColumnType

def defaultLengthLimit : Nat := 65536

/-- Bytes for a compiled pattern and for a value, and nanoseconds for a match. -/
structure ValidationOptions where
  sizeLimit : Nat
  lengthLimit : Nat
  timeBudget : Nat
  deriving DecidableEq

def ValidationOptions.default : ValidationOptions := ⟨1048576, defaultLengthLimit, 50000000⟩

namespace ValueFormat

open Pattern (Engine)

/-- The pattern is put between the ends of the text as it is written, and the result is looked for in
the value. A match that took too long counts for nothing. -/
def checkPattern (engine : Engine) (options : ValidationOptions) (source value : String) :
    Except Rejection Unit :=
  if options.lengthLimit < value.utf8ByteSize then .error .tooLong
  else
    match engine.compile options.sizeLimit (Pattern.anchored source.toList) with
    | .error report => .error (.invalidPattern report)
    | .ok r =>
      if options.timeBudget < engine.elapsed r value.toList then .error .timedOut
      else if r.occursIn Pattern.Atom.step value.toList then .ok ()
      else .error (.noMatch source)

def checkWithin (engine : Engine) (options : ValidationOptions) (format : ValueFormat)
    (value : String) : Except Rejection Unit :=
  if value = "" then .ok ()
  else
    match format with
    | pattern source => checkPattern engine options source value
    | email => if isMailAddress value.toList then .ok () else .error .notEmail
    | url => if isWebAddress value.toList then .ok () else .error .notUrl

def check (format : ValueFormat) (value : String) (lengthLimit : Nat) : Except Rejection Unit :=
  format.checkWithin .byFootprint { ValidationOptions.default with lengthLimit } value

end ValueFormat

end ComputedColumns
