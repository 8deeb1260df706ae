import ComputedColumns.Text.Blank

namespace ComputedColumns.CommandLine

inductive Accepts where
  | text
  | assignment
  | path
  deriving DecidableEq

abbrev Assignment := String × String

def assignment? (s : String) : Option Assignment :=
  let cs := s.toList
  match cs.dropWhile (· ≠ '=') with
  | _ :: value =>
    let name := Text.trim (cs.takeWhile (· ≠ '='))
    if name.isEmpty then none else some (String.ofList name, String.ofList value)
  | [] => none

def Accepts.allows (value : String) : Accepts → Bool
  | text => true
  | assignment => (assignment? value).isSome
  | path => value ≠ ""

inductive Role where
  | help
  | version
  | count
  | flag
  | single (accepts : Accepts)
  | list (accepts : Accepts)
  deriving DecidableEq

namespace Role

def value? : Role → Option Accepts
  | single accepts | list accepts => some accepts
  | _ => none

def isRepeatable : Role → Bool
  | flag | single _ => false
  | _ => true

end Role

structure OptionSpec where
  long : String
  short : Option Char
  role : Role
  valueName : String
  about : String
  deriving DecidableEq

structure ArgumentSpec where
  name : String
  accepts : Accepts
  about : String
  deriving DecidableEq

structure CommandSpec where
  name : String
  about : String
  argument : Option ArgumentSpec
  options : List OptionSpec
  deriving DecidableEq

def verboseOption : OptionSpec :=
  ⟨"verbose", some 'v', .count, "", "Log progress to stderr (-v for info, -vv for debug output)"⟩

def helpOption : OptionSpec := ⟨"help", some 'h', .help, "", "Print help"⟩

def versionOption : OptionSpec := ⟨"version", some 'V', .version, "", "Print version"⟩

def formulaArgument : ArgumentSpec :=
  ⟨"FORMULA", .text, "Formula (starting with '=') or template"⟩

def typeOption (short : Option Char) : OptionSpec :=
  ⟨"type", short, .list .assignment, "NAME=TYPE",
    "Declared type of a source column, NAME=TYPE (default: text)"⟩

def evalSpec : CommandSpec where
  name := "eval"
  about := "Evaluate a formula or template and print the stored value and its type"
  argument := some formulaArgument
  options := [
    ⟨"set", none, .list .assignment, "NAME=VALUE",
      "Source column value, NAME=VALUE (repeatable, order matters for duplicate names)"⟩,
    verboseOption,
    typeOption none,
    ⟨"json", none, .flag, "", "Print the result as JSON"⟩,
    helpOption]

def checkSpec : CommandSpec where
  name := "check"
  about := "Report problems in a formula without evaluating it"
  argument := some formulaArgument
  options := [
    ⟨"column", some 'c', .list .text, "NAME", "Known source column name (repeatable)"⟩,
    verboseOption,
    helpOption]

def functionsSpec : CommandSpec where
  name := "functions"
  about := "List the built-in functions"
  argument := none
  options := [verboseOption, helpOption]

def recomputeSpec : CommandSpec where
  name := "recompute"
  about := "Add computed columns to a CSV file and fill them for every row"
  argument := some ⟨"INPUT", .path, "Input CSV file with a header row"⟩
  options := [
    ⟨"computed", some 'c', .list .assignment, "NAME=FORMULA",
      "Computed column, NAME=FORMULA (repeatable)"⟩,
    verboseOption,
    typeOption (some 't'),
    ⟨"output", some 'o', .single .path, "OUTPUT", "Output CSV file (default: stdout)"⟩,
    ⟨"strict", none, .flag, "",
      "Stop at the first failing formula instead of storing an error marker"⟩,
    helpOption]

def commandSpecs : List CommandSpec := [evalSpec, checkSpec, functionsSpec, recomputeSpec]

def globalOptions : List OptionSpec := [verboseOption, helpOption, versionOption]

end ComputedColumns.CommandLine
