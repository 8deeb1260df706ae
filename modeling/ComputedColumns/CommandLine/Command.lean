import ComputedColumns.CommandLine.Arguments
import ComputedColumns.CommandLine.Help

namespace ComputedColumns.CommandLine

structure EvalRequest where
  formula : String
  values : List Assignment
  types : List Assignment
  json : Bool
  deriving DecidableEq

structure CheckRequest where
  formula : String
  columns : List String
  deriving DecidableEq

structure RecomputeRequest where
  input : String
  computed : List Assignment
  types : List Assignment
  output : Option String
  strict : Bool
  deriving DecidableEq

inductive Command where
  | eval (r : EvalRequest)
  | check (r : CheckRequest)
  | functions
  | recompute (r : RecomputeRequest)
  deriving DecidableEq

inductive Request where
  | run (command : Command)
  | print (text : String)
  | refuse (e : UsageError)
  deriving DecidableEq

def versionText : String := programName ++ " " ++ programVersion ++ "\n"

def Request.ofStop (help : String) : Stop → Request
  | .usage e => refuse e
  | .help => print help
  | .version => print versionText

def commandOf? (name : String) : Option (CommandSpec × (Given → Command)) :=
  match name with
  | "eval" => some (evalSpec, fun g => .eval
      ⟨g.argument.getD "", g.assignments "set", g.assignments "type", g.has "json"⟩)
  | "check" => some (checkSpec, fun g => .check ⟨g.argument.getD "", g.values "column"⟩)
  | "functions" => some (functionsSpec, fun _ => .functions)
  | "recompute" => some (recomputeSpec, fun g => .recompute
      ⟨g.argument.getD "", g.assignments "computed", g.assignments "type",
        (g.values "output").head?, g.has "strict"⟩)
  | _ => none

def Request.ofHelp : List String → Request
  | [] => print programHelp
  | name :: rest =>
    match if name = "help" then some helpHelp else (commandOf? name).map (·.1.help) with
    | none => refuse (.unknownCommand name)
    | some text =>
      match rest with
      | [] => print text
      | other :: _ => refuse (.unknownCommand other)

def Request.read : List String → Request
  | [] => refuse .missingCommand
  | argument :: rest =>
    match Shape.of argument with
    | .plain =>
      if argument = "help" then ofHelp rest
      else
        match commandOf? argument with
        | none => refuse (.unknownCommand argument)
        | some (spec, build) =>
          match readGiven spec rest with
          | .ok given => run (build given)
          | .error stop => ofStop spec.help stop
    | .divider => refuse .missingCommand
    | .long name value =>
      match readLong globalOptions .none name value rest with
      | .ok _ => read rest
      | .error stop => ofStop programHelp stop
    | .short letters =>
      match readShort globalOptions .none letters rest with
      | .ok _ => read rest
      | .error stop => ofStop programHelp stop

end ComputedColumns.CommandLine
