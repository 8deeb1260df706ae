import ComputedColumns.CommandLine.Option

namespace ComputedColumns.CommandLine

inductive UsageError where
  | unknownOption (argument : String)
  | unexpectedValue (option : String)
  | missingValue (option : String)
  | invalidValue (value name : String)
  | repeatedOption (option : String)
  | unexpectedArgument (argument : String)
  | missingArgument (name : String)
  | unknownCommand (name : String)
  | missingCommand
  deriving DecidableEq

def UsageError.message : UsageError → String
  | unknownOption argument => "error: unexpected argument '" ++ argument ++ "' found"
  | unexpectedValue option => "error: unexpected value for '--" ++ option ++ "' found; no more were expected"
  | missingValue option => "error: a value is required for '--" ++ option ++ "' but none was supplied"
  | invalidValue value name => "error: invalid value '" ++ value ++ "' for '" ++ name ++ "'"
  | repeatedOption option => "error: the argument '--" ++ option ++ "' cannot be used multiple times"
  | unexpectedArgument argument => "error: unexpected argument '" ++ argument ++ "' found"
  | missingArgument name => "error: the required argument <" ++ name ++ "> was not provided"
  | unknownCommand name => "error: unrecognized subcommand '" ++ name ++ "'"
  | missingCommand => "error: a subcommand is required but one was not provided"

inductive Stop where
  | usage (e : UsageError)
  | help
  | version
  deriving DecidableEq

structure Given where
  argument : Option String
  options : List (String × String)
  deriving DecidableEq

namespace Given

def none : Given := ⟨.none, []⟩

def has (g : Given) (option : String) : Bool := g.options.any (·.1 = option)

def values (g : Given) (option : String) : List String :=
  (g.options.filter (·.1 = option)).map (·.2)

def assignments (g : Given) (option : String) : List Assignment :=
  (g.values option).filterMap assignment?

def addOption (g : Given) (spec : OptionSpec) (value : String) : Except Stop Given :=
  if !spec.role.isRepeatable && g.has spec.long then .error (.usage (.repeatedOption spec.long))
  else if spec.role.value?.all (·.allows value) then
    .ok { g with options := g.options ++ [(spec.long, value)] }
  else .error (.usage (.invalidValue value ("--" ++ spec.long)))

def addArgument (g : Given) (spec : Option ArgumentSpec) (value : String) : Except Stop Given :=
  match spec, g.argument with
  | some spec, .none =>
    if spec.accepts.allows value then .ok { g with argument := some value }
    else .error (.usage (.invalidValue value spec.name))
  | _, _ => .error (.usage (.unexpectedArgument value))

def addArguments (g : Given) (spec : Option ArgumentSpec) : List String → Except Stop Given
  | [] => .ok g
  | value :: rest => do
    let next ← g.addArgument spec value
    next.addArguments spec rest

end Given

/-- How an argument is written: a long option with the value attached to it, one-letter options in a
row, the mark behind which there are no more options, or a plain value. -/
inductive Shape where
  | long (name : List Char) (value : Option (List Char))
  | short (letters : List Char)
  | divider
  | plain
  deriving DecidableEq

def Shape.of (argument : String) : Shape :=
  match argument.toList with
  | ['-', '-'] => .divider
  | '-' :: '-' :: cs =>
    match cs.dropWhile (· ≠ '=') with
    | [] => .long cs none
    | _ :: value => .long (cs.takeWhile (· ≠ '=')) (some value)
  | '-' :: c :: cs => .short (c :: cs)
  | _ => .plain

def takeValue (spec : OptionSpec) : List String → Except Stop (String × List String)
  | [] => .error (.usage (.missingValue spec.long))
  | value :: rest =>
    if Shape.of value = .plain then .ok (value, rest)
    else .error (.usage (.missingValue spec.long))

/-- What the first options of a row of letters come to: those that take no value, and the one that
takes what is left of the row. -/
inductive Cluster where
  | done (given : Given)
  | wanting (spec : OptionSpec) (given : Given) (attached : Option (List Char))

def attachedValue : List Char → Option (List Char)
  | [] => none
  | '=' :: cs => some cs
  | cs => some cs

def readCluster (options : List OptionSpec) (given : Given) : List Char → Except Stop Cluster
  | [] => .ok (.done given)
  | c :: cs =>
    match options.find? (·.short == some c) with
    | none => .error (.usage (.unknownOption (String.ofList ['-', c])))
    | some spec =>
      match spec.role with
      | .help => .error .help
      | .version => .error .version
      | .single _ | .list _ => .ok (.wanting spec given (attachedValue cs))
      | .count | .flag => do
        let next ← given.addOption spec ""
        readCluster options next cs

def readLong (options : List OptionSpec) (given : Given) (name : List Char)
    (value : Option (List Char)) (rest : List String) : Except Stop (Given × List String) :=
  match options.find? (·.long.toList = name) with
  | none => .error (.usage (.unknownOption (String.ofList ('-' :: '-' :: name))))
  | some spec =>
    match spec.role.value?, value with
    | some _, some v => do
      let next ← given.addOption spec (String.ofList v)
      .ok (next, rest)
    | some _, none => do
      let (v, rest) ← takeValue spec rest
      let next ← given.addOption spec v
      .ok (next, rest)
    | none, some _ => .error (.usage (.unexpectedValue spec.long))
    | none, none =>
      match spec.role with
      | .help => .error .help
      | .version => .error .version
      | _ => do
        let next ← given.addOption spec ""
        .ok (next, rest)

def readShort (options : List OptionSpec) (given : Given) (letters : List Char)
    (rest : List String) : Except Stop (Given × List String) := do
  match ← readCluster options given letters with
  | .done next => .ok (next, rest)
  | .wanting spec given (some v) => do
    let next ← given.addOption spec (String.ofList v)
    .ok (next, rest)
  | .wanting spec given none => do
    let (v, rest) ← takeValue spec rest
    let next ← given.addOption spec v
    .ok (next, rest)

/-- Reads the arguments of a command; an option may take the argument behind it, so the number of
steps is bounded by `fuel`. -/
def readArguments (spec : CommandSpec) : Nat → Given → List String → Except Stop Given
  | _, given, [] => .ok given
  | 0, given, _ => .ok given
  | fuel + 1, given, argument :: rest =>
    match Shape.of argument with
    | .divider => given.addArguments spec.argument rest
    | .plain => do
      let next ← given.addArgument spec.argument argument
      readArguments spec fuel next rest
    | .long name value => do
      let (next, rest) ← readLong spec.options given name value rest
      readArguments spec fuel next rest
    | .short letters => do
      let (next, rest) ← readShort spec.options given letters rest
      readArguments spec fuel next rest

def readGiven (spec : CommandSpec) (arguments : List String) : Except Stop Given := do
  let given ← readArguments spec arguments.length .none arguments
  match spec.argument, given.argument with
  | some argument, none => .error (.usage (.missingArgument argument.name))
  | _, _ => .ok given

end ComputedColumns.CommandLine
