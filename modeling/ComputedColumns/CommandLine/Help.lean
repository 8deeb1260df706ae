import ComputedColumns.CommandLine.Option
import ComputedColumns.Text.Occurrence

namespace ComputedColumns.CommandLine

def programName : String := "colcalc"

def programVersion : String := "0.1.0"

def lineWidth : Nat := 100

def fillFrom (width : Nat) (current : List Char) : List (List Char) → List (List Char)
  | [] => [current]
  | word :: rest =>
    if current.length + 1 + word.length ≤ width then fillFrom width (current ++ ' ' :: word) rest
    else current :: fillFrom width word rest

def fill (width : Nat) (text : List Char) : List (List Char) :=
  match Text.words text with
  | [] => [[]]
  | word :: rest => fillFrom width word rest

structure Entry where
  head : List Char
  about : String

def Entry.lines (column : Nat) (e : Entry) : List (List Char) :=
  let indent := List.replicate column ' '
  match fill (lineWidth - column) e.about.toList with
  | [] => [e.head]
  | first :: others =>
    (e.head ++ List.replicate (column - e.head.length) ' ' ++ first) :: others.map (indent ++ ·)

def entryLines (entries : List Entry) : List (List Char) :=
  let column := entries.foldl (fun n e => max n e.head.length) 0 + 2
  entries.flatMap (Entry.lines column)

def OptionSpec.entry (o : OptionSpec) : Entry :=
  let short :=
    match o.short with
    | some c => ['-', c, ',', ' ']
    | none => List.replicate 4 ' '
  let value :=
    match o.role with
    | .single _ | .list _ => " <".toList ++ o.valueName.toList ++ ['>']
    | .count => "...".toList
    | _ => []
  ⟨"  ".toList ++ short ++ "--".toList ++ o.long.toList ++ value, o.about⟩

def ArgumentSpec.entry (a : ArgumentSpec) : Entry :=
  ⟨"  <".toList ++ a.name.toList ++ ['>'], a.about⟩

def sections (parts : List (List (List Char))) : String :=
  String.ofList ([['\n']].intercalate (parts.map fun lines => lines.map (· ++ ['\n']))).flatten

def titled (title : String) (entries : List Entry) : List (List (List Char)) :=
  if entries.isEmpty then [] else [title.toList :: entryLines entries]

def usageLine (words : List String) : List (List Char) :=
  ["Usage: ".toList ++ [' '].intercalate (words.map String.toList)]

namespace CommandSpec

def help (c : CommandSpec) : String :=
  let argument := c.argument.toList
  sections ([[c.about.toList],
    usageLine ([programName, c.name, "[OPTIONS]"] ++ argument.map fun a => "<" ++ a.name ++ ">")] ++
    titled "Arguments:" (argument.map ArgumentSpec.entry) ++
    titled "Options:" (c.options.map OptionSpec.entry))

end CommandSpec

def helpAbout : String := "Print this message or the help of the given subcommand(s)"

def helpHelp : String :=
  sections ([[helpAbout.toList], usageLine [programName, "help", "[COMMAND]..."]] ++
    titled "Arguments:" [⟨"  [COMMAND]...".toList, "Print help for the subcommand(s)"⟩])

def programHelp : String :=
  let commands := commandSpecs.map (fun c => (c.name, c.about)) ++ [("help", helpAbout)]
  sections ([["Computed-column formula tool".toList],
    usageLine [programName, "[OPTIONS]", "<COMMAND>"]] ++
    titled "Commands:" (commands.map fun (name, about) => ⟨"  ".toList ++ name.toList, about⟩) ++
    titled "Options:" (globalOptions.map OptionSpec.entry))

end ComputedColumns.CommandLine
