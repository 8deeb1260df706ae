import ComputedColumns.CommandLine.Command
import ComputedColumns.CommandLine.Files
import ComputedColumns.CommandLine.Report
import ComputedColumns.Csv.Reader
import ComputedColumns.Csv.Writer
import ComputedColumns.Table.Recompute
import ComputedColumns.Text.Quoted

namespace ComputedColumns.CommandLine

abbrev TypedNames := List (String × ColumnType)

def declaredTypes : List Assignment → Except Failure TypedNames
  | [] => .ok []
  | (name, typeName) :: rest =>
    match ColumnType.read typeName with
    | .ok type => (declaredTypes rest).map ((name, type) :: ·)
    | .error e => .error ⟨"Invalid type for column '" ++ name ++ "'", some e.message⟩

def typeOf (types : TypedNames) (name : String) : ColumnType := (types.lookup name).getD .text

def checkTypedNames (t : Table) : TypedNames → Except Failure Unit
  | [] => .ok ()
  | (name, _) :: rest =>
    match t.findColumn name with
    | .ok _ => checkTypedNames t rest
    | .error e => .error ⟨"Invalid --type " ++ name, some e.message⟩

def sourceTable (types : TypedNames) (names : List String) : Except Failure Table := do
  let t : Table := ⟨"", names.map fun name => .source name (typeOf types name)⟩
  checkTypedNames t types
  .ok t

def resultText (json : Bool) (v : Value) : String :=
  if json then
    "\x7b\"error\":" ++ (if v.isErrorMarker then "true" else "false") ++
      ",\"type\":" ++ Text.jsonString v.columnType.name ++
      ",\"value\":" ++ Text.jsonString v.storedText ++ "\x7d\n"
  else v.storedText ++ "\t" ++ v.columnType.name ++ "\n"

def evalResult (r : EvalRequest) : Except Failure Value := do
  let types ← declaredTypes r.types
  let t ← sourceTable types (r.values.map (·.1))
  .ok (evaluate r.formula (t.environment ⟨r.values.map fun (_, v) => some v⟩))

def eval (r : EvalRequest) : Report :=
  match evalResult r with
  | .ok v => .print v.isErrorMarker (resultText r.json v)
  | .error f => f.report ""

def check (r : CheckRequest) : Report :=
  match checkFormula r.formula r.columns with
  | [] => .print false "OK\n"
  | problems => .print true (String.join (problems.map fun d => d.message ++ "\n"))

def leftAligned (width : Nat) (s : String) : String :=
  s ++ String.ofList (List.replicate (width - s.length) ' ')

def functionLine (f : Function) : String :=
  leftAligned 10 f.name ++ " " ++ leftAligned 12 f.arity.describe ++ " " ++
    leftAligned 12 f.category.name ++ " " ++ f.signature ++ "\n"

def listFunctions : Report := .print false (String.join (Function.all.map functionLine))

def readSheet (files : Files) (input : String) : Except Failure Csv.Sheet :=
  match files.read input with
  | .error e => .error ⟨"Failed to open '" ++ input ++ "'", some e.message⟩
  | .ok content =>
    match Csv.read content.text content.problem with
    | .ok sheet => .ok sheet
    | .error problem => .error ⟨"Failed to read header of '" ++ input ++ "'", some problem⟩

def sheetRecords (sheet : Csv.Sheet) : Except Failure (List Record) :=
  match sheet.body with
  | .ok rows => .ok (rows.map fun row => ⟨row.map some⟩)
  | .error e => .error ⟨"Failed to read row " ++ Nat.repr e.number, some e.message⟩

structure Recomputed where
  table : Table
  records : List Record
  stats : RecomputeStats

def recomputeSheet (r : RecomputeRequest) (types : TypedNames) (sheet : Csv.Sheet) :
    Except Failure Recomputed := do
  -- The header and the declared types are checked before the rows are read.
  let sources ← sourceTable types sheet.header
  let t := r.computed.foldl (fun t (name, formula) => t.addColumn (.computed name formula)) sources
  let records ← sheetRecords sheet
  let batch := t.recomputeAll ⟨true, false, r.strict⟩ records
  match batch.outcome with
  | .ok stats => .ok ⟨batch.table, batch.records, stats⟩
  | .error e => .error ⟨"Failed to recompute", some e.message⟩

def recomputed (r : RecomputeRequest) (files : Files) : Except Failure Recomputed := do
  if r.computed.isEmpty then
    .error ⟨"Nothing to compute: pass at least one --computed NAME=FORMULA", none⟩
  let types ← declaredTypes r.types
  let sheet ← readSheet files r.input
  recomputeSheet r types sheet

namespace Recomputed

def csv (result : Recomputed) : String :=
  Csv.write (result.table.columns.map (·.name) ::
    result.records.map fun record => record.cells.map (·.getD ""))

def summary (result : Recomputed) : String :=
  "Computed " ++ Nat.repr result.stats.evaluations ++ " values over " ++
    Nat.repr result.stats.records ++ " rows (" ++ Nat.repr result.stats.errors ++ " errors)\n" ++
    String.join ((result.table.columns.filter (·.formula.isSome)).map fun c =>
      "  " ++ c.name ++ ": " ++ c.type.name ++ "\n")

def savedNote (result : Recomputed) (path : String) : String :=
  "Wrote " ++ Nat.repr result.records.length ++ " rows to '" ++ path ++ "'\n"

end Recomputed

def recompute (r : RecomputeRequest) (files : Files) : Report :=
  match recomputed r files with
  | .error f => f.report ""
  | .ok result =>
    let exit := Report.failureCode (0 < result.stats.errors)
    match r.output with
    | none => ⟨exit, result.csv, result.summary, none⟩
    | some path =>
      match files.obstacle path with
      | some e => Failure.report ⟨"Failed to create '" ++ path ++ "'", some e.message⟩ result.summary
      | none => ⟨exit, "", result.summary ++ result.savedNote path, some (path, result.csv)⟩

def Command.run (files : Files) : Command → Report
  | eval r => CommandLine.eval r
  | check r => CommandLine.check r
  | functions => listFunctions
  | recompute r => CommandLine.recompute r files

def run (arguments : List String) (files : Files) : Report :=
  match Request.read arguments with
  | .run command => command.run files
  | .print text => .print false text
  | .refuse e => ⟨2, "", e.message ++ "\n", none⟩

end ComputedColumns.CommandLine
