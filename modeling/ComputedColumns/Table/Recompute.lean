import ComputedColumns.Formula.Diagnostic
import ComputedColumns.Formula.Evaluation
import ComputedColumns.Table.Basic

namespace ComputedColumns

structure RecomputeOptions where
  updateTypes : Bool
  skipMarkers : Bool
  stopOnError : Bool
  deriving DecidableEq

def RecomputeOptions.default : RecomputeOptions := ⟨true, false, false⟩

structure RecomputeStats where
  records : Nat
  evaluations : Nat
  errors : Nat
  typeChanges : Nat
  deriving DecidableEq

namespace RecomputeStats

def zero : RecomputeStats := ⟨0, 0, 0, 0⟩

def add (a b : RecomputeStats) : RecomputeStats :=
  ⟨a.records + b.records, a.evaluations + b.evaluations, a.errors + b.errors,
    a.typeChanges + b.typeChanges⟩

end RecomputeStats

/-- What a formula gives for one record: a cell with its type, or the marker of an error. A text that
begins as a marker does counts as one. -/
inductive CellResult where
  | marker (text : String)
  | stored (s : Stored)
  deriving DecidableEq

namespace CellResult

def ofValue (v : Value) : CellResult :=
  if v.isErrorMarker then marker v.display else stored v.stored

def ofFormula (formula : String) (env : Environment) : CellResult := ofValue (evaluate formula env)

end CellResult

def markedProblem (marker : String) : String :=
  if errorMark.toList.isPrefixOf marker.toList then
    String.ofList (marker.toList.drop errorMark.length)
  else marker

structure Recomputation where
  table : Table
  record : Record
  stats : RecomputeStats
  deriving DecidableEq

namespace Recomputation

def count (run : Recomputation) (stats : RecomputeStats) : Recomputation :=
  { run with stats := run.stats.add stats }

def store (run : Recomputation) (index : Nat) (text : String) : Recomputation :=
  { run with record := run.record.put index (some text) }

def declare (run : Recomputation) (index : Nat) (type : ColumnType) : Recomputation :=
  -- Only a different type counts as a change.
  if (run.table.column? index).any (·.type ≠ type) then
    { run with table := run.table.modify index ({ · with type }) }.count ⟨0, 0, 0, 1⟩
  else run

def accept (options : RecomputeOptions) (run : Recomputation) (index : Nat) (s : Stored) :
    Recomputation :=
  let run := (run.count ⟨0, 1, 0, 0⟩).store index s.text
  if options.updateTypes then run.declare index s.type else run

/-- A marker is stored unless markers are skipped, and never changes a type. -/
def mark (options : RecomputeOptions) (run : Recomputation) (index : Nat) (text : String) :
    Recomputation :=
  let run := run.count ⟨0, 1, 1, 0⟩
  if options.skipMarkers then run else run.store index text

/-- Computes columns in order. With `stopOnError` the first marker ends it. -/
def advance (options : RecomputeOptions) (env : Environment) (run : Recomputation) :
    List Computation → Recomputation × Option TableError
  | [] => (run, none)
  | c :: rest =>
    match CellResult.ofFormula c.formula env with
    | .stored s => advance options env (run.accept options c.index s) rest
    | .marker text =>
      if options.stopOnError then (run, some (.formula c.name (markedProblem text)))
      else advance options env (run.mark options c.index text) rest

end Recomputation

namespace Table

/-- Recomputes one record, grown to the width of the table. All formulas see the cells as they were
before. -/
def recompute (options : RecomputeOptions) (t : Table) (r : Record) :
    Recomputation × Option TableError :=
  if t.width < r.width then (⟨t, r, .zero⟩, some (.recordWidth t.width r.width))
  else
    let grown := r.resize t.width
    Recomputation.advance options (t.environment grown) ⟨t, grown, ⟨1, 0, 0, 0⟩⟩ t.computations

structure BatchResult where
  table : Table
  records : List Record
  outcome : Except TableError RecomputeStats

def recomputeAll (options : RecomputeOptions) (t : Table) : List Record → BatchResult
  | [] => ⟨t, [], .ok .zero⟩
  | r :: rest =>
    match t.recompute options r with
    | (run, some e) => ⟨run.table, run.record :: rest, .error e⟩
    | (run, none) =>
      let others := recomputeAll options run.table rest
      ⟨others.table, run.record :: others.records, others.outcome.map run.stats.add⟩

def checkFormulas (t : Table) : List (Nat × Diagnostic) :=
  let known := t.sources.map (·.1.name)
  t.computations.flatMap fun c => (checkFormula c.formula known).map (c.index, ·)

end Table

end ComputedColumns
