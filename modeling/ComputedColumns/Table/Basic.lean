import ComputedColumns.Formula.Environment
import ComputedColumns.Formula.Storage
import ComputedColumns.Table.Record

namespace ComputedColumns

structure Column where
  name : String
  type : ColumnType
  formula : Option String
  format : Option ValueFormat
  deriving DecidableEq

namespace Column

def computed (name formula : String) : Column := ⟨name, .text, some formula, none⟩

def source (name : String) (type : ColumnType) : Column := ⟨name, type, none, none⟩

def check (engine : Pattern.Engine) (options : ValidationOptions) (c : Column) (value : String) :
    Except Rejection Unit := do
  c.type.check value
  match c.format with
  | some format => format.checkWithin engine options value
  | none => .ok ()

end Column

structure Table where
  name : String
  columns : List Column
  deriving DecidableEq

structure Computation where
  index : Nat
  name : String
  formula : String
  deriving DecidableEq

namespace Table

def width (t : Table) : Nat := t.columns.length

def addColumn (t : Table) (c : Column) : Table := { t with columns := t.columns ++ [c] }

def column? (t : Table) (index : Nat) : Option Column := t.columns[index]?

def modify (t : Table) (index : Nat) (f : Column → Column) : Table :=
  { t with columns := t.columns.modify index f }

def tryModify (t : Table) (index : Nat) (f : Column → Column) : Except TableError Table :=
  if index < t.width then .ok (t.modify index f) else .error (.columnOutOfBounds index t.width)

def columnIndex? (t : Table) (name : String) : Option Nat := t.columns.findIdx? (·.name = name)

def findColumn (t : Table) (name : String) : Except TableError Nat :=
  match t.columnIndex? name with
  | some index => .ok index
  | none => .error (.columnNotFound name)

def computations (t : Table) : List Computation :=
  t.columns.zipIdx.filterMap fun (c, index) => c.formula.map (⟨index, c.name, ·⟩)

def sources (t : Table) : List (Column × Nat) := t.columns.zipIdx.filter (·.1.formula.isNone)

def newRecord (t : Table) : Record := .blank t.width

def environment (t : Table) (r : Record) : Environment :=
  .ofColumns (t.sources.map fun (c, index) => (c.name, .ofCell c.type (r.get? index)))

def validateColumns (engine : Pattern.Engine) (options : ValidationOptions) (r : Record) :
    List (Column × Nat) → Except TableError Unit
  | [] => .ok ()
  | (c, index) :: rest =>
    match c.check engine options ((r.get? index).getD "") with
    | .ok () => validateColumns engine options r rest
    | .error cause => .error (.invalidValue c.name cause)

/-- Only source columns are checked; an empty cell counts as empty text. -/
def validateWithin (engine : Pattern.Engine) (options : ValidationOptions) (t : Table) (r : Record) :
    Except TableError Unit :=
  if r.width = t.width then validateColumns engine options r t.sources
  else .error (.recordWidth t.width r.width)

def validate (t : Table) (r : Record) (lengthLimit : Nat) : Except TableError Unit :=
  t.validateWithin .byFootprint { ValidationOptions.default with lengthLimit } r

end Table

end ComputedColumns
