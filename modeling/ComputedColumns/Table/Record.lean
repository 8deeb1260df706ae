import ComputedColumns.Table.Error

namespace ComputedColumns

/-- A cell without text is empty. -/
structure Record where
  cells : List (Option String)
  deriving DecidableEq

namespace Record

def width (r : Record) : Nat := r.cells.length

def blank (width : Nat) : Record := ⟨List.replicate width none⟩

def get? (r : Record) (index : Nat) : Option String := r.cells[index]?.join

def put (r : Record) (index : Nat) (cell : Option String) : Record := ⟨r.cells.set index cell⟩

def tryPut (r : Record) (index : Nat) (cell : Option String) : Except TableError Record :=
  if index < r.width then .ok (r.put index cell) else .error (.columnOutOfBounds index r.width)

def set (r : Record) (index : Nat) (s : String) : Except TableError Record := r.tryPut index (some s)

def clear (r : Record) (index : Nat) : Except TableError Record := r.tryPut index none

def resize (r : Record) (width : Nat) : Record :=
  ⟨r.cells ++ List.replicate (width - r.width) none⟩

end Record

end ComputedColumns
