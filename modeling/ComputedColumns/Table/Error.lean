import ComputedColumns.Table.Validation

namespace ComputedColumns

inductive TableError where
  | unknownColumnType (name : String)
  | columnOutOfBounds (index count : Nat)
  | columnNotFound (name : String)
  | recordWidth (expected actual : Nat)
  | invalidValue (column : String) (cause : Rejection)
  | formula (column problem : String)
  deriving DecidableEq

def TableError.message : TableError → String
  | unknownColumnType name => "Unknown column type: " ++ name
  | columnOutOfBounds index count =>
    "Column index " ++ Nat.repr index ++ " out of bounds (count: " ++ Nat.repr count ++ ")"
  | columnNotFound name => "Column not found: " ++ name
  | recordWidth expected actual =>
    "Record has " ++ Nat.repr actual ++ " values, table has " ++ Nat.repr expected ++ " columns"
  | invalidValue column cause => "Invalid value for column " ++ column ++ ": " ++ cause.message
  | formula column problem => "Formula error: " ++ column ++ ": " ++ problem

def ColumnType.read (s : String) : Except TableError ColumnType :=
  match ofName? s with
  | some type => .ok type
  | none => .error (.unknownColumnType s)

end ComputedColumns
