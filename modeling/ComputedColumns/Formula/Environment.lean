import ComputedColumns.Formula.Reference
import ComputedColumns.Formula.Value

namespace ComputedColumns

structure Environment where
  entries : List (String × Value)

namespace Environment

def empty : Environment := ⟨[]⟩

def get? (env : Environment) (key : String) : Option Value := env.entries.lookup key

def put (key : String) (v : Value) : List (String × Value) → List (String × Value)
  | [] => [(key, v)]
  | (k, w) :: rest => if k = key then (key, v) :: rest else (k, w) :: put key v rest

def insert (env : Environment) (key : String) (v : Value) : Environment :=
  ⟨put key v env.entries⟩

def ofList (entries : List (String × Value)) : Environment :=
  entries.foldl (fun env (key, v) => env.insert key v) empty

def lookup (env : Environment) (r : Reference) : Value := (env.get? r.key).getD .nil

/-- Publishes columns after those named `earlier`: each under its name and its index among the columns
of that name, the first of a name under the bare name too. -/
def publish (env : Environment) (earlier : List String) : List (String × Value) → Environment
  | [] => env
  | (name, v) :: rest =>
    let index := earlier.count name
    let env := if index = 0 then env.insert name v else env
    publish (env.insert (Reference.key ⟨name, some index⟩) v) (name :: earlier) rest

def ofColumns (columns : List (String × Value)) : Environment := publish empty [] columns

end Environment

end ComputedColumns
