import ComputedColumns.Unicode.Property
import ComputedColumns.Unicode.ScriptTable
import ComputedColumns.Unicode.SharedTable

namespace ComputedColumns.Unicode

def script? (name : String) : Option Ranges := listed? scriptTable name

def sharedCharacters : Ranges := .canonical (sharedTable.flatMap fun (_, s) => Ranges.ofHex s)

/-- A script is written with its own characters and with those that it shares. The characters that
belong to no script alone are left with those that none lays claim to. -/
def scriptExtension? (name : String) : Option Ranges :=
  (script? name).map fun own =>
    if ["common", "zyyy", "inherited", "zinh", "qaai"].contains name then own.diff sharedCharacters
    else own.union ((listed? sharedTable name).getD [])

end ComputedColumns.Unicode
