namespace ComputedColumns.CommandLine

structure Report where
  exit : Nat
  stdout : String
  stderr : String
  written : Option (String × String)
  deriving DecidableEq

namespace Report

def failureCode (failed : Bool) : Nat := if failed then 1 else 0

def print (failed : Bool) (text : String) : Report := ⟨failureCode failed, text, "", none⟩

end Report

def indented (width : Nat) (text : String) : String :=
  String.ofList (text.toList.flatMap fun c =>
    if c = '\n' then '\n' :: List.replicate width ' ' else [c])

structure Failure where
  context : String
  cause : Option String
  deriving DecidableEq

namespace Failure

def causeText (cause : String) : String := "\nCaused by:\n    " ++ indented 4 cause ++ "\n"

def text (f : Failure) : String :=
  "Error: " ++ f.context ++ "\n" ++ (f.cause.map causeText).getD ""

def report (f : Failure) (progress : String) : Report := ⟨1, "", progress ++ f.text, none⟩

end Failure

end ComputedColumns.CommandLine
