import ComputedColumns.CommandLine.Run

namespace ComputedColumns.CommandLine

def systemMessage (words : String) (code : UInt32) : String :=
  words ++ " (os error " ++ Nat.repr code.toNat ++ ")"

def fileError : IO.Error → FileError
  | .noFileOrDirectory .. => .notFound
  | .permissionDenied _ code words | .inappropriateType _ code words
  | .resourceExhausted _ code words | .invalidArgument _ code words
  | .alreadyExists _ code words | .noSuchThing _ code words
  | .otherError code words => .other (systemMessage words code)
  | e => .other (toString e)

def readInput (path : String) : IO (Except FileError Content) := do
  match ← (IO.FS.Handle.mk path .read).toBaseIO with
  | .error e => return .error (fileError e)
  | .ok handle =>
    match ← handle.readBinToEnd.toBaseIO with
    | .error e => return .ok ⟨"", some (fileError e).message⟩
    | .ok bytes => return .ok (.ofBytes bytes)

def inputOf (arguments : List String) : IO (Except FileError Content) :=
  match Request.read arguments with
  | .run (.recompute r) => readInput r.input
  | _ => return .error .notFound

def emit (r : Report) : IO UInt32 := do
  IO.print r.stdout
  IO.eprint r.stderr
  return r.exit.toUInt32

def runProgram (arguments : List String) : IO UInt32 := do
  let input ← inputOf arguments
  let report := run arguments ⟨fun _ => input, fun _ => none⟩
  match report.written with
  | none => emit report
  | some (path, text) =>
    match ← (IO.FS.writeFile path text).toBaseIO with
    | .ok () => emit report
    | .error e => emit (run arguments ⟨fun _ => input, fun _ => some (fileError e)⟩)

end ComputedColumns.CommandLine

def main (arguments : List String) : IO UInt32 := ComputedColumns.CommandLine.runProgram arguments
