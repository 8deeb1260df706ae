import ComputedColumns.Pattern.Footprint
import ComputedColumns.Pattern.Parser

namespace ComputedColumns.Pattern

def expression? (cs : List Char) : Option (Regex Atom) :=
  (parse? cs).bind fun node => (node.meaning? .default).map (·.1)

def anchored (cs : List Char) : List Char := "^(?:".toList ++ cs ++ ")$".toList

/-- What the syntax and the meaning of patterns leave open: whether an expression keeps within a limit on
its size in bytes, what is said of a text that cannot be used under that limit, and the nanoseconds that
matching takes. -/
structure Engine where
  fits : Nat → Regex Atom → Bool
  report : Nat → List Char → Option String
  elapsed : Regex Atom → List Char → Nat

namespace Engine

def compile (engine : Engine) (sizeLimit : Nat) (cs : List Char) :
    Except (Option String) (Regex Atom) :=
  match expression? cs with
  | none => .error (engine.report sizeLimit cs)
  | some r => if engine.fits sizeLimit r then .ok r else .error (engine.report sizeLimit cs)

def byFootprint : Engine where
  fits sizeLimit r := programSize .forward r ≤ sizeLimit && programSize .backward r ≤ sizeLimit
  report _ _ := none
  elapsed _ _ := 0

end Engine

end ComputedColumns.Pattern
