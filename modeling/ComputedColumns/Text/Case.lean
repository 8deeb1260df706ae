import ComputedColumns.Unicode.CaseMapping
import ComputedColumns.Unicode.Newer

namespace ComputedColumns.Text

open Unicode

def upper (cs : List Char) : List Char := cs.flatMap upperChar

def meetsCased (cs : List Char) : Bool :=
  match cs.dropWhile (newerCaseIgnorable.holds ·.toNat) with
  | c :: _ => newerCased.holds c.toNat
  | [] => false

/-- A capital sigma at the end of a word, after at least one letter, becomes the final form. -/
def lowerSigma (before after : List Char) : Char :=
  if meetsCased before && !meetsCased after then 'ς' else 'σ'

def lowerAfter (before : List Char) : List Char → List Char
  | [] => []
  | c :: cs =>
    (if c = 'Σ' then [lowerSigma before cs] else lowerChar c) ++ lowerAfter (c :: before) cs

def lower (cs : List Char) : List Char := lowerAfter [] cs

end ComputedColumns.Text
