import ComputedColumns.Text.Blank

namespace ComputedColumns.Pattern

open Text

def skipBlanksFrom (inComment : Bool) : List Char → List Char
  | [] => []
  | c :: cs =>
    if inComment then skipBlanksFrom (c ≠ '\n') cs
    else if isBlank c then skipBlanksFrom false cs
    else if c = '#' then skipBlanksFrom true cs
    else c :: cs

def skipBlanks (verbose : Bool) (cs : List Char) : List Char :=
  if verbose then skipBlanksFrom false cs else cs

def takeRun (verbose : Bool) (test : Char → Bool) : Nat → List Char → List Char × List Char
  | 0, cs => ([], cs)
  | _ + 1, [] => ([], [])
  | fuel + 1, c :: cs =>
    if test c then
      let (run, rest) := takeRun verbose test fuel (skipBlanks verbose cs)
      (c :: run, rest)
    else ([], c :: cs)

/-- The character that decides whether a minus sign after an item starts a range: the one that comes
next, or in a verbose pattern the next one that is not blank, also inside a comment. -/
def peekPast (verbose : Bool) (cs : List Char) : Option Char :=
  if verbose then
    let after :=
      match cs.dropWhile isBlank with
      | '#' :: comment => comment.dropWhile isBlank
      | rest => rest
    after.head? <|> cs.head?
  else cs.head?

end ComputedColumns.Pattern
