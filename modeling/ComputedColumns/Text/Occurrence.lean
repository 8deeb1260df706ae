import ComputedColumns.Text.Blank

namespace ComputedColumns.Text

/-- The pieces between the occurrences of a delimiter; `skip` characters of the one just found are
still to be passed over. -/
def piecesFrom (delimiter : List Char) : Nat → List Char → List (List Char)
  | _, [] => [[]]
  | skip + 1, _ :: cs => piecesFrom delimiter skip cs
  | 0, c :: cs =>
    if delimiter.isPrefixOf (c :: cs) then [] :: piecesFrom delimiter (delimiter.length - 1) cs
    else consHead c (piecesFrom delimiter 0 cs)

/-- An empty delimiter occurs before each character and at the end. -/
def pieces (delimiter text : List Char) : List (List Char) :=
  if delimiter.isEmpty then [] :: text.map ([·]) ++ [[]] else piecesFrom delimiter 0 text

def joinFirst (old new : List Char) : Nat → List (List Char) → List Char
  | _, [] => []
  | _, [piece] => piece
  | 0, piece :: rest => piece ++ old ++ joinFirst old new 0 rest
  | limit + 1, piece :: rest => piece ++ new ++ joinFirst old new limit rest

def replaceFirst (limit : Nat) (old new text : List Char) : List Char :=
  joinFirst old new limit (pieces old text)

def replaceAll (old new text : List Char) : List Char := new.intercalate (pieces old text)

def contains (needle : List Char) : List Char → Bool
  | [] => needle.isEmpty
  | c :: cs => needle.isPrefixOf (c :: cs) || contains needle cs

end ComputedColumns.Text
