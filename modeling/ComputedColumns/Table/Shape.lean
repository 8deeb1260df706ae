import ComputedColumns.Pattern.Matching
import ComputedColumns.Text.Blank

namespace ComputedColumns

abbrev CharTest := Char → Bool

namespace CharTest

def isVisible : CharTest := fun c => !Text.isBlank c

def only (c : Char) : CharTest := (· == c)

/-- An ASCII letter in either case; `s` has a third form, the long one. -/
def letter (lower : Char) : CharTest := fun c =>
  c == lower || c == lower.toUpper || (lower == 's' && c == 'ſ')

end CharTest

open CharTest Regex

def mailShape : Regex CharTest :=
  let name : CharTest := fun c => isVisible c && c != '@'
  concat [many1 (step name), step (only '@'), many1 (step name), step (only '.'), many1 (step name)]

def notInHost : List Char := ['/', '$', '.', '?', '#']

def webShape : Regex CharTest :=
  concat [step (letter 'h'), step (letter 't'), step (letter 't'), step (letter 'p'),
    optional (step (letter 's')), step (only ':'), step (only '/'), step (only '/'),
    step fun c => isVisible c && !notInHost.contains c, many (step isVisible)]

def isMailAddress (cs : List Char) : Bool := mailShape.accepts Step.char cs

def isWebAddress (cs : List Char) : Bool := webShape.accepts Step.char cs

end ComputedColumns
