import ComputedColumns.Pattern.Blank
import ComputedColumns.Pattern.Node
import ComputedColumns.Text.Numeral
import ComputedColumns.Unicode.Ranges

namespace ComputedColumns.Pattern

open Text Unicode

inductive Primitive where
  | literal (c : Char) (isByte : Bool)
  | cls (item : ClassItem)
  | assertion (a : Assertion)
  | dot

def isMeta (c : Char) : Bool :=
  ['\\', '.', '+', '*', '?', '(', ')', '|', '[', ']', '{', '}', '^', '$', '#', '&', '-', '~'].contains c

def isLetter (c : Char) : Bool := ('A' ≤ c && c ≤ 'Z') || ('a' ≤ c && c ≤ 'z')

def isHexDigit (c : Char) : Bool :=
  isDigit c || ('A' ≤ c && c ≤ 'F') || ('a' ≤ c && c ≤ 'f')

def isEscapable (c : Char) : Bool :=
  isMeta c || (c.toNat ≤ 0x7F && !isDigit c && !isLetter c && c ≠ '<' && c ≠ '>')

def scalar? (n : Nat) : Option Char := if n.isValidChar then some (Char.ofNat n) else none

def fixedHex (verbose : Bool) : Nat → Nat → List Char → Option (Nat × List Char)
  | 0, value, cs => some (value, cs)
  | count + 1, value, c :: cs =>
    if isHexDigit c then
      fixedHex verbose count (16 * value + Ranges.hexValue c) (skipBlanks verbose cs)
    else none
  | _ + 1, _, [] => none

/-- Two, four or eight digits, or any number of them in braces. Two digits alone name a byte. -/
def hexEscape (verbose : Bool) (digits : Nat) (cs : List Char) : Option (Primitive × List Char) :=
  match skipBlanks verbose cs with
  | '{' :: rest =>
    match takeRun verbose isHexDigit rest.length (skipBlanks verbose rest) with
    | (d :: ds, '}' :: after) =>
      (scalar? (Ranges.ofHexDigits (d :: ds))).map fun c =>
        (.literal c false, skipBlanks verbose after)
    | _ => none
  | start => do
    let (value, after) ← fixedHex verbose digits 0 start
    let c ← scalar? value
    some (.literal c (digits == 2), after)

def splitAtFirst (separator : List Char) : List Char → Option (List Char × List Char)
  | [] => none
  | c :: cs =>
    if separator.isPrefixOf (c :: cs) then some ([], (c :: cs).drop separator.length)
    else (splitAtFirst separator cs).map fun (before, after) => (c :: before, after)

def familySigns : List (List Char) := [['!', '='], [':'], ['=']]

def propertyQuery (name : List Char) : PropertyQuery :=
  match familySigns.findSome? (splitAtFirst · name) with
  | some (family, value) => .valued (String.ofList family) (String.ofList value)
  | none => .named (String.ofList name)

def propertyEscape (verbose negated : Bool) (cs : List Char) : Option (Primitive × List Char) :=
  match skipBlanks verbose cs with
  | [] | '\\' :: _ => none
  | '{' :: rest =>
    match takeRun verbose (· ≠ '}') rest.length (skipBlanks verbose rest) with
    | (name, '}' :: after) => some (.cls (.property (propertyQuery name) negated), after)
    | _ => none
  | c :: rest => some (.cls (.property (.named (String.singleton c)) negated), skipBlanks verbose rest)

def boundaryNamed? (name : String) : Option Assertion :=
  match name with
  | "start" => some .wordStart
  | "end" => some .wordEnd
  | "start-half" => some .wordStartHalf
  | "end-half" => some .wordEndHalf
  | _ => none

/-- A brace after a word boundary names a kind of it if a letter or a minus sign follows; otherwise
it is left for a repetition. -/
def boundaryEscape (verbose : Bool) (cs : List Char) : Option (Primitive × List Char) :=
  match cs with
  | '{' :: rest =>
    let inner := skipBlanks verbose rest
    match takeRun verbose (fun c => isLetter c || c = '-') inner.length inner with
    | ([], []) => none
    | ([], _) => some (.assertion .wordBoundary, cs)
    | (name, '}' :: after) => (boundaryNamed? (String.ofList name)).map fun a => (.assertion a, after)
    | _ => none
  | _ => some (.assertion .wordBoundary, cs)

/-- What stands behind a backslash. Digits would refer back to a group and are refused. -/
def escape (verbose : Bool) : List Char → Option (Primitive × List Char)
  | [] => none
  | c :: cs =>
    match c with
    | 'x' => hexEscape verbose 2 cs
    | 'u' => hexEscape verbose 4 cs
    | 'U' => hexEscape verbose 8 cs
    | 'p' => propertyEscape verbose false cs
    | 'P' => propertyEscape verbose true cs
    | 'd' => some (.cls (.letter .digit false), cs)
    | 'D' => some (.cls (.letter .digit true), cs)
    | 's' => some (.cls (.letter .space false), cs)
    | 'S' => some (.cls (.letter .space true), cs)
    | 'w' => some (.cls (.letter .word false), cs)
    | 'W' => some (.cls (.letter .word true), cs)
    | 'a' => some (.literal '\x07' false, cs)
    | 'f' => some (.literal '\x0C' false, cs)
    | 't' => some (.literal '\t' false, cs)
    | 'n' => some (.literal '\n' false, cs)
    | 'r' => some (.literal '\r' false, cs)
    | 'v' => some (.literal '\x0B' false, cs)
    | 'A' => some (.assertion .textStart, cs)
    | 'z' => some (.assertion .textEnd, cs)
    | 'b' => boundaryEscape verbose cs
    | 'B' => some (.assertion .notWordBoundary, cs)
    | '<' => some (.assertion .wordStart, cs)
    | '>' => some (.assertion .wordEnd, cs)
    | _ => if isEscapable c then some (.literal c false, cs) else none

end ComputedColumns.Pattern
