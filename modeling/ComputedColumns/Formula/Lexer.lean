import ComputedColumns.Binary64.Reader
import ComputedColumns.Formula.SyntaxError
import ComputedColumns.Text.Blank

namespace ComputedColumns.Lexer

open Text

/-- What follows the name of a reference: an index in brackets, if a digit stands behind the bracket. -/
def scanIndex (name : List Char) : List Char → Except SyntaxError (Token × List Char)
  | '[' :: d :: cs =>
    if isDigit d then
      let ds := d :: cs.takeWhile isDigit
      match cs.dropWhile isDigit with
      | ']' :: rest =>
        match readIndex ds with
        | some i => .ok (.reference ⟨String.ofList name, some i⟩, rest)
        | none => .error (.invalidIndex (String.ofList ds))
      | _ => .error .unterminatedIndex
    else .ok (.reference ⟨String.ofList name, none⟩, '[' :: d :: cs)
  | cs => .ok (.reference ⟨String.ofList name, none⟩, cs)

def scanReference (cs : List Char) : Except SyntaxError (Token × List Char) :=
  match cs.dropWhile (· ≠ '}') with
  | [] => .error .unterminatedReference
  | _ :: rest => scanIndex (cs.takeWhile (· ≠ '}')) rest

def scanText (cs : List Char) : Except SyntaxError (Token × List Char) :=
  match cs.dropWhile (· ≠ '"') with
  | [] => .error .unterminatedText
  | _ :: rest => .ok (.text (String.ofList (cs.takeWhile (· ≠ '"'))), rest)

def inNumber (c : Char) : Bool := isDigit c || c == '.'

/-- Digits and points as one number: a float if there is a point or the integer is too large. -/
def readNumber (cs : List Char) : Option Number :=
  if cs.contains '.' then (Binary64.read cs).map .float
  else
    match readInt64 cs with
    | some n => some (.int n)
    | none => (Binary64.read cs).map .float

def scanNumber (cs : List Char) : Except SyntaxError (Token × List Char) :=
  match readNumber (cs.takeWhile inNumber) with
  | some n => .ok (.number n, cs.dropWhile inNumber)
  | none => .error (.invalidNumber (String.ofList (cs.takeWhile inNumber)))

def startsNumber (c : Char) (cs : List Char) : Bool :=
  isDigit c || (c == '.' && match cs with
    | d :: _ => isDigit d
    | [] => false)

def startsName (c : Char) : Bool := c.isAlpha || c == '_'

def inName (c : Char) : Bool := c.isAlphanum || c == '_'

def nameToken (name : String) : Token :=
  if name = "TRUE" then .boolean true
  else if name = "FALSE" then .boolean false
  else .function name

def scanName (cs : List Char) : Token × List Char :=
  (nameToken (String.ofList ((cs.takeWhile inName).map Char.toUpper)), cs.dropWhile inName)

def symbol? : Char → List Char → Option (Symbol × List Char)
  | '!', '=' :: cs => some (.notEqual, cs)
  | '<', '=' :: cs => some (.lessEqual, cs)
  | '>', '=' :: cs => some (.greaterEqual, cs)
  | '&', cs => some (.ampersand, cs)
  | '+', cs => some (.plus, cs)
  | '-', cs => some (.minus, cs)
  | '*', cs => some (.times, cs)
  | '/', cs => some (.slash, cs)
  | '=', cs => some (.equal, cs)
  | '<', cs => some (.less, cs)
  | '>', cs => some (.greater, cs)
  | '(', cs => some (.leftParen, cs)
  | ')', cs => some (.rightParen, cs)
  | ',', cs => some (.comma, cs)
  | _, _ => none

def scan (c : Char) (cs : List Char) : Except SyntaxError (Token × List Char) :=
  if c = '{' then scanReference cs
  else if c = '"' then scanText cs
  else if startsNumber c cs then scanNumber (c :: cs)
  else
    match symbol? c cs with
    | some (s, rest) => .ok (.symbol s, rest)
    | none => if startsName c then .ok (scanName (c :: cs)) else .error (.unexpectedCharacter c)

theorem length_dropWhile_le (p : Char → Bool) (cs : List Char) :
    (cs.dropWhile p).length ≤ cs.length :=
  (List.dropWhile_suffix p).sublist.length_le

theorem scanIndex_length {name cs rest : List Char} {t : Token}
    (h : scanIndex name cs = .ok (t, rest)) : rest.length ≤ cs.length := by
  unfold scanIndex at h
  split at h
  · rename_i d cs
    have bound := length_dropWhile_le isDigit cs
    split at h
    · dsimp only at h
      split at h
      · rename_i tail drop
        rw [drop] at bound
        split at h
        · cases h
          simp only [List.length_cons] at *
          omega
        · cases h
      · cases h
    · cases h
      exact Nat.le_refl _
  · cases h
    exact Nat.le_refl _

theorem scan_length {c : Char} {cs rest : List Char} {t : Token}
    (h : scan c cs = .ok (t, rest)) : rest.length ≤ cs.length := by
  unfold scan at h
  split at h
  · unfold scanReference at h
    have bound := length_dropWhile_le (· ≠ '}') cs
    split at h
    · cases h
    · rename_i tail drop
      rw [drop] at bound
      have := scanIndex_length h
      simp only [List.length_cons] at bound
      omega
  split at h
  · unfold scanText at h
    have bound := length_dropWhile_le (· ≠ '"') cs
    split at h
    · cases h
    · rename_i tail drop
      rw [drop] at bound
      cases h
      simp only [List.length_cons] at bound
      omega
  split at h
  · rename_i start
    unfold scanNumber at h
    split at h
    · cases h
      have first : inNumber c = true := by
        simp only [startsNumber, Bool.or_eq_true, Bool.and_eq_true] at start
        simp only [inNumber, Bool.or_eq_true]
        exact start.imp id (·.1)
      simpa [List.dropWhile_cons, first] using length_dropWhile_le inNumber cs
    · cases h
  split at h
  · rename_i s tail found
    cases h
    unfold symbol? at found
    split at found <;> cases found <;> simp
  · split at h
    · rename_i start
      cases h
      have first : inName c = true := by
        simp only [startsName, Bool.or_eq_true] at start
        simp only [inName, Bool.or_eq_true, Char.isAlphanum]
        exact start.imp Or.inl id
      simpa [scanName, List.dropWhile_cons, first] using length_dropWhile_le inName cs
    · cases h

set_option linter.unusedVariables false in
def tokensOf (cs : List Char) : Except SyntaxError (List Token) :=
  match skipped : trimStart cs with
  | [] => .ok []
  | c :: rest =>
    match scanned : scan c rest with
    | .error e => .error e
    | .ok (t, rest) => (tokensOf rest).map (t :: ·)
termination_by cs.length
decreasing_by
  have bound := length_dropWhile_le isBlank cs
  rw [show cs.dropWhile isBlank = _ from skipped] at bound
  have := scan_length scanned
  simp only [List.length_cons] at bound
  omega

end ComputedColumns.Lexer

namespace ComputedColumns

def tokenize (formula : String) : Except SyntaxError (List Token) := Lexer.tokensOf formula.toList

end ComputedColumns
