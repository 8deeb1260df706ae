import ComputedColumns.Text.Numeral

namespace ComputedColumns.Csv

structure Position where
  line : Nat
  byte : Nat
  deriving DecidableEq

def Position.start : Position := ⟨1, 0⟩

def Position.past (p : Position) (c : Char) : Position :=
  ⟨if c = '\n' then p.line + 1 else p.line, p.byte + c.utf8Size⟩

/-- A row has the position where the one before it ended. -/
structure Row where
  fields : List String
  position : Position
  deriving DecidableEq

inductive State where
  | between
  | fieldStart
  | bare
  | quoted
  | quoteSeen
  deriving DecidableEq

inductive Move where
  | keep (next : State)
  | drop (next : State)
  | endField
  | endRow
  deriving DecidableEq

def endsLine (c : Char) : Bool := c = '\n' || c = '\r'

def unquotedMove (c : Char) : Move :=
  if c = ',' then .endField else if endsLine c then .endRow else .keep .bare

def move (state : State) (c : Char) : Move :=
  match state with
  | .between => if endsLine c then .drop .between else if c = '"' then .drop .quoted else unquotedMove c
  | .fieldStart => if c = '"' then .drop .quoted else unquotedMove c
  | .bare => unquotedMove c
  | .quoted => if c = '"' then .drop .quoteSeen else .keep .quoted
  | .quoteSeen => if c = '"' then .keep .quoted else unquotedMove c

/-- A row being read: where it began, its fields and the characters of the next one, the last ones
first. -/
structure Draft where
  position : Position
  fields : List String
  field : List Char

namespace Draft

def fresh (position : Position) : Draft := ⟨position, [], []⟩

def keep (d : Draft) (c : Char) : Draft := { d with field := c :: d.field }

def endField (d : Draft) : Draft :=
  { d with fields := String.ofList d.field.reverse :: d.fields, field := [] }

def row (d : Draft) : Row := ⟨d.endField.fields.reverse, d.position⟩

end Draft

/-- The rows of the rest of a text. Where the text is cut off, the last row is not one yet. -/
def rowsFrom (cut : Bool) (state : State) (position : Position) (draft : Draft) : List Char → List Row
  | [] => if state = .between || cut then [] else [draft.row]
  | c :: cs =>
    let after := position.past c
    match move state c with
    | .keep next => rowsFrom cut next after (draft.keep c) cs
    | .drop next => rowsFrom cut next after draft cs
    | .endField => rowsFrom cut .fieldStart after draft.endField cs
    | .endRow => draft.row :: rowsFrom cut .between after (.fresh after) cs

/-- A byte order mark in front is passed over. -/
def rows (cut : Bool) (cs : List Char) : List Row :=
  match cs with
  | '\uFEFF' :: rest =>
    rowsFrom cut .between (Position.start.past '\uFEFF') (.fresh (Position.start.past '\uFEFF')) rest
  | _ => rowsFrom cut .between .start (.fresh .start) cs

structure WidthError where
  number : Nat
  position : Position
  found : Nat
  expected : Nat
  deriving DecidableEq

def WidthError.message (e : WidthError) : String :=
  "CSV error: record " ++ Nat.repr e.number ++ " (line: " ++ Nat.repr e.position.line ++ ", byte: " ++
    Nat.repr e.position.byte ++ "): found record with " ++ Nat.repr e.found ++
    " fields, but the previous record has " ++ Nat.repr e.expected ++ " fields"

inductive RowError where
  | uneven (e : WidthError)
  | unreadable (number : Nat) (problem : String)
  deriving DecidableEq

namespace RowError

def number : RowError → Nat
  | uneven e => e.number
  | unreadable number _ => number

def message : RowError → String
  | uneven e => e.message
  | unreadable _ problem => problem

end RowError

structure Sheet where
  header : List String
  body : Except RowError (List (List String))

/-- The fields of rows, numbered from `number`, that all have one width. The problem is met behind the
last of them. -/
def bodyFrom (width : Nat) (problem : Option String) (number : Nat) :
    List Row → Except RowError (List (List String))
  | [] =>
    -- The problem is met in the row behind the last one that could be read.
    match problem with
    | none => .ok []
    | some problem => .error (.unreadable number problem)
  | r :: rest =>
    if r.fields.length = width then
      (bodyFrom width problem (number + 1) rest).map (r.fields :: ·)
    else .error (.uneven ⟨number, r.position, r.fields.length, width⟩)

def read (text : String) (problem : Option String) : Except String Sheet :=
  match rows problem.isSome text.toList, problem with
  | [], none => .ok ⟨[], .ok []⟩
  | [], some problem => .error problem
  | header :: rest, problem => .ok ⟨header.fields, bodyFrom header.fields.length problem 1 rest⟩

end ComputedColumns.Csv
