import ComputedColumns.Pattern.Escape

namespace ComputedColumns.Pattern

def asciiClassNamed? (name : String) : Option AsciiClass :=
  match name with
  | "alnum" => some .alnum
  | "alpha" => some .alpha
  | "ascii" => some .ascii
  | "blank" => some .blank
  | "cntrl" => some .cntrl
  | "digit" => some .digit
  | "graph" => some .graph
  | "lower" => some .lower
  | "print" => some .print
  | "punct" => some .punct
  | "space" => some .space
  | "upper" => some .upper
  | "word" => some .word
  | "xdigit" => some .xdigit
  | _ => none

def asciiClass? (cs : List Char) : Option (ClassItem × List Char) :=
  match cs with
  | ':' :: rest =>
    let (negated, start) :=
      match rest with
      | '^' :: after => (true, after)
      | _ => (false, rest)
    match start.dropWhile (· ≠ ':') with
    | ':' :: ']' :: after =>
      (asciiClassNamed? (String.ofList (start.takeWhile (· ≠ ':')))).map fun cls =>
        (.ascii cls negated, after)
    | _ => none
  | _ => none

def classPrimitive (verbose : Bool) : List Char → Option (Primitive × List Char)
  | [] => none
  | '\\' :: cs => escape verbose cs
  | c :: cs => some (.literal c false, cs)

def Primitive.classItem? : Primitive → Option ClassItem
  | literal c _ => some (.range c c)
  | cls item => some item
  | assertion _ | dot => none

def Primitive.char? : Primitive → Option Char
  | literal c _ => some c
  | _ => none

def classRange (verbose : Bool) (cs : List Char) : Option (ClassItem × List Char) := do
  let (first, rest) ← classPrimitive verbose cs
  match skipBlanks verbose rest with
  | [] => none
  | '-' :: after =>
    let next := peekPast verbose after
    if next = some ']' || next = some '-' then
      let item ← first.classItem?
      some (item, '-' :: after)
    else
      let (last, rest) ← classPrimitive verbose (skipBlanks verbose after)
      let low ← first.char?
      let high ← last.char?
      if low ≤ high then some (.range low high, rest) else none
  | after => do
    let item ← first.classItem?
    some (item, after)

def leadingMinus (verbose : Bool) : Nat → List Char → List ClassItem × List Char
  | fuel + 1, '-' :: cs =>
    let (items, rest) := leadingMinus verbose fuel (skipBlanks verbose cs)
    (.range '-' '-' :: items, rest)
  | _, cs => ([], cs)

def classStart (verbose : Bool) (cs : List Char) : Bool × List ClassItem × List Char :=
  let (negated, start) :=
    match skipBlanks verbose cs with
    | '^' :: rest => (true, skipBlanks verbose rest)
    | start => (false, start)
  match leadingMinus verbose start.length start with
  | ([], ']' :: rest) => (negated, [.range ']' ']'], skipBlanks verbose rest)
  | (items, rest) => (negated, items, rest)

abbrev Pending := Option (ClassItem × ClassOp)

def Pending.close (pending : Pending) (items : List ClassItem) : ClassItem :=
  let right := ClassItem.ofItems items.reverse
  match pending with
  | some (left, op) => .binary op left right
  | none => right

def classBody (verbose : Bool) :
    Nat → Pending → List ClassItem → List Char → Option (ClassItem × List Char)
  | 0, _, _, _ => none
  | fuel + 1, pending, items, cs =>
    match skipBlanks verbose cs with
    | [] => none
    | '[' :: rest =>
      match asciiClass? rest with
      | some (item, after) => classBody verbose fuel pending (item :: items) after
      | none =>
        let (negated, first, start) := classStart verbose rest
        match classBody verbose fuel none first.reverse start with
        | some (body, after) =>
          classBody verbose fuel pending (.bracketed body negated :: items) after
        | none => none
    | ']' :: rest => some (pending.close items, rest)
    | '&' :: '&' :: rest =>
      classBody verbose fuel (some (pending.close items, .intersection)) [] rest
    | '-' :: '-' :: rest =>
      classBody verbose fuel (some (pending.close items, .difference)) [] rest
    | '~' :: '~' :: rest =>
      classBody verbose fuel (some (pending.close items, .symmetricDifference)) [] rest
    | start =>
      match classRange verbose start with
      | some (item, after) => classBody verbose fuel pending (item :: items) after
      | none => none

def brackets (verbose : Bool) (cs : List Char) : Option (ClassItem × List Char) :=
  let (negated, first, start) := classStart verbose cs
  (classBody verbose (start.length + 1) none first.reverse start).map fun (body, after) =>
    (.bracketed body negated, after)

end ComputedColumns.Pattern
