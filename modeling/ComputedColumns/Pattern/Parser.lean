import ComputedColumns.Pattern.Brackets
import ComputedColumns.Unicode.Newer

namespace ComputedColumns.Pattern

open Text

structure Input where
  rest : List Char
  verbose : Bool
  names : List (List Char)

/-- The letters of a change of flags up to a colon or a closing parenthesis, which is not passed.
Each letter and the minus sign may occur once, and a letter must follow the minus sign. -/
def flagChange (change : FlagChange) (cleared dangling : Bool) :
    List Char → Option (FlagChange × List Char)
  | [] => none
  | c :: cs =>
    if c = ':' || c = ')' then if dangling then none else some (change, c :: cs)
    else if c = '-' then if cleared then none else flagChange change true true cs
    else
      match Flag.ofLetter? c with
      | some flag =>
        if change.mentions flag then none else flagChange (change.add cleared flag) cleared false cs
      | none => none

def isNameStart (c : Char) : Bool := c = '_' || Unicode.newerAlphabetic.holds c.toNat

def isNameChar (c : Char) : Bool :=
  c = '_' || c = '.' || c = '[' || c = ']' || Unicode.newerAlphanumeric.holds c.toNat

def groupName? (cs : List Char) : Option (List Char × List Char) :=
  match cs.takeWhile (· ≠ '>'), cs.dropWhile (· ≠ '>') with
  | c :: name, _ :: rest =>
    if isNameStart c && name.all isNameChar then some (c :: name, rest) else none
  | _, _ => none

inductive Opening where
  | change (change : FlagChange)
  | capture
  | scope (change : FlagChange)

namespace Opening

def flagChange : Opening → FlagChange
  | capture => .none
  | change c | scope c => c

def wrap (body : Node) : Opening → Node
  | scope c => .scope c body
  | _ => .capture body

end Opening

def namedGroup (input : Input) (cs : List Char) : Option (Opening × Input) :=
  match groupName? cs with
  | some (name, rest) =>
    if input.names.contains name then none
    else some (.capture, { input with rest, names := name :: input.names })
  | none => none

def flagGroup (input : Input) (cs : List Char) : Option (Opening × Input) :=
  match flagChange .none false false cs with
  | some (change, ')' :: rest) =>
    if change.isNone then none else some (.change change, { input with rest })
  | some (change, _ :: rest) => some (.scope change, { input with rest })
  | _ => none

/-- The beginning of a group behind its parenthesis. Groups that look ahead or behind are refused. -/
def opening (input : Input) (cs : List Char) : Option (Opening × Input) :=
  match skipBlanks input.verbose cs with
  | '?' :: '=' :: _ | '?' :: '!' :: _ | '?' :: '<' :: '=' :: _ | '?' :: '<' :: '!' :: _ => none
  | '?' :: 'P' :: '<' :: rest | '?' :: '<' :: rest => namedGroup input rest
  | '?' :: rest => flagGroup input rest
  | rest => some (.capture, { input with rest })

def countBound : Nat := 4294967296

/-- Digits between blanks; `none` inside stands for no digits. -/
def count (verbose : Bool) (cs : List Char) : Option (Option Nat × List Char) :=
  let start := cs.dropWhile isBlank
  let (ds, rest) := takeRun verbose isDigit start.length start
  let after := if verbose then skipBlanks true rest else rest.dropWhile isBlank
  if ds.isEmpty then some (none, after)
  else if ofDigits ds < countBound then some (some (ofDigits ds), after)
  else none

def counts (verbose : Bool) (cs : List Char) : Option (Nat × Option Nat × List Char) := do
  let (least?, rest) ← count verbose cs
  let least ← least?
  match rest with
  | ',' :: after =>
    match skipBlanks verbose after with
    | '}' :: rest => some (least, none, rest)
    | start =>
      let (most?, rest) ← count verbose start
      let most ← most?
      match rest with
      | '}' :: rest => if least ≤ most then some (least, some most, rest) else none
      | _ => none
  | '}' :: rest => some (least, some least, rest)
  | _ => none

def skipLazy : List Char → List Char
  | '?' :: rest => rest
  | cs => cs

def repetition? (verbose : Bool) : List Char → Option (Option (Nat × Option Nat × List Char))
  | '?' :: rest => some (some (0, some 1, skipLazy rest))
  | '*' :: rest => some (some (0, none, skipLazy rest))
  | '+' :: rest => some (some (1, none, skipLazy rest))
  | '{' :: rest =>
    some ((counts verbose (skipBlanks verbose rest)).map fun (least, most, after) =>
      (least, most, skipLazy (skipBlanks verbose after)))
  | _ => none

def primitive (verbose : Bool) : List Char → Option (Primitive × List Char)
  | [] => none
  | '\\' :: cs => escape verbose cs
  | '.' :: cs => some (.dot, cs)
  | '^' :: cs => some (.assertion .lineStart, cs)
  | '$' :: cs => some (.assertion .lineEnd, cs)
  | c :: cs => some (.literal c false, cs)

def Primitive.node : Primitive → Node
  | literal c isByte => .literal c isByte
  | cls item => .cls item
  | assertion a => .assertion a
  | dot => .dot

/-- Reads to the end of the text or to a closing parenthesis, which is not passed. The branches and
the items already read have the last one first. -/
def branches : Nat → List Node → List Node → Input → Option (Node × Input)
  | 0, _, _, _ => none
  | fuel + 1, done, items, input =>
    let start := skipBlanks input.verbose input.rest
    match repetition? input.verbose start with
    | some (some (least, most, rest)) =>
      match items with
      | item :: before =>
        if item.isRepeatable then
          branches fuel done (.times item least most :: before) { input with rest }
        else none
      | [] => none
    | some none => none
    | none =>
      match start with
      | [] | ')' :: _ =>
        some (.ofBranches (.ofItems items.reverse :: done).reverse, { input with rest := start })
      | '|' :: rest => branches fuel (.ofItems items.reverse :: done) [] { input with rest }
      | '(' :: rest =>
        match opening input rest with
        | some (.change change, after) =>
          branches fuel done (.flags change :: items)
            { after with verbose := change.apply .verbose input.verbose }
        | some (opened, inside) =>
          let verbose := opened.flagChange.apply .verbose input.verbose
          match branches fuel [] [] { inside with verbose } with
          | some (body, after) =>
            match after.rest with
            | ')' :: rest =>
              branches fuel done (opened.wrap body :: items)
                { after with rest, verbose := input.verbose }
            | _ => none
          | none => none
        | none => none
      | '[' :: rest =>
        match brackets input.verbose rest with
        | some (item, rest) => branches fuel done (.cls item :: items) { input with rest }
        | none => none
      | _ =>
        match primitive input.verbose start with
        | some (p, rest) => branches fuel done (p.node :: items) { input with rest }
        | none => none

def depthLimit : Nat := 250

def parse? (cs : List Char) : Option Node :=
  match branches (cs.length + 1) [] [] ⟨cs, false, []⟩ with
  | some (node, ⟨[], _, _⟩) => if node.depth ≤ depthLimit then some node else none
  | _ => none

end ComputedColumns.Pattern
