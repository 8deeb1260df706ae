import ComputedColumns.Pattern.Meaning
import ComputedColumns.Unicode.Utf8

namespace ComputedColumns.Pattern

open Unicode

/-- Bytes for a state, for an edge that reads a range of bytes, and for an edge that reads none. -/
def stateSize : Nat := 32

def edgeSize : Nat := 8

def jumpSize : Nat := 4

inductive Direction where
  | forward
  | backward
  deriving DecidableEq

def isAscii (set : Ranges) : Bool := set.all (·.last ≤ 0x7F)

/-- A single character is a chain of its bytes. Other sets have the fewest states forward; backward the
byte sequences share their beginnings only. -/
def classSize (direction : Direction) (set : Ranges) : Nat :=
  match set with
  | [⟨first, last⟩] =>
    if first = last then stateSize * (set.utf8.map List.length).foldl (· + ·) 0
    else spread set
  | _ => spread set
where
  spread (set : Ranges) : Nat :=
    if isAscii set then 2 * stateSize + edgeSize * set.length
    else
      match direction with
      | .forward =>
        (statesOf 4 set.utf8).eraseDups.foldl
          (fun n state => n + stateSize + edgeSize * (branchesOf state).length) stateSize
      | .backward =>
        2 * stateSize + stateSize * prefixCount 4 set.utf8 + jumpSize * set.utf8.length

/-- The size of the branches of an expression, how many there are, the set of characters they form if
each is one character, and whether a match may be empty. -/
structure Footprint where
  size : Nat
  branches : Nat
  set : Option Ranges
  nullable : Bool

namespace Footprint

def plain (size : Nat) (nullable : Bool) : Footprint := ⟨size, 1, none, nullable⟩

def total (direction : Direction) (f : Footprint) : Nat :=
  match f.set with
  | some set => classSize direction set
  | none => if f.branches < 2 then f.size else f.size + 2 * stateSize + jumpSize * f.branches

def ofAtom (direction : Direction) : Atom → Footprint
  | .one set => ⟨classSize direction set, 1, some set, false⟩
  | .look _ => plain stateSize true

def either (f g : Footprint) : Footprint where
  size := f.size + g.size
  branches := f.branches + g.branches
  set := f.set.bind fun s => g.set.map s.union
  nullable := f.nullable || g.nullable

/-- Copies for the rounds that must be, then one round that repeats or copies that can be left out. -/
def times (body : Nat) (nullable : Bool) (least : Nat) (most : Option Nat) : Nat :=
  let fork := stateSize + 2 * jumpSize
  match least, most with
  | 0, none => if nullable then body + 2 * fork + stateSize else body + fork
  | 0, some 1 => body + fork + stateSize
  | least, none => least * body + fork
  | least, some most =>
    if least = most then least * body
    else max (least * body) (if least = 0 then stateSize else 0) + stateSize +
      (most - least) * (body + fork)

end Footprint

def footprint (direction : Direction) : Regex Atom → Footprint
  | .empty => .plain stateSize true
  | .step atom => .ofAtom direction atom
  | .seq r s =>
    let f := footprint direction r
    let g := footprint direction s
    .plain ((if r = .empty then 0 else f.total direction) +
      (if s = .empty then 0 else g.total direction)) (f.nullable && g.nullable)
  | .alt r s => (footprint direction r).either (footprint direction s)
  | .times r least most =>
    let f := footprint direction r
    .plain (Footprint.times (f.total direction) f.nullable least most) (f.nullable || least == 0)
  | .group r =>
    let f := footprint direction r
    .plain (f.total direction + if direction = .forward then 2 * stateSize else 0) f.nullable

def programSize (direction : Direction) (r : Regex Atom) : Nat :=
  (footprint direction r).total direction +
    if direction = .forward then 4 * stateSize else 2 * stateSize

end ComputedColumns.Pattern
