import ComputedColumns.Pattern.CharClass
import ComputedColumns.Pattern.Look
import ComputedColumns.Pattern.Matching

namespace ComputedColumns.Pattern

open Unicode

inductive Atom where
  | one (set : Ranges)
  | look (condition : Look)
  deriving DecidableEq

def Atom.step (atom : Atom) (cs : List Char) : Step :=
  match atom with
  | one set => .char (set.holds ·.toNat) cs
  | look condition => .between (condition.holdsBetween · ·) cs

def Flags.forClass (flags : Flags) : ClassFlags := ⟨flags.ignoreCase, flags.unicode⟩

def Flags.literal? (flags : Flags) (c : Char) (isByte : Bool) : Option Ranges :=
  if !flags.unicode && isByte && 0x7F < c.toNat then none
  else some (flags.forClass.fold (.single c))

def Flags.dot? (flags : Flags) : Option Ranges :=
  if !flags.unicode then none
  else if flags.dotAll then some .everything
  else if flags.crlf then some (Ranges.complement [⟨10, 10⟩, ⟨13, 13⟩])
  else some (Ranges.complement [⟨10, 10⟩])

def Flags.look (flags : Flags) : Assertion → Look
  | .lineStart => if flags.multiLine then .lineStart flags.crlf else .textStart
  | .lineEnd => if flags.multiLine then .lineEnd flags.crlf else .textEnd
  | .textStart => .textStart
  | .textEnd => .textEnd
  | .wordBoundary => .word .boundary flags.unicode
  | .notWordBoundary => .word .inside flags.unicode
  | .wordStart => .word .start flags.unicode
  | .wordEnd => .word .finish flags.unicode
  | .wordStartHalf => .word .startHalf flags.unicode
  | .wordEndHalf => .word .finishHalf flags.unicode

def isStill : Regex Atom → Bool
  | .empty | .step (.look _) => true
  | .step (.one _) => false
  | .seq r s | .alt r s => isStill r && isStill s
  | .times r _ most => isStill r || most == some 0
  | .group r => isStill r

/-- A repetition; where no round passes a character, one round does as well as many. -/
def rounds (r : Regex Atom) (least : Nat) (most : Option Nat) : Regex Atom :=
  let low := if isStill r then min least 1 else least
  let high := if isStill r then most.map (min · 1) else most
  match low, high with
  | _, some 0 => .empty
  | 1, some 1 => r
  | _, _ => .times r low high

namespace Node

mutual

/-- A change of flags holds to the end of the group that it stands in. -/
def meaning? (flags : Flags) : Node → Option (Regex Atom × Flags)
  | empty => some (.empty, flags)
  | .flags change => some (.empty, flags.change change)
  | literal c isByte => (flags.literal? c isByte).map fun set => (.step (.one set), flags)
  | dot => flags.dot?.map fun set => (.step (.one set), flags)
  | assertion a => some (.step (.look (flags.look a)), flags)
  | cls item => (item.ranges? flags.forClass).map fun set => (.step (.one set), flags)
  | times body least most =>
    (body.meaning? flags).map fun (r, after) => (rounds r least most, after)
  | capture body => (body.meaning? flags).map fun (r, _) => (.group r, flags)
  | scope change body => (body.meaning? (flags.change change)).map fun (r, _) => (r, flags)
  | alternation branches =>
    (meanings? flags branches).map fun (rs, after) =>
      match rs with
      | [] => (.empty, after)
      | r :: others => (Regex.oneOf r others, after)
  | concat items => (meanings? flags items).map fun (rs, after) => (Regex.concat rs, after)

def meanings? (flags : Flags) : List Node → Option (List (Regex Atom) × Flags)
  | [] => some ([], flags)
  | node :: nodes =>
    (node.meaning? flags).bind fun (r, next) =>
      (meanings? next nodes).map fun (rs, after) => (r :: rs, after)

end

end Node

end ComputedColumns.Pattern
