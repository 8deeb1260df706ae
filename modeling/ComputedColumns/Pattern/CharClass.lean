import ComputedColumns.Pattern.Node
import ComputedColumns.Text.Blank
import ComputedColumns.Unicode.Age
import ComputedColumns.Unicode.Folding
import ComputedColumns.Unicode.Property
import ComputedColumns.Unicode.Script
import ComputedColumns.Unicode.Segmentation

namespace ComputedColumns.Pattern

open Unicode

def AsciiClass.ranges : AsciiClass → Ranges
  | alnum => .ofHex "30-39 41-5A 61-7A"
  | alpha => .ofHex "41-5A 61-7A"
  | ascii => .ofHex "0-7F"
  | blank => .ofHex "9 20"
  | cntrl => .ofHex "0-1F 7F"
  | digit => .ofHex "30-39"
  | graph => .ofHex "21-7E"
  | lower => .ofHex "61-7A"
  | print => .ofHex "20-7E"
  | punct => .ofHex "21-2F 3A-40 5B-60 7B-7E"
  | space => .ofHex "9-D 20"
  | upper => .ofHex "41-5A"
  | word => .ofHex "30-39 41-5A 5F 61-7A"
  | xdigit => .ofHex "30-39 41-46 61-66"

def LetterClass.ranges (unicode : Bool) (cls : LetterClass) : Ranges :=
  match cls, unicode with
  | digit, true => decimalDigits
  | space, true => whiteSpace
  | word, true => wordCharacters
  | digit, false => AsciiClass.digit.ranges
  | space, false => AsciiClass.space.ranges
  | word, false => AsciiClass.word.ranges

/-- Names are compared without case, spaces, hyphens, low lines, characters beyond ASCII and a leading
`is`; but `isc` is no short form of `c`. -/
def plainName (name : String) : String :=
  let kept (cs : List Char) : List Char :=
    (cs.filter fun c => c.toNat ≤ 0x7F && c ≠ ' ' && c ≠ '-' && c ≠ '_').map Char.toLower
  match name.toList with
  | i :: s :: rest =>
    if i.toLower = 'i' && s.toLower = 's' then
      if kept rest = ['c'] then "isc" else String.ofList (kept rest)
    else String.ofList (kept name.toList)
  | cs => String.ofList (kept cs)

def named? (name : String) : Option Ranges :=
  if name = "cf" || name = "sc" || name = "lc" then category? name
  else property? name <|> category? name <|> script? name

def valued? (family value : String) : Option Ranges :=
  match family with
  | "gc" | "generalcategory" => category? value
  | "sc" | "script" => script? value
  | "scx" | "scriptextensions" => scriptExtension? value
  | "age" => age? value
  | "gcb" | "graphemeclusterbreak" => clusterBreak? value
  | "wb" | "wordbreak" => wordBreak? value
  | "sb" | "sentencebreak" => sentenceBreak? value
  | _ => none

def PropertyQuery.ranges? : PropertyQuery → Option Ranges
  | named name => named? (plainName name)
  | valued family value => valued? (plainName family) (plainName value)

structure ClassFlags where
  ignoreCase : Bool
  unicode : Bool

namespace ClassFlags

def fold (flags : ClassFlags) (rs : Ranges) : Ranges :=
  if !flags.ignoreCase then rs
  else if flags.unicode then rs.foldClosure
  else rs.asciiFoldClosure

def negate (flags : ClassFlags) (negated : Bool) (rs : Ranges) : Option Ranges :=
  if !negated then some rs
  else if flags.unicode then some rs.complement
  else none

end ClassFlags

def ClassOp.apply (op : ClassOp) (left right : Ranges) : Ranges :=
  match op with
  | intersection => left.inter right
  | difference => left.diff right
  | symmetricDifference => left.symmDiff right

namespace ClassItem

mutual

/-- Case variants are added before a class is negated. -/
def ranges? (flags : ClassFlags) : ClassItem → Option Ranges
  | range first last =>
    if flags.unicode || last.toNat ≤ 0x7F then some [⟨first.toNat, last.toNat⟩] else none
  | ascii cls negated => flags.negate negated (flags.fold cls.ranges)
  | letter cls negated => flags.negate negated (cls.ranges flags.unicode)
  | property query negated =>
    if flags.unicode then query.ranges?.bind fun rs => flags.negate negated (flags.fold rs) else none
  | bracketed body negated =>
    (body.ranges? flags).bind fun rs => flags.negate negated (flags.fold (Ranges.canonical rs))
  | union items => allRanges? flags items
  | binary op left right =>
    (left.ranges? flags).bind fun l =>
      (right.ranges? flags).map fun r => op.apply (flags.fold l) (flags.fold r)

def allRanges? (flags : ClassFlags) : List ClassItem → Option Ranges
  | [] => some []
  | item :: items =>
    (item.ranges? flags).bind fun rs => (allRanges? flags items).map fun others => rs ++ others

end

end ClassItem

end ComputedColumns.Pattern
