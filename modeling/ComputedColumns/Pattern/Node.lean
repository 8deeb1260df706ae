import ComputedColumns.Pattern.Flag

namespace ComputedColumns.Pattern

inductive AsciiClass where
  | alnum
  | alpha
  | ascii
  | blank
  | cntrl
  | digit
  | graph
  | lower
  | print
  | punct
  | space
  | upper
  | word
  | xdigit
  deriving DecidableEq

inductive LetterClass where
  | digit
  | space
  | word
  deriving DecidableEq

inductive PropertyQuery where
  | named (name : String)
  | valued (family value : String)
  deriving DecidableEq

inductive ClassOp where
  | intersection
  | difference
  | symmetricDifference
  deriving DecidableEq

inductive ClassItem where
  | range (first last : Char)
  | ascii (cls : AsciiClass) (negated : Bool)
  | letter (cls : LetterClass) (negated : Bool)
  | property (query : PropertyQuery) (negated : Bool)
  | bracketed (body : ClassItem) (negated : Bool)
  | union (items : List ClassItem)
  | binary (op : ClassOp) (left right : ClassItem)

inductive Assertion where
  | lineStart
  | lineEnd
  | textStart
  | textEnd
  | wordBoundary
  | notWordBoundary
  | wordStart
  | wordEnd
  | wordStartHalf
  | wordEndHalf
  deriving DecidableEq

inductive Node where
  | empty
  | flags (change : FlagChange)
  | literal (c : Char) (isByte : Bool)
  | dot
  | assertion (a : Assertion)
  | cls (item : ClassItem)
  | times (body : Node) (least : Nat) (most : Option Nat)
  | capture (body : Node)
  | scope (change : FlagChange) (body : Node)
  | alternation (branches : List Node)
  | concat (items : List Node)

namespace ClassItem

def ofItems : List ClassItem → ClassItem
  | [item] => item
  | items => union items

mutual

def depth : ClassItem → Nat
  | bracketed body _ => body.depth + 1
  | union [] => 0
  | union items => depthOfAll items + 1
  | binary _ left right => max left.depth right.depth + 1
  | _ => 0

def depthOfAll : List ClassItem → Nat
  | [] => 0
  | item :: items => max item.depth (depthOfAll items)

end

end ClassItem

namespace Node

def ofItems : List Node → Node
  | [] => empty
  | [node] => node
  | nodes => concat nodes

def ofBranches : List Node → Node
  | [node] => node
  | nodes => alternation nodes

def isRepeatable : Node → Bool
  | empty | flags _ => false
  | _ => true

mutual

def depth : Node → Nat
  | cls item => item.depth
  | times body _ _ => body.depth + 1
  | capture body => body.depth + 1
  | scope _ body => body.depth + 1
  | alternation branches => depthOfAll branches + 1
  | concat items => depthOfAll items + 1
  | _ => 0

def depthOfAll : List Node → Nat
  | [] => 0
  | node :: nodes => max node.depth (depthOfAll nodes)

end

end Node

end ComputedColumns.Pattern
