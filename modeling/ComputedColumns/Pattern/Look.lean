import ComputedColumns.Unicode.Property

namespace ComputedColumns.Pattern

inductive WordEdge where
  | boundary
  | inside
  | start
  | finish
  | startHalf
  | finishHalf
  deriving DecidableEq

inductive Look where
  | textStart
  | textEnd
  | lineStart (crlf : Bool)
  | lineEnd (crlf : Bool)
  | word (edge : WordEdge) (unicode : Bool)
  deriving DecidableEq

def asciiWord : Unicode.Ranges := [⟨0x30, 0x39⟩, ⟨0x41, 0x5A⟩, ⟨0x5F, 0x5F⟩, ⟨0x61, 0x7A⟩]

def inWord (unicode : Bool) (c : Char) : Bool :=
  if unicode then Unicode.wordCharacters.holds c.toNat else asciiWord.holds c.toNat

def WordEdge.fits (left right : Bool) : WordEdge → Bool
  | boundary => left != right
  | inside => left == right
  | start => !left && right
  | finish => left && !right
  | startHalf => !left
  | finishHalf => !right

/-- With `crlf` a carriage return ends a line as well, and no line ends between it and a line feed. -/
def Look.holdsBetween (before after : Option Char) : Look → Bool
  | textStart => before.isNone
  | textEnd => after.isNone
  | lineStart false => before.isNone || before == some '\n'
  | lineStart true =>
    before.isNone || before == some '\n' || (before == some '\r' && after != some '\n')
  | lineEnd false => after.isNone || after == some '\n'
  | lineEnd true =>
    after.isNone || after == some '\r' || (after == some '\n' && before != some '\r')
  | word edge unicode => edge.fits (before.any (inWord unicode)) (after.any (inWord unicode))

end ComputedColumns.Pattern
