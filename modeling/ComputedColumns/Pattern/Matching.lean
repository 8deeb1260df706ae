import ComputedColumns.Pattern.Regex

namespace ComputedColumns

/-- The positions where a step can be taken, and whether it passes a character there. -/
structure Step where
  mask : Nat
  advances : Bool
  deriving DecidableEq

namespace Step

def after (s : Step) (starts : Nat) : Nat :=
  let taken := starts &&& s.mask
  if s.advances then taken <<< 1 else taken

def maskOf (bits : List Bool) : Nat := bits.foldr (fun b n => 2 * n + b.toNat) 0

def char (test : Char → Bool) (cs : List Char) : Step := ⟨maskOf (cs.map test), true⟩

def sides (before : Option Char) : List Char → List (Option Char × Option Char)
  | [] => [(before, none)]
  | c :: cs => (before, some c) :: sides (some c) cs

def between (test : Option Char → Option Char → Bool) (cs : List Char) : Step :=
  ⟨maskOf ((sides none cs).map fun (before, after) => test before after), false⟩

end Step

namespace Regex

/-- The set grown by its images, at most `limit` times; it stops where nothing new comes up. -/
def spread (image : Nat → Nat) : Nat → Nat → Nat
  | 0, reached => reached
  | limit + 1, reached =>
    let next := reached ||| image reached
    if next = reached then reached else spread image limit next

def repeated (image : Nat → Nat) : Nat → Nat → Nat
  | 0, reached => reached
  | count + 1, reached => repeated image count (image reached)

/-- The ends of the matches that begin in a set, in a text with `size` positions. -/
def ends (size : Nat) : Regex Step → Nat → Nat
  | empty, starts => starts
  | step s, starts => s.after starts
  | seq r s, starts => s.ends size (r.ends size starts)
  | alt r s, starts => r.ends size starts ||| s.ends size starts
  | times r least most, starts =>
    spread (r.ends size) (most.elim size (· - least)) (repeated (r.ends size) least starts)
  | group r, starts => r.ends size starts

def accepts {σ : Type} (step : σ → List Char → Step) (r : Regex σ) (cs : List Char) : Bool :=
  ((r.map (step · cs)).ends (cs.length + 1) 1).testBit cs.length

def occursIn {σ : Type} (step : σ → List Char → Step) (r : Regex σ) (cs : List Char) : Bool :=
  (r.map (step · cs)).ends (cs.length + 1) (1 <<< (cs.length + 1) - 1) != 0

end Regex

end ComputedColumns
