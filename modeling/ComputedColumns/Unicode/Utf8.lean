import ComputedColumns.Unicode.Ranges

namespace ComputedColumns.Unicode

/-- Characters whose encodings have one length, with the offset of the first byte and the number of
bytes behind it. Surrogates have no encoding. -/
structure Utf8Block where
  first : Nat
  last : Nat
  lead : Nat
  tail : Nat

def utf8Blocks : List Utf8Block :=
  [⟨0, 0x7F, 0, 0⟩, ⟨0x80, 0x7FF, 0xC0, 1⟩, ⟨0x800, 0xD7FF, 0xE0, 2⟩, ⟨0xE000, 0xFFFF, 0xE0, 2⟩,
   ⟨0x10000, 0x10FFFF, 0xF0, 3⟩]

namespace Utf8Block

def encode (b : Utf8Block) (n : Nat) : List Nat :=
  (b.lead + n / Nat.pow 64 b.tail) ::
    (List.range b.tail).reverse.map fun i => 0x80 + n / Nat.pow 64 i % 64

def pieces (first last : Nat) : List Nat → Ranges
  | [] => [⟨first, last⟩]
  | size :: sizes =>
    if first / size = last / size then [⟨first, last⟩]
    else
      let low := if first % size = 0 then first else (first / size + 1) * size
      let high := if last % size = size - 1 then last + 1 else last / size * size
      (if first < low then [⟨first, low - 1⟩] else []) ++
        (if low < high then pieces low (high - 1) sizes else []) ++
        (if high ≤ last then [⟨high, last⟩] else [])

def sequences (b : Utf8Block) (r : Range) : List (List Range) :=
  let first := max b.first r.first
  let last := min b.last r.last
  if first ≤ last then
    (pieces first last [64, 4096, 262144]).map fun p =>
      (b.encode p.first).zipWith Range.mk (b.encode p.last)
  else []

end Utf8Block

def Ranges.utf8 (rs : Ranges) : List (List Range) :=
  rs.flatMap fun r => utf8Blocks.flatMap (·.sequences r)

def branchesOf (sequences : List (List Range)) : List (Range × List (List Range)) :=
  (sequences.filterMap List.head?).eraseDups.map fun head =>
    (head, (sequences.filter fun s => s.head? == some head).map List.tail)

/-- The states that accept sequences of at most `length` bytes, each as what is still to come. -/
def statesOf : Nat → List (List Range) → List (List (List Range))
  | 0, _ => []
  | length + 1, sequences =>
    match branchesOf sequences with
    | [] => []
    | branches => sequences :: branches.flatMap fun (_, rest) => statesOf length rest

def prefixCount : Nat → List (List Range) → Nat
  | 0, _ => 0
  | length + 1, sequences =>
    (branchesOf sequences).foldl (fun n (_, rest) => n + 1 + prefixCount length rest) 0

end ComputedColumns.Unicode
