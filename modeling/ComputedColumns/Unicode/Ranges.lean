namespace ComputedColumns.Unicode

structure Range where
  first : Nat
  last : Nat
  deriving DecidableEq

abbrev Ranges := List Range

namespace Ranges

def holds (rs : Ranges) (n : Nat) : Bool := rs.any fun r => r.first ≤ n && n ≤ r.last

def single (c : Char) : Ranges := [⟨c.toNat, c.toNat⟩]

def lastCodePoint : Nat := 0x10FFFF

def everything : Ranges := [⟨0, lastCodePoint⟩]

def joinOnto (r : Range) : Ranges → Ranges
  | [] => [r]
  | s :: rest =>
    if s.first ≤ r.last + 1 then joinOnto ⟨r.first, max r.last s.last⟩ rest
    else r :: joinOnto s rest

def canonical (rs : Ranges) : Ranges :=
  match rs.mergeSort fun a b => a.first ≤ b.first with
  | [] => []
  | r :: rest => joinOnto r rest

def union (a b : Ranges) : Ranges := canonical (a ++ b)

def gapsFrom (low : Nat) : Ranges → Ranges
  | [] => if low ≤ lastCodePoint then [⟨low, lastCodePoint⟩] else []
  | r :: rest =>
    if low < r.first then ⟨low, r.first - 1⟩ :: gapsFrom (r.last + 1) rest
    else gapsFrom (r.last + 1) rest

def complement (rs : Ranges) : Ranges := gapsFrom 0 (canonical rs)

def inter (a b : Ranges) : Ranges := complement (complement a ++ complement b)

def diff (a b : Ranges) : Ranges := complement (complement a ++ b)

def symmDiff (a b : Ranges) : Ranges := union (diff a b) (diff b a)

def hexValue (c : Char) : Nat :=
  if '0' ≤ c && c ≤ '9' then c.toNat - 48
  else if 'A' ≤ c && c ≤ 'F' then c.toNat - 55
  else c.toNat - 87

def ofHexDigits (cs : List Char) : Nat := cs.foldl (fun n c => 16 * n + hexValue c) 0

def ofHexItem (cs : List Char) : Range :=
  let first := ofHexDigits (cs.takeWhile (· ≠ '-'))
  match cs.dropWhile (· ≠ '-') with
  | [] => ⟨first, first⟩
  | _ :: rest => ⟨first, ofHexDigits rest⟩

def ofHexChars (item : List Char) : List Char → Ranges
  | [] => if item.isEmpty then [] else [ofHexItem item.reverse]
  | c :: cs =>
    if c = ' ' || c = '\n' then
      if item.isEmpty then ofHexChars [] cs else ofHexItem item.reverse :: ofHexChars [] cs
    else ofHexChars (c :: item) cs

def ofHex (s : String) : Ranges := ofHexChars [] s.toList

end Ranges

end ComputedColumns.Unicode
