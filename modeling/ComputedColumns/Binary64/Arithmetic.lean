import ComputedColumns.Binary64.Basic

namespace ComputedColumns.Binary64

def neg : Binary64 → Binary64
  | nan => nan
  | infinite s => infinite (!s)
  | finite s e f => finite (!s) e f

def abs : Binary64 → Binary64
  | nan => nan
  | infinite _ => infinite false
  | finite _ e f => finite false e f

/-- An exact sum of zero is negative only when both terms are. -/
def add : Binary64 → Binary64 → Binary64
  | nan, _ => nan
  | _, nan => nan
  | infinite s, infinite t => if s = t then infinite s else nan
  | infinite s, _ => infinite s
  | _, infinite t => infinite t
  | finite s e f, finite t g h =>
    let total := signed s (magnitude e f) + signed t (magnitude g h)
    if total = 0 then zero (s && t) else nearest (total < 0) total.natAbs 1

def sub (x y : Binary64) : Binary64 := add x (neg y)

def mul : Binary64 → Binary64 → Binary64
  | nan, _ => nan
  | _, nan => nan
  | infinite s, infinite t => infinite (s != t)
  | infinite s, finite t e f => if magnitude e f = 0 then nan else infinite (s != t)
  | finite s e f, infinite t => if magnitude e f = 0 then nan else infinite (s != t)
  | finite s e f, finite t g h => nearest (s != t) (magnitude e f * magnitude g h) unit

def div : Binary64 → Binary64 → Binary64
  | nan, _ => nan
  | _, nan => nan
  | infinite _, infinite _ => nan
  | infinite s, finite t _ _ => infinite (s != t)
  | finite s _ _, infinite t => zero (s != t)
  | finite s e f, finite t g h =>
    if magnitude g h = 0 then
      if magnitude e f = 0 then nan else infinite (s != t)
    else nearest (s != t) (magnitude e f * unit) (magnitude g h)

def compare? : Binary64 → Binary64 → Option Ordering
  | nan, _ => none
  | _, nan => none
  | infinite s, infinite t => some (if s = t then .eq else if s then .lt else .gt)
  | infinite s, _ => some (if s then .lt else .gt)
  | _, infinite t => some (if t then .gt else .lt)
  | finite s e f, finite t g h => some (compare (signed s (magnitude e f)) (signed t (magnitude g h)))

def powOnto (result base : Binary64) (n : Nat) : Binary64 :=
  let result := if n % 2 = 1 then mul result base else result
  if n / 2 = 0 then result else powOnto result (mul base base) (n / 2)
termination_by n
decreasing_by omega

def powTen (n : Nat) : Binary64 := powOnto (ofInt 1) (ofInt 10) n

end ComputedColumns.Binary64
