import ComputedColumns.Proofs.Binary64.Whole
import ComputedColumns.Proofs.Formula.ExactArithmetic
import ComputedColumns.Proofs.Text.Blank

namespace ComputedColumns

open Text

namespace Binary64

variable {e : Fin 2047} {f : Fin 4503599627370496}

theorem floatText_eq (s : Bool) :
    Value.floatText (finite s e f) =
      if unit ∣ magnitude e f ∧ magnitude e f < 10 ^ 16 * unit then (finite s e f).fixed 1
      else (finite s e f).display := by
  have bound : 10000000000000000 = 10 ^ 16 := rfl
  simp only [Value.floatText, isIntegral, Bool.and_eq_true, beq_iff_eq, decide_eq_true_eq,
    ← Nat.dvd_iff_mod_eq_zero, bound]

structure Pointed (x : Binary64) (cs : List Char) : Prop where
  visible : ∀ c ∈ cs, isBlank c = false
  point : '.' ∈ cs
  value : read cs = some x

theorem pointed_of_small (small : magnitude e f < 10 ^ 16 * unit) (s : Bool) :
    Pointed (finite s e f) (Value.floatText (finite s e f)) := by
  rw [floatText_eq]
  by_cases whole : unit ∣ magnitude e f
  · rw [if_pos ⟨whole, small⟩]
    exact ⟨visible_fixed s e f 1, point_mem_fixed_one s e f, read_fixed_one whole s⟩
  · rw [if_neg (fun both => whole both.1)]
    exact ⟨visible_display s e f, point_mem_display whole s, read_display_finite s e f⟩

structure Rounded (s : Bool) (e : Fin 2047) (f : Fin 4503599627370496) (n : Nat) (cs : List Char) :
    Prop where
  visible : ∀ c ∈ cs, isBlank c = false
  noPoint : '.' ∉ cs
  value : integer? cs = some (applySign s n)
  positive : 0 < n
  inside : InBasin e f (n * unit) 1

theorem rounded_of_large (large : 10 ^ 16 * unit ≤ magnitude e f) (s : Bool) :
    ∃ c k : Nat, shortest e f = ⟨c, k⟩ ∧
      Rounded s e f (c * 10 ^ k) (Value.floatText (finite s e f)) := by
  obtain ⟨c, k, decimal, inside, written⟩ := display_of_large large s
  have all : ∀ d ∈ digits c ++ List.replicate k '0', isDigit d = true :=
    fun _ member => isDigit_of_mem_shifted member
  have present := shifted_ne_nil c k
  have visible := visible_display s e f
  rw [floatText_eq, if_neg (fun both => Nat.not_lt.mpr large both.2)]
  rw [written] at visible ⊢
  refine ⟨c, k, decimal, visible, ?_, ?_, ?_, inside⟩
  · rw [point_mem_withSign]
    intro point
    cases all '.' point
  · rw [integer?, splitSign_withSign (.whole present all)]
    dsimp only
    rw [natural?_of_digits present all, ofDigits_append_zeros, ofDigits_digits, Option.map_some]
  · have least := Nat.mul_pos (pow_ten_pos 16) unit_pos
    have narrow := spacingBelow_le_magnitude (Nat.lt_of_lt_of_le least large)
    have low := inside.low
    by_contra empty
    rw [Nat.eq_zero_of_not_pos empty, Nat.zero_mul] at low
    omega

namespace Rounded

variable {s : Bool} {n : Nat} {cs : List Char}

theorem lt_of_small (rounded : Rounded s e f n cs) (positive : 0 < magnitude e f)
    (small : magnitude e f < 2 ^ 63 * unit) : n < 2 ^ 63 := by
  rw [← pow2_63_eq] at small
  have less := lt_pow2_of_inBasin positive rounded.inside small
  rw [pow2_63_eq] at less
  exact Nat.lt_of_mul_lt_mul_right less

theorem lt_of_large (rounded : Rounded s e f n cs) (large : 2 ^ 63 * unit < magnitude e f) :
    2 ^ 63 < n := by
  rw [← pow2_63_eq] at large
  have more := pow2_lt_of_inBasin rounded.inside large
  rw [pow2_63_eq] at more
  exact Nat.lt_of_mul_lt_mul_right more

theorem readInt64_of_lt (rounded : Rounded s e f n cs) (fits : n < 2 ^ 63) :
    ∃ k : Int64, k.toInt = applySign s n ∧ readInt64 cs = some k := by
  have low : Int64.minValue.toInt = -2 ^ 63 := rfl
  have high : Int64.maxValue.toInt = 2 ^ 63 - 1 := rfl
  have range : Int64.minValue.toInt ≤ applySign s n ∧ applySign s n ≤ Int64.maxValue.toInt := by
    unfold applySign
    split <;> omega
  refine ⟨Int64.ofInt (applySign s n), ?_, ?_⟩
  · exact Int64.toInt_ofInt_of_le (by omega) (by omega)
  · rw [readInt64, rounded.value, Option.bind_some, int64?, if_pos range]

theorem readInt64_of_gt (rounded : Rounded s e f n cs) (beyond : 2 ^ 63 < n) :
    readInt64 cs = none := by
  have low : Int64.minValue.toInt = -2 ^ 63 := rfl
  have high : Int64.maxValue.toInt = 2 ^ 63 - 1 := rfl
  have outside : ¬ (Int64.minValue.toInt ≤ applySign s n ∧ applySign s n ≤ Int64.maxValue.toInt) := by
    unfold applySign
    split <;> omega
  rw [readInt64, rounded.value, Option.bind_some, int64?, if_neg outside]

end Rounded

theorem compare?_self (s : Bool) (e : Fin 2047) (f : Fin 4503599627370496) :
    compare? (finite s e f) (finite s e f) = some .eq := by
  rw [compare?, Std.compare_self]

end Binary64

open Binary64

namespace Value

theorem readNumber_of_point {cs : List Char} (visible : ∀ c ∈ cs, isBlank c = false)
    (point : '.' ∈ cs) : readNumber cs = .float ((Binary64.read cs).getD (.zero false)) := by
  rw [readNumber, trim_of_visible visible]
  exact if_pos (List.contains_iff_mem.mpr point)

theorem readNumber_of_no_point {cs : List Char} (visible : ∀ c ∈ cs, isBlank c = false)
    (noPoint : '.' ∉ cs) : readNumber cs = .int ((readInt64 cs).getD 0) := by
  rw [readNumber, trim_of_visible visible]
  exact if_neg (fun found => noPoint (List.contains_iff_mem.mp found))

end Value

theorem BinaryOp.apply_eq_of_toNumber {op : BinaryOp} (operation : op ∈ arithmetic)
    {v v' w w' : Value} (left : v.toNumber = v'.toNumber) (right : w.toNumber = w'.toNumber) :
    op.apply v w = op.apply v' w' := by
  simp only [arithmetic, List.mem_cons, List.not_mem_nil, or_false] at operation
  rcases operation with rfl | rfl | rfl | rfl <;> simp only [apply, left, right]

namespace Number

/-- Every way from the number to a text gives the text that is displayed, and every way from there to a
number gives `back`. -/
structure Returns (n back : Number) : Prop where
  text : Function.text.call [.number n] = .ok (.text (Value.number n).display)
  joined : ∀ v, BinaryOp.concat.apply (.number n) v =
    .ok (.text ((Value.number n).display ++ v.display))
  joinedTo : ∀ v, BinaryOp.concat.apply v (.number n) =
    .ok (.text (v.display ++ (Value.number n).display))
  coerced : (Value.text (Value.number n).display).toNumber = back
  number : Function.number.call [.text (Value.number n).display] = .ok (.number back)
  left : ∀ op ∈ BinaryOp.arithmetic, ∀ v,
    op.apply (.text (Value.number n).display) v = op.apply (.number back) v
  right : ∀ op ∈ BinaryOp.arithmetic, ∀ v,
    op.apply v (.text (Value.number n).display) = op.apply v (.number back)
  negated : ∀ env e, Expr.evaluate env e = .ok (.text (Value.number n).display) →
    (Expr.negate e).evaluate env = .ok (.number back.neg)

theorem returns_of_readNumber {n back : Number} (read : Value.readNumber (Value.numberText n) = back) :
    n.Returns back := by
  have coerced : (Value.text (Value.number n).display).toNumber = back := by
    rw [Value.toNumber, Value.display, String.toList_ofList, read]
  refine ⟨rfl, fun _ => rfl, fun _ => rfl, coerced, ?_, ?_, ?_, ?_⟩
  · rw [← coerced]
    rfl
  · exact fun op operation v => BinaryOp.apply_eq_of_toNumber operation coerced rfl
  · exact fun op operation v => BinaryOp.apply_eq_of_toNumber operation rfl coerced
  · intro env e result
    rw [Expr.evaluate, result, ← coerced]
    rfl

theorem visible_intDigits (n : Int) : ∀ c ∈ intDigits n, isBlank c = false ∧ c ≠ '.' := by
  have digit : ∀ c ∈ digits n.natAbs, isBlank c = false ∧ c ≠ '.' := by
    intro c member
    have digit := isDigit_of_mem_digits member
    refine ⟨isBlank_of_digit digit, ?_⟩
    rintro rfl
    cases digit
  unfold intDigits
  split
  · intro c member
    rcases List.mem_cons.mp member with rfl | member
    · exact ⟨rfl, by decide⟩
    · exact digit c member
  · exact digit

theorem returns_int (n : Int64) : Returns (.int n) (.int n) := by
  have visible := visible_intDigits n.toInt
  apply returns_of_readNumber
  rw [Value.numberText, Value.readNumber_of_no_point (fun c member => (visible c member).1)
    (fun point => (visible '.' point).2 rfl), readInt64_intDigits, Option.getD_some]

variable {e : Fin 2047} {f : Fin 4503599627370496}

theorem returns_small (small : magnitude e f < 10 ^ 16 * unit) (s : Bool) :
    Returns (.float (.finite s e f)) (.float (.finite s e f)) := by
  have pointed := pointed_of_small small s
  apply returns_of_readNumber
  rw [Value.numberText, Value.readNumber_of_point pointed.visible pointed.point, pointed.value,
    Option.getD_some]

theorem returns_large (large : 10 ^ 16 * unit ≤ magnitude e f)
    (small : magnitude e f < 2 ^ 63 * unit) (s : Bool) :
    ∃ n : Int64, Returns (.float (.finite s e f)) (.int n) ∧
      Number.compare? (.int n) (.float (.finite s e f)) = some .eq := by
  obtain ⟨c, k, -, rounded⟩ := rounded_of_large large s
  have positive : 0 < magnitude e f :=
    Nat.lt_of_lt_of_le (Nat.mul_pos (pow_ten_pos 16) unit_pos) large
  obtain ⟨n, value, read⟩ := rounded.readInt64_of_lt (rounded.lt_of_small positive small)
  refine ⟨n, returns_of_readNumber ?_, ?_⟩
  · rw [Value.numberText, Value.readNumber_of_no_point rounded.visible rounded.noPoint, read,
      Option.getD_some]
  · have floats : Number.compare? (.int n) (.float (.finite s e f)) =
        (ofInt n.toInt).compare? (.finite s e f) := rfl
    rw [floats, value, ofInt_of_inBasin rounded.positive rounded.inside, compare?_self]

theorem returns_beyond (beyond : 2 ^ 63 * unit ≤ magnitude e f) (s : Bool) :
    Returns (.float (.finite s e f)) (.int 0) := by
  have large : 10 ^ 16 * unit ≤ magnitude e f := by omega
  obtain ⟨c, k, decimal, rounded⟩ := rounded_of_large large s
  have outside : 2 ^ 63 < c * 10 ^ k := by
    rcases Nat.lt_or_eq_of_le beyond with above | same
    · exact rounded.lt_of_large above
    · -- The basin of 2^63 holds integers on both sides of it.
      have edge : magnitude 1086 0 = 2 ^ 63 * unit := by decide +kernel
      obtain ⟨rfl, rfl⟩ := magnitude_injective (same.symm.trans edge.symm)
      rw [shortest_pow2_63] at decimal
      cases decimal
      decide
  apply returns_of_readNumber
  rw [Value.numberText, Value.readNumber_of_no_point rounded.visible rounded.noPoint,
    rounded.readInt64_of_gt outside]
  rfl

theorem returns_named {x : Binary64} (named : x.isFinite = false) : Returns (.float x) (.int 0) := by
  apply returns_of_readNumber
  cases x with
  | nan => decide +kernel
  | infinite s => cases s <;> decide +kernel
  | finite s e f => cases named

/-- An integer, or a finite float of a size below the bound. -/
def IsBelow (bound : Nat) : Number → Prop
  | .int _ => True
  | .float (.finite _ e f) => magnitude e f < bound * unit
  | .float _ => False

theorem IsBelow.mono {n : Number} {bound higher : Nat} (below : n.IsBelow bound)
    (le : bound ≤ higher) : n.IsBelow higher := by
  cases n with
  | int n => trivial
  | float x =>
    cases x with
    | finite s e f => exact Nat.lt_of_lt_of_le below (Nat.mul_le_mul_right unit le)
    | _ => cases below

theorem compare?_refl {n : Number} {bound : Nat} (below : n.IsBelow bound) :
    Number.compare? n n = some .eq := by
  cases n with
  | int n => rw [Number.compare?, Std.compare_self]
  | float x =>
    cases x with
    | finite s e f => exact compare?_self s e f
    | _ => cases below

theorem returns_self {n : Number} (below : n.IsBelow (10 ^ 16)) : n.Returns n := by
  cases n with
  | int n => exact returns_int n
  | float x =>
    cases x with
    | finite s e f => exact returns_small below s
    | _ => cases below

theorem returns_whole {n : Number} (large : ¬ n.IsBelow (10 ^ 16)) :
    ∃ k : Int64, n.Returns (.int k) ∧
      (n.IsBelow (2 ^ 63) → Number.compare? (.int k) n = some .eq) ∧
      (¬ n.IsBelow (2 ^ 63) → k = 0) := by
  cases n with
  | int n => exact absurd trivial large
  | float x =>
    cases x with
    | finite s e f =>
      have large : 10 ^ 16 * unit ≤ magnitude e f := Nat.le_of_not_gt large
      by_cases below : magnitude e f < 2 ^ 63 * unit
      · obtain ⟨k, returns, equal⟩ := returns_large large below s
        exact ⟨k, returns, fun _ => equal, fun beyond => absurd below beyond⟩
      · have beyond := returns_beyond (Nat.le_of_not_gt below) s
        exact ⟨0, beyond, fun inside => absurd inside below, fun _ => rfl⟩
    | nan => exact ⟨0, returns_named rfl, False.elim, fun _ => rfl⟩
    | infinite s => exact ⟨0, returns_named rfl, False.elim, fun _ => rfl⟩

theorem point_mem_floatText (x : Binary64) :
    '.' ∈ Value.floatText x ↔ IsBelow (10 ^ 16) (.float x) := by
  cases x with
  | finite s e f =>
    constructor
    · intro point
      by_contra large
      obtain ⟨c, k, -, rounded⟩ := rounded_of_large (Nat.le_of_not_gt large) s
      exact rounded.noPoint point
    · exact fun small => (pointed_of_small small s).point
  | nan => exact iff_of_false (by decide +kernel) id
  | infinite s => cases s <;> exact iff_of_false (by decide +kernel) id

theorem compare?_zero_ne {n : Number} (beyond : ¬ n.IsBelow (2 ^ 63)) :
    Number.compare? (.int 0) n ≠ some .eq := by
  have zero : Binary64.ofInt (0 : Int64).toInt = .finite false 0 0 := by decide +kernel
  cases n with
  | int n => exact absurd trivial beyond
  | float x =>
    have floats : Number.compare? (.int 0) (.float x) =
        (Binary64.ofInt (0 : Int64).toInt).compare? x := rfl
    rw [floats, zero]
    cases x with
    | nan => nofun
    | infinite s => cases s <;> nofun
    | finite s e f =>
      intro equal
      have same : signed false (magnitude 0 0) = signed s (magnitude e f) :=
        compare_eq_iff_eq.mp (Option.some.inj equal)
      have large : 2 ^ 63 * unit ≤ magnitude e f := Nat.le_of_not_gt beyond
      have least := Nat.mul_pos (Nat.two_pow_pos 63) unit_pos
      have empty : magnitude 0 0 = 0 := rfl
      rw [empty] at same
      cases s <;> simp only [signed, if_true, if_false, Bool.false_eq_true] at same <;> omega

/-- The number that a text comes back as equals the one it was made from just for integers and for floats
below 2^63. Floats below 10^16, whose texts have a point, come back as they were; the others have texts
without a point and come back as integers, from 2^63 on as zero. -/
theorem text_returns (n : Number) :
    ((∃ back, n.Returns back ∧ back.compare? n = some .eq) ↔ n.IsBelow (2 ^ 63)) ∧
      (n.IsBelow (10 ^ 16) → n.Returns n) ∧
      (¬ n.IsBelow (10 ^ 16) →
        ∃ k : Int64, n.Returns (.int k) ∧ (¬ n.IsBelow (2 ^ 63) → k = 0)) ∧
      ∀ x, n = .float x → ('.' ∈ Value.numberText n ↔ n.IsBelow (10 ^ 16)) := by
  refine ⟨⟨?_, ?_⟩, returns_self, ?_, ?_⟩
  · rintro ⟨back, returns, equal⟩
    by_contra beyond
    have large : ¬ n.IsBelow (10 ^ 16) := fun below => beyond (below.mono (by decide))
    obtain ⟨k, whole, -, isZero⟩ := returns_whole large
    rw [returns.coerced.symm.trans whole.coerced, isZero beyond] at equal
    exact compare?_zero_ne beyond equal
  · intro below
    by_cases small : n.IsBelow (10 ^ 16)
    · exact ⟨n, returns_self small, compare?_refl small⟩
    · obtain ⟨k, whole, equal, -⟩ := returns_whole small
      exact ⟨.int k, whole, equal below⟩
  · intro large
    obtain ⟨k, whole, -, isZero⟩ := returns_whole large
    exact ⟨k, whole, isZero⟩
  · rintro x rfl
    exact point_mem_floatText x

/-- At 0.1, 10^16 and -2^63, whose text is an integer beyond the least one of 64 bits. -/
theorem text_returns_edges :
    IsBelow (10 ^ 16) (.float (.finite false 1019 2702159776422298)) ∧
      Returns (.float (.finite false 1019 2702159776422298))
        (.float (.finite false 1019 2702159776422298)) ∧
      ¬ IsBelow (10 ^ 16) (.float (.finite false 1076 496400372629504)) ∧
      IsBelow (2 ^ 63) (.float (.finite false 1076 496400372629504)) ∧
      '.' ∉ Value.numberText (.float (.finite false 1076 496400372629504)) ∧
      (∃ back, Returns (.float (.finite false 1076 496400372629504)) back ∧
        back.compare? (.float (.finite false 1076 496400372629504)) = some .eq) ∧
      ¬ IsBelow (2 ^ 63) (.float (.finite true 1086 0)) ∧
      Returns (.float (.finite true 1086 0)) (.int 0) := by
  have tenth : magnitude 1019 2702159776422298 < 10 ^ 16 * unit := by decide +kernel
  have least : ¬ magnitude 1076 496400372629504 < 10 ^ 16 * unit := by decide +kernel
  have within : magnitude 1076 496400372629504 < 2 ^ 63 * unit := by decide +kernel
  have beyond : ¬ magnitude 1086 0 < 2 ^ 63 * unit := by decide +kernel
  have larger : ¬ magnitude 1086 0 < 10 ^ 16 * unit := by decide +kernel
  obtain ⟨-, self, -, -⟩ := text_returns (.float (.finite false 1019 2702159776422298))
  obtain ⟨equal, -, -, point⟩ := text_returns (.float (.finite false 1076 496400372629504))
  obtain ⟨-, -, whole, -⟩ := text_returns (.float (.finite true 1086 0))
  obtain ⟨k, returns, isZero⟩ := whole larger
  rw [isZero beyond] at returns
  exact ⟨tenth, self tenth, least, within, fun found => least ((point _ rfl).mp found),
    equal.mpr within, beyond, returns⟩

/-- The text of 10^19 is an integer without a point that no 64 bits hold, so it counts as zero. -/
theorem returns_tenQuintillion :
    ofInt (10 ^ 19) = .finite false 1086 379212872629504 ∧
      '.' ∉ Value.numberText (.float (ofInt (10 ^ 19))) ∧
      Returns (.float (ofInt (10 ^ 19))) (.int 0) ∧
      Number.compare? (.int 0) (.float (ofInt (10 ^ 19))) = some .lt := by
  have value : ofInt (10 ^ 19) = .finite false 1086 379212872629504 := by decide +kernel
  have beyond : 2 ^ 63 * unit ≤ magnitude 1086 379212872629504 := by decide +kernel
  have large : 10 ^ 16 * unit ≤ magnitude 1086 379212872629504 := by decide +kernel
  obtain ⟨c, k, -, rounded⟩ := rounded_of_large large false
  have less : Number.compare? (.int 0) (.float (.finite false 1086 379212872629504)) = some .lt := by
    decide +kernel
  rw [value]
  exact ⟨rfl, rounded.noPoint, returns_beyond beyond false, less⟩

end Number

end ComputedColumns
