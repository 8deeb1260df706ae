import ComputedColumns.Proofs.Binary64.Order
import ComputedColumns.Proofs.Formula.Transparency

namespace ComputedColumns

open Binary64

namespace Number

variable {m n p : Number} {x y : Int}

def AtMost (m n : Number) : Prop := m.compare? n = some .lt ∨ m.compare? n = some .eq

/-- Two integers, the larger one first, and between them the float that both are rounded to. -/
def Blurred (m n p : Number) : Prop :=
  ∃ i k : Int64, m = int i ∧ n = float (ofInt i.toInt) ∧ p = int k ∧ k < i ∧
    ofInt k.toInt = ofInt i.toInt ∧ (2 ^ 53 < i.toInt.natAbs ∨ 2 ^ 53 < k.toInt.natAbs)

theorem natAbs_toInt_le (i : Int64) : i.toInt.natAbs ≤ pow2 63 := by
  have low := Int64.minValue_le_toInt i
  have high := Int64.toInt_le i
  have least : Int64.minValue.toInt = -9223372036854775808 := rfl
  have most : Int64.maxValue.toInt = 9223372036854775807 := rfl
  have limit : pow2 63 = 9223372036854775808 := rfl
  omega

theorem toFloat_ne_nan (ordered : n ≠ .float .nan) : n.toFloat ≠ .nan := by
  cases n with
  | int i => exact ofInt_ne_nan (natAbs_toInt_le i)
  | float x => exact fun broken => ordered (congrArg float broken)

theorem atMost_iff_le (order : m.compare? n = some (compare x y)) : m.AtMost n ↔ x ≤ y := by
  rw [AtMost, order, Option.some_inj, Option.some_inj, compare_lt_iff_lt, compare_eq_iff_eq]
  exact Int.le_iff_lt_or_eq.symm

theorem compare?_eq_iff_eq (order : m.compare? n = some (compare x y)) :
    m.compare? n = some .eq ↔ x = y := by
  rw [order, Option.some_inj, compare_eq_iff_eq]

theorem compare?_of_float (mOrdered : m ≠ .float .nan) (nOrdered : n ≠ .float .nan)
    (mixed : ∀ i k, m = int i → n ≠ int k) :
    m.compare? n = some (compare m.toFloat.position n.toFloat.position) := by
  rw [← Binary64.compare?_eq (toFloat_ne_nan mOrdered) (toFloat_ne_nan nOrdered)]
  cases m with
  | int i =>
    cases n with
    | int k => exact absurd rfl (mixed i k rfl)
    | float y => rfl
  | float x => rfl

theorem exists_ranks (mOrdered : m ≠ .float .nan) (nOrdered : n ≠ .float .nan) :
    ∃ x y : Int, m.compare? n = some (compare x y) ∧ n.compare? m = some (compare y x) := by
  by_cases integers : ∃ i k, m = int i ∧ n = int k
  · obtain ⟨i, k, rfl, rfl⟩ := integers
    exact ⟨_, _, rfl, rfl⟩
  · exact ⟨_, _, compare?_of_float mOrdered nOrdered fun i k left right => integers ⟨i, k, left, right⟩,
      compare?_of_float nOrdered mOrdered fun k i right left => integers ⟨i, k, left, right⟩⟩

theorem atMost_total (mOrdered : m ≠ .float .nan) (nOrdered : n ≠ .float .nan) :
    m.AtMost n ∨ n.AtMost m := by
  obtain ⟨x, y, forth, back⟩ := exists_ranks mOrdered nOrdered
  rw [atMost_iff_le forth, atMost_iff_le back]
  exact Int.le_total x y

theorem compare?_eq_iff_atMost (mOrdered : m ≠ .float .nan) (nOrdered : n ≠ .float .nan) :
    m.compare? n = some .eq ↔ m.AtMost n ∧ n.AtMost m := by
  obtain ⟨x, y, forth, back⟩ := exists_ranks mOrdered nOrdered
  rw [compare?_eq_iff_eq forth, atMost_iff_le forth, atMost_iff_le back]
  exact ⟨fun same => ⟨Int.le_of_eq same, Int.le_of_eq same.symm⟩, fun both => Int.le_antisymm both.1 both.2⟩

theorem atMost_ints {i k : Int64} : (int i).AtMost (int k) ↔ i ≤ k :=
  (atMost_iff_le rfl).trans Int64.le_iff_toInt_le.symm

theorem position_le_of_atMost (mOrdered : m ≠ .float .nan) (nOrdered : n ≠ .float .nan)
    (order : m.AtMost n) : m.toFloat.position ≤ n.toFloat.position := by
  by_cases integers : ∃ i k, m = int i ∧ n = int k
  · obtain ⟨i, k, rfl, rfl⟩ := integers
    exact position_ofInt_mono (natAbs_toInt_le i) (natAbs_toInt_le k)
      (Int64.le_iff_toInt_le.mp (atMost_ints.mp order))
  · exact (atMost_iff_le (compare?_of_float mOrdered nOrdered
      fun i k left right => integers ⟨i, k, left, right⟩)).mp order

theorem blurred_of_positions {i k : Int64} {x : Binary64} (less : k < i)
    (low : (ofInt i.toInt).position ≤ x.position) (high : x.position ≤ (ofInt k.toInt).position) :
    Blurred (int i) (float x) (int k) := by
  have iFits := natAbs_toInt_le i
  have kFits := natAbs_toInt_le k
  have smaller : k.toInt < i.toInt := Int64.lt_iff_toInt_lt.mp less
  have rounded := position_ofInt_mono kFits iFits (Int.le_of_lt smaller)
  have places : (ofInt i.toInt).position = (ofInt k.toInt).position := by omega
  have place : (ofInt i.toInt).position = x.position := by omega
  -- One of the two is not zero, so neither is their common place.
  have nonzero : (ofInt i.toInt).position ≠ 0 := by
    by_cases zero : i.toInt = 0
    · rw [places]
      exact position_ofInt_ne_zero kFits (by omega)
    · exact position_ofInt_ne_zero iFits zero
  refine ⟨i, k, rfl, congrArg float (eq_of_position_eq place nonzero).symm, rfl, less,
    (eq_of_position_eq places nonzero).symm, ?_⟩
  by_contra short
  obtain ⟨iShort, kShort⟩ := not_or.mp short
  rw [position_ofInt_of_short (Nat.le_of_not_lt iShort), position_ofInt_of_short (Nat.le_of_not_lt kShort)]
    at places
  have unitPositive : (unit : Int) ≠ 0 := Int.natCast_ne_zero.mpr (pow2_pos 1074).ne'
  have same := Int.eq_of_mul_eq_mul_right unitPositive places
  omega

theorem atMost_iff_not_blurred (mOrdered : m ≠ .float .nan) (nOrdered : n ≠ .float .nan)
    (pOrdered : p ≠ .float .nan) (low : m.AtMost n) (high : n.AtMost p) :
    m.AtMost p ↔ ¬ Blurred m n p := by
  have lower := position_le_of_atMost mOrdered nOrdered low
  have upper := position_le_of_atMost nOrdered pOrdered high
  by_cases integers : ∃ i k, m = int i ∧ p = int k
  · obtain ⟨i, k, rfl, rfl⟩ := integers
    rw [atMost_ints]
    constructor
    · rintro order ⟨i', k', same, -, same', less, -⟩
      cases same
      cases same'
      exact absurd order (Int64.not_le.mpr less)
    · intro sharp
      cases n with
      | int j => exact Int64.le_trans (atMost_ints.mp low) (atMost_ints.mp high)
      | float x =>
        by_contra more
        exact sharp (blurred_of_positions (Int64.not_le.mp more) lower upper)
  · have order : m.AtMost p :=
      (atMost_iff_le (compare?_of_float mOrdered pOrdered
        fun i k left right => integers ⟨i, k, left, right⟩)).mpr (lower.trans upper)
    refine iff_of_true order ?_
    rintro ⟨i, k, left, -, right, -⟩
    exact integers ⟨i, k, left, right⟩

end Number

namespace Value

variable {u v w : Value}

/-- A number, with or without a type, that is not NaN. -/
def IsOrdered (v : Value) : Prop := v.isNumeric = true ∧ v.toNumber ≠ .float .nan

def AtMost (v w : Value) : Prop := BinaryOp.lessEqual.apply v w = .ok (.boolean true)

def Equals (v w : Value) : Prop := BinaryOp.equal.apply v w = .ok (.boolean true)

theorem plain_of_isNumeric (numeric : v.isNumeric = true) : v.plain = .number v.toNumber := by
  unfold isNumeric at numeric
  split at numeric
  · rename_i n inside
    rw [← toNumber_plain, inside]
    rfl
  · cases numeric

theorem atMost_iff (vOrdered : v.IsOrdered) (wOrdered : w.IsOrdered) :
    v.AtMost w ↔ v.toNumber.AtMost w.toNumber := by
  have order : v.compare? w = v.toNumber.compare? w.toNumber := by
    rw [compare?, plain_of_isNumeric vOrdered.1, plain_of_isNumeric wOrdered.1]
  simp only [AtMost, Number.AtMost, BinaryOp.apply, order, Except.ok.injEq, boolean.injEq,
    Bool.or_eq_true, beq_iff_eq]

theorem equals_iff (vOrdered : v.IsOrdered) (wOrdered : w.IsOrdered) :
    v.Equals w ↔ v.toNumber.compare? w.toNumber = some .eq := by
  have order : v.equal w = (v.toNumber.compare? w.toNumber == some .eq) := by
    rw [equal, plain_of_isNumeric vOrdered.1, plain_of_isNumeric wOrdered.1]
  simp only [Equals, BinaryOp.apply, order, Except.ok.injEq, boolean.injEq, beq_iff_eq]

theorem equals_iff_atMost (vOrdered : v.IsOrdered) (wOrdered : w.IsOrdered) :
    v.Equals w ↔ v.AtMost w ∧ w.AtMost v := by
  rw [equals_iff vOrdered wOrdered, atMost_iff vOrdered wOrdered, atMost_iff wOrdered vOrdered]
  exact Number.compare?_eq_iff_atMost vOrdered.2 wOrdered.2

theorem atMost_iff_not_blurred (uOrdered : u.IsOrdered) (vOrdered : v.IsOrdered) (wOrdered : w.IsOrdered)
    (low : u.AtMost v) (high : v.AtMost w) :
    u.AtMost w ↔ ¬ Number.Blurred u.toNumber v.toNumber w.toNumber := by
  rw [atMost_iff uOrdered wOrdered]
  exact Number.atMost_iff_not_blurred uOrdered.2 vOrdered.2 wOrdered.2
    ((atMost_iff uOrdered vOrdered).mp low) ((atMost_iff vOrdered wOrdered).mp high)

/-- Numbers that are not NaN are totally preordered, except that a larger integer is no less than a float and
the float no less than a smaller integer when both integers are rounded to it, one of them beyond 2^53. -/
theorem comparison_preorder (uOrdered : u.IsOrdered) (vOrdered : v.IsOrdered) (wOrdered : w.IsOrdered) :
    (u.AtMost v ∨ v.AtMost u) ∧
      (u.Equals v ↔ u.AtMost v ∧ v.AtMost u) ∧
      (u.AtMost v → v.AtMost w →
        (u.AtMost w ↔ ¬ Number.Blurred u.toNumber v.toNumber w.toNumber)) ∧
      (u.Equals v → v.Equals w →
        (u.Equals w ↔ ¬ Number.Blurred u.toNumber v.toNumber w.toNumber ∧
          ¬ Number.Blurred w.toNumber v.toNumber u.toNumber)) := by
  refine ⟨?_, equals_iff_atMost uOrdered vOrdered, atMost_iff_not_blurred uOrdered vOrdered wOrdered, ?_⟩
  · rw [atMost_iff uOrdered vOrdered, atMost_iff vOrdered uOrdered]
    exact Number.atMost_total uOrdered.2 vOrdered.2
  · intro left right
    obtain ⟨up, down⟩ := (equals_iff_atMost uOrdered vOrdered).mp left
    obtain ⟨up', down'⟩ := (equals_iff_atMost vOrdered wOrdered).mp right
    rw [equals_iff_atMost uOrdered wOrdered, atMost_iff_not_blurred uOrdered vOrdered wOrdered up up',
      atMost_iff_not_blurred wOrdered vOrdered uOrdered down' down]

theorem comparison_preorder_currency :
    let smaller : Value := .number (.int 9007199254740992)
    let price : Value := .typed .currency (.number (.float (.finite false 1076 0)))
    let larger : Value := .number (.int 9007199254740993)
    smaller.Equals price ∧ price.Equals larger ∧ smaller.AtMost larger ∧ ¬ smaller.Equals larger := by
  intro smaller price larger
  have smallerOrdered : smaller.IsOrdered := ⟨rfl, Number.noConfusion⟩
  have priceOrdered : price.IsOrdered := ⟨rfl, by decide⟩
  have largerOrdered : larger.IsOrdered := ⟨rfl, Number.noConfusion⟩
  have left : smaller.Equals price := (equals_iff smallerOrdered priceOrdered).mpr (by decide +kernel)
  have right : price.Equals larger := (equals_iff priceOrdered largerOrdered).mpr (by decide +kernel)
  have up : smaller.AtMost price := ((equals_iff_atMost smallerOrdered priceOrdered).mp left).1
  have up' : price.AtMost larger := ((equals_iff_atMost priceOrdered largerOrdered).mp right).1
  obtain ⟨-, -, order, same⟩ := comparison_preorder smallerOrdered priceOrdered largerOrdered
  refine ⟨left, right, ?_, ?_⟩
  · apply (order up up').mpr
    rintro ⟨i, k, first, -, last, less, -⟩
    cases first
    cases last
    exact absurd less (by decide)
  · intro both
    apply ((same left right).mp both).2
    exact ⟨_, _, rfl, congrArg Number.float (by decide +kernel), rfl, by decide, by decide +kernel, by decide⟩

/-- The integers 2^53 + 1 and 2^53 are told apart, but both equal the float 2^53. -/
theorem comparison_intransitive :
    let larger : Value := .number (.int 9007199254740993)
    let middle : Value := .number (.float (.finite false 1076 0))
    let smaller : Value := .number (.int 9007199254740992)
    (larger.IsOrdered ∧ middle.IsOrdered ∧ smaller.IsOrdered) ∧
      (larger.AtMost middle ∧ middle.AtMost smaller ∧ ¬ larger.AtMost smaller) ∧
      larger.Equals middle ∧ middle.Equals smaller ∧ ¬ larger.Equals smaller := by
  intro larger middle smaller
  have largerOrdered : larger.IsOrdered := ⟨rfl, Number.noConfusion⟩
  have middleOrdered : middle.IsOrdered := ⟨rfl, by decide⟩
  have smallerOrdered : smaller.IsOrdered := ⟨rfl, Number.noConfusion⟩
  have left : larger.Equals middle := (equals_iff largerOrdered middleOrdered).mpr (by decide +kernel)
  have right : middle.Equals smaller := (equals_iff middleOrdered smallerOrdered).mpr (by decide +kernel)
  have apart : ¬ larger.AtMost smaller := by
    rw [atMost_iff largerOrdered smallerOrdered]
    exact Number.atMost_ints.not.mpr (by decide)
  exact ⟨⟨largerOrdered, middleOrdered, smallerOrdered⟩,
    ⟨((equals_iff_atMost largerOrdered middleOrdered).mp left).1,
      ((equals_iff_atMost middleOrdered smallerOrdered).mp right).1, apart⟩,
    left, right, fun both => apart ((equals_iff_atMost largerOrdered smallerOrdered).mp both).1⟩

end Value

end ComputedColumns
