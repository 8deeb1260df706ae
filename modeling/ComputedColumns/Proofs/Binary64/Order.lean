import ComputedColumns.Binary64.Arithmetic
import ComputedColumns.Proofs.Binary64.Nearest
import Mathlib.Data.Nat.Log

namespace ComputedColumns.Binary64

variable {e : Fin 2047} {f : Fin 4503599627370496}

theorem pow2_pos (n : Nat) : 0 < pow2 n := Nat.two_pow_pos n

theorem pow2_mono {a b : Nat} (le : a ≤ b) : pow2 a ≤ pow2 b := Nat.pow_le_pow_right Nat.two_pos le

theorem pow2_lt {a b : Nat} (lt : a < b) : pow2 a < pow2 b := Nat.pow_lt_pow_right (by decide) lt

def ceiling : Nat := pow2 2098

/-- Where a number stands among all others. -/
def position : Binary64 → Int
  | nan => 0
  | infinite s => signed s ceiling
  | finite s e f => signed s (magnitude e f)

theorem signed_injective {s t : Bool} {m n : Nat} (same : signed s m = signed t n)
    (nonzero : signed s m ≠ 0) : s = t ∧ m = n := by
  cases s <;> cases t <;>
    simp only [signed, if_true, Bool.false_eq_true, Bool.true_eq_false, if_false, true_and, false_and]
      at same nonzero ⊢ <;> omega

theorem magnitude_lt_ceiling (e : Fin 2047) (f : Fin 4503599627370496) : magnitude e f < ceiling :=
  calc magnitude e f = significand e f * pow2 (e.val - 1) := by rw [magnitude_eq, spacing_eq, pow2_eq]
    _ ≤ significand e f * pow2 2045 := Nat.mul_le_mul_left _ (pow2_mono (by omega))
    _ < pow2 53 * pow2 2045 := Nat.mul_lt_mul_of_pos_right (significand_lt e f) (pow2_pos 2045)
    _ = ceiling := (pow2_add 53 2045).symm

theorem position_finite (s : Bool) (e : Fin 2047) (f : Fin 4503599627370496) :
    signed true ceiling < (finite s e f).position ∧ (finite s e f).position < signed false ceiling := by
  have inside := magnitude_lt_ceiling e f
  cases s <;> simp only [position, signed, if_true, Bool.false_eq_true, if_false] <;> omega

theorem eq_of_position_eq {x y : Binary64} (same : x.position = y.position) (nonzero : x.position ≠ 0) :
    x = y := by
  have far := pow2_pos 2098
  cases x with
  | nan => exact absurd rfl nonzero
  | infinite s =>
    cases y with
    | nan => exact absurd same nonzero
    | infinite t =>
      cases s <;> cases t <;>
        simp only [position, signed, ceiling, if_true, Bool.false_eq_true, if_false] at same ⊢ <;> omega
    | finite t g h =>
      obtain ⟨above, below⟩ := position_finite t g h
      rw [← same] at above below
      cases s
      · exact absurd below (Int.lt_irrefl _)
      · exact absurd above (Int.lt_irrefl _)
  | finite s e f =>
    cases y with
    | nan => exact absurd same nonzero
    | infinite t =>
      obtain ⟨above, below⟩ := position_finite s e f
      rw [same] at above below
      cases t
      · exact absurd below (Int.lt_irrefl _)
      · exact absurd above (Int.lt_irrefl _)
    | finite t g h =>
      obtain ⟨rfl, sizes⟩ := signed_injective same nonzero
      obtain ⟨rfl, rfl⟩ := magnitude_injective sizes
      rfl

theorem compare?_eq {x y : Binary64} (xNumber : x ≠ nan) (yNumber : y ≠ nan) :
    x.compare? y = some (compare x.position y.position) := by
  have least : signed true ceiling < signed false ceiling := by
    have positive := pow2_pos 2098
    simp only [signed, if_true, Bool.false_eq_true, if_false, ceiling]
    omega
  cases x with
  | nan => exact absurd rfl xNumber
  | infinite s =>
    cases y with
    | nan => exact absurd rfl yNumber
    | infinite t =>
      cases s <;> cases t
      · exact congrArg some (Std.compare_self).symm
      · exact congrArg some (compare_gt_iff_gt.mpr least).symm
      · exact congrArg some (compare_lt_iff_lt.mpr least).symm
      · exact congrArg some (Std.compare_self).symm
    | finite t g h =>
      obtain ⟨above, below⟩ := position_finite t g h
      cases s
      · exact congrArg some (compare_gt_iff_gt.mpr below).symm
      · exact congrArg some (compare_lt_iff_lt.mpr above).symm
  | finite s e f =>
    obtain ⟨above, below⟩ := position_finite s e f
    cases y with
    | nan => exact absurd rfl yNumber
    | infinite t =>
      cases t
      · exact congrArg some (compare_lt_iff_lt.mpr below).symm
      · exact congrArg some (compare_gt_iff_gt.mpr above).symm
    | finite t g h => rfl

theorem quotientToEven_bounds (num den : Nat) :
    num / den ≤ quotientToEven num den ∧ quotientToEven num den ≤ num / den + 1 := by
  unfold quotientToEven
  dsimp only
  split
  · omega
  · split <;> omega

theorem quotientToEven_mono {num num' den : Nat} (le : num ≤ num') :
    quotientToEven num den ≤ quotientToEven num' den := by
  have quotients : num / den ≤ num' / den := Nat.div_le_div_right le
  rcases Nat.lt_or_eq_of_le quotients with less | same
  · have low := quotientToEven_bounds num den
    have high := quotientToEven_bounds num' den
    omega
  · have division := Nat.div_add_mod num den
    have division' := Nat.div_add_mod num' den
    rw [same] at division
    unfold quotientToEven
    dsimp only
    rw [same]
    generalize num' / den = q at *
    generalize num % den = r at *
    generalize num' % den = r' at *
    have remainders : r ≤ r' := by omega
    split_ifs <;> omega

def rounded (m : Nat) : Nat :=
  quotientToEven m (pow2 (m.log2 - 52)) * pow2 (m.log2 - 52)

theorem nearest_one (s : Bool) (m : Nat) : nearest s m 1 = ofMagnitude s (rounded m) := by
  rw [nearest, rounded, Nat.div_one, Nat.one_mul]

theorem log2_mono {m n : Nat} (le : m ≤ n) : m.log2 ≤ n.log2 := by
  rw [Nat.log2_eq_log_two, Nat.log2_eq_log_two]
  exact Nat.log_mono_right le

theorem log2_lt_of_lt_pow2 {m k : Nat} (positive : m ≠ 0) (lt : m < pow2 k) : m.log2 < k :=
  (Nat.log2_lt positive).mpr lt

theorem quotient_lt (m : Nat) : m / pow2 (m.log2 - 52) < pow2 53 := by
  rw [Nat.div_lt_iff_lt_mul (pow2_pos _), ← pow2_add]
  exact Nat.lt_of_lt_of_le Nat.lt_log2_self (pow2_mono (by omega))

theorem rounded_le (m : Nat) : rounded m ≤ pow2 53 * pow2 (m.log2 - 52) := by
  have bounds := quotientToEven_bounds m (pow2 (m.log2 - 52))
  have quotient := quotient_lt m
  exact Nat.mul_le_mul_right _ (by omega)

theorem le_rounded {m : Nat} (wide : 0 < m.log2 - 52) : pow2 52 * pow2 (m.log2 - 52) ≤ rounded m := by
  have bounds := quotientToEven_bounds m (pow2 (m.log2 - 52))
  have positive : m ≠ 0 := by
    rintro rfl
    exact absurd wide (by decide)
  have low : pow2 52 ≤ m / pow2 (m.log2 - 52) := by
    rw [Nat.le_div_iff_mul_le (pow2_pos _), ← pow2_add, show 52 + (m.log2 - 52) = m.log2 by omega]
    exact Nat.log2_self_le positive
  exact Nat.mul_le_mul_right _ (low.trans bounds.1)

theorem rounded_mono {m n : Nat} (le : m ≤ n) : rounded m ≤ rounded n := by
  have shifts : m.log2 - 52 ≤ n.log2 - 52 := Nat.sub_le_sub_right (log2_mono le) 52
  rcases Nat.lt_or_eq_of_le shifts with less | same
  · -- A power of two lies between them.
    calc rounded m ≤ pow2 53 * pow2 (m.log2 - 52) := rounded_le m
      _ = pow2 (53 + (m.log2 - 52)) := (pow2_add _ _).symm
      _ ≤ pow2 (52 + (n.log2 - 52)) := pow2_mono (by omega)
      _ = pow2 52 * pow2 (n.log2 - 52) := pow2_add _ _
      _ ≤ rounded n := le_rounded (by omega)
  · rw [rounded, rounded, same]
    exact Nat.mul_le_mul_right _ (quotientToEven_mono le)

theorem pow2_dvd {a b : Nat} (le : a ≤ b) : pow2 a ∣ pow2 b := Nat.pow_dvd_pow 2 le

theorem spacing_dvd_of_aligned {q k : Nat} (short : q ≤ pow2 53) (positive : q ≠ 0) :
    pow2 ((q * pow2 k).log2 - 52) ∣ q * pow2 k := by
  have low : pow2 (q * pow2 k).log2 ≤ q * pow2 k :=
    Nat.log2_self_le (Nat.mul_ne_zero positive (pow2_pos k).ne')
  by_cases within : (q * pow2 k).log2 - 52 ≤ k
  · exact Dvd.dvd.mul_left (pow2_dvd within) q
  · -- Nothing but 2^53 itself reaches the next spacing.
    have wide : pow2 53 * pow2 k ≤ q * pow2 k := by
      rw [← pow2_add]
      exact (pow2_mono (by omega)).trans low
    have full : q = pow2 53 := Nat.le_antisymm short (Nat.le_of_mul_le_mul_right wide (pow2_pos k))
    rw [full, ← pow2_add] at low ⊢
    have narrow : (pow2 (53 + k)).log2 ≤ 53 + k := (Nat.pow_le_pow_iff_right (by decide)).mp low
    exact pow2_dvd (by omega)

theorem magnitude_of_leading {c shift : Nat} (least : pow2 52 ≤ c) (most : c < pow2 53)
    (inRange : shift + 1 < 2047) : ∃ e f, magnitude e f = c * pow2 shift := by
  have leading : pow2 52 = 4503599627370496 := rfl
  have double : pow2 53 = 2 * 4503599627370496 := rfl
  refine ⟨⟨shift + 1, inRange⟩, ⟨c - 4503599627370496, by omega⟩, ?_⟩
  rw [magnitude, if_neg (Nat.succ_ne_zero shift), Nat.add_sub_cancel,
    show 4503599627370496 + (c - 4503599627370496) = c by omega]

theorem exists_magnitude_eq {q k : Nat} (short : q ≤ pow2 53) (finite : q * pow2 k < ceiling) :
    ∃ e f, magnitude e f = q * pow2 k := by
  by_cases small : q * pow2 k < 4503599627370496
  · exact ⟨0, ⟨q * pow2 k, small⟩, rfl⟩
  have positive : q ≠ 0 := by
    rintro rfl
    omega
  obtain ⟨c, multiple⟩ := spacing_dvd_of_aligned (k := k) short positive
  generalize q * pow2 k = m at *
  have present : m ≠ 0 := by omega
  have leading : 52 ≤ m.log2 := (Nat.le_log2 present).mpr (Nat.le_of_not_lt small)
  obtain ⟨shift, places⟩ : ∃ shift, m.log2 = 52 + shift := ⟨m.log2 - 52, by omega⟩
  have whole : m = c * pow2 shift := by
    rw [Nat.mul_comm, ← show m.log2 - 52 = shift by omega]
    exact multiple
  have low : pow2 52 * pow2 shift ≤ m := by
    rw [← pow2_add, ← places]
    exact Nat.log2_self_le present
  have high : m < pow2 53 * pow2 shift := by
    rw [← pow2_add, show 53 + shift = m.log2 + 1 by omega]
    exact Nat.lt_log2_self
  have inRange : shift + 1 < 2047 := by
    by_contra far
    have top : ceiling ≤ pow2 52 * pow2 shift := by
      rw [← pow2_add]
      exact pow2_mono (by omega)
    omega
  rw [whole] at low high ⊢
  exact magnitude_of_leading (Nat.le_of_mul_le_mul_right low (pow2_pos shift))
    (Nat.lt_of_mul_lt_mul_right high) inRange

theorem exists_magnitude_rounded {m : Nat} (finite : rounded m < ceiling) :
    ∃ e f, magnitude e f = rounded m := by
  have bounds := quotientToEven_bounds m (pow2 (m.log2 - 52))
  have quotient := quotient_lt m
  exact exists_magnitude_eq (by omega) finite

theorem rounded_of_dvd {m : Nat} (aligned : pow2 (m.log2 - 52) ∣ m) : rounded m = m := by
  obtain ⟨q, product⟩ := aligned
  have kept : quotientToEven m (pow2 (m.log2 - 52)) = q := by
    refine quotientToEven_eq (pow2_pos _) ?_ ?_ fun _ => ?_ <;>
    · have positive := pow2_pos (m.log2 - 52)
      rw [Nat.mul_comm q, ← product]
      omega
  rw [rounded, kept, Nat.mul_comm]
  exact product.symm

theorem rounded_lt_ceiling {n : Nat} (fits : n ≤ pow2 63) : rounded (n * unit) < ceiling := by
  have size : (n * unit).log2 ≤ 1137 := by
    by_cases empty : n * unit = 0
    · rw [empty]
      decide
    · have high : n * unit < pow2 1138 :=
        calc n * unit ≤ pow2 63 * unit := Nat.mul_le_mul_right unit fits
          _ = pow2 (63 + 1074) := by rw [unit, pow2_add]
          _ < pow2 1138 := pow2_lt (by decide)
      exact Nat.le_of_lt_succ (log2_lt_of_lt_pow2 empty high)
  calc rounded (n * unit) ≤ pow2 53 * pow2 ((n * unit).log2 - 52) := rounded_le _
    _ = pow2 (53 + ((n * unit).log2 - 52)) := (pow2_add _ _).symm
    _ < ceiling := pow2_lt (by omega)

theorem ofInt_eq_finite {n : Int} (fits : n.natAbs ≤ pow2 63) :
    ∃ e f, ofInt n = finite (n < 0) e f ∧ magnitude e f = rounded (n.natAbs * unit) := by
  obtain ⟨e, f, size⟩ := exists_magnitude_rounded (rounded_lt_ceiling fits)
  refine ⟨e, f, ?_, size⟩
  rw [ofInt, nearest_one, ← size, ofMagnitude_magnitude]

theorem ofInt_ne_nan {n : Int} (fits : n.natAbs ≤ pow2 63) : ofInt n ≠ nan := by
  obtain ⟨e, f, value, -⟩ := ofInt_eq_finite fits
  rw [value]
  exact Binary64.noConfusion

theorem position_ofInt {n : Int} (fits : n.natAbs ≤ pow2 63) :
    (ofInt n).position = signed (n < 0) (rounded (n.natAbs * unit)) := by
  obtain ⟨e, f, value, size⟩ := ofInt_eq_finite fits
  rw [value, position, size]

theorem position_ofInt_mono {m n : Int} (mFits : m.natAbs ≤ pow2 63) (nFits : n.natAbs ≤ pow2 63)
    (le : m ≤ n) : (ofInt m).position ≤ (ofInt n).position := by
  rw [position_ofInt mFits, position_ofInt nFits]
  by_cases nNegative : n < 0
  · have mNegative : m < 0 := by omega
    have sizes : rounded (n.natAbs * unit) ≤ rounded (m.natAbs * unit) :=
      rounded_mono (Nat.mul_le_mul_right _ (by omega))
    simp only [signed, mNegative, nNegative, decide_true, if_true]
    omega
  · by_cases mNegative : m < 0
    · simp only [signed, mNegative, nNegative, decide_true, decide_false, if_true, Bool.false_eq_true,
        if_false]
      omega
    · have sizes : rounded (m.natAbs * unit) ≤ rounded (n.natAbs * unit) :=
        rounded_mono (Nat.mul_le_mul_right _ (by omega))
      simp only [signed, mNegative, nNegative, decide_false, Bool.false_eq_true, if_false]
      omega

theorem position_ofInt_of_short {n : Int} (short : n.natAbs ≤ pow2 53) :
    (ofInt n).position = n * unit := by
  have fits : n.natAbs ≤ pow2 63 := short.trans (pow2_mono (by decide))
  have exact : rounded (n.natAbs * unit) = n.natAbs * unit := by
    by_cases empty : n.natAbs = 0
    · rw [empty, Nat.zero_mul]
      rfl
    · exact rounded_of_dvd (spacing_dvd_of_aligned short empty)
  rw [position_ofInt fits, exact]
  by_cases negative : n < 0
  · simp only [signed, negative, decide_true, if_true, Int.natCast_mul]
    rw [← Int.neg_mul, show -(n.natAbs : Int) = n by omega]
  · simp only [signed, negative, decide_false, Bool.false_eq_true, if_false, Int.natCast_mul]
    rw [show (n.natAbs : Int) = n by omega]

theorem position_ofInt_ne_zero {n : Int} (fits : n.natAbs ≤ pow2 63) (nonzero : n ≠ 0) :
    (ofInt n).position ≠ 0 := by
  have least : 0 < (unit : Int) := Int.natCast_pos.mpr (pow2_pos 1074)
  rcases Int.lt_or_gt_of_ne nonzero with negative | positive
  · have one : (ofInt (-1)).position = (-1 : Int) * unit := position_ofInt_of_short (by decide)
    have below := position_ofInt_mono fits (n := -1) (by decide) (by omega)
    omega
  · have one : (ofInt 1).position = (1 : Int) * unit := position_ofInt_of_short (by decide)
    have above := position_ofInt_mono (m := 1) (by decide) fits (by omega)
    omega

end ComputedColumns.Binary64
