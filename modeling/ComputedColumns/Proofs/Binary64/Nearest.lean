import ComputedColumns.Binary64.Decimal
import Mathlib.Tactic.Linarith
import Mathlib.Tactic.Ring

namespace ComputedColumns.Binary64

variable {e : Fin 2047} {f : Fin 4503599627370496}

theorem pow2_eq (n : Nat) : pow2 n = 2 ^ n := rfl

theorem pow2_add (a b : Nat) : pow2 (a + b) = pow2 a * pow2 b := Nat.pow_add 2 a b

def significand (e : Fin 2047) (f : Fin 4503599627370496) : Nat :=
  if e.val = 0 then f.val else 2 ^ 52 + f.val

theorem spacing_eq (e : Fin 2047) : spacing e = 2 ^ (e.val - 1) := by
  unfold spacing
  split
  · rename_i zero
    rw [zero]
    rfl
  · rw [pow2_eq]

theorem magnitude_eq (e : Fin 2047) (f : Fin 4503599627370496) :
    magnitude e f = significand e f * spacing e := by
  unfold magnitude significand spacing
  split
  · rw [Nat.mul_one]
  · rfl

theorem significand_lt (e : Fin 2047) (f : Fin 4503599627370496) : significand e f < 2 ^ 53 := by
  unfold significand
  split <;> omega

theorem le_significand (positive : e.val ≠ 0) : 2 ^ 52 ≤ significand e f := by
  rw [significand, if_neg positive]
  omega

theorem spacing_pos (e : Fin 2047) : 0 < spacing e := by
  rw [spacing_eq]
  exact Nat.two_pow_pos _

theorem significand_mod (e : Fin 2047) (f : Fin 4503599627370496) :
    significand e f % 2 = f.val % 2 := by
  unfold significand
  split <;> omega

theorem quotientToEven_eq {num den q : Nat} (positive : 0 < den)
    (low : 2 * (q * den) ≤ 2 * num + den) (high : 2 * num ≤ 2 * (q * den) + den)
    (odd : q % 2 = 1 → 2 * (q * den) < 2 * num + den ∧ 2 * num < 2 * (q * den) + den) :
    quotientToEven num den = q := by
  have division : den * (num / den) + num % den = num := Nat.div_add_mod num den
  have remainder : num % den < den := Nat.mod_lt num positive
  unfold quotientToEven
  dsimp only
  generalize num / den = n at *
  generalize num % den = r at *
  have near : q = n ∨ q = n + 1 := by
    have upper : q < n + 2 := by nlinarith
    have lower : n < q + 1 := by nlinarith
    omega
  rcases near with rfl | rfl
  · rw [Nat.mul_comm den] at division
    split
    · rfl
    · split
      · omega
      · by_contra
        have tie := odd (by omega)
        omega
  · have product : (n + 1) * den = den * n + den := by ring
    rw [product] at low high odd
    split
    · omega
    · split
      · rfl
      · have tie : n % 2 = 1 := by
          by_contra even
          have strict := odd (by omega)
          omega
        omega

theorem log2_eq {n k : Nat} (low : 2 ^ k ≤ n) (high : n < 2 ^ (k + 1)) : n.log2 = k := by
  have positive : n ≠ 0 := by
    rintro rfl
    exact absurd low (Nat.not_le.mpr (Nat.two_pow_pos k))
  exact (Nat.log2_eq_iff positive).mpr ⟨low, high⟩

theorem ofMagnitude_magnitude (s : Bool) (e : Fin 2047) (f : Fin 4503599627370496) :
    ofMagnitude s (magnitude e f) = finite s e f := by
  by_cases zero : e.val = 0
  · have small : magnitude e f = f.val := by rw [magnitude, if_pos zero]
    have same : e = 0 := Fin.ext zero
    rw [ofMagnitude, small, if_pos f.isLt, same, Fin.ofNat_val_eq_self]
  · have leading := le_significand (f := f) zero
    have bound := significand_lt e f
    have spaced : magnitude e f = significand e f * 2 ^ (e.val - 1) := by
      rw [magnitude_eq, spacing_eq]
    have low : 2 ^ (52 + (e.val - 1)) ≤ magnitude e f := by
      rw [spaced, Nat.pow_add]
      exact Nat.mul_le_mul_right _ leading
    have high : magnitude e f < 2 ^ (52 + (e.val - 1) + 1) := by
      rw [spaced, show 52 + (e.val - 1) + 1 = 53 + (e.val - 1) by omega, Nat.pow_add]
      exact Nat.mul_lt_mul_of_pos_right bound (Nat.two_pow_pos _)
    have large : ¬ magnitude e f < 4503599627370496 := by
      have ends : 2 ^ 52 ≤ 2 ^ (52 + (e.val - 1)) := Nat.pow_le_pow_right (by decide) (by omega)
      omega
    have shift : 52 + (e.val - 1) - 52 = e.val - 1 := by omega
    have exponent : e.val - 1 + 1 = e.val := by omega
    have divided : magnitude e f / pow2 (e.val - 1) = 2 ^ 52 + f.val := by
      rw [spaced, pow2_eq, Nat.mul_div_cancel _ (Nat.two_pow_pos _), significand, if_neg zero]
    have fraction : Fin.ofNat 4503599627370496 (2 ^ 52 + f.val) = f := by
      apply Fin.ext
      rw [Fin.val_ofNat]
      omega
    unfold ofMagnitude
    rw [if_neg large, log2_eq low high, shift]
    simp only [exponent, e.isLt, dif_pos, divided, fraction]

theorem magnitude_injective {g : Fin 2047} {h : Fin 4503599627370496}
    (same : magnitude e f = magnitude g h) : e = g ∧ f = h := by
  have rounded := ofMagnitude_magnitude false e f
  rw [same, ofMagnitude_magnitude] at rounded
  cases rounded
  exact ⟨rfl, rfl⟩

theorem nearest_eq {num den k q : Nat} (s : Bool) (positive : 0 < den)
    (below : k = 0 ∨ 2 ^ (52 + k) * den ≤ num) (above : num < 2 ^ (53 + k) * den)
    (rounds : quotientToEven num (den * 2 ^ k) = q) :
    nearest s num den = ofMagnitude s (q * 2 ^ k) := by
  have high : num / den < 2 ^ (53 + k) := (Nat.div_lt_iff_lt_mul positive).mpr above
  have step : (num / den).log2 - 52 = k := by
    rcases below with rfl | low
    · by_cases zero : num / den = 0
      · rw [zero]
        rfl
      · have small := (Nat.log2_lt zero).mpr high
        omega
    · have low : 2 ^ (52 + k) ≤ num / den := (Nat.le_div_iff_mul_le positive).mpr low
      have exact := log2_eq low (by rwa [show 52 + k + 1 = 53 + k by omega])
      omega
  rw [nearest, step, pow2_eq, rounds]

def spacingBelow (e : Fin 2047) (f : Fin 4503599627370496) : Nat :=
  if f.val = 0 ∧ 1 < e.val then spacing e else 2 * spacing e

/-- The quotient lies in the basin of the number, in multiples of 2^-1074. -/
structure InBasin (e : Fin 2047) (f : Fin 4503599627370496) (num den : Nat) : Prop where
  low : 4 * (magnitude e f * den) ≤ 4 * num + spacingBelow e f * den
  high : 4 * num ≤ 4 * (magnitude e f * den) + 2 * spacing e * den
  odd : f.val % 2 = 1 → 4 * (magnitude e f * den) < 4 * num + spacingBelow e f * den ∧
    4 * num < 4 * (magnitude e f * den) + 2 * spacing e * den

theorem spacingBelow_le (e : Fin 2047) (f : Fin 4503599627370496) :
    spacingBelow e f ≤ 2 * spacing e := by
  unfold spacingBelow
  split <;> omega

theorem nearest_below {num den : Nat} (s : Bool) (positive : 0 < den) (inside : InBasin e f num den)
    (power : f.val = 0 ∧ 1 < e.val) (less : num < magnitude e f * den) :
    nearest s num den = finite s e f := by
  have exponent : e.val ≠ 0 := by omega
  have half : spacing e = 2 * 2 ^ (e.val - 2) := by
    rw [spacing_eq, ← Nat.pow_succ']
    congr 1
    omega
  have whole : magnitude e f = 2 ^ 53 * 2 ^ (e.val - 2) := by
    rw [magnitude_eq, half, significand, if_neg exponent, power.1]
    ring
  have low := inside.low
  rw [spacingBelow, if_pos power, half, whole] at low
  rw [whole] at less
  have unit : 0 < den * 2 ^ (e.val - 2) := Nat.mul_pos positive (Nat.two_pow_pos _)
  have product : 2 ^ 53 * 2 ^ (e.val - 2) * den = 2 ^ 53 * (den * 2 ^ (e.val - 2)) := by ring
  have gap : 2 * 2 ^ (e.val - 2) * den = 2 * (den * 2 ^ (e.val - 2)) := by ring
  rw [product, gap] at low
  rw [product] at less
  rw [← ofMagnitude_magnitude, whole]
  apply nearest_eq s positive
  · right
    rw [Nat.pow_add, Nat.mul_assoc, Nat.mul_comm _ den]
    omega
  · rw [Nat.pow_add, Nat.mul_assoc, Nat.mul_comm _ den]
    exact less
  · apply quotientToEven_eq unit
    · omega
    · omega
    · intro odd
      omega

/-- All reals of the basin of a number are rounded to it. -/
theorem nearest_of_inBasin {num den : Nat} (s : Bool) (positive : 0 < den)
    (inside : InBasin e f num den) : nearest s num den = finite s e f := by
  by_cases finer : (f.val = 0 ∧ 1 < e.val) ∧ num < magnitude e f * den
  · exact nearest_below s positive inside finer.1 finer.2
  have bound := significand_lt e f
  have narrow := spacingBelow_le e f
  have low := inside.low
  have high := inside.high
  have product : magnitude e f * den = significand e f * (den * spacing e) := by
    rw [magnitude_eq]
    ring
  have gap : 2 * spacing e * den = 2 * (den * spacing e) := by ring
  have unit : 0 < den * spacing e := Nat.mul_pos positive (spacing_pos e)
  have widened : spacingBelow e f * den ≤ 2 * (den * spacing e) := by
    rw [← gap]
    exact Nat.mul_le_mul_right den narrow
  rw [product] at low high
  rw [gap] at high
  rw [← ofMagnitude_magnitude, magnitude_eq, spacing_eq]
  -- On this grid the quotient has 53 bits, or fewer at the least exponent, and is rounded to the significand.
  apply nearest_eq s positive
  · by_cases small : e.val ≤ 1
    · left
      omega
    · right
      have leading : 2 ^ 52 ≤ significand e f := le_significand (by omega)
      rw [Nat.pow_add, Nat.mul_assoc, ← spacing_eq, Nat.mul_comm _ den]
      by_cases power : f.val = 0
      · have more : ¬ num < magnitude e f * den := fun less => finer ⟨⟨power, by omega⟩, less⟩
        rw [product] at more
        have least := Nat.mul_le_mul_right (den * spacing e) leading
        omega
      · have leading : 2 ^ 52 + 1 ≤ significand e f := by
          rw [significand, if_neg (by omega)]
          omega
        have least := Nat.mul_le_mul_right (den * spacing e) leading
        omega
  · rw [Nat.pow_add, Nat.mul_assoc, ← spacing_eq, Nat.mul_comm _ den]
    have most := Nat.mul_le_mul_right (den * spacing e) (Nat.le_sub_one_of_lt bound)
    omega
  · rw [← spacing_eq]
    apply quotientToEven_eq unit
    · omega
    · omega
    · intro odd
      rw [significand_mod] at odd
      have strict := inside.odd odd
      rw [product, gap] at strict
      omega

end ComputedColumns.Binary64
