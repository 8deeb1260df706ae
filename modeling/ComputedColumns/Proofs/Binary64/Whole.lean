import ComputedColumns.Proofs.Binary64.Shortest

namespace ComputedColumns.Binary64

open Text

variable {e : Fin 2047} {f : Fin 4503599627370496}

theorem lt_of_inBasin {num den n : Nat} (positive : 0 < den) (inside : InBasin e f num den)
    (aligned : spacing e ∣ n) (less : magnitude e f < n) : num < n * den := by
  obtain ⟨count, rfl⟩ := aligned
  rw [magnitude_eq, Nat.mul_comm (spacing e)] at less
  have next := Nat.mul_le_mul_right (spacing e * den) (Nat.succ_le_of_lt (Nat.lt_of_mul_lt_mul_right less))
  have gap := Nat.mul_pos (spacing_pos e) positive
  have high := inside.high
  rw [magnitude_eq, Nat.mul_assoc, Nat.mul_assoc] at high
  rw [Nat.succ_mul] at next
  rw [Nat.mul_comm (spacing e), Nat.mul_assoc]
  omega

theorem gt_of_inBasin {num den n : Nat} (positive : 0 < den) (inside : InBasin e f num den)
    (aligned : spacing e ∣ n) (more : n < magnitude e f) : n * den < num := by
  obtain ⟨count, rfl⟩ := aligned
  rw [magnitude_eq, Nat.mul_comm (spacing e)] at more
  have next := Nat.mul_le_mul_right (spacing e * den) (Nat.succ_le_of_lt (Nat.lt_of_mul_lt_mul_right more))
  have gap := Nat.mul_pos (spacing_pos e) positive
  have narrow := Nat.mul_le_mul_right den (spacingBelow_le e f)
  have low := inside.low
  rw [Nat.mul_assoc] at narrow
  rw [magnitude_eq, Nat.mul_assoc] at low
  rw [Nat.succ_mul] at next
  rw [Nat.mul_comm (spacing e), Nat.mul_assoc]
  omega

theorem spacing_dvd_pow2 {k : Nat} (narrow : spacing e ≤ pow2 k) : spacing e ∣ pow2 k := by
  rw [spacing_eq, pow2_eq] at narrow ⊢
  exact Nat.pow_dvd_pow 2 ((Nat.pow_le_pow_iff_right (by decide)).mp narrow)

theorem pow2_dvd_spacing {k : Nat} (wide : pow2 k ≤ spacing e) : pow2 k ∣ spacing e := by
  rw [spacing_eq, pow2_eq] at wide ⊢
  exact Nat.pow_dvd_pow 2 ((Nat.pow_le_pow_iff_right (by decide)).mp wide)

theorem lt_pow2_of_inBasin {num k : Nat} (positive : 0 < magnitude e f)
    (inside : InBasin e f num 1) (small : magnitude e f < pow2 k) : num < pow2 k := by
  have narrow : spacing e ≤ magnitude e f := by
    rw [magnitude_eq]
    exact Nat.le_mul_of_pos_left _ (significand_pos positive)
  have aligned := spacing_dvd_pow2 (Nat.le_of_lt (Nat.lt_of_le_of_lt narrow small))
  rw [← Nat.mul_one (pow2 k)]
  exact lt_of_inBasin Nat.one_pos inside aligned small

theorem pow2_lt_of_inBasin {num k : Nat} (inside : InBasin e f num 1)
    (large : pow2 k < magnitude e f) : pow2 k < num := by
  by_cases narrow : spacing e ≤ pow2 k
  · rw [← Nat.mul_one (pow2 k)]
    exact gt_of_inBasin Nat.one_pos inside (spacing_dvd_pow2 narrow) large
  · have normal : e.val ≠ 0 := by
      intro subnormal
      have least := Nat.two_pow_pos k
      rw [spacing, if_pos subnormal, pow2_eq] at narrow
      omega
    have leading : 1 < significand e f := Nat.lt_of_lt_of_le (by decide) (le_significand normal)
    have more : spacing e < magnitude e f := by
      rw [magnitude_eq]
      exact (Nat.lt_mul_iff_one_lt_left (spacing_pos e)).mpr leading
    have beyond := gt_of_inBasin Nat.one_pos inside (Nat.dvd_refl _) more
    omega

theorem unit_dvd_of_wide (wide : unit ≤ spacing e) : unit ∣ magnitude e f := by
  rw [magnitude_eq]
  exact Nat.dvd_trans (pow2_dvd_spacing wide) (Nat.dvd_mul_left _ _)

theorem pos_of_broken (broken : ¬ unit ∣ magnitude e f) : 0 < magnitude e f := by
  apply Nat.pos_of_ne_zero
  intro empty
  rw [empty] at broken
  exact broken (Nat.dvd_zero unit)

theorem unit_dvd_of_inBasin {n : Nat} (inside : InBasin e f (n * unit) 1) : unit ∣ magnitude e f := by
  by_cases wide : unit ≤ spacing e
  · exact unit_dvd_of_wide wide
  · have aligned : spacing e ∣ n * unit :=
      Dvd.dvd.mul_left (spacing_dvd_pow2 (Nat.le_of_not_ge wide)) n
    rcases Nat.lt_trichotomy (magnitude e f) (n * unit) with less | same | more
    · have beyond := lt_of_inBasin Nat.one_pos inside aligned less
      rw [Nat.mul_one] at beyond
      exact absurd beyond (Nat.lt_irrefl _)
    · rw [same]
      exact Nat.dvd_mul_left _ _
    · have beyond := gt_of_inBasin Nat.one_pos inside aligned more
      rw [Nat.mul_one] at beyond
      exact absurd beyond (Nat.lt_irrefl _)

theorem ofInt_of_inBasin {n : Nat} (positive : 0 < n) (inside : InBasin e f (n * unit) 1) (s : Bool) :
    ofInt (applySign s n) = finite s e f := by
  have negative : decide (applySign s n < 0) = s := by
    cases s with
    | false => exact decide_eq_false (Int.not_lt.mpr (Int.natCast_nonneg n))
    | true =>
      apply decide_eq_true
      rw [applySign, if_pos rfl]
      omega
  have size : (applySign s n).natAbs = n := by
    cases s with
    | false => rfl
    | true =>
      rw [applySign, if_pos rfl]
      omega
  rw [ofInt, negative, size]
  exact nearest_of_inBasin s Nat.one_pos inside

theorem point_mem_withPoint {ds : List Char} {places : Nat} (point : places ≠ 0) :
    '.' ∈ withPoint ds places := by
  rw [withPoint, if_neg point]
  exact List.mem_append_right _ List.mem_cons_self

theorem point_mem_withSign {s : Bool} {cs : List Char} : '.' ∈ withSign s cs ↔ '.' ∈ cs := by
  cases s with
  | true => simp [withSign]
  | false => rfl

theorem point_mem_fixed_one (s : Bool) (e : Fin 2047) (f : Fin 4503599627370496) :
    '.' ∈ (finite s e f).fixed 1 :=
  point_mem_withSign.mpr (point_mem_withPoint Nat.one_ne_zero)

theorem point_mem_display (broken : ¬ unit ∣ magnitude e f) (s : Bool) :
    '.' ∈ (finite s e f).display := by
  have positive := pos_of_broken broken
  obtain ⟨c, p, decimal, fits⟩ := shortest_eq positive
  have small : p < 1074 := by
    by_contra large
    obtain ⟨k, rfl⟩ : ∃ k, p = k + 1074 := ⟨p - 1074, by omega⟩
    exact broken (unit_dvd_of_inBasin (whole_of_inBasin fits.inside))
  rw [display, if_neg (Nat.ne_of_gt positive), point_mem_withSign, decimal, Scientific.positional,
    if_neg (by dsimp only; omega)]
  exact point_mem_withPoint (by dsimp only; omega)

theorem display_of_large (large : 10 ^ 16 * unit ≤ magnitude e f) (s : Bool) :
    ∃ c k : Nat, shortest e f = ⟨c, k⟩ ∧ InBasin e f (c * 10 ^ k * unit) 1 ∧
      (finite s e f).display = withSign s (digits c ++ List.replicate k '0') := by
  have least := Nat.mul_pos (pow_ten_pos 16) unit_pos
  have positive : 0 < magnitude e f := Nat.lt_of_lt_of_le least large
  obtain ⟨c, p, decimal, fits⟩ := shortest_eq positive
  have long : 16 + 1074 < (digits (magnitude e f * fives)).length + 0 := by
    apply lt_places
    rw [← pow_ten_mul, Nat.pow_zero, Nat.mul_one, ← Nat.mul_assoc]
    exact Nat.mul_le_mul_right fives large
  have places := fits.places
  obtain ⟨k, rfl⟩ : ∃ k, p = k + 1074 := ⟨p - 1074, by omega⟩
  have exponent : ((k + 1074 : Nat) : Int) - 1074 = k := by omega
  rw [exponent] at decimal
  refine ⟨c, k, decimal, whole_of_inBasin fits.inside, ?_⟩
  rw [display, if_neg (Nat.ne_of_gt positive), decimal, Scientific.positional,
    if_pos (Int.natCast_nonneg k)]
  rfl

theorem pow2_63_eq : pow2 (63 + 1074) = 2 ^ 63 * unit := by
  rw [pow2_add, pow2_eq 63, unit]

theorem shortest_pow2_63 : shortest 1086 0 = ⟨9223372036854776, 3⟩ := by
  have length : (digits (magnitude 1086 0 * fives)).length = 1093 := by
    have present : 0 < magnitude 1086 0 * fives := by decide +kernel
    have low : 10 ^ 1092 ≤ magnitude 1086 0 * fives * 10 ^ 0 := by decide +kernel
    have high : magnitude 1086 0 * fives * 10 ^ 0 < 10 ^ 1093 := by decide +kernel
    have more := lt_places low
    have most := places_le present high
    omega
  unfold shortest
  dsimp only
  rw [length]
  decide +kernel

end ComputedColumns.Binary64
