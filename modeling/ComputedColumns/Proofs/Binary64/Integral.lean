import ComputedColumns.Proofs.Binary64.Order
import ComputedColumns.Proofs.Binary64.Whole
import ComputedColumns.Proofs.Decimal

namespace ComputedColumns.Binary64

variable {e : Fin 2047} {f : Fin 4503599627370496}

def value? : Binary64 → Option ℚ
  | finite s e f => some (signed s (magnitude e f) / unit)
  | _ => none

theorem unit_cast_pos : (0 : ℚ) < unit := Nat.cast_pos.mpr unit_pos

theorem value?_of_magnitude {n : Nat} (size : magnitude e f = n * unit) (s : Bool) :
    (finite s e f).value? = some (signed s n : ℚ) := by
  have multiple : signed s (n * unit) = signed s n * unit := applySign_mul s n unit
  rw [value?, size, multiple, Int.cast_mul, Int.cast_natCast,
    mul_div_cancel_right₀ _ unit_cast_pos.ne']

theorem exists_magnitude_whole {n : Nat} (below : n * unit < magnitude e f + unit)
    (above : magnitude e f < n * unit + unit) : ∃ g h, magnitude g h = n * unit := by
  by_cases whole : unit ∣ magnitude e f
  · obtain ⟨k, size⟩ := whole
    rw [size, Nat.mul_comm unit, ← Nat.succ_mul] at below above
    have same : n = k := by
      have upper := Nat.lt_of_mul_lt_mul_right below
      have lower := Nat.lt_of_mul_lt_mul_right above
      omega
    exact ⟨e, f, by rw [size, same, Nat.mul_comm]⟩
  · have narrow : spacing e < unit := Nat.lt_of_not_ge fun wide => whole (unit_dvd_of_wide wide)
    have small : magnitude e f < pow2 53 * unit := by
      rw [magnitude_eq]
      exact Nat.mul_lt_mul'' (significand_lt e f) narrow
    have short : n ≤ pow2 53 := by
      have bound : n * unit < (pow2 53).succ * unit := by
        rw [Nat.succ_mul]
        exact Nat.lt_trans below (Nat.add_lt_add_right small unit)
      exact Nat.le_of_lt_succ (Nat.lt_of_mul_lt_mul_right bound)
    apply exists_magnitude_eq short
    calc n * unit ≤ pow2 53 * unit := Nat.mul_le_mul_right _ short
      _ = pow2 (53 + 1074) := by rw [unit, pow2_add]
      _ < ceiling := pow2_lt (by decide)

theorem value?_roundWith {whole : Bool → Nat → Nat} {s : Bool} {n : Nat}
    (rounds : whole s (magnitude e f) = n) (below : n * unit < magnitude e f + unit)
    (above : magnitude e f < n * unit + unit) :
    (roundWith whole (finite s e f)).value? = some (signed s n : ℚ) := by
  obtain ⟨g, h, size⟩ := exists_magnitude_whole below above
  rw [roundWith, rounds, ← size, ofMagnitude_magnitude, value?_of_magnitude size]

theorem near_div (m : Nat) {d : Nat} (positive : 0 < d) : m / d * d < m + d ∧ m < m / d * d + d :=
  ⟨Nat.lt_of_le_of_lt (Nat.div_mul_le_self m d) (Nat.lt_add_of_pos_right positive),
    Nat.lt_div_mul_add positive⟩

theorem near_div_up (m : Nat) {d : Nat} (positive : 0 < d) :
    (m + d - 1) / d * d < m + d ∧ m ≤ (m + d - 1) / d * d := by
  have below := Nat.div_mul_le_self (m + d - 1) d
  have above := Nat.lt_div_mul_add (a := m + d - 1) positive
  omega

theorem near_div_nearest (m : Nat) {d : Nat} (positive : 0 < d) :
    (2 * m + d) / (2 * d) * d < m + d ∧ m < (2 * m + d) / (2 * d) * d + d := by
  have below := Nat.div_mul_le_self (2 * m + d) (2 * d)
  have above := Nat.lt_div_mul_add (a := 2 * m + d) (Nat.mul_pos Nat.two_pos positive)
  rw [Nat.mul_left_comm] at below above
  omega

theorem floor_signed (s : Bool) (m : Nat) {d : Nat} (positive : 0 < d) :
    ⌊(signed s m / d : ℚ)⌋ = signed s (if s then (m + d - 1) / d else m / d) := by
  cases s with
  | false => exact Rat.floor_natCast_div_natCast m d
  | true =>
    have divisor : (0 : ℚ) < d := Nat.cast_pos.mpr positive
    obtain ⟨below, above⟩ := near_div_up m positive
    simp only [signed, if_true]
    generalize (m + d - 1) / d = n at *
    have below : (n * d : ℚ) < m + d := by exact_mod_cast below
    have above : (m : ℚ) ≤ n * d := by exact_mod_cast above
    rw [Int.floor_eq_iff, le_div_iff₀ divisor, div_lt_iff₀ divisor]
    push_cast
    constructor <;> linarith

theorem ceil_signed (s : Bool) (m : Nat) {d : Nat} (positive : 0 < d) :
    ⌈(signed s m / d : ℚ)⌉ = signed s (if s then m / d else (m + d - 1) / d) := by
  have opposite : (signed s m : ℚ) = -signed (!s) m := by
    cases s <;> simp [signed]
  rw [opposite, neg_div, Int.ceil_neg, floor_signed _ _ positive]
  cases s <;> simp [signed]

theorem value?_floor {x : Binary64} {q : ℚ} (value : x.value? = some q) :
    x.floor.value? = some (⌊q⌋ : ℚ) := by
  cases x with
  | finite s e f =>
    obtain rfl := Option.some.inj value
    rw [floor_signed s _ unit_pos, floor]
    cases s with
    | false =>
      obtain ⟨below, above⟩ := near_div (magnitude e f) unit_pos
      rw [if_neg Bool.false_ne_true]
      exact value?_roundWith (if_neg Bool.false_ne_true) below above
    | true =>
      obtain ⟨below, above⟩ := near_div_up (magnitude e f) unit_pos
      rw [if_pos rfl]
      exact value?_roundWith (if_pos rfl) below
        (Nat.lt_of_le_of_lt above (Nat.lt_add_of_pos_right unit_pos))
  | _ => cases value

theorem value?_ceil {x : Binary64} {q : ℚ} (value : x.value? = some q) :
    x.ceil.value? = some (⌈q⌉ : ℚ) := by
  cases x with
  | finite s e f =>
    obtain rfl := Option.some.inj value
    rw [ceil_signed s _ unit_pos, ceil]
    cases s with
    | false =>
      obtain ⟨below, above⟩ := near_div_up (magnitude e f) unit_pos
      rw [if_neg Bool.false_ne_true]
      exact value?_roundWith (if_neg Bool.false_ne_true) below
        (Nat.lt_of_le_of_lt above (Nat.lt_add_of_pos_right unit_pos))
    | true =>
      obtain ⟨below, above⟩ := near_div (magnitude e f) unit_pos
      rw [if_pos rfl]
      exact value?_roundWith (if_pos rfl) below above
  | _ => cases value

theorem value?_round {x : Binary64} {q : ℚ} (value : x.value? = some q) :
    x.round.value? = some (roundAway q : ℚ) := by
  cases x with
  | finite s e f =>
    obtain rfl := Option.some.inj value
    have rounded : roundAway (signed s (magnitude e f) / unit) =
        signed s ((2 * magnitude e f + unit) / (2 * unit)) := roundAway_applySign s _ unit_pos
    obtain ⟨below, above⟩ := near_div_nearest (magnitude e f) unit_pos
    rw [rounded, round]
    exact value?_roundWith (Eq.refl _) below above
  | _ => cases value

theorem nearest_magnitude (s : Bool) (e : Fin 2047) (f : Fin 4503599627370496) :
    nearest s (magnitude e f) 1 = finite s e f := by
  apply nearest_of_inBasin s Nat.one_pos
  apply (inBasin_self e f).scale fives_pos Nat.one_pos
  rw [Nat.mul_one]

theorem natAbs_signed (s : Bool) (n : Nat) : (signed s n).natAbs = n := by
  cases s with
  | false => rfl
  | true => exact Int.natAbs_neg n

theorem signed_natAbs (k : ℤ) : signed (k < 0) k.natAbs = k := by
  by_cases negative : k < 0
  · simp only [signed, negative, decide_true, if_true]
    omega
  · simp only [signed, negative, decide_false, Bool.false_eq_true, if_false]
    omega

theorem magnitude_of_value {s : Bool} {k : ℤ} (value : (finite s e f).value? = some (k : ℚ)) :
    magnitude e f = k.natAbs * unit := by
  have same := Option.some.inj value
  rw [div_eq_iff unit_cast_pos.ne'] at same
  have multiple : signed s (magnitude e f) = k * unit := by exact_mod_cast same
  have sizes := congrArg Int.natAbs multiple
  rwa [natAbs_signed, Int.natAbs_mul, Int.natAbs_natCast] at sizes

theorem value?_ofInt {x : Binary64} {k : ℤ} (value : x.value? = some (k : ℚ)) :
    (ofInt k).value? = some (k : ℚ) := by
  cases x with
  | finite s e f =>
    have size := magnitude_of_value value
    rw [ofInt, ← size, nearest_magnitude, value?_of_magnitude size, signed_natAbs]
  | _ => cases value

theorem quotientToEven_scale (num den : Nat) {d : Nat} (positive : 0 < d) :
    quotientToEven (num * d) (den * d) = quotientToEven num den := by
  have twice (r : Nat) : 2 * (r * d) = 2 * r * d := (Nat.mul_assoc 2 r d).symm
  unfold quotientToEven
  simp only [Nat.mul_div_mul_right _ _ positive, Nat.mul_mod_mul_right, twice,
    Nat.mul_lt_mul_right positive]

theorem nearest_scale (s : Bool) (num den : Nat) {d : Nat} (positive : 0 < d) :
    nearest s (num * d) (den * d) = nearest s num den := by
  unfold nearest
  dsimp only
  rw [Nat.mul_div_mul_right _ _ positive, Nat.mul_right_comm, quotientToEven_scale _ _ positive]

theorem nearest_unit (s : Bool) (m : Nat) : nearest s (m * unit) unit = ofMagnitude s (rounded m) := by
  have scaled := nearest_scale s m 1 unit_pos
  rw [Nat.one_mul] at scaled
  rw [scaled, nearest_one]

theorem ofMagnitude_of_ceiling_le {m : Nat} (large : ceiling ≤ m) (s : Bool) :
    ofMagnitude s m = infinite s := by
  obtain ⟨places, power, far⟩ : ∃ places, ceiling = pow2 places ∧ 2098 ≤ places :=
    ⟨2098, rfl, Nat.le_refl _⟩
  rw [power] at large
  have positive : m ≠ 0 := Nat.ne_of_gt (Nat.lt_of_lt_of_le (pow2_pos places) large)
  have long : places ≤ m.log2 := (Nat.le_log2 positive).mpr large
  have normal : 4503599627370496 ≤ m := (pow2_mono (show 52 ≤ places by omega)).trans large
  rw [ofMagnitude, if_neg (Nat.not_lt.mpr normal)]
  exact dif_neg (by omega)

theorem unit_dvd_rounded {m : Nat} (whole : unit ∣ m) : unit ∣ rounded m := by
  by_cases narrow : m.log2 - 52 ≤ 1074
  · rw [rounded_of_dvd (Nat.dvd_trans (pow2_dvd narrow) whole)]
    exact whole
  · exact Nat.dvd_trans (pow2_dvd (Nat.le_of_not_le narrow)) (Nat.dvd_mul_left _ _)

/-- The number is whole, or has no value. -/
def IsWhole (x : Binary64) : Prop := ∀ q, x.value? = some q → ∃ k : ℤ, q = k

theorem isWhole_of_value {x : Binary64} {k : ℤ} (value : x.value? = some (k : ℚ)) : x.IsWhole := by
  intro q same
  rw [value] at same
  exact ⟨k, (Option.some.inj same).symm⟩

theorem isWhole_finite_iff {s : Bool} : (finite s e f).IsWhole ↔ unit ∣ magnitude e f := by
  constructor
  · intro whole
    obtain ⟨k, same⟩ := whole _ rfl
    rw [magnitude_of_value (congrArg some same)]
    exact Nat.dvd_mul_left unit k.natAbs
  · rintro ⟨n, size⟩
    rw [Nat.mul_comm] at size
    exact isWhole_of_value (value?_of_magnitude size s)

theorem isWhole_ofMagnitude {m : Nat} (whole : unit ∣ m) (s : Bool) :
    (ofMagnitude s (rounded m)).IsWhole := by
  rcases Nat.lt_or_ge (rounded m) ceiling with inside | large
  · obtain ⟨g, h, size⟩ := exists_magnitude_rounded inside
    rw [← size, ofMagnitude_magnitude, isWhole_finite_iff, size]
    exact unit_dvd_rounded whole
  · rw [ofMagnitude_of_ceiling_le large]
    exact nofun

theorem isWhole_mul {x y : Binary64} (left : x.IsWhole) (right : y.IsWhole) : (x.mul y).IsWhole := by
  cases x with
  | nan => exact nofun
  | infinite s =>
    cases y with
    | nan => exact nofun
    | infinite t => exact nofun
    | finite t g h =>
      rw [mul]
      split <;> exact nofun
  | finite s e f =>
    cases y with
    | nan => exact nofun
    | infinite t =>
      rw [mul]
      split <;> exact nofun
    | finite t g h =>
      obtain ⟨n, size⟩ := isWhole_finite_iff.mp left
      have product : magnitude e f * magnitude g h = n * magnitude g h * unit := by
        rw [size]
        ring
      rw [mul, product, nearest_unit]
      exact isWhole_ofMagnitude (Dvd.dvd.mul_left (isWhole_finite_iff.mp right) n) _

theorem isWhole_powOnto {result base : Binary64} (left : result.IsWhole) (right : base.IsWhole)
    (n : Nat) : (powOnto result base n).IsWhole := by
  induction n using Nat.strongRecOn generalizing result base with
  | ind n ih =>
    have odd : (if n % 2 = 1 then result.mul base else result).IsWhole := by
      split
      · exact isWhole_mul left right
      · exact left
    rw [powOnto]
    split
    · exact odd
    · exact ih (n / 2) (by omega) odd (isWhole_mul right right)

theorem isWhole_powTen (n : Nat) : (powTen n).IsWhole := by
  have one : ofInt 1 = finite false 1023 0 := by decide +kernel
  have ten : ofInt 10 = finite false 1026 1125899906842624 := by decide +kernel
  rw [powTen, one, ten]
  apply isWhole_powOnto
  · rw [isWhole_finite_iff]
    decide +kernel
  · rw [isWhole_finite_iff]
    decide +kernel

theorem isWhole_round (x : Binary64) : x.round.IsWhole := by
  cases x with
  | finite s e f => exact isWhole_of_value (value?_round rfl)
  | nan => exact nofun
  | infinite s => exact nofun

end ComputedColumns.Binary64
