import ComputedColumns.Formula.Rounding
import ComputedColumns.Proofs.Binary64.Integral
import ComputedColumns.Proofs.Formula.Currency

namespace ComputedColumns

open Text

namespace Binary64

variable {e : Fin 2047} {f : Fin 4503599627370496} {g : Nat}

theorem unit_eq_double (half : g + 1 = 1074) : unit = 2 * pow2 g := by
  rw [unit, ← half, Nat.add_comm, pow2_add]
  rfl

theorem half_mul_fives (half : g + 1 = 1074) : pow2 g * fives = 5 * 10 ^ g := by
  have whole := unit_mul_fives half
  rw [unit_eq_double half, Nat.pow_one] at whole
  linarith

theorem spacing_dvd_half (half : g + 1 = 1074) (broken : ¬ unit ∣ magnitude e f) :
    spacing e ∣ pow2 g := by
  have narrow : spacing e < unit := Nat.lt_of_not_ge fun wide => broken (unit_dvd_of_wide wide)
  apply spacing_dvd_pow2
  rw [unit, ← half, spacing_eq, pow2_eq] at narrow
  rw [spacing_eq, pow2_eq]
  exact Nat.pow_le_pow_right Nat.two_pos
    (Nat.le_of_lt_succ ((Nat.pow_lt_pow_iff_right (by decide)).mp narrow))

theorem shortest_of_half (half : g + 1 = 1074) (broken : ¬ unit ∣ magnitude e f)
    (onHalf : pow2 g ∣ magnitude e f) :
    ∃ c p : Nat, shortest e f = ⟨c, p - 1074⟩ ∧ Fits e f c p ∧ c * 10 ^ p = magnitude e f * fives := by
  have positive := pos_of_broken broken
  have onGrid : 10 ^ g ∣ magnitude e f * fives := by
    obtain ⟨n, size⟩ := onHalf
    rw [size, Nat.mul_right_comm, half_mul_fives half]
    exact Dvd.dvd.mul_right (Nat.dvd_mul_left _ _) n
  have small : magnitude e f ≤ 2 ^ 53 * pow2 g := by
    rw [magnitude_eq]
    exact Nat.mul_le_mul (Nat.le_of_lt (significand_lt e f))
      (Nat.le_of_dvd (pow2_pos g) (spacing_dvd_half half broken))
  have few : (digits (magnitude e f * fives)).length ≤ g + 17 := by
    rw [← Nat.add_zero (digits _).length]
    apply places_le (Nat.mul_pos positive fives_pos)
    rw [Nat.pow_zero, Nat.mul_one]
    calc magnitude e f * fives ≤ 2 ^ 53 * pow2 g * fives := Nat.mul_le_mul_right fives small
      _ = 2 ^ 53 * 5 * 10 ^ g := by rw [Nat.mul_assoc, half_mul_fives half, Nat.mul_assoc]
      _ < 10 ^ 17 * 10 ^ g := Nat.mul_lt_mul_of_pos_right (by decide) (pow_ten_pos g)
      _ = 10 ^ (g + 17) := by rw [← Nat.pow_add, Nat.add_comm]
  obtain ⟨c, p, decimal, fits, coarse, exact⟩ := shortest_of_dvd positive onGrid few
  refine ⟨c, p, decimal, fits, exact (Nat.le_antisymm ?_ coarse)⟩
  by_contra whole
  obtain ⟨k, rfl⟩ : ∃ k, p = k + 1074 := ⟨p - 1074, by omega⟩
  exact broken (unit_dvd_of_inBasin (whole_of_inBasin fits.inside))

theorem nearest_of_no_half {num : Nat} (half : g + 1 = 1074) (broken : ¬ unit ∣ magnitude e f)
    (offHalf : ¬ pow2 g ∣ magnitude e f) (inside : InBasin e f num fives) :
    (2 * num + unit * fives) / (2 * (unit * fives)) = (2 * magnitude e f + unit) / (2 * unit) := by
  have aligned (n : Nat) : spacing e ∣ n * pow2 g := Dvd.dvd.mul_left (spacing_dvd_half half broken) n
  have low := Nat.div_mul_le_self (2 * magnitude e f + unit) (2 * unit)
  have high := Nat.lt_div_mul_add (a := 2 * magnitude e f + unit) (Nat.mul_pos Nat.two_pos unit_pos)
  rw [unit_eq_double half] at low high ⊢
  generalize (2 * magnitude e f + 2 * pow2 g) / (2 * (2 * pow2 g)) = n at *
  apply Nat.div_eq_of_lt_le
  · cases n with
    | zero =>
      rw [Nat.zero_mul]
      exact Nat.zero_le _
    | succ n =>
      have different : (2 * n + 1) * pow2 g ≠ magnitude e f :=
        fun same => offHalf (same ▸ Nat.dvd_mul_left _ _)
      have below : (2 * n + 1) * pow2 g < magnitude e f := by
        apply Nat.lt_of_le_of_ne _ different
        linarith
      have passed := gt_of_inBasin fives_pos inside (aligned _) below
      linarith
  · have above : magnitude e f < (2 * n + 1) * pow2 g := by linarith
    have passed := lt_of_inBasin fives_pos inside (aligned _) above
    linarith

theorem nearest_shortest (broken : ¬ unit ∣ magnitude e f) :
    ∃ c p : Nat, shortest e f = ⟨c, p - 1074⟩ ∧ Fits e f c p ∧
      (2 * (c * 10 ^ p) + unit * fives) / (2 * (unit * fives)) =
        (2 * magnitude e f + unit) / (2 * unit) := by
  obtain ⟨g, half⟩ : ∃ g, g + 1 = 1074 := ⟨1073, rfl⟩
  by_cases onHalf : pow2 g ∣ magnitude e f
  · obtain ⟨c, p, decimal, fits, exact⟩ := shortest_of_half half broken onHalf
    refine ⟨c, p, decimal, fits, ?_⟩
    rw [exact, ← Nat.mul_assoc, ← Nat.add_mul, ← Nat.mul_assoc, Nat.mul_div_mul_right _ _ fives_pos]
  · obtain ⟨c, p, decimal, fits⟩ := shortest_eq (pos_of_broken broken)
    exact ⟨c, p, decimal, fits, nearest_of_no_half half broken onHalf fits.inside⟩

theorem unit_mul_fives_ne_zero : ((unit * fives : Nat) : ℚ) ≠ 0 :=
  Nat.cast_ne_zero.mpr (Nat.ne_of_gt (Nat.mul_pos unit_pos fives_pos))

theorem shown_eq (positive : 0 < magnitude e f) {c p : Nat} (decimal : shortest e f = ⟨c, p - 1074⟩)
    (fits : Fits e f c p) (s : Bool) :
    (finite s e f).shown = applySign s (c * 10 ^ p) / (unit * fives : Nat) := by
  obtain ⟨ds, places, shown, value⟩ := shown_of_shortest positive decimal fits s
  have power : (10 ^ places : ℚ) ≠ 0 := by positivity
  have same : applySign s (ofDigits ds) * (unit * fives : Nat) =
      applySign s (c * 10 ^ p) * (10 ^ places : Nat) := by
    rw [← applySign_mul, ← applySign_mul, value]
  rw [Binary64.shown, shown.value, div_eq_div_iff power unit_mul_fives_ne_zero]
  exact_mod_cast same

theorem roundAway_shown_of_broken (broken : ¬ unit ∣ magnitude e f) (s : Bool) :
    roundAway (finite s e f).shown = roundAway (signed s (magnitude e f) / unit) := by
  have positive := pos_of_broken broken
  obtain ⟨c, p, decimal, fits, nearest⟩ := nearest_shortest broken
  rw [shown_eq positive decimal fits, roundAway_applySign _ _ (Nat.mul_pos unit_pos fives_pos), nearest]
  exact (roundAway_applySign s _ unit_pos).symm

/-- Either the grid of the whole numbers has at most seventeen digits, or the shortest decimal has no place
left for decimals. -/
theorem shortest_of_whole {g : Nat} (power : 10 ^ g = unit * fives) (whole : unit ∣ magnitude e f)
    (positive : 0 < magnitude e f) :
    ∃ c k : Nat, shortest e f = ⟨c, (k + g : Nat) - 1074⟩ ∧ Fits e f c (k + g) := by
  by_cases few : (digits (magnitude e f * fives)).length ≤ g + 17
  · have onGrid : 10 ^ g ∣ magnitude e f * fives := by
      rw [power]
      exact Nat.mul_dvd_mul_right whole fives
    obtain ⟨c, p, decimal, fits, coarse, -⟩ := shortest_of_dvd positive onGrid few
    obtain ⟨k, rfl⟩ : ∃ k, p = k + g := ⟨p - g, by omega⟩
    exact ⟨c, k, decimal, fits⟩
  · obtain ⟨c, p, decimal, fits⟩ := shortest_eq positive
    have places := fits.places
    obtain ⟨k, rfl⟩ : ∃ k, p = k + g := ⟨p - g, by omega⟩
    exact ⟨c, k, decimal, fits⟩

theorem exists_shown_of_whole (whole : unit ∣ magnitude e f) (positive : 0 < magnitude e f) (s : Bool) :
    ∃ n : ℤ, (finite s e f).shown = n ∧ ofInt n = finite s e f := by
  obtain ⟨g, point⟩ : ∃ g, g = 1074 := ⟨1074, rfl⟩
  have power : 10 ^ g = unit * fives := by
    rw [unit_mul_fives (show g + 0 = 1074 from point), Nat.pow_zero, Nat.mul_one]
  obtain ⟨c, k, decimal, fits⟩ := shortest_of_whole power whole positive
  obtain ⟨present, -, -⟩ := places_of_inBasin positive fits.inside
  refine ⟨applySign s (c * 10 ^ k), ?_, ?_⟩
  · rw [shown_eq positive decimal fits, Nat.pow_add, ← Nat.mul_assoc, power, applySign_mul, Int.cast_mul,
      Int.cast_natCast, mul_div_cancel_right₀ _ unit_mul_fives_ne_zero]
  · rw [point] at fits
    exact ofInt_of_inBasin (Nat.mul_pos present (pow_ten_pos k)) (whole_of_inBasin fits.inside) s

theorem value?_ofInt_roundAway_shown (s : Bool) (e : Fin 2047) (f : Fin 4503599627370496) :
    (ofInt (roundAway (finite s e f).shown)).value? =
      some (roundAway (signed s (magnitude e f) / unit) : ℚ) := by
  by_cases whole : unit ∣ magnitude e f
  · obtain ⟨n, size⟩ := whole
    have value := value?_of_magnitude (size.trans (Nat.mul_comm unit n)) s
    have exact := Option.some.inj value
    rw [exact, roundAway_intCast, ← value]
    rcases Nat.eq_zero_or_pos (magnitude e f) with empty | positive
    · have zero : (finite s e f).value? = some ((0 : ℤ) : ℚ) := by
        rw [value?, empty, (show signed s 0 = 0 by cases s <;> rfl), Int.cast_zero, zero_div]
      rw [shown_zero empty, ← Int.cast_zero, roundAway_intCast, zero]
      exact value?_ofInt zero
    · obtain ⟨k, shown, back⟩ := exists_shown_of_whole ⟨n, size⟩ positive s
      rw [shown, roundAway_intCast, back]
  · rw [roundAway_shown_of_broken whole]
    exact value?_ofInt (value?_round (x := finite s e f) rfl)

theorem powTen_zero : powTen 0 = finite false 1023 0 := by
  rw [powTen, powOnto]
  decide +kernel

theorem magnitude_one : magnitude 1023 0 = unit := by
  decide +kernel

theorem nearest_mul_unit (s : Bool) (e : Fin 2047) (f : Fin 4503599627370496) :
    nearest s (magnitude e f * unit) unit = finite s e f := by
  have scaled := nearest_scale s (magnitude e f) 1 unit_pos
  rwa [Nat.one_mul, nearest_magnitude] at scaled

theorem mul_powTen_zero (x : Binary64) : x.mul (powTen 0) = x := by
  rw [powTen_zero]
  cases x with
  | nan => rfl
  | infinite s => rw [mul, magnitude_one, if_neg unit_pos.ne', Bool.bne_false]
  | finite s e f => rw [mul, magnitude_one, Bool.bne_false, nearest_mul_unit]

theorem div_powTen_zero (x : Binary64) : x.div (powTen 0) = x := by
  rw [powTen_zero]
  cases x with
  | nan => rfl
  | infinite s => rw [div, Bool.bne_false]
  | finite s e f => rw [div, magnitude_one, if_neg unit_pos.ne', Bool.bne_false, nearest_mul_unit]

end Binary64

namespace Decimal

theorem toBinary64_round_zero (d : Decimal) :
    (d.round 0).toBinary64 = .ofInt (roundAway d.value) := by
  have none : (d.round 0).scale = 0 := by
    rw [round]
    split
    · omega
    · rfl
  have value := value_round 0 d
  rw [value_eq, none, pow_zero, one_mul, div_one, div_one, Int.cast_inj] at value
  rw [toBinary64, if_pos none, value]

end Decimal

namespace Binary64

/-- Without decimals, a number is rounded to the whole number nearest to its value. -/
theorem value?_roundPlaces_zero {x : Binary64} {q : ℚ} {places : Int64} (none : places.toInt = 0)
    (value : x.value? = some q) : (x.roundPlaces places).value? = some (roundAway q : ℚ) := by
  cases x with
  | finite s e f =>
    obtain rfl := Option.some.inj value
    obtain ⟨ds, count, written⟩ := shown_display s e f
    have zero : min (0 : Int).toNat 28 = 0 := rfl
    rw [roundPlaces]
    dsimp only
    rw [none, if_pos (Int.le_refl 0), zero]
    rcases Nat.lt_or_ge (ofDigits ds) Decimal.bound with fits | large
    · obtain ⟨d, decimal, same⟩ := Decimal.ofBinary64?_of_lt written fits
      have nearest : roundAway d.value = roundAway (finite s e f).shown := by
        rcases same with same | ⟨-, tiny, tiny'⟩
        · rw [same, shown]
        · rw [roundAway_of_hundredfold tiny, shown, roundAway_of_hundredfold tiny']
      rw [decimal]
      dsimp only
      rw [Decimal.toBinary64_round_zero, nearest, value?_ofInt_roundAway_shown]
    · rw [(Decimal.ofBinary64?_of_le written large).1]
      dsimp only
      rw [mul_powTen_zero, div_powTen_zero, value?_round value]
  | _ => cases value

end Binary64

end ComputedColumns
