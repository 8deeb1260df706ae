import ComputedColumns.Proofs.Binary64.Reader
import ComputedColumns.Proofs.Binary64.Shortest
import Mathlib.Data.Rat.Floor
import Mathlib.Tactic.FieldSimp
import Mathlib.Tactic.NormNum

namespace ComputedColumns

open Text

/-- The nearest whole number, a half away from zero. -/
def roundAway (q : ℚ) : ℤ := if q < 0 then -round (-q) else round q

/-- The value of a text of at most one sign, digits and at most one point. -/
def Text.decimalValue (cs : List Char) : ℚ :=
  let (negative, rest) := splitSign cs
  let whole := rest.takeWhile isDigit
  let decimals := (rest.dropWhile isDigit).drop 1
  applySign negative (ofDigits (whole ++ decimals)) / 10 ^ decimals.length

def Decimal.value (d : Decimal) : ℚ := applySign d.negative d.coefficient / 10 ^ d.scale

theorem applySign_mul (s : Bool) (n k : Nat) : applySign s (n * k) = applySign s n * k := by
  cases s with
  | false => exact Int.natCast_mul n k
  | true => exact (congrArg (-·) (Int.natCast_mul n k)).trans (Int.neg_mul _ _).symm

theorem abs_applySign (s : Bool) (n : Nat) : |applySign s n| = n := by
  cases s with
  | false => exact abs_of_nonneg (Int.natCast_nonneg n)
  | true => exact (abs_neg _).trans (abs_of_nonneg (Int.natCast_nonneg n))

theorem abs_applySign_div (s : Bool) (n p : Nat) : |(applySign s n / 10 ^ p : ℚ)| = n / 10 ^ p := by
  have size : |(applySign s n : ℚ)| = n := by
    rw [← Int.cast_abs, abs_applySign, Int.cast_natCast]
  have positive : (0 : ℚ) < 10 ^ p := by positivity
  rw [abs_div, size, abs_of_pos positive]

theorem round_div (n : Nat) {d : Nat} (positive : 0 < d) :
    round (n / d : ℚ) = ((2 * n + d) / (2 * d) : Nat) := by
  have divisor : (d : ℚ) ≠ 0 := Nat.cast_ne_zero.mpr (Nat.ne_of_gt positive)
  have half : (n / d + 1 / 2 : ℚ) = (2 * n + d : Nat) / (2 * d : Nat) := by
    push_cast
    field_simp
  rw [round_eq, half, Rat.floor_natCast_div_natCast]
  rfl

theorem roundAway_applySign (s : Bool) (n : Nat) {d : Nat} (positive : 0 < d) :
    roundAway (applySign s n / d) = applySign s ((2 * n + d) / (2 * d)) := by
  have nonneg : (0 : ℚ) ≤ n / d := by positivity
  cases s with
  | false =>
    have same : (applySign false n / d : ℚ) = n / d := rfl
    rw [same, roundAway, if_neg (not_lt.mpr nonneg), round_div n positive]
    rfl
  | true =>
    have opposite : (applySign true n / d : ℚ) = -(n / d) := by
      rw [applySign, if_pos rfl, Int.cast_neg, Int.cast_natCast, neg_div]
    rw [opposite, roundAway]
    split
    · rw [neg_neg, round_div n positive]
      rfl
    · rename_i zero
      have zero : (n / d : ℚ) = 0 := by linarith
      have none : (2 * n + d) / (2 * d) = 0 := by
        have rounded := round_div n positive
        rw [zero, round_zero] at rounded
        exact_mod_cast rounded.symm
      rw [zero, neg_zero, round_zero, none]
      rfl

theorem roundAway_intCast (n : Int) : roundAway n = n := by
  unfold roundAway
  split
  · rw [← Int.cast_neg, round_intCast, neg_neg]
  · exact round_intCast n

theorem roundAway_eq_zero_iff {q : ℚ} : roundAway q = 0 ↔ |q| < 1 / 2 := by
  have nonneg {r : ℚ} (positive : 0 ≤ r) : round r = 0 ↔ r < 1 / 2 := by
    rw [round_eq, Int.floor_eq_zero_iff, Set.mem_Ico]
    constructor
    · rintro ⟨-, below⟩
      linarith
    · intro below
      exact ⟨by linarith, by linarith⟩
  unfold roundAway
  split
  · rename_i negative
    rw [neg_eq_zero, nonneg (by linarith), abs_of_neg negative]
  · rename_i positive
    rw [nonneg (not_lt.mp positive), abs_of_nonneg (not_lt.mp positive)]

theorem roundAway_of_hundredfold {q : ℚ} (none : roundAway (100 * q) = 0) : roundAway q = 0 := by
  rw [roundAway_eq_zero_iff, abs_mul, abs_of_pos (by norm_num : (0 : ℚ) < 100)] at none
  rw [roundAway_eq_zero_iff]
  linarith [abs_nonneg q]

theorem roundAway_of_small {s : Bool} {n p : Nat} (small : 200 * n < 10 ^ p) :
    roundAway (100 * (applySign s n / 10 ^ p)) = 0 := by
  have shifted : (100 * (applySign s n / 10 ^ p) : ℚ) = applySign s (n * 100) / (10 ^ p : Nat) := by
    rw [applySign_mul]
    push_cast
    ring
  have none : (2 * (n * 100) + 10 ^ p) / (2 * 10 ^ p) = 0 := Nat.div_eq_of_lt (by omega)
  rw [shifted, roundAway_applySign s _ (Binary64.pow_ten_pos p), none]
  cases s <;> rfl

namespace Binary64

theorem divided_withPoint {ds : List Char} (present : ds ≠ []) (all : ∀ d ∈ ds, isDigit d = true)
    (places : Nat) :
    Divided (ofDigits ds) places ((withPoint ds places).takeWhile isDigit)
      (((withPoint ds places).dropWhile isDigit).drop 1) := by
  by_cases point : places = 0
  · obtain ⟨run, rest⟩ := takeWhile_all all
    rw [withPoint, if_pos point, run, rest, point, List.drop_nil]
    exact ⟨present, all, List.forall_mem_nil _, by rw [List.append_nil], rfl⟩
  · obtain ⟨whole, decimals, written, divided⟩ := withPoint_eq all point
    obtain ⟨run, rest⟩ := takeWhile_point divided.allWhole decimals
    rw [written, run, rest]
    exact divided

theorem minus_notMem {cs : List Char} (written : Positional cs) : '-' ∉ cs := by
  intro minus
  rcases written.isDigit_or_point minus with digit | point
  · cases digit
  · cases point

theorem decimalValue_withPoint {ds : List Char} (present : ds ≠ []) (all : ∀ d ∈ ds, isDigit d = true)
    (places : Nat) (s : Bool) :
    decimalValue (withSign s (withPoint ds places)) = applySign s (ofDigits ds) / 10 ^ places := by
  have divided := divided_withPoint present all places
  rw [decimalValue, splitSign_withSign (positional_withPoint present all places)]
  dsimp only
  rw [divided.value, divided.length]

end Binary64

namespace Decimal

theorem value_eq (d : Decimal) : d.value = applySign d.negative d.coefficient / 10 ^ d.scale := rfl

theorem value_ofSigned (s : Bool) (n scale : Nat) :
    (ofSigned s n scale).value = applySign s n / 10 ^ scale := by
  rw [value_eq, ofSigned]
  rcases Nat.eq_zero_or_pos n with rfl | positive
  · cases s <;> rfl
  · have nonzero : (n != 0) = true := bne_iff_ne.mpr (Nat.ne_of_gt positive)
    rw [nonzero, Bool.and_true]

theorem decimalValue_text (d : Decimal) : decimalValue d.text = d.value := by
  have same := value_ofSigned d.negative d.coefficient d.scale
  rw [value_eq, ofSigned] at same
  rw [text, Binary64.decimalValue_withPoint (digits_ne_nil _)
    (fun _ member => isDigit_of_mem_digits member), ofDigits_digits, same, ← value_eq]

theorem text_of_zero {d : Decimal} (zero : d.value = 0) : '-' ∉ d.text := by
  have empty : d.coefficient = 0 := by
    have size := abs_applySign_div d.negative d.coefficient d.scale
    rw [← value_eq, zero, abs_zero] at size
    have power : (10 ^ d.scale : ℚ) ≠ 0 := by positivity
    exact_mod_cast (div_eq_zero_iff.mp size.symm).resolve_right power
  rw [text, empty, bne_self_eq_false, Bool.and_false]
  exact Binary64.minus_notMem (Binary64.positional_withPoint (digits_ne_nil 0)
    (fun _ member => isDigit_of_mem_digits member) d.scale)

theorem value_round (places : Nat) (d : Decimal) :
    (d.round places).value = roundAway (10 ^ places * d.value) / 10 ^ places := by
  have power : (10 ^ places : ℚ) ≠ 0 := by positivity
  rw [round]
  split
  · rename_i short
    obtain ⟨count, length⟩ := Nat.exists_eq_add_of_le short
    have whole : 10 ^ places * d.value = (applySign d.negative d.coefficient * 10 ^ count : Int) := by
      rw [value_eq, length, pow_add]
      push_cast
      field_simp
    rw [whole, roundAway_intCast, ← whole, mul_div_cancel_left₀ _ power]
  · rename_i long
    obtain ⟨count, length⟩ := Nat.exists_eq_add_of_le (Nat.le_of_not_ge long)
    have quotient : 10 ^ places * d.value = applySign d.negative d.coefficient / (10 ^ count : Nat) := by
      rw [value_eq, length, pow_add]
      push_cast
      field_simp
    have step : d.scale - places = count := by omega
    dsimp only
    rw [quotient, roundAway_applySign _ _ (Binary64.pow_ten_pos count), value_ofSigned, step,
      Nat.pow_eq]

theorem value_extend (places : Nat) (d : Decimal) : (d.extend places).value = d.value := by
  induction places generalizing d with
  | zero => rfl
  | succ places ih =>
    rw [extend]
    split
    · rw [ih, value_eq, value_eq]
      rw [Nat.mul_comm, applySign_mul, pow_succ]
      push_cast
      field_simp
    · rfl

theorem scale_round_le (places : Nat) (d : Decimal) : (d.round places).scale ≤ places := by
  rw [round]
  split
  next short => exact short
  next => exact Nat.le_refl places

theorem scale_extend_le (places : Nat) (d : Decimal) : (d.extend places).scale ≤ d.scale + places := by
  induction places generalizing d with
  | zero => exact Nat.le_refl _
  | succ places ih =>
    rw [extend]
    split
    · have longer := ih { d with coefficient := 10 * d.coefficient, scale := d.scale + 1 }
      dsimp only at longer
      omega
    · exact Nat.le_add_right _ _

theorem scale_extend {places : Nat} {d : Decimal} (fits : 10 ^ places * d.coefficient < bound) :
    (d.extend places).scale = d.scale + places := by
  induction places generalizing d with
  | zero => rfl
  | succ places ih =>
    have shifted : 10 ^ places * (10 * d.coefficient) < bound := by
      rw [← Nat.mul_assoc, ← Nat.pow_succ]
      exact fits
    have next : 10 * d.coefficient < bound :=
      Nat.lt_of_le_of_lt (Nat.le_mul_of_pos_left _ (Binary64.pow_ten_pos places)) shifted
    rw [extend, if_pos next, ih shifted]
    exact Nat.succ_add_eq_add_succ d.scale places

theorem takeDecimals_of_short {n scale : Nat} {ds : List Char} (fits : ofDigitsFrom n ds < bound)
    (short : scale + ds.length ≤ maxScale) :
    takeDecimals n scale ds = some (ofDigitsFrom n ds, scale + ds.length) := by
  induction ds generalizing n scale with
  | nil => rfl
  | cons d ds ih =>
    rw [List.length_cons] at short ⊢
    have all : ofDigitsFrom (10 * n + digitValue d) ds < bound := fits
    have next := Nat.lt_of_le_of_lt (le_ofDigitsFrom _ ds) all
    rw [takeDecimals, if_pos ⟨by omega, next⟩, ih all (by omega), Nat.succ_add_eq_add_succ]
    rfl

theorem takeDecimals_of_long {n scale : Nat} {ds : List Char} (fits : ofDigitsFrom n ds < bound)
    (begun : scale ≤ maxScale) (long : maxScale < scale + ds.length) :
    ∃ k ≤ ofDigitsFrom n ds, takeDecimals n scale ds = some (k, maxScale) := by
  induction ds generalizing n scale with
  | nil =>
    rw [List.length_nil] at long
    omega
  | cons d ds ih =>
    rw [List.length_cons] at long
    have all : ofDigitsFrom (10 * n + digitValue d) ds < bound := fits
    have least : 10 * n + digitValue d ≤ ofDigitsFrom n (d :: ds) := le_ofDigitsFrom _ ds
    rw [takeDecimals]
    by_cases place : scale < maxScale
    · rw [if_pos ⟨place, Nat.lt_of_le_of_lt least fits⟩]
      exact ih all place (by omega)
    · have full : scale = maxScale := by omega
      rw [if_neg (fun both => place both.1), roundOff, full]
      by_cases down : digitValue d < 5
      · rw [if_pos down]
        exact ⟨n, by omega, rfl⟩
      · rw [if_neg down, if_pos (by omega)]
        exact ⟨n + 1, by omega, rfl⟩

end Decimal

namespace Binary64

variable {s : Bool} {e : Fin 2047} {f : Fin 4503599627370496} {ds : List Char} {places : Nat}

theorem Fits.coefficient_lt {c p : Nat} (fits : Fits e f c p) (positive : 0 < magnitude e f) :
    c < 2 * 10 ^ 17 := by
  have spaced : spacing e * fives ≤ magnitude e f * fives := by
    apply Nat.mul_le_mul_right
    rw [magnitude_eq]
    exact Nat.le_mul_of_pos_left _ (significand_pos positive)
  have exact : magnitude e f * fives < 10 ^ 17 * 10 ^ p := by
    rw [← Nat.pow_add, Nat.add_comm]
    exact Nat.lt_of_lt_of_le (lt_pow_length_digits _) (Nat.pow_le_pow_right (by decide) fits.places)
  have high := fits.inside.high
  rw [Nat.mul_assoc] at high
  apply Nat.lt_of_mul_lt_mul_right (a := 10 ^ p)
  rw [Nat.mul_assoc]
  omega

/-- The text is that of digits with the point in front of the last `places` of them. Decimals behind the
point leave no room for more than eighteen digits. -/
structure Shown (s : Bool) (ds : List Char) (places : Nat) (cs : List Char) : Prop where
  present : ds ≠ []
  all : ∀ d ∈ ds, isDigit d = true
  written : cs = withSign s (withPoint ds places)
  few : places ≠ 0 → ofDigits ds < 2 * 10 ^ 17

theorem shown_of_shortest (positive : 0 < magnitude e f) {c p : Nat}
    (decimal : shortest e f = ⟨c, p - 1074⟩) (fits : Fits e f c p) (s : Bool) :
    ∃ ds places, Shown s ds places (finite s e f).display ∧
      ofDigits ds * (unit * fives) = c * 10 ^ p * 10 ^ places := by
  rw [display, if_neg (Nat.ne_of_gt positive), decimal, Scientific.positional]
  dsimp only
  split
  · rename_i large
    obtain ⟨k, rfl, exponent⟩ := exists_shift large
    refine ⟨_, 0, ⟨shifted_ne_nil c _, fun _ member => isDigit_of_mem_shifted member, rfl,
      fun point => absurd rfl point⟩, ?_⟩
    rw [exponent, ofDigits_append_zeros, ofDigits_digits, Nat.mul_assoc, pow_ten_mul, Nat.pow_zero,
      Nat.mul_one]
  · rename_i small
    have whole : p + ((p : Int) - 1074).natAbs = 1074 := by omega
    refine ⟨_, _, ⟨digits_ne_nil c, fun _ member => isDigit_of_mem_digits member, rfl, fun _ => ?_⟩, ?_⟩
    · rw [ofDigits_digits]
      exact fits.coefficient_lt positive
    · rw [ofDigits_digits, unit_mul_fives whole, Nat.mul_assoc]

theorem shown_display (s : Bool) (e : Fin 2047) (f : Fin 4503599627370496) :
    ∃ ds places, Shown s ds places (finite s e f).display := by
  rcases Nat.eq_zero_or_pos (magnitude e f) with empty | positive
  · refine ⟨['0'], 0, List.cons_ne_nil _ _, List.forall_mem_singleton.mpr rfl, ?_, nofun⟩
    rw [display, if_pos empty]
    rfl
  · obtain ⟨c, p, decimal, fits⟩ := shortest_eq positive
    obtain ⟨ds, places, shown, -⟩ := shown_of_shortest positive decimal fits s
    exact ⟨ds, places, shown⟩

theorem Shown.value {cs : List Char} (shown : Shown s ds places cs) :
    decimalValue cs = applySign s (ofDigits ds) / 10 ^ places := by
  rw [shown.written, decimalValue_withPoint shown.present shown.all]

theorem Shown.size {cs : List Char} (shown : Shown s ds places cs) :
    |decimalValue cs| = ofDigits ds / 10 ^ places := by
  rw [shown.value, abs_applySign_div]

theorem Shown.lt_bound_iff {cs : List Char} (shown : Shown s ds places cs) :
    |decimalValue cs| < 2 ^ 96 ↔ ofDigits ds < Decimal.bound := by
  have limit : (2 ^ 96 : ℚ) = Decimal.bound := by norm_num [Decimal.bound]
  rw [shown.size, limit]
  by_cases point : places = 0
  · rw [point, pow_zero, div_one, Nat.cast_lt]
  · have few := shown.few point
    have within : 2 * 10 ^ 17 < Decimal.bound := by decide
    have small : ofDigits ds < Decimal.bound := few.trans within
    have narrowed : (ofDigits ds / 10 ^ places : ℚ) ≤ ofDigits ds := by
      apply div_le_self (Nat.cast_nonneg _)
      exact one_le_pow₀ (by norm_num)
    exact iff_of_true (lt_of_le_of_lt narrowed (Nat.cast_lt.mpr small)) small

end Binary64

namespace Decimal

open Binary64

variable {s : Bool} {e : Fin 2047} {f : Fin 4503599627370496} {ds : List Char} {places : Nat}

theorem ofBinary64?_eq (shown : Shown s ds places (finite s e f).display) :
    ∃ whole decimals, Divided (ofDigits ds) places whole decimals ∧
      ofBinary64? (finite s e f) = ofParts s whole decimals := by
  refine ⟨_, _, divided_withPoint shown.present shown.all places, ?_⟩
  rw [ofBinary64?, isFinite, if_pos rfl, shown.written,
    splitSign_withSign (positional_withPoint shown.present shown.all places)]

/-- The decimal is worth what the text says, or both are too small to be seen in two decimals. -/
theorem ofBinary64?_of_lt (shown : Shown s ds places (finite s e f).display)
    (fits : ofDigits ds < bound) :
    ∃ d, ofBinary64? (finite s e f) = some d ∧
      (d.value = decimalValue (finite s e f).display ∨
        d.scale = maxScale ∧ roundAway (100 * d.value) = 0 ∧
          roundAway (100 * decimalValue (finite s e f).display) = 0) := by
  obtain ⟨whole, decimals, divided, parts⟩ := ofBinary64?_eq shown
  have value := divided.value
  rw [ofDigits_append] at value
  have all : ofDigitsFrom (ofDigits whole) decimals < bound := value ▸ fits
  have first : ofDigits whole < bound := Nat.lt_of_le_of_lt (le_ofDigitsFrom _ decimals) all
  rw [parts, ofParts, if_pos first, shown.value]
  by_cases short : places ≤ maxScale
  · rw [takeDecimals_of_short all (by rw [divided.length]; omega), value, divided.length, Nat.zero_add]
    exact ⟨_, rfl, .inl (value_ofSigned s _ places)⟩
  · have long : maxScale < places := Nat.lt_of_not_ge short
    obtain ⟨k, least, taken⟩ :=
      takeDecimals_of_long all (Nat.zero_le maxScale) (by rw [divided.length]; omega)
    have few := shown.few (Nat.ne_zero_of_lt long)
    have power : 10 ^ maxScale ≤ 10 ^ places := Nat.pow_le_pow_right (by decide) (Nat.le_of_lt long)
    have tiny : 200 * (2 * 10 ^ 17) < 10 ^ maxScale := by decide
    rw [value] at least
    rw [taken]
    refine ⟨_, rfl, .inr ⟨rfl, ?_, roundAway_of_small (by omega)⟩⟩
    rw [value_ofSigned]
    exact roundAway_of_small (by omega)

theorem ofBinary64?_of_le (shown : Shown s ds places (finite s e f).display)
    (large : bound ≤ ofDigits ds) : ofBinary64? (finite s e f) = none ∧ places = 0 := by
  have whole : places = 0 := by
    by_contra point
    have few := shown.few point
    have within : 2 * 10 ^ 17 < bound := by decide
    omega
  obtain ⟨digits, decimals, divided, parts⟩ := ofBinary64?_eq shown
  have none : decimals = [] := List.eq_nil_of_length_eq_zero (divided.length.trans whole)
  have value := divided.value
  rw [none, List.append_nil] at value
  rw [parts, ofParts, if_neg (by omega)]
  exact ⟨rfl, whole⟩

end Decimal

end ComputedColumns
