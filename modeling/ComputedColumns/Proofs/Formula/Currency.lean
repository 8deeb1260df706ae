import ComputedColumns.Formula.Storage
import ComputedColumns.Proofs.Binary64.Whole
import ComputedColumns.Proofs.Decimal

namespace ComputedColumns

open Text Binary64

/-- The value of the shortest text. -/
def Binary64.shown (x : Binary64) : ℚ := decimalValue x.display

/-- An optional minus sign, digits, the point and two digits. -/
inductive TwoDecimals : List Char → Prop where
  | signed (s : Bool) {whole : List Char} {tenths hundredths : Char} (begun : whole ≠ [])
    (all : ∀ d ∈ whole, isDigit d = true) (first : isDigit tenths = true)
    (second : isDigit hundredths = true) :
    TwoDecimals (withSign s (whole ++ ['.', tenths, hundredths]))

/-- An optional minus sign and digits, or these with the point and some more digits behind it. -/
inductive Numeral (most : Nat) : List Char → Prop where
  | whole (s : Bool) {ds : List Char} (begun : ds ≠ []) (all : ∀ d ∈ ds, isDigit d = true) :
    Numeral most (withSign s ds)
  | pointed (s : Bool) {ds decimals : List Char} (begun : ds ≠ []) (all : ∀ d ∈ ds, isDigit d = true)
    (ended : decimals ≠ []) (few : decimals.length ≤ most)
    (allDecimals : ∀ d ∈ decimals, isDigit d = true) :
    Numeral most (withSign s (ds ++ '.' :: decimals))

theorem numeral_withPoint (s : Bool) (n : Nat) {places most : Nat} (few : places ≤ most) :
    Numeral most (withSign s (withPoint (digits n) places)) := by
  have all : ∀ d ∈ digits n, isDigit d = true := fun d member => isDigit_of_mem_digits member
  by_cases none : places = 0
  · rw [withPoint, if_pos none]
    exact .whole s (digits_ne_nil n) all
  · obtain ⟨ds, decimals, written, divided⟩ := withPoint_eq all none
    have length := divided.length
    have ended : decimals ≠ [] := by
      rintro rfl
      exact none length.symm
    rw [written]
    exact .pointed s divided.begun divided.allWhole ended (by omega) divided.allDecimals

theorem twoDecimals_withPoint (s : Bool) (n : Nat) :
    TwoDecimals (withSign s (withPoint (digits n) 2)) := by
  obtain ⟨whole, decimals, written, divided⟩ :=
    withPoint_eq (fun d (member : d ∈ digits n) => isDigit_of_mem_digits member) two_ne_zero
  obtain ⟨tenths, hundredths, rfl⟩ := List.length_eq_two.mp divided.length
  rw [written]
  exact .signed s divided.begun divided.allWhole (divided.allDecimals _ (by simp))
    (divided.allDecimals _ (by simp))

namespace Decimal

theorem value_currency (d : Decimal) :
    ((d.round 2).extend (2 - (d.round 2).scale)).value = roundAway (100 * d.value) / 100 := by
  rw [value_extend, value_round]
  norm_num

theorem scale_currency {d : Decimal} (fits : 100 * |d.value| < 2 ^ 96 ∨ 2 ≤ d.scale) :
    ((d.round 2).extend (2 - (d.round 2).scale)).scale = 2 := by
  by_cases long : 2 ≤ d.scale
  · have rounded : (d.round 2).scale = 2 := by
      rw [round]
      split
      · omega
      · rfl
    rw [rounded]
    exact rounded
  · have same : d.round 2 = d := by
      rw [round, if_pos (by omega)]
    have size := fits.resolve_right long
    rw [value_eq, abs_applySign_div] at size
    have room : 10 ^ (2 - d.scale) * d.coefficient < bound := by
      have short : d.scale = 0 ∨ d.scale = 1 := by omega
      have limit : bound = 2 ^ 96 := rfl
      rcases short with none | one
      · rw [none] at size ⊢
        have whole : (10 ^ 2 * d.coefficient : ℚ) < 2 ^ 96 := by linarith
        exact_mod_cast whole
      · rw [one] at size ⊢
        have tenths : (10 ^ 1 * d.coefficient : ℚ) < 2 ^ 96 := by linarith
        exact_mod_cast tenths
    rw [same, scale_extend room]
    omega

theorem numeral_currency (d : Decimal) :
    Numeral 2 ((d.round 2).extend (2 - (d.round 2).scale)).text := by
  have rounded := scale_round_le 2 d
  have extended := scale_extend_le (2 - (d.round 2).scale) (d.round 2)
  exact numeral_withPoint _ _ (by omega)

theorem twoDecimals_text {d : Decimal} (two : d.scale = 2) : TwoDecimals d.text := by
  rw [text, two]
  exact twoDecimals_withPoint _ _

end Decimal

variable {s : Bool} {e : Fin 2047} {f : Fin 4503599627370496}

theorem currencyText_of_lt (below : |(finite s e f).shown| < 2 ^ 96) :
    Numeral 2 (currencyText (finite s e f)) ∧
      decimalValue (currencyText (finite s e f)) = roundAway (100 * (finite s e f).shown) / 100 ∧
      (100 * |(finite s e f).shown| < 2 ^ 96 → TwoDecimals (currencyText (finite s e f))) ∧
      (decimalValue (currencyText (finite s e f)) = 0 → '-' ∉ currencyText (finite s e f)) := by
  obtain ⟨ds, places, written⟩ := shown_display s e f
  obtain ⟨d, decimal, value⟩ := Decimal.ofBinary64?_of_lt written (written.lt_bound_iff.mp below)
  have text : currencyText (finite s e f) = ((d.round 2).extend (2 - (d.round 2).scale)).text := by
    rw [currencyText, decimal]
  rw [text, Decimal.decimalValue_text]
  refine ⟨Decimal.numeral_currency d, ?_, ?_, Decimal.text_of_zero⟩
  · rw [Decimal.value_currency]
    rcases value with same | ⟨-, none, none'⟩
    · rw [same, shown]
    · rw [none, shown, none']
  · intro fits
    apply Decimal.twoDecimals_text
    apply Decimal.scale_currency
    rcases value with same | ⟨long, -, -⟩
    · rw [same]
      exact .inl fits
    · rw [long]
      exact .inr (by decide)

theorem shown_zero (empty : magnitude e f = 0) : (finite s e f).shown = 0 := by
  have single : ∀ d ∈ ['0'], isDigit d = true := List.forall_mem_singleton.mpr rfl
  have written : (finite s e f).display = withSign s (withPoint ['0'] 0) := by
    rw [display, if_pos empty]
    rfl
  have none : applySign s (ofDigits ['0']) = 0 := by cases s <;> rfl
  rw [shown, written, decimalValue_withPoint (List.cons_ne_nil _ _) single, none, Int.cast_zero, zero_div]

theorem fixed_two {n : Nat} (whole : magnitude e f = unit * n) :
    (finite s e f).fixed 2 = withSign s (withPoint (digits (n * 100)) 2) := by
  have hundredfold : magnitude e f * Nat.pow 10 2 = n * 100 * unit := by
    rw [whole, Nat.pow_eq]
    ring
  rw [fixed, hundredfold, quotientToEven_mul unit_pos]

theorem currencyText_of_le (beyond : 2 ^ 96 ≤ |(finite s e f).shown|) :
    Numeral 2 (currencyText (finite s e f)) ∧
      decimalValue (currencyText (finite s e f)) = signed s (magnitude e f) / unit ∧
      TwoDecimals (currencyText (finite s e f)) ∧
      decimalValue (currencyText (finite s e f)) ≠ 0 := by
  obtain ⟨ds, places, written⟩ := shown_display s e f
  have large : Decimal.bound ≤ ofDigits ds := by
    by_contra small
    exact absurd (written.lt_bound_iff.mpr (Nat.lt_of_not_ge small)) (not_lt.mpr beyond)
  obtain ⟨noDecimal, noPlaces⟩ := Decimal.ofBinary64?_of_le written large
  -- A text that is longer than 96 bits has no place for decimals, and those of a broken number are shown.
  obtain ⟨n, whole⟩ : unit ∣ magnitude e f := by
    by_contra broken
    have point := point_mem_display broken s
    rw [written.written, point_mem_withSign, noPlaces, withPoint, if_pos rfl] at point
    cases written.all _ point
  have nonzero : n ≠ 0 := by
    rintro rfl
    have empty : magnitude e f = 0 := whole.trans (Nat.mul_zero unit)
    rw [shown_zero empty, abs_zero] at beyond
    norm_num at beyond
  have text : currencyText (finite s e f) = withSign s (withPoint (digits (n * 100)) 2) := by
    rw [currencyText, noDecimal]
    exact fixed_two whole
  have value : decimalValue (currencyText (finite s e f)) = applySign s n := by
    rw [text, decimalValue_withPoint (digits_ne_nil _) (fun _ member => isDigit_of_mem_digits member),
      ofDigits_digits, applySign_mul]
    push_cast
    ring
  refine ⟨?_, ?_, ?_, ?_⟩
  · rw [text]
    exact numeral_withPoint s _ (Nat.le_refl 2)
  · have size : signed s (magnitude e f) = applySign s n * unit := by
      rw [whole, Nat.mul_comm]
      exact applySign_mul s n unit
    have divisor : (unit : ℚ) ≠ 0 := Nat.cast_ne_zero.mpr (Nat.ne_of_gt unit_pos)
    rw [value, size, Int.cast_mul, Int.cast_natCast, mul_div_cancel_right₀ _ divisor]
  · rw [text]
    exact twoDecimals_withPoint s _
  · rw [value, Int.cast_ne_zero, ← abs_pos, abs_applySign]
    exact Int.natCast_pos.mpr (Nat.pos_of_ne_zero nonzero)

/-- Amounts are numerals with at most two decimals. They are written with both, and are rounded to them
with a half away from zero, unless the digits are too many for 96 bits. -/
theorem currencyText_rounded (s : Bool) (e : Fin 2047) (f : Fin 4503599627370496) :
    Numeral 2 (currencyText (finite s e f)) ∧
      (100 * |(finite s e f).shown| < 2 ^ 96 ∨ 2 ^ 96 ≤ |(finite s e f).shown| →
        TwoDecimals (currencyText (finite s e f))) ∧
      (|(finite s e f).shown| < 2 ^ 96 →
        decimalValue (currencyText (finite s e f)) = roundAway (100 * (finite s e f).shown) / 100) ∧
      (2 ^ 96 ≤ |(finite s e f).shown| →
        decimalValue (currencyText (finite s e f)) = signed s (magnitude e f) / unit) ∧
      (decimalValue (currencyText (finite s e f)) = 0 → '-' ∉ currencyText (finite s e f)) := by
  rcases lt_or_ge |(finite s e f).shown| (2 ^ 96) with below | beyond
  · obtain ⟨numeral, value, two, zero⟩ := currencyText_of_lt below
    refine ⟨numeral, ?_, fun _ => value, fun beyond => absurd below (not_lt.mpr beyond), zero⟩
    rintro (fits | beyond)
    · exact two fits
    · exact absurd below (not_lt.mpr beyond)
  · obtain ⟨numeral, value, two, nonzero⟩ := currencyText_of_le beyond
    exact ⟨numeral, fun _ => two, fun below => absurd below (not_lt.mpr beyond), fun _ => value,
      fun zero => absurd zero nonzero⟩

/-- The half in -1.005 is one of the digits only; the binary value lies closer to zero. -/
theorem currencyText_rounded_half :
    |(finite true 1023 22517998136852).shown| < 2 ^ 96 ∧
      100 * |(finite true 1023 22517998136852).shown| < 2 ^ 96 ∧
      TwoDecimals (currencyText (finite true 1023 22517998136852)) ∧
      decimalValue (currencyText (finite true 1023 22517998136852)) = -1.01 := by
  have display : (finite true 1023 22517998136852).display = "-1.005".toList := by decide +kernel
  have value : (finite true 1023 22517998136852).shown = -1.005 := by
    rw [shown, display]
    decide +kernel
  have rounded : roundAway (100 * -1.005) = -101 := by decide +kernel
  have below : |(finite true 1023 22517998136852).shown| < 2 ^ 96 := by
    rw [value]
    norm_num
  have fits : 100 * |(finite true 1023 22517998136852).shown| < 2 ^ 96 := by
    rw [value]
    norm_num
  obtain ⟨-, two, nearest, -, -⟩ := currencyText_rounded true 1023 22517998136852
  refine ⟨below, fits, two (.inl fits), ?_⟩
  rw [nearest below, value, rounded]
  norm_num

/-- The text of 10^29 is longer than 96 bits, so all digits of the binary value are written; that of 10^28
fits, but not with two decimals. -/
theorem currencyText_of_long :
    (finite false 1119 1180742258710305).display = "100000000000000000000000000000".toList ∧
      currencyText (finite false 1119 1180742258710305) = "99999999999999991433150857216.00".toList ∧
      decimalValue (currencyText (finite false 1119 1180742258710305)) ≠
        roundAway (100 * (finite false 1119 1180742258710305).shown) / 100 ∧
      currencyText (finite false 1116 43873881494145) = "10000000000000000000000000000".toList ∧
      ¬ TwoDecimals (currencyText (finite false 1116 43873881494145)) := by
  have display : (finite false 1119 1180742258710305).display =
      "100000000000000000000000000000".toList := by decide +kernel
  have text : currencyText (finite false 1119 1180742258710305) =
      "99999999999999991433150857216.00".toList := by decide +kernel
  have short : currencyText (finite false 1116 43873881494145) =
      "10000000000000000000000000000".toList := by decide +kernel
  refine ⟨display, text, ?_, short, ?_⟩
  · rw [shown, display, text]
    decide +kernel
  · rw [short]
    intro two
    generalize written : "10000000000000000000000000000".toList = cs at two
    have noPoint : '.' ∉ cs := by
      rw [← written]
      decide
    cases two with
    | signed s =>
      rw [point_mem_withSign] at noPoint
      exact noPoint (by simp)

end ComputedColumns
