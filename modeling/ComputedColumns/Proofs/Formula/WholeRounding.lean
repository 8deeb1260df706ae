import ComputedColumns.Formula.Call
import ComputedColumns.Proofs.Formula.ShownRounding

namespace ComputedColumns

open Binary64

variable {x : Binary64} {q : ℚ} {k : ℤ} {places : Int64}

theorem Binary64.isWhole_roundPlaces (negative : places.toInt < 0) : (x.roundPlaces places).IsWhole := by
  rw [roundPlaces]
  dsimp only
  rw [if_neg (Int.not_le.mpr negative)]
  exact isWhole_mul (isWhole_round _) (isWhole_powTen _)

namespace Number

/-- The form in which a whole number is handed out. -/
inductive Whole (k : ℤ) : Number → Prop where
  | int {n : Int64} (small : |k| < 9000000000000000) (same : n.toInt = k) : Whole k (.int n)
  | float {x : Binary64} (large : 9000000000000000 ≤ |k|) (value : x.value? = some (k : ℚ)) :
    Whole k (.float x)

theorem toInt_ofInt_of_small (small : |k| < 9000000000000000) : (Int64.ofInt k).toInt = k := by
  rw [abs_lt] at small
  exact Int64.toInt_ofInt_of_le (by omega) (by omega)

theorem Whole.eq_int {n : Number} (whole : n.Whole k) (small : |k| < 9000000000000000) :
    n = .int (Int64.ofInt k) := by
  cases whole with
  | int _ same => rw [← same, Int64.ofInt_toInt]
  | float large _ => exact absurd small (not_lt.mpr large)

theorem Whole.eq_float {n : Number} (whole : n.Whole k) (large : 9000000000000000 ≤ |k|) :
    ∃ y, n = .float y ∧ y.value? = some (k : ℚ) := by
  cases whole with
  | int small _ => exact absurd small (not_lt.mpr large)
  | float _ value => exact ⟨_, rfl, value⟩

theorem whole_ofIntegral (value : x.value? = some (k : ℚ)) : (ofIntegral x).Whole k := by
  cases x with
  | finite s e f =>
    have size := magnitude_of_value value
    have sign : k = signed s k.natAbs := by
      have back := value?_of_magnitude size s
      rwa [value, Option.some_inj, Int.cast_inj] at back
    have integral : (finite s e f).isIntegral = true := by
      rw [isIntegral, size, Nat.mul_mod_left]
      rfl
    rw [ofIntegral, integral, Bool.true_and, size, Nat.mul_div_cancel _ unit_pos, ← sign]
    by_cases below : k.natAbs * unit < 9000000000000000 * unit
    · have small : |k| < 9000000000000000 := by
        have less := Nat.lt_of_mul_lt_mul_right below
        rw [Int.abs_eq_natAbs]
        omega
      rw [if_pos (decide_eq_true below)]
      exact .int small (toInt_ofInt_of_small small)
    · have large : 9000000000000000 ≤ |k| := by
        have least := Nat.le_of_mul_le_mul_right (Nat.le_of_not_lt below) unit_pos
        rw [Int.abs_eq_natAbs]
        omega
      rw [if_neg (fun less => below (of_decide_eq_true less))]
      exact .float large value
  | _ => cases value

theorem ofIntegral_of_no_value (missing : x.value? = none) : ofIntegral x = .float x := by
  cases x with
  | finite => cases missing
  | _ => rfl

theorem whole_floor (value : x.value? = some q) : (floor (.float x)).Whole ⌊q⌋ :=
  whole_ofIntegral (value?_floor value)

theorem whole_ceil (value : x.value? = some q) : (ceil (.float x)).Whole ⌈q⌉ :=
  whole_ofIntegral (value?_ceil value)

theorem round_float (whole : places.toInt ≤ 0) :
    round (.float x) places = ofIntegral (x.roundPlaces places) :=
  if_neg (Int.not_lt.mpr whole)

theorem whole_round (value : x.value? = some q) (none : places.toInt = 0) :
    (round (.float x) places).Whole (roundAway q) := by
  rw [round_float (Int.le_of_eq none)]
  exact whole_ofIntegral (value?_roundPlaces_zero none value)

theorem round_negative (x : Binary64) (negative : places.toInt < 0) :
    (∃ k : ℤ, (x.roundPlaces places).value? = some (k : ℚ) ∧ (round (.float x) places).Whole k) ∨
      (x.roundPlaces places).value? = none ∧
        round (.float x) places = .float (x.roundPlaces places) := by
  rw [round_float (Int.le_of_lt negative)]
  cases value : (x.roundPlaces places).value? with
  | none => exact .inr ⟨rfl, ofIntegral_of_no_value value⟩
  | some q =>
    obtain ⟨k, rfl⟩ := isWhole_roundPlaces negative q value
    exact .inl ⟨k, rfl, whole_ofIntegral value⟩

end Number

namespace Function

theorem floor_call (v : Value) : floor.call [v] = .ok (.number v.toNumber.floor) := rfl

theorem ceil_call (v : Value) : ceil.call [v] = .ok (.number v.toNumber.ceil) := rfl

theorem round_call (v : Value) : round.call [v] = .ok (.number (v.toNumber.round 0)) := rfl

theorem round_call_places (v p : Value) :
    round.call [v, p] = .ok (.number (v.toNumber.round p.toNumber.toInt64)) := rfl

/-- The function returns a whole number, in the form for its size. -/
def GivesWhole (f : Function) (args : List Value) (k : ℤ) : Prop :=
  ∃ n : Number, f.call args = .ok (.number n) ∧ n.Whole k

theorem GivesWhole.not_int {f : Function} {args : List Value} (gives : f.GivesWhole args k)
    (large : 9000000000000000 ≤ |k|) (i : Int64) : f.call args ≠ .ok (.number (.int i)) := by
  obtain ⟨n, result, whole⟩ := gives
  obtain ⟨y, rfl, -⟩ := whole.eq_float large
  rw [result]
  exact nofun

theorem GivesWhole.call_eq_int {f : Function} {args : List Value} (gives : f.GivesWhole args k)
    (small : |k| < 9000000000000000) : f.call args = .ok (.number (.int (Int64.ofInt k))) := by
  obtain ⟨n, result, whole⟩ := gives
  rw [result, whole.eq_int small]

theorem floor_givesWhole {v : Value} (number : v.toNumber = .float x) (value : x.value? = some q) :
    floor.GivesWhole [v] ⌊q⌋ :=
  ⟨_, floor_call v, number ▸ Number.whole_floor value⟩

theorem ceil_givesWhole {v : Value} (number : v.toNumber = .float x) (value : x.value? = some q) :
    ceil.GivesWhole [v] ⌈q⌉ :=
  ⟨_, ceil_call v, number ▸ Number.whole_ceil value⟩

theorem round_givesWhole {v : Value} (number : v.toNumber = .float x) (value : x.value? = some q) :
    round.GivesWhole [v] (roundAway q) :=
  ⟨_, round_call v, number ▸ Number.whole_round value rfl⟩

/-- Rounding a number to whole ones, tens, hundreds and so on gives an integer if the outcome is below
9 * 10^15 in size. Integers are kept as they are unless tens, hundreds and so on are asked for. -/
theorem rounding_givesWhole {v p : Value} (number : v.toNumber = .float x) (value : x.value? = some q)
    (whole : p.toNumber.toInt64.toInt ≤ 0) :
    floor.GivesWhole [v] ⌊q⌋ ∧ ceil.GivesWhole [v] ⌈q⌉ ∧ round.GivesWhole [v] (roundAway q) ∧
      (p.toNumber.toInt64.toInt = 0 → round.GivesWhole [v, p] (roundAway q)) ∧
      ((∃ k : ℤ, (x.roundPlaces p.toNumber.toInt64).value? = some (k : ℚ) ∧ round.GivesWhole [v, p] k) ∨
        (x.roundPlaces p.toNumber.toInt64).value? = none ∧
          round.call [v, p] = .ok (.number (.float (x.roundPlaces p.toNumber.toInt64)))) ∧
      ∀ (w d : Value) (i : Int64), w.toNumber = .int i → 0 ≤ d.toNumber.toInt64.toInt →
        round.call [w, d] = .ok (.number (.int i)) := by
  have nearest (none : p.toNumber.toInt64.toInt = 0) : round.GivesWhole [v, p] (roundAway q) :=
    ⟨_, round_call_places v p, number ▸ Number.whole_round value none⟩
  refine ⟨floor_givesWhole number value, ceil_givesWhole number value, round_givesWhole number value,
    nearest, ?_, ?_⟩
  · rcases Int.lt_or_eq_of_le whole with negative | none
    · rcases Number.round_negative x negative with ⟨k, rounded, form⟩ | ⟨missing, kept⟩
      · exact .inl ⟨k, rounded, _, round_call_places v p, number ▸ form⟩
      · refine .inr ⟨missing, ?_⟩
        rw [round_call_places, number, kept]
    · exact .inl ⟨_, value?_roundPlaces_zero none value, nearest none⟩
  · intro w d i integer nonneg
    rw [round_call_places, integer, Number.round, if_pos nonneg]

/-- The number is 1250.5. -/
theorem rounding_givesWhole_half :
    (finite false 1033 996157534765056).value? = some 1250.5 ∧
      floor.call [.number (.float (finite false 1033 996157534765056))] = .ok (.number (.int 1250)) ∧
      ceil.call [.number (.float (finite false 1033 996157534765056))] = .ok (.number (.int 1251)) ∧
      round.call [.number (.float (finite false 1033 996157534765056))] = .ok (.number (.int 1251)) ∧
      round.call [.number (.float (finite false 1033 996157534765056)), .number (.int 0)] =
        .ok (.number (.int 1251)) ∧
      round.call [.number (.float (finite false 1033 996157534765056)), .number (.int (-2))] =
        .ok (.number (.int 1300)) ∧
      round.call [.number (.int 1250), .number (.int 2)] = .ok (.number (.int 1250)) := by
  have value : (finite false 1033 996157534765056).value? = some 1250.5 := by decide +kernel
  have hundred : powTen 2 = finite false 1029 2533274790395904 := by
    rw [powTen, powOnto, powOnto]
    decide +kernel
  have hundreds : ((finite false 1033 996157534765056).roundPlaces (-2)).value? = some 1300 := by
    have factor : Min.min (-2 : Int64).toInt.natAbs 308 = 2 := by decide
    rw [roundPlaces]
    dsimp only
    rw [if_neg (by decide), factor, hundred]
    decide +kernel
  obtain ⟨floor, ceil, round, -, places, integers⟩ := rounding_givesWhole
    (v := .number (.float (finite false 1033 996157534765056))) (p := .number (.int (-2)))
    rfl value (by decide)
  obtain ⟨-, -, -, none, -⟩ := rounding_givesWhole
    (v := .number (.float (finite false 1033 996157534765056))) (p := .number (.int 0))
    rfl value (by decide)
  have down : ⌊(1250.5 : ℚ)⌋ = 1250 := by norm_num
  have up : ⌈(1250.5 : ℚ)⌉ = 1251 := by norm_num
  have away : roundAway 1250.5 = 1251 := by decide +kernel
  rw [down] at floor
  rw [up] at ceil
  rw [away] at round none
  refine ⟨value, floor.call_eq_int (by decide), ceil.call_eq_int (by decide),
    round.call_eq_int (by decide), (none (by decide)).call_eq_int (by decide), ?_,
    integers _ _ _ rfl (by decide)⟩
  rcases places with ⟨k, rounded, gives⟩ | ⟨missing, -⟩
  · have same := hundreds.symm.trans rounded
    have exact : k = 1300 := by exact_mod_cast (Option.some.inj same).symm
    rw [exact] at gives
    exact gives.call_eq_int (by decide)
  · cases hundreds.symm.trans missing

/-- An integer of 64 bits holds 9 * 10^15, but rounding this number gives a float. -/
theorem rounding_of_large :
    (Int64.ofInt 9000000000000000).toInt = 9000000000000000 ∧
      (finite false 1075 4496400372629504).value? = some 9000000000000000 ∧
      ∀ f ∈ [floor, ceil, round], ∀ i : Int64,
        f.call [.number (.float (finite false 1075 4496400372629504))] ≠ .ok (.number (.int i)) := by
  have value : (finite false 1075 4496400372629504).value? = some ((9000000000000000 : ℤ) : ℚ) := by
    decide +kernel
  have large : (9000000000000000 : ℤ) ≤ |9000000000000000| := by decide
  have down := floor_givesWhole (v := .number (.float _)) rfl value
  have up := ceil_givesWhole (v := .number (.float _)) rfl value
  have away := round_givesWhole (v := .number (.float _)) rfl value
  rw [Int.floor_intCast] at down
  rw [Int.ceil_intCast] at up
  rw [roundAway_intCast] at away
  refine ⟨by decide, value, ?_⟩
  intro f member i
  simp only [List.mem_cons, List.not_mem_nil, or_false] at member
  rcases member with rfl | rfl | rfl
  · exact down.not_int large i
  · exact up.not_int large i
  · exact away.not_int large i

end Function

end ComputedColumns
