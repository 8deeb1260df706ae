import ComputedColumns.Formula.Evaluation
import ComputedColumns.Proofs.Formula.ExactArithmetic
import ComputedColumns.Proofs.Formula.Parsing
import ComputedColumns.Proofs.Formula.TokenSource

namespace ComputedColumns

open Text

theorem evaluate_literal {n : Nat} {x : Number} (read : Lexer.readNumber (digits n) = some x)
    (env : Environment) :
    tryEvaluate (String.ofList ('=' :: digits n)) env = .ok (.number x) ∧
      tryEvaluate (String.ofList ('=' :: '-' :: digits n)) env = .ok (.number x.neg) := by
  have tokens := Lexer.tokensOf_digits read
  constructor
  · rw [tryEvaluate, if_pos (isFormula_ofList _), parseFormula_ofList, tokens]
    rfl
  · have signed : Lexer.tokensOf ('-' :: digits n) = .ok [.symbol .minus, .number x] := by
      rw [Lexer.tokensOf_scan rfl rfl, tokens]
      rfl
    rw [tryEvaluate, if_pos (isFormula_ofList _), parseFormula_ofList, signed]
    rfl

/-- The least integer has no literal: its digits are a float, which the sign negates. -/
theorem least_literal :
    Lexer.readNumber (digits Int64.minValue.toInt.natAbs) =
        some (.float (.ofInt (-Int64.minValue.toInt))) ∧
      (Number.float (.ofInt (-Int64.minValue.toInt))).neg = .float (.ofInt Int64.minValue.toInt) := by
  decide +kernel

/-- A formula that is a signed decimal numeral of an integer has that integer as its value, and for the
least integer the float equal to it. -/
theorem evaluate_intDigits (n : Int64) (env : Environment) :
    tryEvaluate (String.ofList ('=' :: intDigits n.toInt)) env =
      .ok (.number (if n = Int64.minValue then .float (.ofInt n.toInt) else .int n)) := by
  rcases lt_or_ge n.toInt 0 with negative | unsigned
  · rw [intDigits, if_pos negative]
    by_cases least : n = Int64.minValue
    · subst least
      rw [if_pos rfl, (evaluate_literal least_literal.1 env).2, least_literal.2]
    · have bound : Int64.minValue.toInt < n.toInt := by
        refine lt_of_le_of_ne (Int64.minValue_le_toInt n) ?_
        exact fun same => least (Int64.toInt_inj.mp same).symm
      have low : Int64.minValue.toInt = -2 ^ 63 := rfl
      have opposite : (Int64.ofInt (-n.toInt)).toInt = -n.toInt :=
        Int64.toInt_ofInt_of_le (by omega) (by omega)
      have size : (Int64.ofInt (-n.toInt)).toInt = n.toInt.natAbs := by omega
      have negated : (Number.int (.ofInt (-n.toInt))).neg = .int n :=
        Number.neg_eq_int_iff.mpr ⟨_, rfl, by omega⟩
      rw [if_neg least, (evaluate_literal (Lexer.readNumber_digits size) env).2, negated]
  · have other : n ≠ Int64.minValue := by
      rintro rfl
      exact absurd unsigned (by decide)
    have size : n.toInt = n.toInt.natAbs := by omega
    rw [if_neg other, intDigits, if_neg (Int.not_lt.mpr unsigned),
      (evaluate_literal (Lexer.readNumber_digits size) env).1]

theorem evaluate_intDigits_least :
    String.ofList ('=' :: intDigits Int64.minValue.toInt) = "=-9223372036854775808" ∧
      tryEvaluate "=-9223372036854775808" (.ofList []) =
        .ok (.number (.float (.ofInt (-9223372036854775808)))) ∧
      ¬ ∀ (n : Int64) (env : Environment),
        tryEvaluate (String.ofList ('=' :: intDigits n.toInt)) env = .ok (.number (.int n)) := by
  have written : String.ofList ('=' :: intDigits Int64.minValue.toInt) = "=-9223372036854775808" := by
    decide +kernel
  have value := (evaluate_literal least_literal.1 (.ofList [])).2
  rw [least_literal.2] at value
  have signed : '-' :: digits Int64.minValue.toInt.natAbs = intDigits Int64.minValue.toInt := rfl
  rw [signed] at value
  refine ⟨written, written ▸ value, fun exact => ?_⟩
  rw [exact] at value
  cases value

end ComputedColumns
