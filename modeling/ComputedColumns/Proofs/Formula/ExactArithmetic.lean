import ComputedColumns.Proofs.Formula.References
import ComputedColumns.Proofs.Text.Numeral
import Mathlib.Data.Rat.Cast.CharZero

namespace ComputedColumns

open Text

def IsInt64 (q : ℚ) : Prop := ∃ n : Int64, q = n.toInt

def BinaryOp.arithmetic : List BinaryOp := [.add, .subtract, .multiply, .divide]

/-- The exact operation; only the four operations of arithmetic have one. -/
def BinaryOp.exact : BinaryOp → ℚ → ℚ → ℚ
  | add => (· + ·)
  | subtract => (· - ·)
  | multiply => (· * ·)
  | divide => (· / ·)
  | _ => fun _ _ => 0

namespace Expr

mutual

/-- The exact value of an arithmetic formula, if there is no division by zero in it. -/
def exact (env : Environment) : Expr → ℚ
  | number (.int n) => n.toInt
  | reference r =>
    match env.lookup r with
    | .number (.int n) => n.toInt
    | _ => 0
  | binary op left right => op.exact (left.exact env) (right.exact env)
  | negate operand => -operand.exact env
  | call _ args => exactSum env args
  | _ => 0

def exactSum (env : Environment) : List Expr → ℚ
  | [] => 0
  | e :: es => e.exact env + exactSum env es

end

/-- Formulas of integers, references to integers, the four operations, the minus sign and sums. -/
inductive Arithmetic (env : Environment) : Expr → Prop where
  | number (n : Int64) : Arithmetic env (.number (.int n))
  | reference {r : Reference} {n : Int64} (bound : env.lookup r = .number (.int n)) :
    Arithmetic env (.reference r)
  | binary {op : BinaryOp} {left right : Expr}
    (operation : op ∈ BinaryOp.arithmetic)
    (inLeft : Arithmetic env left) (inRight : Arithmetic env right) :
    Arithmetic env (.binary op left right)
  | negate {operand : Expr} (inOperand : Arithmetic env operand) : Arithmetic env (.negate operand)
  | sum {name : String} {args : List Expr} (isSum : Function.ofName? name = some .sum)
    (present : args ≠ []) (inArgs : ∀ e ∈ args, Arithmetic env e) : Arithmetic env (.call name args)

/-- The exact value of the expression is a 64-bit integer, as is every running total of a sum, and the
divisor of a division is not zero. -/
structure ExactHere (env : Environment) (e : Expr) : Prop where
  value : IsInt64 (e.exact env)
  divisor : ∀ left right, e = .binary .divide left right → right.exact env ≠ 0
  totals : ∀ name args k, e = .call name args → IsInt64 (exactSum env (args.take k))

def Exact (env : Environment) (e : Expr) : Prop :=
  ∀ place part, e.at? place = some part → part.ExactHere env

/-- An outcome beside what is exact: a number that is an integer just when the exact value is one and was
reached exactly, or a division by zero that the exact value does not survive. -/
inductive Follows (exact : Prop) (q : ℚ) (outcome : Except FormulaError Value) : Prop where
  | number (x : Number) (result : outcome = .ok (.number x))
    (isInt : ∀ n : Int64, x = .int n ↔ exact ∧ q = n.toInt)
  | undefined (result : outcome = .error .divisionByZero) (fails : ¬ exact)

theorem exact_iff {env : Environment} {e : Expr} :
    e.Exact env ↔ e.ExactHere env ∧ ∀ operand ∈ e.operands, operand.Exact env := by
  constructor
  · intro exact
    refine ⟨exact [] e rfl, ?_⟩
    intro operand member place part found
    obtain ⟨i, inside, rfl⟩ := List.getElem_of_mem member
    apply exact (i :: place) part
    rw [at?, List.getElem?_eq_getElem inside]
    exact found
  · rintro ⟨here, below⟩ place part found
    cases place with
    | nil =>
      cases found
      exact here
    | cons i place =>
      rw [at?] at found
      obtain ⟨operand, isOperand, found⟩ := Option.bind_eq_some_iff.mp found
      exact below operand (List.mem_of_getElem? isOperand) place part found

end Expr

namespace Number

variable {exact : Int → Int → Option Int} {rounded : Binary64 → Binary64 → Binary64}

theorem exactOr_eq_int_iff {x y : Number} {n : Int64} :
    exactOr exact rounded x y = int n ↔
      ∃ a b : Int64, x = int a ∧ y = int b ∧ exact a.toInt b.toInt = some n.toInt := by
  constructor
  · intro result
    unfold exactOr at result
    split at result
    · rename_i a b
      split at result
      · rename_i m found
        cases result
        obtain ⟨k, isExact, fits⟩ := Option.bind_eq_some_iff.mp found
        rw [← int64?_eq_some_iff.mp fits] at isExact
        exact ⟨a, b, rfl, rfl, isExact⟩
      · cases result
    · cases result
  · rintro ⟨a, b, rfl, rfl, isExact⟩
    rw [exactOr, isExact, Option.bind_some, int64?_toInt]

theorem add_eq_int_iff {x y : Number} {n : Int64} :
    x.add y = int n ↔ ∃ a b : Int64, x = int a ∧ y = int b ∧ a.toInt + b.toInt = n.toInt := by
  simp only [add, exactOr_eq_int_iff, Option.some.injEq]

theorem neg_eq_int_iff {x : Number} {n : Int64} :
    x.neg = int n ↔ ∃ a : Int64, x = int a ∧ -a.toInt = n.toInt := by
  constructor
  · intro result
    cases x with
    | float x => cases result
    | int a =>
      rw [neg] at result
      split at result
      · rename_i m fits
        cases result
        exact ⟨a, rfl, (int64?_eq_some_iff.mp fits).symm⟩
      · cases result
  · rintro ⟨a, rfl, value⟩
    rw [neg, value, int64?_toInt]

end Number

namespace BinaryOp

def integer? : BinaryOp → Int → Int → Option Int
  | add => fun a b => some (a + b)
  | subtract => fun a b => some (a - b)
  | multiply => fun a b => some (a * b)
  | divide => Number.quotient?
  | _ => fun _ _ => none

def rounded : BinaryOp → Binary64 → Binary64 → Binary64
  | add => .add
  | subtract => .sub
  | multiply => .mul
  | divide => .div
  | _ => fun _ _ => .nan

theorem quotient?_eq_some_iff {a b k : Int} (divisor : b ≠ 0) :
    Number.quotient? a b = some k ↔ (a / b : ℚ) = k := by
  have nonzero : (b : ℚ) ≠ 0 := Int.cast_ne_zero.mpr divisor
  rw [div_eq_iff nonzero, Number.quotient?]
  constructor
  · intro found
    split at found
    · rename_i divides
      cases found
      exact_mod_cast (Int.ediv_mul_cancel divides).symm
    · cases found
  · intro same
    have product : a = k * b := by exact_mod_cast same
    rw [product, if_pos (Int.dvd_mul_left k b), Int.mul_ediv_cancel k divisor]

variable {op : BinaryOp}

theorem integer?_eq_some_iff (operation : op ∈ arithmetic) {a b k : Int}
    (divisor : op = divide → b ≠ 0) : op.integer? a b = some k ↔ op.exact a b = k := by
  simp only [arithmetic, List.mem_cons, List.not_mem_nil, or_false] at operation
  rcases operation with rfl | rfl | rfl | rfl
  · simp only [integer?, exact, Option.some.injEq]
    norm_cast
  · simp only [integer?, exact, Option.some.injEq]
    norm_cast
  · simp only [integer?, exact, Option.some.injEq]
    norm_cast
  · exact quotient?_eq_some_iff (divisor rfl)

theorem apply_number (operation : op ∈ arithmetic) (x y : Number) :
    op.apply (.number x) (.number y) =
      if op = divide ∧ y.isZero = true then .error .divisionByZero
      else .ok (.number (Number.exactOr op.integer? op.rounded x y)) := by
  simp only [arithmetic, List.mem_cons, List.not_mem_nil, or_false] at operation
  rcases operation with rfl | rfl | rfl | rfl
  · rfl
  · rfl
  · rfl
  · cases zero : y.isZero <;> simp [apply, Value.toNumber, Number.div?, zero, integer?, rounded]

end BinaryOp

namespace Expr

variable {env : Environment}

theorem exact_leaf {e : Expr} (bottom : e.operands = []) (value : IsInt64 (e.exact env))
    (noDivision : ∀ left right, e ≠ .binary .divide left right)
    (noCall : ∀ name args, e ≠ .call name args) : e.Exact env := by
  rw [exact_iff, bottom]
  refine ⟨⟨value, ?_, ?_⟩, by simp⟩
  · intro left right same
    exact absurd same (noDivision left right)
  · intro name args k same
    exact absurd same (noCall name args)

theorem exact_binary_iff {op : BinaryOp} {left right : Expr} :
    (binary op left right).Exact env ↔
      (IsInt64 (op.exact (left.exact env) (right.exact env)) ∧
        (op = .divide → right.exact env ≠ 0)) ∧ left.Exact env ∧ right.Exact env := by
  rw [exact_iff]
  constructor
  · rintro ⟨here, below⟩
    refine ⟨⟨here.value, ?_⟩, below left (by simp [operands]), below right (by simp [operands])⟩
    rintro rfl
    exact here.divisor left right rfl
  · rintro ⟨⟨value, divisor⟩, inLeft, inRight⟩
    refine ⟨⟨value, ?_, ?_⟩, by simp [operands, inLeft, inRight]⟩
    · rintro left right ⟨⟩
      exact divisor rfl
    · rintro name args k ⟨⟩

theorem exact_negate_iff {operand : Expr} :
    (negate operand).Exact env ↔ IsInt64 (-operand.exact env) ∧ operand.Exact env := by
  rw [exact_iff]
  constructor
  · rintro ⟨here, below⟩
    exact ⟨here.value, below operand (by simp [operands])⟩
  · rintro ⟨value, inside⟩
    refine ⟨⟨value, ?_, ?_⟩, by simp [operands, inside]⟩
    · rintro left right ⟨⟩
    · rintro name args k ⟨⟩

theorem exact_call_iff {name : String} {args : List Expr} :
    (call name args).Exact env ↔
      (∀ k, IsInt64 (exactSum env (args.take k))) ∧ ∀ e ∈ args, e.Exact env := by
  rw [exact_iff]
  constructor
  · rintro ⟨here, below⟩
    exact ⟨fun k => here.totals name args k rfl, below⟩
  · rintro ⟨totals, inside⟩
    have value := totals args.length
    rw [List.take_length] at value
    refine ⟨⟨value, ?_, ?_⟩, inside⟩
    · rintro left right ⟨⟩
    · rintro name args k ⟨⟩
      exact totals k

theorem Exact.value {e : Expr} (exact : e.Exact env) : IsInt64 (e.exact env) :=
  (exact_iff.mp exact).1.value

theorem follows_apply {op : BinaryOp} {left right : Expr} {x y : Number}
    (operation : op ∈ BinaryOp.arithmetic)
    (isLeft : ∀ n : Int64, x = .int n ↔ left.Exact env ∧ left.exact env = n.toInt)
    (isRight : ∀ n : Int64, y = .int n ↔ right.Exact env ∧ right.exact env = n.toInt) :
    Follows ((binary op left right).Exact env) ((binary op left right).exact env)
      (op.apply (.number x) (.number y)) := by
  rw [BinaryOp.apply_number operation]
  by_cases zero : op = .divide ∧ y.isZero = true
  · rw [if_pos zero]
    refine .undefined rfl ?_
    intro exact
    obtain ⟨⟨_, divisor⟩, _, exactRight⟩ := exact_binary_iff.mp exact
    obtain ⟨b, value⟩ := exactRight.value
    have isInt : y = .int b := (isRight b).mpr ⟨exactRight, value⟩
    have isZero : b = 0 := by simpa [isInt, Number.isZero] using zero.2
    apply divisor zero.1
    rw [value, isZero]
    rfl
  · rw [if_neg zero]
    refine .number _ rfl ?_
    intro n
    rw [Number.exactOr_eq_int_iff, exact_binary_iff, exact]
    constructor
    · rintro ⟨a, b, rfl, rfl, found⟩
      obtain ⟨exactLeft, leftValue⟩ := (isLeft a).mp rfl
      obtain ⟨exactRight, rightValue⟩ := (isRight b).mp rfl
      have divisor : op = .divide → b.toInt ≠ 0 := by
        intro divides isZero
        exact zero ⟨divides, by simpa [Number.isZero] using Int64.toInt_inj.mp isZero⟩
      rw [BinaryOp.integer?_eq_some_iff operation divisor, ← leftValue, ← rightValue] at found
      refine ⟨⟨⟨⟨n, found⟩, ?_⟩, exactLeft, exactRight⟩, found⟩
      intro divides
      rw [rightValue]
      exact_mod_cast divisor divides
    · rintro ⟨⟨⟨_, divisor⟩, exactLeft, exactRight⟩, value⟩
      obtain ⟨a, leftValue⟩ := exactLeft.value
      obtain ⟨b, rightValue⟩ := exactRight.value
      rw [leftValue, rightValue] at value
      rw [rightValue] at divisor
      have divisor : op = .divide → b.toInt ≠ 0 := fun divides => by exact_mod_cast divisor divides
      exact ⟨a, b, (isLeft a).mpr ⟨exactLeft, leftValue⟩, (isRight b).mpr ⟨exactRight, rightValue⟩,
        (BinaryOp.integer?_eq_some_iff operation divisor).mpr value⟩

theorem follows_binary {op : BinaryOp} {left right : Expr} (operation : op ∈ BinaryOp.arithmetic)
    (inLeft : Follows (left.Exact env) (left.exact env) (left.evaluate env))
    (inRight : Follows (right.Exact env) (right.exact env) (right.evaluate env)) :
    Follows ((binary op left right).Exact env) ((binary op left right).exact env)
      ((binary op left right).evaluate env) := by
  cases inLeft with
  | undefined result fails =>
    refine .undefined ?_ fun exact => fails (exact_binary_iff.mp exact).2.1
    rw [evaluate, result]
    rfl
  | number x result isLeft =>
    cases inRight with
    | undefined failed fails =>
      refine .undefined ?_ fun exact => fails (exact_binary_iff.mp exact).2.2
      rw [evaluate, result, failed]
      rfl
    | number y other isRight =>
      have applied : (binary op left right).evaluate env = op.apply (.number x) (.number y) := by
        rw [evaluate, result, other]
        rfl
      rw [applied]
      exact follows_apply operation isLeft isRight

theorem follows_negate {operand : Expr}
    (inside : Follows (operand.Exact env) (operand.exact env) (operand.evaluate env)) :
    Follows ((negate operand).Exact env) ((negate operand).exact env)
      ((negate operand).evaluate env) := by
  cases inside with
  | undefined result fails =>
    refine .undefined ?_ fun exact => fails (exact_negate_iff.mp exact).2
    rw [evaluate, result]
    rfl
  | number x result isInt =>
    have applied : (negate operand).evaluate env = .ok (.number x.neg) := by
      rw [evaluate, result]
      rfl
    refine .number _ applied ?_
    intro n
    rw [Number.neg_eq_int_iff, exact_negate_iff, exact]
    constructor
    · rintro ⟨a, rfl, negated⟩
      obtain ⟨exact, value⟩ := (isInt a).mp rfl
      have negated : -operand.exact env = n.toInt := by
        rw [value]
        exact_mod_cast negated
      exact ⟨⟨⟨n, negated⟩, exact⟩, negated⟩
    · rintro ⟨⟨_, exact⟩, negated⟩
      obtain ⟨a, value⟩ := exact.value
      rw [value] at negated
      exact ⟨a, (isInt a).mpr ⟨exact, value⟩, by exact_mod_cast negated⟩

/-- A sum that has come to `a` is exact up to its end at `n`. -/
structure ExactFrom (env : Environment) (a n : Int64) (args : List Expr) : Prop where
  inArgs : ∀ e ∈ args, e.Exact env
  totals : ∀ k, IsInt64 (a.toInt + exactSum env (args.take k))
  value : a.toInt + exactSum env args = n.toInt

theorem exactFrom_nil_iff {a n : Int64} : ExactFrom env a n [] ↔ a = n := by
  have none : exactSum env [] = 0 := by rw [exactSum]
  constructor
  · intro exact
    have value := exact.value
    rw [none, add_zero] at value
    exact Int64.toInt_inj.mp (by exact_mod_cast value)
  · rintro rfl
    refine ⟨by simp, ?_, by rw [none, add_zero]⟩
    intro k
    rw [List.take_nil, none, add_zero]
    exact ⟨a, rfl⟩

theorem exactFrom_cons_iff {a n : Int64} {e : Expr} {es : List Expr} :
    ExactFrom env a n (e :: es) ↔
      e.Exact env ∧ ∃ b : Int64, a.toInt + e.exact env = b.toInt ∧ ExactFrom env b n es := by
  constructor
  · intro exact
    obtain ⟨b, next⟩ := exact.totals 1
    rw [List.take_succ_cons, List.take_zero, exactSum, exactSum, add_zero] at next
    refine ⟨exact.inArgs e List.mem_cons_self, b, next, ?_, ?_, ?_⟩
    · exact fun e member => exact.inArgs e (List.mem_cons_of_mem _ member)
    · intro k
      have later := exact.totals (k + 1)
      rwa [List.take_succ_cons, exactSum, ← add_assoc, next] at later
    · have value := exact.value
      rwa [exactSum, ← add_assoc, next] at value
  · rintro ⟨first, b, next, rest⟩
    refine ⟨?_, ?_, ?_⟩
    · exact List.forall_mem_cons.mpr ⟨first, rest.inArgs⟩
    · intro k
      cases k with
      | zero =>
        rw [List.take_zero, exactSum, add_zero]
        exact ⟨a, rfl⟩
      | succ k =>
        rw [List.take_succ_cons, exactSum, ← add_assoc, next]
        exact rest.totals k
    · rw [exactSum, ← add_assoc, next]
      exact rest.value

theorem total_follows {args : List Expr}
    (inArgs : ∀ e ∈ args, Follows (e.Exact env) (e.exact env) (e.evaluate env)) :
    (evaluateAll env args = .error .divisionByZero ∧ ∃ e ∈ args, ¬ e.Exact env) ∨
      ∃ vs, evaluateAll env args = .ok vs ∧ ∀ (acc : Number) (n : Int64),
        vs.foldl (fun total v => total.add v.toNumber) acc = .int n ↔
          ∃ a, acc = .int a ∧ ExactFrom env a n args := by
  -- For every start of the sum, as the first argument moves it for those behind.
  induction args with
  | nil =>
    right
    refine ⟨[], rfl, ?_⟩
    intro acc n
    simp [exactFrom_nil_iff]
  | cons e es ih =>
    have others := ih fun e member => inArgs e (List.mem_cons_of_mem _ member)
    cases inArgs e List.mem_cons_self with
    | undefined result fails =>
      left
      refine ⟨?_, e, List.mem_cons_self, fails⟩
      rw [evaluateAll, result]
      rfl
    | number x result isInt =>
      rcases others with ⟨failed, inexact, member, fails⟩ | ⟨vs, evaluated, folded⟩
      · left
        refine ⟨?_, inexact, List.mem_cons_of_mem _ member, fails⟩
        rw [evaluateAll, result, failed]
        rfl
      · right
        refine ⟨.number x :: vs, by rw [evaluateAll, result, evaluated]; rfl, ?_⟩
        intro acc n
        rw [List.foldl_cons, folded, Value.toNumber]
        simp only [Number.add_eq_int_iff, exactFrom_cons_iff]
        constructor
        · rintro ⟨c, ⟨a, b, rfl, rfl, sum⟩, rest⟩
          obtain ⟨exact, value⟩ := (isInt b).mp rfl
          refine ⟨a, rfl, exact, c, ?_, rest⟩
          rw [value]
          exact_mod_cast sum
        · rintro ⟨a, rfl, exact, c, next, rest⟩
          obtain ⟨b, value⟩ := exact.value
          rw [value] at next
          exact ⟨c, ⟨a, b, rfl, (isInt b).mpr ⟨exact, value⟩, by exact_mod_cast next⟩, rest⟩

theorem follows_sum {name : String} {args : List Expr}
    (isSum : Function.ofName? name = some .sum) (present : args ≠ [])
    (inArgs : ∀ e ∈ args, Follows (e.Exact env) (e.exact env) (e.evaluate env)) :
    Follows ((call name args).Exact env) ((call name args).exact env)
      ((call name args).evaluate env) := by
  have lookup : Function.lookup name = .ok .sum := by rw [Function.lookup, isSum]
  rcases total_follows inArgs with ⟨failed, inexact, member, fails⟩ | ⟨vs, evaluated, folded⟩
  · refine .undefined ?_ fun exact => fails ((exact_call_iff.mp exact).2 inexact member)
    rw [evaluate, failed]
    rfl
  · have counted : vs.length = args.length := evaluateAll_length evaluated
    have arity : Function.sum.checkArity vs.length = .ok () := by
      have some := List.length_pos_iff.mpr present
      rw [Function.checkArity, counted, if_pos]
      exact decide_eq_true some
    have called : (call name args).evaluate env = .ok (.number (Function.total vs)) := by
      rw [evaluate, evaluated, lookup]
      exact Function.call_eq_apply arity
    refine .number _ called ?_
    intro n
    have zero : ((0 : Int64).toInt : ℚ) = 0 := by rw [Int64.toInt_zero, Int.cast_zero]
    rw [Function.total, folded, exact_call_iff, exact]
    constructor
    · rintro ⟨_, ⟨⟩, exact⟩
      have totals := exact.totals
      have value := exact.value
      simp only [zero, zero_add] at totals value
      exact ⟨⟨totals, exact.inArgs⟩, value⟩
    · rintro ⟨⟨totals, inArgs⟩, value⟩
      refine ⟨0, rfl, inArgs, ?_, ?_⟩
      · simpa only [zero, zero_add] using totals
      · simpa only [zero, zero_add] using value

theorem follows_of_arithmetic {e : Expr} (arithmetic : Arithmetic env e) :
    Follows (e.Exact env) (e.exact env) (e.evaluate env) := by
  induction arithmetic with
  | number n =>
    have value : (number (.int n)).exact env = n.toInt := by rw [exact]
    have exact : (number (.int n)).Exact env := exact_leaf rfl ⟨n, value⟩ (by simp) (by simp)
    refine .number (.int n) rfl ?_
    intro m
    rw [value, Number.int.injEq, Int.cast_inj, Int64.toInt_inj, and_iff_right exact]
  | @reference r n bound =>
    have value : (reference r).exact env = n.toInt := by rw [exact, bound]
    have exact : (reference r).Exact env := exact_leaf rfl ⟨n, value⟩ (by simp) (by simp)
    refine .number (.int n) (by rw [evaluate, bound]) ?_
    intro m
    rw [value, Number.int.injEq, Int.cast_inj, Int64.toInt_inj, and_iff_right exact]
  | binary operation _ _ inLeft inRight => exact follows_binary operation inLeft inRight
  | negate _ inOperand => exact follows_negate inOperand
  | sum isSum present _ inArgs => exact follows_sum isSum present inArgs

/-- The result is the integer `n` just when all values within the formula are 64-bit integers, no divisor is
zero, and `n` is the exact value. Otherwise it is a float, or there is none because of a zero. -/
theorem evaluate_eq_int_iff {e : Expr} (arithmetic : Arithmetic env e) :
    (∀ n : Int64, e.evaluate env = .ok (.number (.int n)) ↔
      e.Exact env ∧ e.exact env = n.toInt) ∧
    (¬ e.Exact env →
      (∃ x, e.evaluate env = .ok (.number (.float x))) ∨
        e.evaluate env = .error .divisionByZero) := by
  cases follows_of_arithmetic arithmetic with
  | undefined result fails =>
    refine ⟨?_, fun _ => .inr result⟩
    intro n
    simp [result, fails]
  | number x result isInt =>
    constructor
    · intro n
      rw [result, ← isInt n]
      simp
    · intro fails
      cases x with
      | float x => exact .inl ⟨x, result⟩
      | int n => exact absurd ((isInt n).mp rfl).1 fails

def lowest : Environment := .ofColumns [("A", .number (.int Int64.minValue))]

/-- The quotient of the lowest integer by minus one is the first integer too large; the sum behind it
would be small again. -/
def beyond : Expr :=
  .call "SUM" [.binary .divide (.reference ⟨"A", none⟩) (.negate (.number (.int 1))),
    .reference ⟨"A", some 0⟩]

theorem evaluate_eq_int_iff_beyond :
    Arithmetic lowest beyond ∧
      (∀ n : Int64, beyond.evaluate lowest = .ok (.number (.int n)) ↔
        beyond.Exact lowest ∧ beyond.exact lowest = n.toInt) ∧
      (¬ beyond.Exact lowest →
        (∃ x, beyond.evaluate lowest = .ok (.number (.float x))) ∨
          beyond.evaluate lowest = .error .divisionByZero) := by
  have bare : lowest.lookup ⟨"A", none⟩ = .number (.int Int64.minValue) := by decide +kernel
  have indexed : lowest.lookup ⟨"A", some 0⟩ = .number (.int Int64.minValue) := by decide +kernel
  have isSum : Function.ofName? "SUM" = some .sum := by decide +kernel
  have quotient : Arithmetic lowest
      (.binary .divide (.reference ⟨"A", none⟩) (.negate (.number (.int 1)))) :=
    .binary (by decide) (.reference bare) (.negate (.number 1))
  have arithmetic : Arithmetic lowest beyond :=
    .sum isSum (by simp) (by simp [quotient, Arithmetic.reference indexed])
  exact ⟨arithmetic, evaluate_eq_int_iff arithmetic⟩

end Expr

end ComputedColumns
