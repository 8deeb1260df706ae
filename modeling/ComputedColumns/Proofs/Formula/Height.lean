import ComputedColumns.Proofs.Formula.Lexing
import ComputedColumns.Proofs.Formula.Parsing

namespace ComputedColumns

open Grammar Lexer ComputedColumns.Parser

namespace Expr

mutual

/-- The most operators and calls on a path to a leaf. -/
def height : Expr → Nat
  | binary _ left right => max left.height right.height + 1
  | negate operand => operand.height + 1
  | call _ args => heightAll args + 1
  | _ => 0

def heightAll : List Expr → Nat
  | [] => 0
  | e :: es => max e.height (heightAll es)

end

end Expr

namespace Grammar

mutual

/-- The depth at which the expression has its deepest leaf: parentheses add nothing to it. -/
def Derivation.depth {l : Level} {ts : List Token} {e : Expr} : Derivation l ts e → Nat
  | .atom _ _ _ => 0
  | .parens inner => inner.depth
  | .emptyCall _ => 1
  | .call _ args => args.depth + 1
  | .operand inner => inner.depth
  | .negation inner => inner.depth + 1
  | .chain c => c.depthBefore 0

/-- An operand stands under its own operator and the operators behind it, of which `behind` are still
to come. -/
def Chain.depthBefore {t : Tier} {ts : List Token} {e : Expr} (behind : Nat) : Chain t ts e → Nat
  | .first d => behind + d.depth
  | .next c _ d => max (c.depthBefore (behind + 1)) (behind + 1 + d.depth)

def Arguments.depth {ts : List Token} {es : List Expr} : Arguments ts es → Nat
  | .last d => d.depth
  | .more d args => max d.depth args.depth

end

mutual

theorem Derivation.height_eq {l : Level} {ts : List Token} {e : Expr} (d : Derivation l ts e) :
    e.height = d.depth := by
  match d with
  | .atom token _ is => cases token <;> cases is <;> rfl
  | .parens inner => exact inner.height_eq
  | .emptyCall _ => rfl
  | .call _ args => exact congrArg (· + 1) args.heightAll_eq
  | .operand inner => exact inner.height_eq
  | .negation inner => exact congrArg (· + 1) inner.height_eq
  | .chain c =>
    have := c.height_eq 0
    simpa [Derivation.depth] using this

theorem Chain.height_eq {t : Tier} {ts : List Token} {e : Expr} (c : Chain t ts e)
    (behind : Nat) : behind + e.height = c.depthBefore behind := by
  match c with
  | .first d => rw [d.height_eq, Chain.depthBefore]
  | .next c _ d =>
    have left := c.height_eq (behind + 1)
    have right := d.height_eq
    simp only [Expr.height, Chain.depthBefore]
    omega

theorem Arguments.heightAll_eq {ts : List Token} {es : List Expr} (args : Arguments ts es) :
    Expr.heightAll es = args.depth := by
  match args with
  | .last d => simp [Expr.heightAll, Arguments.depth, d.height_eq]
  | .more d args => simp only [Expr.heightAll, Arguments.depth, d.height_eq, args.heightAll_eq]

end

def peak : Nat → Nat
  | 0 => 0
  | allowance + 1 => peak allowance + 3 * allowance + 1

theorem two_mul_peak (allowance : Nat) :
    2 * peak allowance + allowance = 3 * (allowance * allowance) := by
  induction allowance with
  | zero => rfl
  | succ k ih =>
    have square : (k + 1) * (k + 1) = k * k + 2 * k + 1 := by
      rw [Nat.succ_mul, Nat.mul_succ]
      omega
    simp only [peak, square]
    omega

theorem peak_le_peak {m n : Nat} (le : m ≤ n) : peak m ≤ peak n := by
  induction le with
  | refl => exact Nat.le_refl _
  | step _ ih =>
    simp only [peak]
    omega

def Level.tiers : Level → Nat
  | .chain .comparison => 3
  | .chain .addition => 2
  | .chain .multiplication => 1
  | .unary | .primary => 0

theorem tiers_chain (t : Tier) : (Level.chain t).tiers = t.operand.tiers + 1 := by
  cases t <;> rfl

theorem level_below {nesting allowance : Nat} (bound : nesting + 1 ≤ allowance) :
    ∃ k, allowance = k + 1 ∧ nesting ≤ k := ⟨allowance - 1, by omega, by omega⟩

mutual

theorem Derivation.height_le {l : Level} {ts : List Token} {e : Expr} (d : Derivation l ts e)
    (allowance : Nat) (bound : d.nesting ≤ allowance) :
    e.height ≤ l.tiers * allowance + peak allowance := by
  -- Parentheses, calls and minus signs leave one level less for what is in them.
  match d with
  | .atom token _ is => cases token <;> cases is <;> exact Nat.zero_le _
  | .parens inner =>
    obtain ⟨k, rfl, fits⟩ := level_below bound
    have inside := inner.height_le k fits
    simp only [Level.tiers, peak] at *
    omega
  | .emptyCall _ =>
    obtain ⟨k, rfl, _⟩ := level_below bound
    simp only [Expr.height, Expr.heightAll, peak]
    omega
  | .call _ args =>
    obtain ⟨k, rfl, fits⟩ := level_below bound
    have inside := args.height_le k fits
    simp only [Expr.height, Level.tiers, peak] at *
    omega
  | .operand inner => exact inner.height_le allowance bound
  | .negation inner =>
    obtain ⟨k, rfl, fits⟩ := level_below bound
    have inside := inner.height_le k fits
    simp only [Expr.height, Level.tiers, peak] at *
    omega
  | @Derivation.chain t _ _ c =>
    have whole := c.height_le allowance bound
    have few : c.operators ≤ allowance := Nat.le_trans c.operators_le_nesting bound
    rw [tiers_chain, Nat.succ_mul]
    omega

theorem Chain.height_le {t : Tier} {ts : List Token} {e : Expr} (c : Chain t ts e)
    (allowance : Nat) (bound : c.nesting ≤ allowance) :
    e.height ≤ c.operators + (t.operand.tiers * allowance + peak allowance) := by
  match c with
  | .first d =>
    have alone := d.height_le allowance bound
    simp only [Chain.operators]
    omega
  | .next c _ d =>
    simp only [Chain.nesting, Nat.max_le] at bound
    have left := c.height_le allowance bound.1
    have right := d.height_le (allowance - (c.operators + 1)) (by omega)
    have smaller : allowance - (c.operators + 1) ≤ allowance := Nat.sub_le _ _
    have lower := peak_le_peak smaller
    have fewer := Nat.mul_le_mul_left t.operand.tiers smaller
    simp only [Expr.height, Chain.operators]
    omega

theorem Arguments.height_le {ts : List Token} {es : List Expr} (args : Arguments ts es)
    (allowance : Nat) (bound : args.nesting ≤ allowance) :
    Expr.heightAll es ≤ 3 * allowance + peak allowance := by
  match args with
  | .last d =>
    have alone := d.height_le allowance bound
    simp only [Level.tiers, Expr.heightAll] at *
    omega
  | .more d args =>
    simp only [Arguments.nesting, Nat.max_le] at bound
    have first := d.height_le allowance bound.1
    have others := args.height_le allowance bound.2
    simp only [Expr.heightAll, Level.tiers] at *
    omega

end

theorem formula_height_le {ts : List Token} {e : Expr} (d : Formula ts e) (allowance : Nat)
    (bound : d.nesting ≤ allowance) : e.height ≤ 3 * allowance + peak allowance :=
  d.height_le allowance bound

theorem leaf_writable : Writable [.text ""] := Writable.token _ '"' ['"'] rfl (fun _ => rfl)

theorem operator_writable (t : Tier) : ∃ op, tierOf op = t ∧ Writable [.symbol (symbolOf op)] := by
  cases t with
  | comparison => exact ⟨.equal, rfl, Writable.token _ '=' [] rfl (fun _ => rfl)⟩
  | addition => exact ⟨.add, rfl, Writable.token _ '+' [] rfl (fun _ => rfl)⟩
  | multiplication => exact ⟨.multiply, rfl, Writable.token _ '*' [] rfl (fun _ => rfl)⟩

/-- A phrase that starts a chain gets one higher with every operator behind it, at no cost in nesting as
long as there are not more of them than are allowed. -/
theorem lengthen {t : Tier} {ts : List Token} {e : Expr} (d : Derivation t.operand ts e)
    (writable : Writable ts) (allowance : Nat) (bound : d.nesting ≤ allowance) (n : Nat)
    (few : n ≤ allowance) :
    ∃ us whole, ∃ c : Chain t us whole, c.operators = n ∧ c.nesting ≤ allowance ∧
      whole.height = e.height + n ∧ Writable us := by
  induction n with
  | zero => exact ⟨ts, e, .first d, rfl, bound, rfl, writable⟩
  | succ n ih =>
    obtain ⟨us, left, c, operators, nesting, height, written⟩ := ih (by omega)
    obtain ⟨op, rfl, symbol⟩ := operator_writable t
    obtain ⟨small, flat⟩ := atom_operand (tierOf op) (.text "") rfl
    refine ⟨_, _, c.next (.written op _) small, ?_, ?_, ?_, ?_⟩
    · rw [Chain.operators, operators]
    · rw [Chain.nesting, operators, flat]
      omega
    · simp only [Expr.height, height]
      omega
    · exact written.append (symbol.append leaf_writable)

theorem call_writable {ts : List Token} (writable : Writable ts) :
    Writable (.function "F" :: .symbol .leftParen :: (ts ++ [.symbol .rightParen])) := by
  have opening : Writable [.function "F", .symbol .leftParen] :=
    (Writable.token (.function "F") 'F' [] rfl (fun _ => rfl)).append
      (Writable.token (.symbol .leftParen) '(' [] rfl (fun _ => rfl))
  have closing : Writable [.symbol .rightParen] := Writable.token _ ')' [] rfl (fun _ => rfl)
  exact opening.append (writable.append closing)

theorem storey {ts : List Token} {e : Expr} (d : Formula ts e) (writable : Writable ts) {k : Nat}
    (bound : d.nesting ≤ k) (extra : Nat) (room : extra ≤ 3 * (k + 1)) :
    ∃ us whole, ∃ d : Formula us whole, d.nesting ≤ k + 1 ∧
      whole.height = e.height + 1 + extra ∧ Writable us := by
  -- Each of the three chains takes as many of the operators as one chain may have.
  let m := min extra (k + 1)
  let n := min (extra - m) (k + 1)
  obtain ⟨_, _, products, _, bound, first, writable⟩ :=
    @lengthen .multiplication _ _ (.operand (.call "F" (.last d))) (call_writable writable) (k + 1)
      (Nat.succ_le_succ bound) m (by omega)
  obtain ⟨_, _, sums, _, bound, second, writable⟩ :=
    @lengthen .addition _ _ (.chain products) writable (k + 1) bound n (by omega)
  obtain ⟨_, _, comparisons, _, bound, third, writable⟩ :=
    @lengthen .comparison _ _ (.chain sums) writable (k + 1) bound (extra - m - n) (by omega)
  refine ⟨_, _, .chain comparisons, bound, ?_, writable⟩
  simp only [Expr.height, Expr.heightAll] at first
  omega

theorem tower (allowance height : Nat) (le : height ≤ 3 * allowance + peak allowance) :
    ∃ ts e, ∃ d : Formula ts e, d.nesting ≤ allowance ∧ e.height = height ∧ Writable ts := by
  induction allowance generalizing height with
  | zero =>
    obtain ⟨small, flat⟩ := atom_operand .comparison (.text "") rfl
    obtain rfl : height = 0 := by
      simp only [peak] at le
      omega
    exact ⟨_, _, .chain (.first small), Nat.le_of_eq flat, rfl, leaf_writable⟩
  | succ k ih =>
    -- What is not reached with one level less is reached on top of the highest that is.
    by_cases low : height ≤ 3 * k + peak k
    · obtain ⟨ts, e, d, bound, same, writable⟩ := ih height low
      exact ⟨ts, e, d, Nat.le_succ_of_le bound, same, writable⟩
    · obtain ⟨extra, rfl⟩ : ∃ extra, height = 3 * k + peak k + 1 + extra :=
        ⟨height - (3 * k + peak k + 1), by omega⟩
      have room : extra ≤ 3 * (k + 1) := by
        simp only [peak] at le
        omega
      obtain ⟨ts, e, d, bound, top, writable⟩ := ih _ (Nat.le_refl _)
      obtain ⟨us, whole, d, bound, higher, written⟩ := storey d writable bound extra room
      exact ⟨us, whole, d, bound, by rw [higher, top], written⟩

end Grammar

theorem parseFormula_written {ts : List Token} (writable : Writable ts) :
    ∃ formula, parseFormula formula = parse ts := by
  obtain ⟨cs, tokens⟩ := writable
  have alone := tokens []
  rw [List.append_nil, tokensOf_nil] at alone
  refine ⟨String.ofList ('=' :: cs), ?_⟩
  rw [parseFormula_ofList, alone]
  simp only [Except.map, List.append_nil]
  rfl

theorem derived_of_parseFormula {formula : String} {e : Expr}
    (accepted : parseFormula formula = .ok e) :
    ∃ body ts, Text.trimStart formula.toList = '=' :: body ∧ tokensOf body = .ok ts ∧
      ∃ d : Formula ts e, d.nesting ≤ maxNesting := by
  unfold parseFormula at accepted
  split at accepted
  · rename_i body trimmed
    obtain ⟨ts, tokens, parsed⟩ := bind_eq_ok.mp accepted
    exact ⟨body, ts, trimmed, tokens, derived_of_parse parsed⟩
  · cases accepted

theorem exists_height_iff (height : Nat) :
    (∃ formula e, parseFormula formula = .ok e ∧ e.height = height) ↔ height ≤ 98944 := by
  have limit : 3 * maxNesting + peak maxNesting = 98944 := by
    have twice := two_mul_peak maxNesting
    generalize peak maxNesting = p at *
    simp only [maxNesting] at *
    omega
  constructor
  · rintro ⟨formula, e, accepted, rfl⟩
    obtain ⟨_, _, _, _, d, bound⟩ := derived_of_parseFormula accepted
    rw [← limit]
    exact formula_height_le d maxNesting bound
  · intro le
    obtain ⟨ts, e, d, bound, rfl, writable⟩ := tower maxNesting height (by rwa [limit])
    obtain ⟨formula, same⟩ := parseFormula_written writable
    refine ⟨formula, e, ?_, rfl⟩
    rw [same]
    exact (parse_derived d).trans (if_pos bound)

/-- What is within the limit on nesting is the depth counted by the operators in front of an operand.
The height is within it just where the depth counted by the operators behind is, and is bounded by the
nesting as a quadratic: up to a nesting of 12 it is within the limit. -/
theorem accepted_height (formula : String) (e : Expr) (accepted : parseFormula formula = .ok e) :
    ∃ body ts, Text.trimStart formula.toList = '=' :: body ∧ tokensOf body = .ok ts ∧
      ∃ d : Formula ts e, d.nesting ≤ maxNesting ∧
        (e.height ≤ maxNesting ↔ d.depth ≤ maxNesting) ∧
        2 * e.height ≤ 3 * (d.nesting * d.nesting) + 5 * d.nesting := by
  obtain ⟨body, ts, trimmed, tokens, d, bound⟩ := derived_of_parseFormula accepted
  refine ⟨body, ts, trimmed, tokens, d, bound, ?_, ?_⟩
  · rw [d.height_eq]
  · have whole := formula_height_le d d.nesting (Nat.le_refl _)
    have twice := two_mul_peak d.nesting
    omega

theorem accepted_height_product :
    ∃ e, parseFormula "=1*1+1" = .ok e ∧ ∃ ts, ∃ d : Formula ts e, d.depth ≤ maxNesting := by
  have accepted : (parseFormula "=1*1+1").toOption.any (·.height ≤ maxNesting) = true := by
    decide +kernel
  obtain ⟨e, accepted, low⟩ := ok_of_toOption_any accepted
  obtain ⟨_, ts, _, _, d, _, same, _⟩ := accepted_height _ e accepted
  exact ⟨e, accepted, ts, d, same.mp (of_decide_eq_true low)⟩

def longProduct : List Char := '1' :: ((List.replicate 256 ['*', '1']).flatten ++ ['+', '1'])

/-- The product gives its levels back before the sum goes on. -/
theorem longProduct_accepted :
    ∃ e, parseFormula (String.ofList ('=' :: longProduct)) = .ok e ∧ ¬ e.height ≤ maxNesting := by
  have high : (tokensOf longProduct >>= parse).toOption.any (¬ ·.height ≤ maxNesting) = true := by
    decide +kernel
  rw [parseFormula_ofList]
  obtain ⟨e, accepted, high⟩ := ok_of_toOption_any high
  exact ⟨e, accepted, of_decide_eq_true high⟩

end ComputedColumns
