import ComputedColumns.Formula.Parser

namespace ComputedColumns.Grammar

/-- The levels at which operators form chains, loosest first. -/
inductive Tier where
  | comparison
  | addition
  | multiplication
  deriving DecidableEq

inductive Level where
  | chain (t : Tier)
  | unary
  | primary
  deriving DecidableEq

def Tier.operand : Tier → Level
  | comparison => .chain .addition
  | addition => .chain .multiplication
  | multiplication => .unary

def tierOf : BinaryOp → Tier
  | .equal | .notEqual | .less | .lessEqual | .greater | .greaterEqual => .comparison
  | .add | .subtract | .concat => .addition
  | .multiply | .divide => .multiplication

def symbolOf : BinaryOp → Symbol
  | .add => .plus
  | .subtract => .minus
  | .multiply => .times
  | .divide => .slash
  | .equal => .equal
  | .notEqual => .notEqual
  | .less => .less
  | .lessEqual => .lessEqual
  | .greater => .greater
  | .greaterEqual => .greaterEqual
  | .concat => .ampersand

def atom? : Token → Option Expr
  | .number n => some (.number n)
  | .text s => some (.text s)
  | .boolean b => some (.boolean b)
  | .reference r => some (.reference r)
  | _ => none

def startsPrimary : Token → Bool
  | .symbol s => s = .leftParen
  | _ => true

/-- `Joint t op js us`: the tokens `js` join the operand `us` to the chain before it. Operands of an
addition that stand side by side are joined without a token. -/
inductive Joint : Tier → BinaryOp → List Token → List Token → Prop where
  | written (op : BinaryOp) (us : List Token) : Joint (tierOf op) op [.symbol (symbolOf op)] us
  | sideBySide (token : Token) (us : List Token) (starts : startsPrimary token = true) :
    Joint .addition .concat [] (token :: us)

mutual

/-- The derivations of an expression from all of a list of tokens. -/
inductive Derivation : Level → List Token → Expr → Type where
  | atom (token : Token) (e : Expr) (is : atom? token = some e) : Derivation .primary [token] e
  | parens {ts : List Token} {e : Expr} (inner : Derivation (.chain .comparison) ts e) :
    Derivation .primary (.symbol .leftParen :: (ts ++ [.symbol .rightParen])) e
  | emptyCall (name : String) :
    Derivation .primary [.function name, .symbol .leftParen, .symbol .rightParen] (.call name [])
  | call {ts : List Token} {es : List Expr} (name : String) (args : Arguments ts es) :
    Derivation .primary
      (.function name :: .symbol .leftParen :: (ts ++ [.symbol .rightParen])) (.call name es)
  | operand {ts : List Token} {e : Expr} (inner : Derivation .primary ts e) :
    Derivation .unary ts e
  | negation {ts : List Token} {e : Expr} (inner : Derivation .unary ts e) :
    Derivation .unary (.symbol .minus :: ts) (.negate e)
  | chain {t : Tier} {ts : List Token} {e : Expr} (c : Chain t ts e) : Derivation (.chain t) ts e

/-- A chain groups to the left: it is its first operand, or a shorter chain and one more operand. -/
inductive Chain : Tier → List Token → Expr → Type where
  | first {t : Tier} {ts : List Token} {e : Expr} (d : Derivation t.operand ts e) : Chain t ts e
  | next {t : Tier} {op : BinaryOp} {ts js us : List Token} {left right : Expr}
    (c : Chain t ts left) (joint : Joint t op js us) (d : Derivation t.operand us right) :
    Chain t (ts ++ (js ++ us)) (.binary op left right)

inductive Arguments : List Token → List Expr → Type where
  | last {ts : List Token} {e : Expr} (d : Derivation (.chain .comparison) ts e) :
    Arguments ts [e]
  | more {ts us : List Token} {e : Expr} {es : List Expr}
    (d : Derivation (.chain .comparison) ts e) (args : Arguments us es) :
    Arguments (ts ++ .symbol .comma :: us) (e :: es)

end

def Chain.operators {t : Tier} {ts : List Token} {e : Expr} : Chain t ts e → Nat
  | .first _ => 0
  | .next c _ _ => c.operators + 1

mutual

/-- Parentheses, calls and minus signs add a level to what is in them. -/
def Derivation.nesting {l : Level} {ts : List Token} {e : Expr} : Derivation l ts e → Nat
  | .atom _ _ _ => 0
  | .parens inner => inner.nesting + 1
  | .emptyCall _ => 1
  | .call _ args => args.nesting + 1
  | .operand inner => inner.nesting
  | .negation inner => inner.nesting + 1
  | .chain c => c.nesting

/-- The operand behind the n-th operator of a chain stands n levels deep. -/
def Chain.nesting {t : Tier} {ts : List Token} {e : Expr} : Chain t ts e → Nat
  | .first d => d.nesting
  | .next c _ d => max c.nesting (c.operators + 1 + d.nesting)

def Arguments.nesting {ts : List Token} {es : List Expr} : Arguments ts es → Nat
  | .last d => d.nesting
  | .more d args => max d.nesting args.nesting

end

abbrev Formula (ts : List Token) (e : Expr) : Type := Derivation (.chain .comparison) ts e

theorem Chain.operators_le_nesting {t : Tier} {ts : List Token} {e : Expr} (c : Chain t ts e) :
    c.operators ≤ c.nesting := by
  cases c with
  | first d => exact Nat.zero_le _
  | next c joint d =>
    simp only [Chain.operators, Chain.nesting]
    omega

mutual

theorem Derivation.begins {l : Level} {ts : List Token} {e : Expr} (d : Derivation l ts e) :
    ∃ token rest, ts = token :: rest ∧ (startsPrimary token = true ∨ token = .symbol .minus) := by
  match d with
  | .atom token _ is =>
    refine ⟨token, [], rfl, .inl ?_⟩
    cases token <;> first | rfl | cases is
  | .parens _ => exact ⟨_, _, rfl, .inl rfl⟩
  | .emptyCall _ => exact ⟨_, _, rfl, .inl rfl⟩
  | .call _ _ => exact ⟨_, _, rfl, .inl rfl⟩
  | .operand inner => exact inner.begins
  | .negation _ => exact ⟨_, _, rfl, .inr rfl⟩
  | .chain c => exact c.begins

theorem Chain.begins {t : Tier} {ts : List Token} {e : Expr} (c : Chain t ts e) :
    ∃ token rest, ts = token :: rest ∧ (startsPrimary token = true ∨ token = .symbol .minus) := by
  match c with
  | .first d => exact d.begins
  | .next c _ _ =>
    obtain ⟨token, rest, rfl, starts⟩ := c.begins
    exact ⟨token, _, rfl, starts⟩

end

theorem Arguments.begins {ts : List Token} {es : List Expr} (args : Arguments ts es) :
    ∃ token rest, ts = token :: rest ∧ (startsPrimary token = true ∨ token = .symbol .minus) := by
  cases args with
  | last d => exact d.begins
  | more d args =>
    obtain ⟨token, rest, rfl, starts⟩ := d.begins
    exact ⟨token, _, rfl, starts⟩

theorem Arguments.length_le {ts : List Token} {es : List Expr} (args : Arguments ts es) :
    es.length ≤ ts.length := by
  match args with
  | .last d =>
    obtain ⟨token, rest, rfl, _⟩ := d.begins
    simp
  | .more d args =>
    have := args.length_le
    simp only [List.length_cons, List.length_append]
    omega

theorem atom_operand (t : Tier) (token : Token) {e : Expr} (is : atom? token = some e) :
    ∃ d : Derivation t.operand [token] e, d.nesting = 0 := by
  cases t with
  | multiplication => exact ⟨.operand (.atom token e is), rfl⟩
  | addition => exact ⟨.chain (.first (.operand (.atom token e is))), rfl⟩
  | comparison => exact ⟨.chain (.first (.chain (.first (.operand (.atom token e is))))), rfl⟩

end ComputedColumns.Grammar
