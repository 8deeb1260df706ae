import ComputedColumns.Proofs.Formula.Grammar
import ComputedColumns.Proofs.Outcome

namespace ComputedColumns

open Grammar

namespace Parser

/-- The reader of a level. A primary phrase begins with no minus sign, so the unary reader reads it. -/
def Levels.read (ls : Levels) : Level → Reader
  | .chain .comparison => ls.comparison
  | .chain .addition => ls.addition
  | .chain .multiplication => ls.multiplication
  | .unary | .primary => ls.unary

def Levels.resume (ls : Levels) : Tier → Expr → Reader
  | .comparison => ls.comparisonRest
  | .addition => ls.additionRest
  | .multiplication => ls.multiplicationRest

def operator? : Tier → Symbol → Option BinaryOp
  | .comparison => Symbol.comparison?
  | .addition => Symbol.addition?
  | .multiplication => Symbol.multiplication?

theorem operator?_eq_some_iff (t : Tier) (s : Symbol) (op : BinaryOp) :
    operator? t s = some op ↔ tierOf op = t ∧ symbolOf op = s := by
  cases t <;> cases s <;> cases op <;> decide

def step? : Tier → List Token → Option (BinaryOp × List Token)
  | .addition, tokens => additionStep? tokens
  | t, .symbol s :: rest => (operator? t s).map (·, rest)
  | _, _ => none

def deeper : Nat → Except SyntaxError Levels
  | 0 => .error .tooDeep
  | allowance + 1 => .ok (levels allowance)

theorem levels_eq (allowance : Nat) : levels allowance = .above (deeper allowance) := by
  cases allowance <;> rfl

theorem read_chain (inner : Except SyntaxError Levels) (t : Tier) (tokens : List Token) :
    (Levels.above inner).read (.chain t) tokens = (do
      let (left, rest) ← (Levels.above inner).read t.operand tokens
      (Levels.above inner).resume t left rest) := by
  cases t <;> rfl

theorem resume_eq (inner : Except SyntaxError Levels) (t : Tier) (left : Expr)
    (tokens : List Token) :
    (Levels.above inner).resume t left tokens =
      match step? t tokens with
      | some (op, rest) => do
        let ls ← inner
        let (right, rest) ← ls.read t.operand rest
        ls.resume t (.binary op left right) rest
      | none => .ok (left, tokens) := by
  cases t with
  | addition => rfl
  | comparison =>
    cases tokens with
    | nil => rfl
    | cons token rest =>
      cases token with
      | symbol s =>
        change comparisonRest inner left (.symbol s :: rest) = _
        simp only [comparisonRest, step?, operator?]
        cases s.comparison? <;> rfl
      | _ => rfl
  | multiplication =>
    cases tokens with
    | nil => rfl
    | cons token rest =>
      cases token with
      | symbol s =>
        change multiplicationRest inner left (.symbol s :: rest) = _
        simp only [multiplicationRest, step?, operator?]
        cases s.multiplication? <;> rfl
      | _ => rfl

/-- What may stand behind a phrase of a level: nothing that continues it. -/
def Ends : Level → List Token → Prop
  | .chain .comparison, rest => ∀ t, step? t rest = none
  | .chain .addition, rest => step? .addition rest = none ∧ step? .multiplication rest = none
  | .chain .multiplication, rest => step? .multiplication rest = none
  | .unary, _ | .primary, _ => True

theorem step?_of_ends {t : Tier} {rest : List Token} (ends : Ends (.chain t) rest) :
    step? t rest = none ∧ Ends t.operand rest := by
  cases t with
  | comparison => exact ⟨ends _, ends _, ends _⟩
  | addition => exact ends
  | multiplication => exact ⟨ends, trivial⟩

theorem ends_nil : Ends (.chain .comparison) [] := by
  intro t
  cases t <;> rfl

theorem ends_rightParen (rest : List Token) :
    Ends (.chain .comparison) (.symbol .rightParen :: rest) := by
  intro t
  cases t <;> rfl

theorem ends_comma (rest : List Token) : Ends (.chain .comparison) (.symbol .comma :: rest) := by
  intro t
  cases t <;> rfl

end Parser

open ComputedColumns.Parser

theorem Grammar.Joint.step {t : Tier} {op : BinaryOp} {js us : List Token}
    (joint : Joint t op js us) (rest : List Token) :
    step? t (js ++ (us ++ rest)) = some (op, us ++ rest) := by
  cases joint with
  | written op us => cases op <;> rfl
  | sideBySide token us starts =>
    cases token with
    | symbol s =>
      obtain rfl : s = .leftParen := by simpa [startsPrimary] using starts
      rfl
    | _ => rfl

theorem Grammar.Joint.ends {t : Tier} {op : BinaryOp} {js us : List Token}
    (joint : Joint t op js us) (rest : List Token) : Ends t.operand (js ++ (us ++ rest)) := by
  cases joint with
  | written op us => cases op <;> trivial
  | sideBySide token us starts =>
    cases token with
    | symbol s =>
      obtain rfl : s = .leftParen := by simpa [startsPrimary] using starts
      rfl
    | _ => rfl

theorem Grammar.Joint.of_append {t : Tier} {op : BinaryOp} {token : Token} {js us rest : List Token}
    (joint : Joint t op js (token :: us ++ rest)) : Joint t op js (token :: us) := by
  cases joint with
  | written op _ => exact .written op _
  | sideBySide _ _ starts => exact .sideBySide token us starts

theorem Parser.joint_of_step {t : Tier} {op : BinaryOp} {tokens us : List Token}
    (found : step? t tokens = some (op, us)) : ∃ js, tokens = js ++ us ∧ Joint t op js us := by
  have written : ∀ s, operator? t s = some op →
      ∃ js, .symbol s :: us = js ++ us ∧ Joint t op js us := by
    intro s is
    obtain ⟨rfl, rfl⟩ := (operator?_eq_some_iff t s op).mp is
    exact ⟨[.symbol (symbolOf op)], rfl, .written op us⟩
  cases tokens with
  | nil => cases t <;> cases found
  | cons token rest =>
    cases token with
    | symbol s =>
      cases is : operator? t s with
      | some other =>
        have same : step? t (.symbol s :: rest) = some (other, rest) := by
          cases t <;> simp_all [step?, additionStep?, operator?]
        rw [same] at found
        cases found
        exact written s is
      | none =>
        cases t with
        | addition =>
          simp only [step?, additionStep?, show s.addition? = none from is] at found
          split at found <;> cases found
          exact ⟨[], rfl, .sideBySide _ _ (by simp_all [startsPrimary])⟩
        | comparison => simp [step?, is] at found
        | multiplication => simp [step?, is] at found
    | _ =>
      cases t <;> cases found
      exact ⟨[], rfl, .sideBySide _ _ rfl⟩

namespace Parser

/-- A result that takes some nesting. -/
def within {α : Type} (allowance nesting : Nat) (result : Except SyntaxError α) :
    Except SyntaxError α :=
  if nesting ≤ allowance then result else .error .tooDeep

theorem within_bind {α β : Type} (allowance nesting : Nat) (a : α)
    (f : α → Except SyntaxError β) :
    (within allowance nesting (.ok a) >>= f) = within allowance nesting (f a) := by
  unfold within
  split <;> rfl

theorem within_kept {α : Type} {kept m : Nat} (few : kept ≤ m) (allowance n : Nat)
    (result : Except SyntaxError α) :
    within allowance m (within (allowance - kept) n result) =
      within allowance (max m (kept + n)) result := by
  unfold within
  split
  · rename_i first
    have both : max m (kept + n) ≤ allowance ↔ n ≤ allowance - kept := by omega
    simp only [both]
  · rename_i first
    have neither : ¬ max m (kept + n) ≤ allowance := by omega
    simp only [neither, if_false]

theorem within_within {α : Type} (allowance m n : Nat) (result : Except SyntaxError α) :
    within allowance m (within allowance n result) = within allowance (max m n) result := by
  simpa using within_kept (Nat.zero_le m) allowance n result

theorem within_zero {α : Type} (allowance : Nat) (result : Except SyntaxError α) :
    within allowance 0 result = result := if_pos (Nat.zero_le _)

theorem deeper_bind {α : Type} {f : Levels → Except SyntaxError α} {nesting : Nat}
    {result : Except SyntaxError α} (allowance : Nat)
    (inner : ∀ k, allowance = k + 1 → f (levels k) = within k nesting result) :
    (deeper allowance >>= f) = within allowance (nesting + 1) result := by
  cases allowance with
  | zero => exact (if_neg (Nat.not_succ_le_zero nesting)).symm
  | succ k =>
    have same : nesting + 1 ≤ k + 1 ↔ nesting ≤ k := by omega
    change f (levels k) = _
    rw [inner k rfl]
    simp only [within, same]

theorem callArguments_eq {argument : Reader} {tokens : List Token}
    (begins : ∃ token rest, tokens = token :: rest ∧
      (startsPrimary token = true ∨ token = .symbol .minus)) :
    callArguments argument tokens = (do
      let (args, rest) ← argumentsFrom argument (tokens.length + 1) tokens
      match rest with
      | .symbol .rightParen :: rest => .ok (args, rest)
      | _ => .error .unclosedCall) := by
  obtain ⟨token, rest, rfl, begins⟩ := begins
  have other : token ≠ .symbol .rightParen := by
    rintro rfl
    simp [startsPrimary] at begins
  unfold callArguments
  split
  · rename_i same
    cases same
    exact absurd rfl other
  · rfl

end Parser

namespace Grammar

open ComputedColumns.Parser

theorem atom_read {token : Token} {e : Expr} (is : atom? token = some e)
    (inner : Except SyntaxError Levels) (rest : List Token) :
    Parser.unary inner (token :: rest) = .ok (e, rest) := by
  cases token <;> cases is <;> rfl

mutual

theorem Derivation.read {l : Level} {ts : List Token} {e : Expr} (d : Derivation l ts e)
    (allowance : Nat) (rest : List Token) (ends : Ends l rest) :
    (levels allowance).read l (ts ++ rest) = within allowance d.nesting (.ok (e, rest)) := by
  -- Each level of nesting in the derivation takes one from the allowance.
  match d with
  | .atom token _ is =>
    rw [levels_eq]
    exact (atom_read is _ rest).trans (within_zero allowance _).symm
  | .emptyCall name =>
    rw [levels_eq]
    exact deeper_bind allowance fun k _ => (within_zero k _).symm
  | .operand inner => exact inner.read allowance rest trivial
  | @Derivation.parens ts e inner =>
    rw [levels_eq]
    apply deeper_bind allowance
    intro k _
    change ((levels k).read (.chain .comparison) ((ts ++ [.symbol .rightParen]) ++ rest) >>= _) = _
    rw [← List.append_cons, inner.read k _ (ends_rightParen rest), within_bind]
  | @Derivation.call ts es name args =>
    rw [levels_eq]
    apply deeper_bind allowance
    intro k _
    change (callArguments (levels k).comparison ((ts ++ [.symbol .rightParen]) ++ rest) >>= _) = _
    obtain ⟨token, tail, split, begins⟩ := args.begins
    have enough : es.length ≤ (ts ++ .symbol .rightParen :: rest).length + 1 := by
      have := args.length_le
      simp only [List.length_append]
      omega
    rw [← List.append_cons,
      callArguments_eq ⟨token, tail ++ .symbol .rightParen :: rest, by rw [split]; rfl, begins⟩,
      args.read k _ enough rest, within_bind]
    exact within_bind k _ _ _
  | .negation inner =>
    rw [levels_eq]
    apply deeper_bind allowance
    intro k _
    change ((levels k).read .unary (_ ++ rest) >>= _) = _
    rw [inner.read k rest trivial, within_bind]
  | .chain c =>
    obtain ⟨none, ends⟩ := step?_of_ends ends
    rw [c.read allowance rest ends, levels_eq, resume_eq, none]
    rfl

theorem Chain.read {t : Tier} {ts : List Token} {e : Expr} (c : Chain t ts e)
    (allowance : Nat) (rest : List Token) (ends : Ends t.operand rest) :
    (levels allowance).read (.chain t) (ts ++ rest) =
      within allowance c.nesting ((levels (allowance - c.operators)).resume t e rest) := by
  match c with
  | .first d =>
    rw [levels_eq, read_chain, ← levels_eq, d.read allowance rest ends, within_bind]
    rfl
  | @Chain.next t op ts js us left right c joint d =>
    have inner : (deeper (allowance - c.operators) >>= fun ls => do
        let (right, rest) ← ls.read t.operand (us ++ rest)
        ls.resume t (.binary op left right) rest) =
        within (allowance - c.operators) (d.nesting + 1)
          ((levels (allowance - (c.operators + 1))).resume t (.binary op left right) rest) := by
      apply deeper_bind
      intro k remaining
      rw [d.read k rest ends, within_bind, show allowance - (c.operators + 1) = k by omega]
    rw [List.append_assoc, List.append_assoc, c.read allowance _ (joint.ends rest)]
    rw [levels_eq (allowance - c.operators), resume_eq, joint.step rest]
    refine (congrArg _ inner).trans ?_
    rw [within_kept c.operators_le_nesting, Chain.nesting, Nat.add_comm d.nesting 1, Nat.add_assoc]
    rfl

theorem Arguments.read {ts : List Token} {es : List Expr} (args : Arguments ts es)
    (allowance count : Nat) (enough : es.length ≤ count) (rest : List Token) :
    argumentsFrom (levels allowance).comparison count (ts ++ .symbol .rightParen :: rest) =
      within allowance args.nesting (.ok (es, .symbol .rightParen :: rest)) := by
  match args with
  | .last d =>
    obtain ⟨count, rfl⟩ : ∃ n, count = n + 1 := ⟨count - 1, by simp at enough; omega⟩
    change ((levels allowance).read (.chain .comparison) _ >>= _) = _
    rw [d.read allowance _ (ends_rightParen rest), within_bind]
    rfl
  | @Arguments.more ts us e es d args =>
    obtain ⟨count, rfl⟩ : ∃ n, count = n + 1 := ⟨count - 1, by simp at enough; omega⟩
    have fewer : es.length ≤ count := by simpa using enough
    rw [List.append_assoc, List.cons_append]
    change ((levels allowance).read (.chain .comparison) _ >>= _) = _
    rw [d.read allowance _ (ends_comma _), within_bind]
    change within _ _ (argumentsFrom _ count (us ++ .symbol .rightParen :: rest) >>= _) = _
    rw [args.read allowance count fewer rest, within_bind, within_within]
    rfl

end

end Grammar

namespace Parser

/-- What a level has read is derived, within the allowance. -/
def Derived (l : Level) (allowance : Nat) (tokens : List Token) (e : Expr) (rest : List Token) :
    Prop :=
  ∃ us, ∃ d : Derivation l us e, tokens = us ++ rest ∧ d.nesting ≤ allowance

/-- A chain that is continued keeps a level for each operator that it has. -/
structure Levels.Sound (ls : Levels) (allowance : Nat) : Prop where
  read : ∀ l, l ≠ .primary → ∀ tokens e rest, ls.read l tokens = .ok (e, rest) →
    Derived l allowance tokens e rest
  resume : ∀ t ts left, ∀ c : Chain t ts left, c.nesting ≤ c.operators + allowance →
    ∀ tokens e rest, ls.resume t left tokens = .ok (e, rest) →
    ∃ us whole, ∃ d : Chain t whole e, whole = ts ++ us ∧ tokens = us ++ rest ∧
      d.nesting ≤ c.operators + allowance

theorem operand_ne_primary (t : Tier) : t.operand ≠ .primary := by
  cases t <;> exact nofun

theorem argumentsFrom_sound {ls : Levels} {allowance : Nat} (sound : ls.Sound allowance)
    (count : Nat) (tokens : List Token) (es : List Expr) (rest : List Token)
    (done : argumentsFrom ls.comparison count tokens = .ok (es, rest)) :
    ∃ us, ∃ args : Arguments us es, tokens = us ++ rest ∧ args.nesting ≤ allowance := by
  induction count generalizing tokens es rest with
  | zero => cases done
  | succ count ih =>
    obtain ⟨⟨e, behind⟩, first, others⟩ := bind_eq_ok.mp done
    obtain ⟨ts, d, rfl, bound⟩ := sound.read (.chain .comparison) nofun _ _ _ first
    dsimp only at others
    split at others
    · obtain ⟨⟨es, rest⟩, next, last⟩ := bind_eq_ok.mp others
      obtain ⟨us, args, rfl, bounds⟩ := ih _ _ _ next
      cases last
      exact ⟨_, .more d args, by simp, Nat.max_le.mpr ⟨bound, bounds⟩⟩
    · cases others
      exact ⟨ts, .last d, rfl, bound⟩

theorem callArguments_sound {ls : Levels} {allowance : Nat} (sound : ls.Sound allowance)
    (name : String) (tokens : List Token) (es : List Expr) (rest : List Token)
    (done : callArguments ls.comparison tokens = .ok (es, rest)) :
    Derived .primary (allowance + 1) (.function name :: .symbol .leftParen :: tokens)
      (.call name es) rest := by
  unfold callArguments at done
  split at done
  · cases done
    exact ⟨_, .emptyCall name, rfl, Nat.succ_le_succ (Nat.zero_le _)⟩
  · obtain ⟨⟨es, behind⟩, read, closed⟩ := bind_eq_ok.mp done
    obtain ⟨us, args, rfl, bound⟩ := argumentsFrom_sound sound _ _ _ _ read
    dsimp only at closed
    split at closed
    · cases closed
      exact ⟨_, .call name args, by simp, Nat.succ_le_succ bound⟩
    · cases closed

theorem primary_sound {inner : Except SyntaxError Levels} {allowance : Nat}
    (sound : ∀ ls, inner = .ok ls → ∃ k, allowance = k + 1 ∧ ls.Sound k)
    (tokens : List Token) (e : Expr) (rest : List Token)
    (done : primary inner tokens = .ok (e, rest)) : Derived .primary allowance tokens e rest := by
  unfold primary at done
  split at done
  · cases done
  · cases done
    exact ⟨_, .atom _ _ rfl, rfl, Nat.zero_le _⟩
  · cases done
    exact ⟨_, .atom _ _ rfl, rfl, Nat.zero_le _⟩
  · cases done
    exact ⟨_, .atom _ _ rfl, rfl, Nat.zero_le _⟩
  · cases done
    exact ⟨_, .atom _ _ rfl, rfl, Nat.zero_le _⟩
  · obtain ⟨ls, deep, opened⟩ := bind_eq_ok.mp done
    obtain ⟨k, rfl, within⟩ := sound ls deep
    split at opened
    · obtain ⟨⟨es, behind⟩, read, last⟩ := bind_eq_ok.mp opened
      cases last
      exact callArguments_sound within _ _ _ _ read
    · cases opened
  · obtain ⟨ls, deep, opened⟩ := bind_eq_ok.mp done
    obtain ⟨k, rfl, within⟩ := sound ls deep
    obtain ⟨⟨inside, behind⟩, read, closed⟩ := bind_eq_ok.mp opened
    obtain ⟨us, d, rfl, bound⟩ := within.read (.chain .comparison) nofun _ _ _ read
    dsimp only at closed
    split at closed
    · cases closed
      exact ⟨_, .parens d, by simp, Nat.succ_le_succ bound⟩
    · cases closed
  · cases done

theorem unary_sound {inner : Except SyntaxError Levels} {allowance : Nat}
    (sound : ∀ ls, inner = .ok ls → ∃ k, allowance = k + 1 ∧ ls.Sound k)
    (tokens : List Token) (e : Expr) (rest : List Token)
    (done : unary inner tokens = .ok (e, rest)) : Derived .unary allowance tokens e rest := by
  unfold unary at done
  split at done
  · obtain ⟨ls, deep, read⟩ := bind_eq_ok.mp done
    obtain ⟨k, rfl, within⟩ := sound ls deep
    obtain ⟨⟨inside, behind⟩, read, last⟩ := bind_eq_ok.mp read
    obtain ⟨us, d, rfl, bound⟩ := within.read .unary nofun _ _ _ read
    cases last
    exact ⟨_, .negation d, rfl, Nat.succ_le_succ bound⟩
  · obtain ⟨us, d, rfl, bound⟩ := primary_sound sound _ _ _ done
    exact ⟨us, .operand d, rfl, bound⟩

theorem resume_sound {inner : Except SyntaxError Levels} {allowance : Nat}
    (sound : ∀ ls, inner = .ok ls → ∃ k, allowance = k + 1 ∧ ls.Sound k)
    {t : Tier} {ts : List Token} {left : Expr} (c : Chain t ts left)
    (bound : c.nesting ≤ c.operators + allowance) (tokens : List Token) (e : Expr)
    (rest : List Token) (done : (Levels.above inner).resume t left tokens = .ok (e, rest)) :
    ∃ us whole, ∃ d : Chain t whole e, whole = ts ++ us ∧ tokens = us ++ rest ∧
      d.nesting ≤ c.operators + allowance := by
  rw [resume_eq] at done
  split at done
  · rename_i op behind found
    obtain ⟨js, rfl, joint⟩ := joint_of_step found
    obtain ⟨ls, deep, read⟩ := bind_eq_ok.mp done
    obtain ⟨k, rfl, within⟩ := sound ls deep
    obtain ⟨⟨right, after⟩, read, resumed⟩ := bind_eq_ok.mp read
    obtain ⟨us, d, rfl, bounds⟩ := within.read _ (operand_ne_primary t) _ _ _ read
    obtain ⟨first, others, rfl, _⟩ := d.begins
    have joint := joint.of_append
    have longer : (Chain.next c joint d).nesting ≤ (Chain.next c joint d).operators + k := by
      simp only [Chain.nesting, Chain.operators]
      omega
    obtain ⟨vs, whole, final, rfl, rfl, total⟩ :=
      within.resume t _ _ (Chain.next c joint d) longer _ _ _ resumed
    refine ⟨js ++ (first :: others ++ vs), _, final, by simp, by simp, ?_⟩
    simp only [Chain.operators] at total
    omega
  · cases done
    exact ⟨[], ts, c, by simp, rfl, bound⟩

theorem above_sound {inner : Except SyntaxError Levels} {allowance : Nat}
    (sound : ∀ ls, inner = .ok ls → ∃ k, allowance = k + 1 ∧ ls.Sound k) :
    (Levels.above inner).Sound allowance := by
  have chained : ∀ t, (∀ tokens e rest, (Levels.above inner).read t.operand tokens = .ok (e, rest) →
      Derived t.operand allowance tokens e rest) →
      ∀ tokens e rest, (Levels.above inner).read (.chain t) tokens = .ok (e, rest) →
      Derived (.chain t) allowance tokens e rest := by
    intro t operand tokens e rest done
    rw [read_chain] at done
    obtain ⟨⟨left, behind⟩, first, resumed⟩ := bind_eq_ok.mp done
    obtain ⟨ts, d, rfl, bound⟩ := operand _ _ _ first
    obtain ⟨us, whole, c, rfl, rfl, bounds⟩ := resume_sound sound (.first d)
      (show d.nesting ≤ 0 + allowance by omega) _ _ _ resumed
    exact ⟨_, .chain c, by simp, by simpa [Chain.operators, Derivation.nesting] using bounds⟩
  have multiplication := chained .multiplication (unary_sound sound)
  have addition := chained .addition multiplication
  have comparison := chained .comparison addition
  constructor
  · intro l other
    cases l with
    | chain t =>
      cases t with
      | comparison => exact comparison
      | addition => exact addition
      | multiplication => exact multiplication
    | unary => exact unary_sound sound
    | primary => exact absurd rfl other
  · intro t ts left c bound
    exact resume_sound sound c bound

theorem levels_sound (allowance : Nat) : (levels allowance).Sound allowance := by
  induction allowance with
  | zero => exact above_sound (fun ls none => by cases none)
  | succ k ih =>
    apply above_sound
    intro ls same
    cases same
    exact ⟨k, rfl, ih⟩

end Parser

theorem isFormula_ofList (cs : List Char) : isFormula (String.ofList ('=' :: cs)) = true := by
  rw [isFormula, String.toList_ofList]
  rfl

theorem parseFormula_ofList (cs : List Char) :
    parseFormula (String.ofList ('=' :: cs)) = (Lexer.tokensOf cs >>= parse) := by
  have body : Text.trimStart (String.ofList ('=' :: cs)).toList = '=' :: cs := by
    rw [String.toList_ofList]
    rfl
  rw [parseFormula, body]
  rfl

theorem parse_derived {tokens : List Token} {e : Expr} (d : Formula tokens e) :
    parse tokens = within maxNesting d.nesting (.ok e) := by
  have reading := d.read maxNesting [] ends_nil
  rw [List.append_nil] at reading
  change ((levels maxNesting).read (.chain .comparison) tokens >>= _) = _
  rw [reading, within_bind]

theorem derived_of_parse {tokens : List Token} {e : Expr} (done : parse tokens = .ok e) :
    ∃ d : Formula tokens e, d.nesting ≤ maxNesting := by
  obtain ⟨⟨whole, rest⟩, read, last⟩ := bind_eq_ok.mp done
  obtain ⟨us, d, split, bound⟩ :=
    (levels_sound maxNesting).read (.chain .comparison) nofun _ _ _ read
  cases rest with
  | nil =>
    cases last
    obtain rfl : tokens = us := by simpa using split
    exact ⟨d, bound⟩
  | cons token rest => cases last

theorem read_once {tokens : List Token} {e e' : Expr} (d : Formula tokens e)
    (d' : Formula tokens e') : e' = e ∧ d'.nesting ≤ d.nesting := by
  have reading := d.read d.nesting [] ends_nil
  rw [d'.read d.nesting [] ends_nil, within, within, if_pos (Nat.le_refl _)] at reading
  split at reading
  · rename_i bound
    cases reading
    exact ⟨rfl, bound⟩
  · cases reading

/-- The parser accepts exactly what the grammar derives without nesting too deep, and has an error for
all else. Tokens have no two expressions and no two depths of nesting. -/
theorem parse_eq_ok_iff (tokens : List Token) (e : Expr) :
    (parse tokens = .ok e ↔ ∃ d : Formula tokens e, d.nesting ≤ maxNesting) ∧
    ((¬ ∃ e, ∃ d : Formula tokens e, d.nesting ≤ maxNesting) →
      ∃ problem, parse tokens = .error problem) ∧
    ∀ (e' : Expr) (d : Formula tokens e) (d' : Formula tokens e'),
      e' = e ∧ d'.nesting = d.nesting := by
  have accepted : ∀ e, parse tokens = .ok e ↔ ∃ d : Formula tokens e, d.nesting ≤ maxNesting := by
    intro e
    constructor
    · exact derived_of_parse
    · rintro ⟨d, bound⟩
      rw [parse_derived d, within, if_pos bound]
  refine ⟨accepted e, ?_, ?_⟩
  · intro underived
    cases done : parse tokens with
    | error problem => exact ⟨problem, rfl⟩
    | ok e => exact absurd ⟨e, (accepted e).mp done⟩ underived
  · intro e' d d'
    obtain ⟨same, le⟩ := read_once d d'
    obtain ⟨_, ge⟩ := read_once d' d
    exact ⟨same, Nat.le_antisymm le ge⟩

/-- A minus sign between operands subtracts; operands side by side are joined. -/
example : parse [.text "a", .symbol .minus, .text "b", .text "c"] =
    .ok (.binary .concat (.binary .subtract (.text "a") (.text "b")) (.text "c")) := rfl

end ComputedColumns
