import ComputedColumns.Formula.Evaluation
import ComputedColumns.Proofs.Formula.Lexing
import ComputedColumns.Proofs.Formula.Parsing
import ComputedColumns.Proofs.Text.Blank
import ComputedColumns.Proofs.Text.Numeral

namespace ComputedColumns

open Text

namespace Template

structure WrittenIndex where
  digits : List Char
  present : digits ≠ []
  decimal : ∀ d ∈ digits, isDigit d = true
  small : ofDigits digits < indexBound

namespace WrittenIndex

def value (i : WrittenIndex) : Nat := ofDigits i.digits

def ofNat (n : Nat) (small : n < indexBound) : WrittenIndex where
  digits := Text.digits n
  present := digits_ne_nil n
  decimal _ := isDigit_of_mem_digits
  small := by rwa [ofDigits_digits]

def source : Option WrittenIndex → List Char
  | none => []
  | some i => '[' :: (i.digits ++ [']'])

end WrittenIndex

structure WrittenReference where
  name : List Char
  closed : '}' ∉ name
  index : Option WrittenIndex

def WrittenReference.source (r : WrittenReference) : List Char :=
  '{' :: (r.name ++ '}' :: WrittenIndex.source r.index)

def WrittenReference.meant (r : WrittenReference) : Reference :=
  ⟨String.ofList r.name, r.index.map WrittenIndex.value⟩

/-- A piece of a template. Braces and quotes begin something else than literal text in a template or in a
formula. -/
inductive Part where
  | literal (cs : List Char) (unbraced : '{' ∉ cs) (unquoted : '"' ∉ cs)
  | reference (r : WrittenReference)

namespace Part

def source : Part → List Char
  | literal cs _ _ => cs
  | reference r => r.source

def operand : Part → List Char
  | literal cs _ _ => '"' :: (cs ++ ['"'])
  | reference r => r.source

def text (env : Environment) : Part → List Char
  | literal cs _ _ => cs
  | reference r => (env.lookup r.meant).display.toList

end Part

def ofParts (parts : List Part) : String := String.ofList (parts.flatMap Part.source)

def joinOf (parts : List Part) : String :=
  String.ofList ('=' :: [' ', '&', ' '].intercalate (parts.map Part.operand))

/-- No bracket stands directly behind a reference without an index. -/
def Separated (parts : List Part) : Prop :=
  ∀ front r back, parts = front ++ .reference r :: back → r.index = none →
    (back.flatMap Part.source).head? ≠ some '['

theorem Separated.nil : Separated [] := by
  intro front r back split
  simp at split

theorem Separated.cons {p : Part} {parts : List Part}
    (first : ∀ r, p = .reference r → r.index = none →
      (parts.flatMap Part.source).head? ≠ some '[')
    (rest : Separated parts) : Separated (p :: parts) := by
  intro front r back split bare
  cases front with
  | nil =>
    obtain ⟨rfl, rfl⟩ := List.cons.inj split
    exact first r rfl bare
  | cons _ front => exact rest front r back (List.cons.inj split).2 bare

theorem Separated.tail {p : Part} {parts : List Part} (separated : Separated (p :: parts)) :
    Separated parts := by
  rintro front r back rfl bare
  exact separated (p :: front) r back rfl bare

theorem takeWhile_closed {stop : Char} {cs : List Char} (closed : stop ∉ cs) (rest : List Char) :
    (cs ++ stop :: rest).takeWhile (· ≠ stop) = cs ∧
      (cs ++ stop :: rest).dropWhile (· ≠ stop) = stop :: rest := by
  apply takeWhile_run
  · intro c member
    simpa using fun same : c = stop => closed (same ▸ member)
  · rintro c rest same
    cases same
    simp

theorem isDecimalDigit_of_isDigit {c : Char} (digit : isDigit c = true) :
    Unicode.isDecimalDigit c = true := by
  simp only [isDigit, Bool.and_eq_true, decide_eq_true_eq, Char.le_def, UInt32.le_iff_toNat_le]
    at digit
  rw [Unicode.isDecimalDigit, List.any_eq_true]
  refine ⟨0x30, List.mem_cons_self, ?_⟩
  have bounds : 0x30 ≤ c.toNat ∧ c.toNat ≤ 0x30 + 9 := digit
  simpa using bounds

theorem readIndex_digits (i : WrittenIndex) : readIndex i.digits = some i.value := by
  rw [readIndex, natural?_of_digits i.present i.decimal, Option.bind_some, if_pos i.small,
    WrittenIndex.value]

theorem takeIndex_source {index : Option WrittenIndex} {rest : List Char}
    (apart : index = none → rest.head? ≠ some '[') :
    takeIndex (WrittenIndex.source index ++ rest) = (index.map WrittenIndex.value, rest) := by
  cases index with
  | none =>
    have noBracket := apart rfl
    rw [WrittenIndex.source, List.nil_append]
    unfold takeIndex
    split
    · exact absurd rfl noBracket
    · rfl
  | some i =>
    have decimal : ∀ d ∈ i.digits, Unicode.isDecimalDigit d = true :=
      fun d member => isDecimalDigit_of_isDigit (i.decimal d member)
    have closes : ∀ c cs, ']' :: rest = c :: cs → Unicode.isDecimalDigit c = false := by
      rintro c cs same
      cases same
      decide
    have run := takeWhile_run decimal closes
    obtain ⟨d, ds, split⟩ := List.exists_cons_of_ne_nil i.present
    have value : indexOf (d :: ds) = i.value := by
      rw [indexOf, ← split, readIndex_digits, Option.getD_some]
    rw [split] at run
    have whole : WrittenIndex.source (some i) ++ rest = '[' :: (d :: ds ++ ']' :: rest) := by
      simp [WrittenIndex.source, split]
    rw [whole, takeIndex]
    simp only [run.1, run.2, value, Option.map_some]

theorem scanIndex_source {index : Option WrittenIndex} {rest : List Char}
    (apart : index = none → rest.head? ≠ some '[') (name : List Char) :
    Lexer.scanIndex name (WrittenIndex.source index ++ rest) =
      .ok (.reference ⟨String.ofList name, index.map WrittenIndex.value⟩, rest) := by
  cases index with
  | none =>
    have noBracket := apart rfl
    rw [WrittenIndex.source, List.nil_append]
    unfold Lexer.scanIndex
    split
    · exact absurd rfl noBracket
    · rfl
  | some i =>
    have closes : ∀ c cs, ']' :: rest = c :: cs → isDigit c = false := by
      rintro c cs same
      cases same
      decide
    obtain ⟨d, ds, split⟩ := List.exists_cons_of_ne_nil i.present
    have decimal : ∀ c ∈ d :: ds, isDigit c = true := by
      rw [← split]
      exact i.decimal
    obtain ⟨first, others⟩ := List.forall_mem_cons.mp decimal
    have run := takeWhile_run others closes
    have whole : WrittenIndex.source (some i) ++ rest = '[' :: d :: (ds ++ ']' :: rest) := by
      simp [WrittenIndex.source, split]
    rw [whole, Lexer.scanIndex, if_pos first]
    simp only [run.1, run.2, ← split, readIndex_digits, Option.map_some]

theorem takeReference_source {r : WrittenReference} {rest : List Char}
    (apart : r.index = none → rest.head? ≠ some '[') :
    takeReference (r.name ++ '}' :: (WrittenIndex.source r.index ++ rest)) =
      some (r.meant, rest) := by
  have run := takeWhile_closed r.closed (WrittenIndex.source r.index ++ rest)
  rw [takeReference, run.1, run.2]
  simp only [takeIndex_source apart]
  rfl

theorem scanReference_source {r : WrittenReference} {rest : List Char}
    (apart : r.index = none → rest.head? ≠ some '[') :
    Lexer.scanReference (r.name ++ '}' :: (WrittenIndex.source r.index ++ rest)) =
      .ok (.reference r.meant, rest) := by
  have run := takeWhile_closed r.closed (WrittenIndex.source r.index ++ rest)
  rw [Lexer.scanReference, run.1, run.2]
  exact scanIndex_source apart r.name

theorem scan_reference {r : WrittenReference} {rest : List Char}
    (apart : r.index = none → rest.head? ≠ some '[') :
    Lexer.scan '{' (r.name ++ '}' :: (WrittenIndex.source r.index ++ rest)) =
      .ok (.reference r.meant, rest) := by
  rw [Lexer.scan, if_pos rfl]
  exact scanReference_source apart

theorem scan_text {cs : List Char} (unquoted : '"' ∉ cs) (rest : List Char) :
    Lexer.scan '"' (cs ++ '"' :: rest) = .ok (.text (String.ofList cs), rest) := by
  have run := takeWhile_closed unquoted rest
  rw [Lexer.scan, if_neg (by decide), if_pos rfl, Lexer.scanText, run.1, run.2]

theorem segments_literal {c : Char} (unbraced : c ≠ '{') (cs : List Char) :
    segments (c :: cs) = .literal c :: segments cs := by
  rw [segments, if_neg unbraced]

theorem segments_reference {cs rest : List Char} {r : Reference}
    (found : takeReference cs = some (r, rest)) :
    segments ('{' :: cs) = .reference r :: segments rest := by
  rw [segments, if_pos rfl]
  split
  · rename_i again
    rw [found] at again
    cases again
    rfl
  · rename_i none
    rw [found] at none
    cases none

theorem substitute_literal (env : Environment) {cs : List Char} (unbraced : '{' ∉ cs)
    (rest : List Char) : substitute env (cs ++ rest) = cs ++ substitute env rest := by
  induction cs with
  | nil => rfl
  | cons c cs ih =>
    rw [List.mem_cons, not_or] at unbraced
    rw [List.cons_append, substitute, segments_literal (Ne.symm unbraced.1), List.flatMap_cons,
      ← substitute, ih unbraced.2]
    rfl

theorem substitute_reference (env : Environment) {r : WrittenReference} {rest : List Char}
    (apart : r.index = none → rest.head? ≠ some '[') :
    substitute env (r.source ++ rest) = (env.lookup r.meant).display.toList ++ substitute env rest := by
  have whole : r.source ++ rest =
      '{' :: (r.name ++ '}' :: (WrittenIndex.source r.index ++ rest)) := by
    simp [WrittenReference.source]
  rw [whole, substitute, segments_reference (takeReference_source apart), List.flatMap_cons,
    ← substitute]
  rfl

theorem substitute_parts (env : Environment) {parts : List Part} (separated : Separated parts) :
    substitute env (parts.flatMap Part.source) = parts.flatMap (Part.text env) := by
  induction parts with
  | nil => simp [substitute, segments]
  | cons p parts ih =>
    rw [List.flatMap_cons, List.flatMap_cons, ← ih separated.tail]
    cases p with
    | literal cs unbraced unquoted => exact substitute_literal env unbraced _
    | reference r => exact substitute_reference env (separated [] r parts rfl)

namespace Part

def token : Part → Token
  | literal cs _ _ => .text (String.ofList cs)
  | reference r => .reference r.meant

def expr : Part → Expr
  | literal cs _ _ => .text (String.ofList cs)
  | reference r => .reference r.meant

theorem atom_token (p : Part) : Grammar.atom? p.token = some p.expr := by
  cases p <;> rfl

theorem evaluate_expr (env : Environment) (p : Part) :
    ∃ v, p.expr.evaluate env = .ok v ∧ v.display.toList = p.text env := by
  cases p with
  | literal cs unbraced unquoted => exact ⟨_, rfl, String.toList_ofList⟩
  | reference r => exact ⟨_, rfl, rfl⟩

theorem tokensOf_operand (p : Part) {rest : List Char} (apart : rest.head? ≠ some '[') :
    Lexer.tokensOf (p.operand ++ rest) = (Lexer.tokensOf rest).map (p.token :: ·) := by
  cases p with
  | literal cs unbraced unquoted =>
    have whole : (literal cs unbraced unquoted).operand ++ rest = '"' :: (cs ++ '"' :: rest) := by
      simp [operand]
    rw [whole]
    exact Lexer.tokensOf_scan rfl (scan_text unquoted rest)
  | reference r =>
    have whole : (reference r).operand ++ rest =
        '{' :: (r.name ++ '}' :: (WrittenIndex.source r.index ++ rest)) := by
      simp [operand, WrittenReference.source]
    rw [whole]
    exact Lexer.tokensOf_scan rfl (scan_reference fun _ => apart)

end Part

def laterTokens (parts : List Part) : List Token :=
  parts.flatMap fun p => [.symbol .ampersand, p.token]

theorem tokensOf_ampersand (cs : List Char) :
    Lexer.tokensOf (' ' :: '&' :: ' ' :: cs) =
      (Lexer.tokensOf cs).map (.symbol .ampersand :: ·) := by
  have scanned : Lexer.scan '&' (' ' :: cs) = .ok (.symbol .ampersand, ' ' :: cs) := rfl
  rw [Lexer.tokensOf_blank rfl, Lexer.tokensOf_scan rfl scanned, Lexer.tokensOf_blank rfl]

theorem tokensOf_join (p : Part) (parts : List Part) :
    Lexer.tokensOf ([' ', '&', ' '].intercalate ((p :: parts).map Part.operand)) =
      .ok (p.token :: laterTokens parts) := by
  induction parts generalizing p with
  | nil =>
    have alone : Lexer.tokensOf (p.operand ++ []) = (Lexer.tokensOf []).map (p.token :: ·) :=
      p.tokensOf_operand nofun
    rw [List.append_nil, Lexer.tokensOf_nil] at alone
    rw [List.map_singleton, List.intercalate_singleton, alone]
    rfl
  | cons q parts ih =>
    have later := ih q
    rw [List.map_cons] at later
    have whole : [' ', '&', ' '].intercalate ((p :: q :: parts).map Part.operand) =
        p.operand ++ ' ' :: '&' :: ' ' ::
          [' ', '&', ' '].intercalate (q.operand :: parts.map Part.operand) := by
      simp
    rw [whole, p.tokensOf_operand (by nofun), tokensOf_ampersand, later]
    rfl

def joined (left : Expr) (parts : List Part) : Expr :=
  parts.foldl (fun left p => .binary .concat left p.expr) left

theorem chain_joined {ts : List Token} {left : Expr} (c : Grammar.Chain .addition ts left)
    (flat : c.nesting = c.operators) (parts : List Part) :
    ∃ whole : Grammar.Chain .addition (ts ++ laterTokens parts) (joined left parts),
      whole.nesting = c.operators + parts.length := by
  -- The operand that comes last stands deepest, so the chain stays as deep as it has operators.
  induction parts generalizing ts left with
  | nil =>
    rw [laterTokens, List.flatMap_nil, List.append_nil]
    exact ⟨c, flat⟩
  | cons p parts ih =>
    obtain ⟨d, single⟩ := Grammar.atom_operand .addition p.token p.atom_token
    let next : Grammar.Chain .addition (ts ++ ([.symbol .ampersand] ++ [p.token])) _ :=
      .next c (.written .concat [p.token]) d
    have deeper : next.nesting = next.operators := by
      simp only [next, Grammar.Chain.nesting, Grammar.Chain.operators, flat, single]
      omega
    obtain ⟨whole, deep⟩ := ih next deeper
    have tokens : ts ++ laterTokens (p :: parts) =
        ts ++ ([.symbol .ampersand] ++ [p.token]) ++ laterTokens parts := by
      simp [laterTokens]
    rw [tokens]
    refine ⟨whole, deep.trans ?_⟩
    simp only [next, Grammar.Chain.operators, List.length_cons]
    omega

theorem parse_join (p : Part) {parts : List Part} (few : parts.length ≤ Parser.maxNesting) :
    parse (p.token :: laterTokens parts) = .ok (joined p.expr parts) := by
  obtain ⟨d, single⟩ := Grammar.atom_operand .addition p.token p.atom_token
  obtain ⟨whole, deep⟩ := chain_joined (.first d) single parts
  have formula : ∃ f : Grammar.Formula (p.token :: laterTokens parts) (joined p.expr parts),
      f.nesting = parts.length :=
    ⟨.chain (.first (.chain whole)), deep.trans (Nat.zero_add _)⟩
  obtain ⟨f, nesting⟩ := formula
  rw [parse_derived f, nesting, Parser.within, if_pos few]

theorem evaluate_joined {env : Environment} {left : Expr} {v : Value}
    (first : left.evaluate env = .ok v) (parts : List Part) :
    ∃ w, (joined left parts).evaluate env = .ok w ∧
      w.display.toList = v.display.toList ++ parts.flatMap (Part.text env) := by
  induction parts generalizing left v with
  | nil => exact ⟨v, first, by simp⟩
  | cons p parts ih =>
    obtain ⟨w, second, shown⟩ := p.evaluate_expr env
    have both : (Expr.binary .concat left p.expr).evaluate env = .ok (.text (v.display ++ w.display)) := by
      rw [Expr.evaluate, first, second]
      rfl
    obtain ⟨whole, evaluated, text⟩ := ih both
    refine ⟨whole, evaluated, ?_⟩
    rw [text, List.flatMap_cons, ← List.append_assoc, ← shown, ← String.toList_append]
    rfl

/-- A template gives the text of the formula that joins its parts, with every run of blanks as one space
and none at the ends; the values stand in that text as they are. -/
theorem evaluateTemplate_eq_join (env : Environment) {parts : List Part} (present : parts ≠ [])
    (few : parts.length ≤ 257) (separated : Separated parts) :
    ∃ v, tryEvaluate (joinOf parts) env = .ok v ∧
      v.display.toList = parts.flatMap (Part.text env) ∧
      (evaluateTemplate (ofParts parts) env).toList = trim (squeeze v.display.toList) := by
  obtain ⟨p, parts, rfl⟩ := List.exists_cons_of_ne_nil present
  obtain ⟨v, first, shown⟩ := p.evaluate_expr env
  obtain ⟨w, evaluated, text⟩ := evaluate_joined first parts
  have whole : w.display.toList = (p :: parts).flatMap (Part.text env) := by
    rw [text, shown, List.flatMap_cons]
  have formula : isFormula (joinOf (p :: parts)) = true := isFormula_ofList _
  have parsed : parseFormula (joinOf (p :: parts)) = .ok (joined p.expr parts) := by
    rw [joinOf, parseFormula_ofList, tokensOf_join]
    exact parse_join p (Nat.le_of_succ_le_succ few)
  refine ⟨w, ?_, whole, ?_⟩
  · rw [tryEvaluate, if_pos formula, parsed]
    exact evaluated
  · rw [evaluateTemplate, ofParts, String.toList_ofList, String.toList_ofList,
      substitute_parts env separated, whole, collapse_eq]

/-- The value of the first reference looks like the second one. -/
def lookalike : Environment := .ofList [("A", .text "\x7bB\x7d"), ("B", .text "x"), ("B[0]", .text "y")]

def lookalikeParts : List Part :=
  [.literal [' ', '[', ' ', ' '] (by decide) (by decide), .reference ⟨['A'], by decide, none⟩,
    .reference ⟨['B'], by decide, some (.ofNat 0 (by decide))⟩]

theorem evaluateTemplate_eq_join_lookalike :
    Separated lookalikeParts ∧
      lookalikeParts.flatMap (Part.text lookalike) = [' ', '[', ' ', ' ', '{', 'B', '}', 'y'] ∧
      ∃ v, tryEvaluate (joinOf lookalikeParts) lookalike = .ok v ∧
        v.display.toList = lookalikeParts.flatMap (Part.text lookalike) ∧
        (evaluateTemplate (ofParts lookalikeParts) lookalike).toList =
          trim (squeeze v.display.toList) := by
  have separated : Separated lookalikeParts := by
    refine .cons nofun (.cons ?_ (.cons ?_ .nil))
    · rintro r same -
      cases same
      decide
    · rintro r same bare
      cases same
      cases bare
  exact ⟨separated, by decide +kernel,
    evaluateTemplate_eq_join lookalike (by decide) (by decide) separated⟩

end Template

end ComputedColumns
