import ComputedColumns.Proofs.Formula.Lexing
import ComputedColumns.Proofs.Outcome
import ComputedColumns.Proofs.Text.Numeral

namespace ComputedColumns.Lexer

open Text

/-- More text behind a run leaves it as it is, unless the run fills the text and goes on. -/
theorem run_append {p : Char → Bool} {cs : List Char} (more : List Char)
    (ends : cs.dropWhile p = [] → ∀ c rest, more = c :: rest → p c = false) :
    (cs ++ more).takeWhile p = cs.takeWhile p ∧
      (cs ++ more).dropWhile p = cs.dropWhile p ++ more := by
  have split : cs ++ more = cs.takeWhile p ++ (cs.dropWhile p ++ more) := by
    rw [← List.append_assoc, List.takeWhile_append_dropWhile]
  have all : ∀ c ∈ cs.takeWhile p, p c = true := List.all_eq_true.mp List.all_takeWhile
  rw [split]
  apply takeWhile_run all
  intro c rest begins
  cases left : cs.dropWhile p with
  | nil =>
    rw [left] at begins
    exact ends left c rest begins
  | cons d tail =>
    have first := List.head?_dropWhile_not p cs
    rw [left] at begins first
    cases begins
    simpa using first

theorem isBlank_of_inNumber {c : Char} (inside : inNumber c = true) : isBlank c = false := by
  rcases Bool.or_eq_true_iff.mp inside with digit | point
  · exact isBlank_of_digit digit
  · rw [beq_iff_eq.mp point]
    rfl

theorem inName_bounds {c : Char} (inside : inName c = true) : 48 ≤ c.toNat ∧ c.toNat ≤ 122 := by
  rcases Bool.or_eq_true_iff.mp inside with alphanum | underscore
  · rcases Bool.or_eq_true_iff.mp alphanum with letter | digit
    · rcases Bool.or_eq_true_iff.mp letter with upper | lower
      · obtain ⟨low, high⟩ := of_decide_eq_true upper
        have low : 65 ≤ c.toNat := low
        have high : c.toNat ≤ 90 := high
        omega
      · obtain ⟨low, high⟩ := Bool.and_eq_true_iff.mp lower
        have low : 97 ≤ c.toNat := of_decide_eq_true low
        have high : c.toNat ≤ 122 := of_decide_eq_true high
        omega
    · obtain ⟨low, high⟩ := Bool.and_eq_true_iff.mp digit
      have low : 48 ≤ c.toNat := of_decide_eq_true low
      have high : c.toNat ≤ 57 := of_decide_eq_true high
      omega
  · rw [beq_iff_eq.mp underscore]
    decide

theorem isBlank_of_inName {c : Char} (inside : inName c = true) : isBlank c = false := by
  have ascii := inName_bounds inside
  simp only [isBlank, Bool.or_eq_false_iff, Bool.and_eq_false_iff, decide_eq_false_iff_not,
    beq_eq_false_iff_ne]
  omega

theorem scanIndex_bare {cs : List Char} (bare : ∀ d ds, cs = '[' :: d :: ds → isDigit d = false)
    (name : List Char) : scanIndex name cs = .ok (.reference ⟨String.ofList name, none⟩, cs) := by
  unfold scanIndex
  split
  · rename_i d ds
    have other : ¬ isDigit d = true := by simp [bare d ds rfl]
    rw [if_neg other]
  · rfl

section

variable {w : Char} (blank : isBlank w = true)
include blank

theorem ne_of_blank {c : Char} (visible : isBlank c = false) : w ≠ c := by
  rintro rfl
  rw [visible] at blank
  cases blank

theorem ends_of_blank {p : Char → Bool} (visible : ∀ c, p c = true → isBlank c = false) :
    p w = false := by
  cases inside : p w with
  | false => rfl
  | true => exact absurd rfl (ne_of_blank blank (visible w inside))

theorem run_blank {p : Char → Bool} (visible : ∀ c, p c = true → isBlank c = false)
    (cs more : List Char) :
    (cs ++ w :: more).takeWhile p = cs.takeWhile p ∧
      (cs ++ w :: more).dropWhile p = cs.dropWhile p ++ w :: more := by
  apply run_append
  rintro - c rest ⟨⟩
  exact ends_of_blank blank visible

variable {t : Token} {cs rest : List Char}

theorem scanIndex_append {name : List Char} (scanned : scanIndex name cs = .ok (t, rest))
    (more : List Char) : scanIndex name (cs ++ w :: more) = .ok (t, rest ++ w :: more) := by
  by_cases indexed : ∃ d ds, cs = '[' :: d :: ds ∧ isDigit d = true
  · obtain ⟨d, ds, rfl, digit⟩ := indexed
    have kept := run_blank blank (p := isDigit) (fun _ => isBlank_of_digit) ds more
    rw [scanIndex, if_pos digit] at scanned
    rw [List.cons_append, List.cons_append, scanIndex, if_pos digit, kept.1, kept.2]
    dsimp only at scanned ⊢
    split at scanned
    · rename_i tail left
      rw [left]
      split at scanned
      · cases scanned
        rfl
      · cases scanned
    · cases scanned
  · have bare : ∀ d ds, cs = '[' :: d :: ds → isDigit d = false := by
      intro d ds same
      simpa using fun digit => indexed ⟨d, ds, same, digit⟩
    rw [scanIndex_bare bare] at scanned
    cases scanned
    apply scanIndex_bare
    intro d ds same
    match cs with
    | [] => exact absurd (List.cons.inj same).1 (ne_of_blank blank rfl)
    | [_] =>
      cases same
      exact ends_of_blank blank fun _ => isBlank_of_digit
    | _ :: _ :: _ =>
      cases same
      exact bare _ _ rfl

theorem scanReference_append (scanned : scanReference cs = .ok (t, rest)) (more : List Char) :
    scanReference (cs ++ w :: more) = .ok (t, rest ++ w :: more) := by
  unfold scanReference at scanned
  split at scanned
  · cases scanned
  · rename_i c tail left
    have met : cs.dropWhile (· ≠ '}') ≠ [] := left ▸ List.cons_ne_nil c tail
    have kept := run_append (w :: more) fun none => absurd none met
    rw [scanReference, kept.1, kept.2, left]
    exact scanIndex_append blank scanned more

omit blank in
theorem scanText_append (scanned : scanText cs = .ok (t, rest)) (more : List Char) :
    scanText (cs ++ more) = .ok (t, rest ++ more) := by
  unfold scanText at scanned
  split at scanned
  · cases scanned
  · rename_i c tail left
    cases scanned
    have met : cs.dropWhile (· ≠ '"') ≠ [] := left ▸ List.cons_ne_nil c _
    have kept := run_append more fun none => absurd none met
    rw [scanText, kept.1, kept.2, left]
    rfl

theorem scanNumber_append (scanned : scanNumber cs = .ok (t, rest)) (more : List Char) :
    scanNumber (cs ++ w :: more) = .ok (t, rest ++ w :: more) := by
  have kept := run_blank blank (p := inNumber) (fun _ => isBlank_of_inNumber) cs more
  unfold scanNumber at scanned ⊢
  rw [kept.1, kept.2]
  split at scanned
  · cases scanned
    rfl
  · cases scanned

theorem startsNumber_append (c : Char) (cs more : List Char) :
    startsNumber c (cs ++ w :: more) = startsNumber c cs := by
  have digit : isDigit w = false := ends_of_blank blank fun _ => isBlank_of_digit
  cases cs with
  | nil => simp only [startsNumber, List.nil_append, digit]
  | cons d cs => rfl

theorem symbol?_append (c : Char) (cs more : List Char) :
    symbol? c (cs ++ w :: more) = (symbol? c cs).map (Prod.map id (· ++ w :: more)) := by
  have other : w ≠ '=' := ne_of_blank blank rfl
  cases cs with
  | nil =>
    rw [List.nil_append]
    unfold symbol?
    split <;> simp_all
  | cons d cs =>
    unfold symbol?
    split <;> simp_all

theorem scanName_append (cs more : List Char) :
    scanName (cs ++ w :: more) = ((scanName cs).1, (scanName cs).2 ++ w :: more) := by
  have kept := run_blank blank (p := inName) (fun _ => isBlank_of_inName) cs more
  rw [scanName, kept.1, kept.2, scanName]

theorem scan_append {c : Char} (scanned : scan c cs = .ok (t, rest)) (more : List Char) :
    scan c (cs ++ w :: more) = .ok (t, rest ++ w :: more) := by
  unfold scan at scanned ⊢
  rw [startsNumber_append blank, symbol?_append blank, ← List.cons_append,
    scanName_append blank]
  by_cases brace : c = '{'
  · rw [if_pos brace] at scanned ⊢
    exact scanReference_append blank scanned more
  rw [if_neg brace] at scanned ⊢
  by_cases quote : c = '"'
  · rw [if_pos quote] at scanned ⊢
    exact scanText_append scanned _
  rw [if_neg quote] at scanned ⊢
  by_cases number : startsNumber c cs = true
  · rw [if_pos number] at scanned ⊢
    exact scanNumber_append blank scanned more
  rw [if_neg number] at scanned ⊢
  cases found : symbol? c cs with
  | some symbol =>
    rw [found] at scanned
    cases scanned
    rfl
  | none =>
    rw [found] at scanned
    dsimp only [Option.map_none] at scanned ⊢
    split at scanned
    · rename_i name
      rw [if_pos name, Except.ok.inj scanned]
    · cases scanned

theorem tokensOf_append {ts : List Token} (read : tokensOf cs = .ok ts) (more : List Char) :
    tokensOf (cs ++ w :: more) = (tokensOf more).map (ts ++ ·) := by
  -- By the length, as a token passes several characters at once.
  induction length : cs.length using Nat.strongRecOn generalizing cs ts with
  | ind n ih =>
    subst length
    cases cs with
    | nil =>
      rw [tokensOf_nil] at read
      cases read
      rw [List.nil_append, tokensOf_blank blank]
      cases tokensOf more <;> rfl
    | cons c cs =>
      cases first : isBlank c with
      | true =>
        rw [tokensOf_blank first] at read
        rw [List.cons_append, tokensOf_blank first]
        exact ih _ (Nat.lt_succ_self _) read rfl
      | false =>
        cases scanned : scan c cs with
        | error e =>
          rw [tokensOf_eq, trimStart, List.dropWhile_cons_of_neg (by simp [first])] at read
          simp only [scanned] at read
          cases read
        | ok token =>
          obtain ⟨t, rest⟩ := token
          rw [tokensOf_scan first scanned] at read
          obtain ⟨us, others, rfl⟩ := map_eq_ok.mp read
          have shorter : rest.length < (c :: cs).length := Nat.lt_succ_of_le (scan_length scanned)
          rw [List.cons_append, tokensOf_scan first (scan_append blank scanned more),
            ih _ shorter others rfl]
          cases tokensOf more <;> rfl

end

end ComputedColumns.Lexer

namespace ComputedColumns

/-- Behind a text that has tokens and a blank, another text has the tokens it has by itself, or the
error it has by itself. -/
theorem tokenize_separated {a : String} {ts : List Token} {w : Char}
    (read : tokenize a = .ok ts) (blank : Text.isBlank w = true) (b : String) :
    tokenize (a ++ String.singleton w ++ b) = (tokenize b).map (ts ++ ·) := by
  have split : (a ++ String.singleton w ++ b).toList = a.toList ++ w :: b.toList := by simp
  rw [tokenize, split]
  exact Lexer.tokensOf_append blank read b.toList

/-- A less sign and an equals sign on two sides of a no-break space, and a bracket behind them that is no
index. -/
theorem tokenize_separated_comparison :
    tokenize "{A}[1]<" = .ok [.reference ⟨"A", some 1⟩, .symbol .less] ∧
      Text.isBlank '\u00a0' = true ∧
      tokenize ("{A}[1]<" ++ String.singleton '\u00a0' ++ "={B} [1]") =
        (tokenize "={B} [1]").map ([.reference ⟨"A", some 1⟩, .symbol .less] ++ ·) := by
  have chars : "{A}[1]<".toList = ['{', 'A', '}', '[', '1', ']', '<'] := by decide +kernel
  have read : tokenize "{A}[1]<" = .ok [.reference ⟨"A", some 1⟩, .symbol .less] := by
    rw [tokenize, chars, Lexer.tokensOf_scan rfl rfl, Lexer.tokensOf_scan rfl rfl, Lexer.tokensOf_nil]
    rfl
  have blank : Text.isBlank '\u00a0' = true := by decide
  exact ⟨read, blank, tokenize_separated read blank "={B} [1]"⟩

end ComputedColumns
