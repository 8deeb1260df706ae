import ComputedColumns.Proofs.Formula.Separation
import ComputedColumns.Proofs.Formula.Template
import Mathlib.Data.List.TakeWhile

namespace ComputedColumns

open Text Lexer

structure FunctionName (name : String) : Prop where
  start : ∃ c cs, name.toList = c :: cs ∧ startsName c = true
  word : ∀ c ∈ name.toList, inName c = true
  upper : ∀ c ∈ name.toList, c.toUpper = c
  noBoolean : nameToken name = .function name

/-- What scanning guarantees of the content of a token. -/
inductive Token.Scanned : Token → Prop
  | int {n : Int64} (unsigned : 0 ≤ n.toInt) : Scanned (.number (.int n))
  | float (x : Binary64) : Scanned (.number (.float x))
  | text {s : String} (unquoted : '"' ∉ s.toList) : Scanned (.text s)
  | boolean (b : Bool) : Scanned (.boolean b)
  | reference {r : Reference} (closed : '}' ∉ r.name.toList)
      (small : ∀ i, r.index = some i → i < indexBound) : Scanned (.reference r)
  | function {name : String} (named : FunctionName name) : Scanned (.function name)
  | symbol (s : Symbol) : Scanned (.symbol s)

namespace Lexer

theorem notMem_takeWhile (stop : Char) (cs : List Char) : stop ∉ cs.takeWhile (· ≠ stop) := by
  intro member
  have other := List.mem_takeWhile_imp member
  simp at other

theorem startsName_inName {c : Char} (start : startsName c = true) : inName c = true := by
  simp only [startsName, Bool.or_eq_true] at start
  simp only [inName, Char.isAlphanum, Bool.or_eq_true]
  exact start.imp Or.inl id

@[elab_as_elim]
theorem forall_inName {motive : Char → Prop} {c : Char} (inside : inName c = true)
    (ascii : ∀ n < 123, motive (Char.ofNat n)) : motive c := by
  have holds := ascii c.toNat (Nat.lt_succ_of_le (inName_bounds inside).2)
  rwa [Char.ofNat_toNat] at holds

theorem toUpper_inName {c : Char} (inside : inName c = true) :
    inName c.toUpper = inName c ∧ c.toUpper.toUpper = c.toUpper ∧
      startsName c.toUpper = startsName c := by
  refine forall_inName inside ?_
  decide +kernel

theorem scanned_of_readNumber {cs : List Char} {n : Number} (digits : ∀ c ∈ cs, inNumber c = true)
    (read : readNumber cs = some n) : (Token.number n).Scanned := by
  cases n with
  | float x => exact .float x
  | int n =>
    have unsigned : '-' ∉ cs := fun member => absurd (digits '-' member) (by decide)
    have found : readInt64 cs = some n := by
      unfold readNumber at read
      split at read
      · obtain ⟨x, -, same⟩ := Option.map_eq_some_iff.mp read
        cases same
      · split at read
        · rename_i m found
          cases read
          exact found
        · obtain ⟨x, -, same⟩ := Option.map_eq_some_iff.mp read
          cases same
    obtain ⟨k, whole, fits⟩ := Option.bind_eq_some_iff.mp found
    rw [← int64?_eq_some_iff.mp fits] at whole
    exact .int (nonneg_of_integer? unsigned whole)

variable {c : Char} {cs rest : List Char} {t : Token}

theorem scanned_of_scanIndex {name : List Char} (closed : '}' ∉ name)
    (scanned : scanIndex name cs = .ok (t, rest)) : t.Scanned := by
  have bare : (Token.reference ⟨String.ofList name, none⟩).Scanned :=
    .reference (by rwa [String.toList_ofList]) nofun
  unfold scanIndex at scanned
  split at scanned
  · split at scanned
    · dsimp only at scanned
      split at scanned
      · split at scanned
        · rename_i i read
          cases scanned
          refine .reference (by rwa [String.toList_ofList]) ?_
          rintro j ⟨⟩
          exact readIndex_lt read
        · cases scanned
      · cases scanned
    · cases scanned
      exact bare
  · cases scanned
    exact bare

theorem scanned_of_scanName (start : startsName c = true) : (scanName (c :: cs)).1.Scanned := by
  have first := startsName_inName start
  have word : ∀ d ∈ c :: cs.takeWhile inName, inName d = true := by
    intro d member
    rcases List.mem_cons.mp member with rfl | member
    · exact first
    · exact List.mem_takeWhile_imp member
  rw [scanName, List.takeWhile_cons_of_pos first, nameToken]
  split
  · exact .boolean true
  split
  · exact .boolean false
  rename_i noTrue noFalse
  refine .function ⟨⟨c.toUpper, (cs.takeWhile inName).map Char.toUpper, ?_, ?_⟩, ?_, ?_, ?_⟩
  · rw [String.toList_ofList, List.map_cons]
  · rw [(toUpper_inName first).2.2, start]
  · simpa only [String.toList_ofList, List.forall_mem_map] using
      fun d member => (toUpper_inName (word d member)).1.trans (word d member)
  · simpa only [String.toList_ofList, List.forall_mem_map] using
      fun d member => (toUpper_inName (word d member)).2.1
  · rw [nameToken, if_neg noTrue, if_neg noFalse]

theorem scanned_of_scan (scanned : scan c cs = .ok (t, rest)) : t.Scanned := by
  unfold scan at scanned
  split at scanned
  · unfold scanReference at scanned
    split at scanned
    · cases scanned
    · exact scanned_of_scanIndex (notMem_takeWhile '}' cs) scanned
  split at scanned
  · unfold scanText at scanned
    split at scanned
    · cases scanned
    · cases scanned
      refine .text ?_
      rw [String.toList_ofList]
      exact notMem_takeWhile '"' cs
  split at scanned
  · unfold scanNumber at scanned
    split at scanned
    · rename_i n read
      cases scanned
      exact scanned_of_readNumber (fun _ => List.mem_takeWhile_imp) read
    · cases scanned
  split at scanned
  · cases scanned
    exact .symbol _
  · split at scanned
    · rename_i start
      have found := (Prod.mk.inj (Except.ok.inj scanned)).1
      rw [← found]
      exact scanned_of_scanName start
    · cases scanned

theorem scanned_of_tokensOf {ts : List Token} (read : tokensOf cs = .ok ts) :
    ∀ t ∈ ts, t.Scanned := by
  induction length : cs.length using Nat.strongRecOn generalizing cs ts with
  | ind n ih =>
    subst length
    have shorter := length_dropWhile_le isBlank cs
    rw [tokensOf_eq] at read
    split at read
    · cases read
      simp
    · rename_i c rest skipped
      rw [show cs.dropWhile isBlank = _ from skipped] at shorter
      split at read
      · cases read
      · rename_i t left scanned
        obtain ⟨us, others, rfl⟩ := map_eq_ok.mp read
        have bound := scan_length scanned
        rw [List.length_cons] at shorter
        intro u member
        rcases List.mem_cons.mp member with rfl | member
        · exact scanned_of_scan scanned
        · exact ih left.length (by omega) others rfl u member

theorem tokensOf_whole (visible : isBlank c = false) (scanned : scan c cs = .ok (t, [])) :
    tokensOf (c :: cs) = .ok [t] := by
  rw [tokensOf_scan visible scanned, tokensOf_nil]
  rfl

theorem readNumber_digits {n : Nat} {k : Int64} (value : k.toInt = n) :
    readNumber (digits n) = some (.int k) := by
  have noPoint : ¬ (digits n).contains '.' = true := by
    rw [List.contains_iff_mem]
    exact fun point => absurd (isDigit_of_mem_digits point) (by decide)
  have bare : intDigits (n : Int) = digits n := if_neg (Int.not_lt.mpr (Int.natCast_nonneg n))
  have read : readInt64 (digits n) = some k := by
    rw [← bare, ← value, readInt64_intDigits]
  rw [readNumber, if_neg noPoint, read]

theorem tokensOf_digits {n : Nat} {x : Number} (read : readNumber (digits n) = some x) :
    tokensOf (digits n) = .ok [.number x] := by
  have inside : ∀ d ∈ digits n, inNumber d = true := by
    intro d member
    rw [inNumber, isDigit_of_mem_digits member, Bool.true_or]
  have run := takeWhile_all inside
  obtain ⟨d, ds, split⟩ := List.exists_cons_of_ne_nil (digits_ne_nil n)
  have first : isDigit d = true := isDigit_of_mem_digits (split ▸ List.mem_cons_self)
  rw [split] at read run ⊢
  have scanned : scan d ds = .ok (.number x, []) := by
    have brace : d ≠ '{' := by
      rintro rfl
      cases first
    have quote : d ≠ '"' := by
      rintro rfl
      cases first
    have number : startsNumber d ds = true := by simp [startsNumber, first]
    rw [scan, if_neg brace, if_neg quote, if_pos number, scanNumber, run.1, run.2, read]
  exact tokensOf_whole (isBlank_of_digit first) scanned

theorem tokensOf_int {n : Int64} (unsigned : 0 ≤ n.toInt) :
    tokensOf (Token.number (.int n)).source.toList = .ok [.number (.int n)] := by
  obtain ⟨m, whole⟩ := Int.eq_ofNat_of_zero_le unsigned
  have bare : (Token.number (.int n)).source.toList = digits m := by
    rw [Token.source, String.toList_ofList, whole]
    exact if_neg (by omega)
  rw [bare]
  exact tokensOf_digits (readNumber_digits whole)

theorem tokensOf_text {s : String} (unquoted : '"' ∉ s.toList) :
    tokensOf (Token.text s).source.toList = .ok [.text s] := by
  have whole : (Token.text s).source.toList = '"' :: (s.toList ++ ['"']) := by
    simp [Token.source]
  have scanned := Template.scan_text unquoted []
  rw [String.ofList_toList] at scanned
  rw [whole]
  exact tokensOf_whole rfl scanned

theorem tokensOf_reference {r : Reference} (closed : '}' ∉ r.name.toList)
    (small : ∀ i, r.index = some i → i < indexBound) :
    tokensOf (Token.reference r).source.toList = .ok [.reference r] := by
  obtain ⟨name, index⟩ := r
  obtain ⟨written, same⟩ :
      ∃ w : Option Template.WrittenIndex, w.map Template.WrittenIndex.value = index ∧
        (Token.reference ⟨name, index⟩).source.toList =
          '{' :: (name.toList ++ '}' :: (Template.WrittenIndex.source w ++ [])) := by
    cases index with
    | none =>
      refine ⟨none, rfl, ?_⟩
      simp [Token.source, Reference.source, Template.WrittenIndex.source]
    | some i =>
      refine ⟨some (.ofNat i (small i rfl)), ?_, ?_⟩
      · exact congrArg some (ofDigits_digits i)
      · simp [Token.source, Reference.source, Reference.indexText, Template.WrittenIndex.source,
          Template.WrittenIndex.ofNat]
  obtain ⟨rfl, source⟩ := same
  have apart : written = none → ([] : List Char).head? ≠ some '[' := by simp
  have scanned := Template.scan_reference (r := ⟨name.toList, closed, written⟩) apart
  rw [Template.WrittenReference.meant, String.ofList_toList] at scanned
  rw [source]
  exact tokensOf_whole rfl scanned

theorem scan_startsName (start : startsName c = true) : scan c cs = .ok (scanName (c :: cs)) := by
  have noDigit : isDigit c = false := by
    have inside := startsName_inName start
    revert start
    refine forall_inName inside ?_
    decide +kernel
  have number : ¬ startsNumber c cs = true := by
    have noPoint : c ≠ '.' := by
      rintro rfl
      cases start
    simp [startsNumber, noDigit, noPoint]
  have noSymbol : symbol? c cs = none := by
    unfold symbol?
    split <;> first | rfl | cases start
  have brace : c ≠ '{' := by
    rintro rfl
    cases start
  have quote : c ≠ '"' := by
    rintro rfl
    cases start
  rw [scan, if_neg brace, if_neg quote, if_neg number, noSymbol]
  exact if_pos start

theorem tokensOf_function {name : String} (named : FunctionName name) :
    tokensOf (Token.function name).source.toList = .ok [.function name] := by
  obtain ⟨c, cs, split, start⟩ := named.start
  have run := takeWhile_all named.word
  have upper : name.toList.map Char.toUpper = name.toList := by
    rw [List.map_congr_left named.upper, List.map_id']
  have scanned : scan c cs = .ok (.function name, []) := by
    rw [scan_startsName start, ← split, scanName, run.1, run.2, upper, String.ofList_toList,
      named.noBoolean]
  rw [Token.source, split]
  exact tokensOf_whole (isBlank_of_inName (startsName_inName start)) scanned

theorem tokensOf_symbol (s : Symbol) : tokensOf s.source.toList = .ok [.symbol s] := by
  cases s <;> exact tokensOf_whole rfl rfl

theorem tokensOf_source (scanned : t.Scanned) (exact : ∀ x, t ≠ .number (.float x)) :
    tokensOf t.source.toList = .ok [t] := by
  cases scanned with
  | int unsigned => exact tokensOf_int unsigned
  | float x => exact absurd rfl (exact x)
  | text unquoted => exact tokensOf_text unquoted
  | boolean b => cases b <;> decide +kernel
  | reference closed small => exact tokensOf_reference closed small
  | function named => exact tokensOf_function named
  | symbol s => exact tokensOf_symbol s

theorem tokensOf_sources {ts : List Token} (alone : ∀ t ∈ ts, tokensOf t.source.toList = .ok [t]) :
    tokensOf ([' '].intercalate (ts.map (·.source.toList))) = .ok ts := by
  induction ts with
  | nil => exact tokensOf_nil
  | cons t ts ih =>
    obtain ⟨first, others⟩ := List.forall_mem_cons.mp alone
    cases ts with
    | nil => rwa [List.map_singleton, List.intercalate_singleton]
    | cons u ts =>
      have later := ih others
      have behind := tokensOf_append (w := ' ') rfl first
      rw [List.map_cons] at later
      rw [List.map_cons, List.map_cons, List.intercalate_cons_cons, List.append_assoc,
        List.singleton_append, behind, later]
      rfl

end Lexer

/-- The texts of the tokens of a formula, joined by spaces, have those tokens again. Floats are left out,
as the text of a whole one has no point. -/
theorem tokenize_sources {formula : String} {ts : List Token} (read : tokenize formula = .ok ts)
    (exact : ∀ x, .number (.float x) ∉ ts) :
    tokenize (" ".intercalate (ts.map Token.source)) = .ok ts := by
  rw [tokenize, String.toList_intercalate, List.map_map]
  apply tokensOf_sources
  intro t member
  apply tokensOf_source (scanned_of_tokensOf read t member)
  rintro x rfl
  exact exact x member

/-- Blanks of every kind, an index with zeros in front, and names in lower case. -/
theorem tokenize_sources_mixed :
    let formula := "=\tsum ( {A b}[007] ,-12, \"it's \")!=true & left"
    let ts : List Token :=
      [.symbol .equal, .function "SUM", .symbol .leftParen, .reference ⟨"A b", some 7⟩,
        .symbol .comma, .symbol .minus, .number (.int 12), .symbol .comma, .text "it's ",
        .symbol .rightParen, .symbol .notEqual, .boolean true, .symbol .ampersand, .function "LEFT"]
    tokenize formula = .ok ts ∧ (∀ x, .number (.float x) ∉ ts) ∧
      tokenize (" ".intercalate (ts.map Token.source)) = .ok ts := by
  intro formula ts
  have read : tokenize formula = .ok ts := by decide +kernel
  have exact : ∀ x, .number (.float x) ∉ ts := by simp [ts]
  exact ⟨read, exact, tokenize_sources read exact⟩

end ComputedColumns
