import ComputedColumns.Text.Blank
import ComputedColumns.Text.Numeral
import Mathlib.Algebra.Group.Nat.Defs

namespace ComputedColumns.Text

theorem isDigit_digitChar {n : Nat} (small : n < 10) : isDigit (digitChar n) = true := by
  have all : ∀ n, n < 10 → isDigit (digitChar n) = true := by decide
  exact all n small

theorem digitValue_digitChar {n : Nat} (small : n < 10) : digitValue (digitChar n) = n := by
  have all : ∀ n, n < 10 → digitValue (digitChar n) = n := by decide
  exact all n small

theorem digitsOnto_eq (n : Nat) (known : List Char) : digitsOnto n known = digits n ++ known := by
  induction n using Nat.strongRecOn generalizing known with
  | ind n ih =>
    rw [digits, digitsOnto.eq_1 n known, digitsOnto.eq_1 n []]
    by_cases small : n < 10
    · rw [if_pos small, if_pos small, List.singleton_append]
    · have smaller : n / 10 < n := by omega
      rw [if_neg small, if_neg small, ih _ smaller, ih _ smaller [_], List.append_assoc,
        List.singleton_append]

theorem digits_of_lt {n : Nat} (small : n < 10) : digits n = [digitChar n] := by
  rw [digits, digitsOnto, if_pos small]

theorem digits_of_le {n : Nat} (large : 10 ≤ n) :
    digits n = digits (n / 10) ++ [digitChar (n % 10)] := by
  have bound : ¬ n < 10 := by omega
  rw [digits, digitsOnto, if_neg bound, digitsOnto_eq]

theorem digits_ne_nil (n : Nat) : digits n ≠ [] := by
  rcases Nat.lt_or_ge n 10 with small | large
  · simp [digits_of_lt small]
  · simp [digits_of_le large]

theorem isDigit_of_mem_digits {n : Nat} {c : Char} (member : c ∈ digits n) : isDigit c = true := by
  induction n using Nat.strongRecOn with
  | ind n ih =>
    rcases Nat.lt_or_ge n 10 with small | large
    · rw [digits_of_lt small, List.mem_singleton] at member
      rw [member]
      exact isDigit_digitChar small
    · rw [digits_of_le large] at member
      rcases List.mem_append.mp member with member | member
      · exact ih (n / 10) (by omega) member
      · rw [List.mem_singleton.mp member]
        exact isDigit_digitChar (by omega)

theorem ofDigits_concat (ds : List Char) (d : Char) :
    ofDigits (ds ++ [d]) = 10 * ofDigits ds + digitValue d := by
  simp only [ofDigits, ofDigitsFrom, List.foldl_append, List.foldl_cons, List.foldl_nil]

theorem ofDigits_append (ds es : List Char) :
    ofDigits (ds ++ es) = ofDigitsFrom (ofDigits ds) es :=
  List.foldl_append

theorem le_ofDigitsFrom (n : Nat) (ds : List Char) : n ≤ ofDigitsFrom n ds := by
  induction ds generalizing n with
  | nil => exact Nat.le_refl n
  | cons d ds ih =>
    have next : 10 * n + digitValue d ≤ ofDigitsFrom n (d :: ds) := ih _
    omega

theorem ofDigits_digits (n : Nat) : ofDigits (digits n) = n := by
  induction n using Nat.strongRecOn with
  | ind n ih =>
    rcases Nat.lt_or_ge n 10 with small | large
    · rw [digits_of_lt small]
      simp only [ofDigits, ofDigitsFrom, List.foldl_cons, List.foldl_nil,
        digitValue_digitChar small]
      omega
    · have last : n % 10 < 10 := by omega
      rw [digits_of_le large, ofDigits_concat, ih (n / 10) (by omega), digitValue_digitChar last]
      omega

theorem digits_injective {m n : Nat} (same : digits m = digits n) : m = n := by
  rw [← ofDigits_digits m, same, ofDigits_digits]

theorem length_digits_le {n places : Nat} (positive : 0 < places) (bound : n < 10 ^ places) :
    (digits n).length ≤ places := by
  induction places generalizing n with
  | zero => omega
  | succ places ih =>
    rcases Nat.lt_or_ge n 10 with small | large
    · simp [digits_of_lt small]
    · have more : 0 < places := by
        rcases Nat.eq_zero_or_pos places with rfl | more
        · omega
        · exact more
      have shorter : n / 10 < 10 ^ places := by
        rw [Nat.pow_succ] at bound
        omega
      rw [digits_of_le large, List.length_append, List.length_singleton]
      have rest := ih more shorter
      omega

theorem length_digits_of_le {n : Nat} (large : 10 ≤ n) :
    (digits n).length = (digits (n / 10)).length + 1 := by
  rw [digits_of_le large, List.length_append, List.length_singleton]

theorem lt_pow_length_digits (n : Nat) : n < 10 ^ (digits n).length := by
  induction n using Nat.strongRecOn with
  | ind n ih =>
    rcases Nat.lt_or_ge n 10 with small | large
    · rwa [digits_of_lt small]
    · have rest := ih (n / 10) (by omega)
      rw [length_digits_of_le large, Nat.pow_succ]
      omega

theorem pow_length_digits_le {n : Nat} (positive : 0 < n) : 10 ^ ((digits n).length - 1) ≤ n := by
  induction n using Nat.strongRecOn with
  | ind n ih =>
    rcases Nat.lt_or_ge n 10 with small | large
    · rwa [digits_of_lt small]
    · have rest := ih (n / 10) (by omega) (by omega)
      obtain ⟨places, length⟩ : ∃ places, (digits (n / 10)).length = places + 1 :=
        Nat.exists_eq_add_one.mpr (List.length_pos_iff.mpr (digits_ne_nil _))
      rw [length, Nat.add_sub_cancel] at rest
      rw [length_digits_of_le large, length, Nat.add_sub_cancel, Nat.pow_succ]
      omega

theorem ofDigits_append_zeros (ds : List Char) (count : Nat) :
    ofDigits (ds ++ List.replicate count '0') = ofDigits ds * 10 ^ count := by
  induction count with
  | zero => rw [List.replicate_zero, List.append_nil, Nat.pow_zero, Nat.mul_one]
  | succ count ih =>
    have zero : digitValue '0' = 0 := rfl
    rw [List.replicate_succ', ← List.append_assoc, ofDigits_concat, ih, zero, Nat.pow_succ,
      Nat.add_zero, Nat.mul_comm, Nat.mul_assoc]

theorem ofDigits_zeros (count : Nat) (ds : List Char) :
    ofDigits (List.replicate count '0' ++ ds) = ofDigits ds := by
  induction count with
  | zero => rfl
  | succ count ih =>
    rw [← ih]
    rfl

theorem isDigit_of_mem_padded {width n : Nat} {c : Char} (member : c ∈ padded width n) :
    isDigit c = true := by
  rcases List.mem_append.mp member with zero | digit
  · rw [(List.mem_replicate.mp zero).2]
    rfl
  · exact isDigit_of_mem_digits digit

theorem ofDigits_padded (width n : Nat) : ofDigits (padded width n) = n := by
  rw [padded, ofDigits_zeros, ofDigits_digits]

theorem padded_ne_nil (width n : Nat) : padded width n ≠ [] := by
  intro empty
  exact digits_ne_nil n (List.append_eq_nil_iff.mp empty).2

theorem length_padded {width n : Nat} (positive : 0 < width) (bound : n < 10 ^ width) :
    (padded width n).length = width := by
  have short := length_digits_le positive bound
  simp only [padded, List.length_append, List.length_replicate]
  omega

theorem takeWhile_run {p : Char → Bool} {run rest : List Char} (all : ∀ c ∈ run, p c = true)
    (ends : ∀ c cs, rest = c :: cs → p c = false) :
    (run ++ rest).takeWhile p = run ∧ (run ++ rest).dropWhile p = rest := by
  rw [List.takeWhile_append_of_pos all, List.dropWhile_append_of_pos all]
  cases rest with
  | nil => exact ⟨List.append_nil run, rfl⟩
  | cons c cs =>
    have stops : ¬ p c = true := by
      rw [ends c cs rfl]
      exact Bool.false_ne_true
    rw [List.takeWhile_cons_of_neg stops, List.dropWhile_cons_of_neg stops, List.append_nil]
    exact ⟨rfl, rfl⟩

theorem takeWhile_all {p : Char → Bool} {run : List Char} (all : ∀ c ∈ run, p c = true) :
    run.takeWhile p = run ∧ run.dropWhile p = [] := by
  have nothing : ∀ c cs, ([] : List Char) = c :: cs → p c = false := nofun
  have whole := takeWhile_run all nothing
  rwa [List.append_nil] at whole

theorem takeWhile_point {ds : List Char} (all : ∀ d ∈ ds, isDigit d = true) (es : List Char) :
    (ds ++ '.' :: es).takeWhile isDigit = ds ∧ (ds ++ '.' :: es).dropWhile isDigit = '.' :: es := by
  apply takeWhile_run all
  intro c cs same
  rw [← (List.cons.inj same).1]
  rfl

theorem natural?_of_digits {ds : List Char} (present : ds ≠ []) (all : ∀ d ∈ ds, isDigit d = true) :
    natural? ds = some (ofDigits ds) := by
  have full : (!ds.isEmpty && ds.all isDigit) = true := by
    rw [Bool.and_eq_true, List.all_eq_true]
    exact ⟨by simpa using present, all⟩
  rw [natural?, if_pos full]

theorem natural?_digits (n : Nat) : natural? (digits n) = some n := by
  rw [natural?_of_digits (digits_ne_nil n) (fun _ member => isDigit_of_mem_digits member),
    ofDigits_digits]

theorem isBlank_of_digit {c : Char} (digit : isDigit c = true) : isBlank c = false := by
  have bounds : '0' ≤ c ∧ c ≤ '9' := by simpa [isDigit] using digit
  have low : 48 ≤ c.toNat := bounds.1
  have high : c.toNat ≤ 57 := bounds.2
  simp only [isBlank, Bool.or_eq_false_iff, Bool.and_eq_false_iff, decide_eq_false_iff_not,
    beq_eq_false_iff_ne]
  omega

theorem trimStart_of_digits {ds : List Char} (present : ds ≠ [])
    (all : ∀ d ∈ ds, isDigit d = true) (rest : List Char) : trimStart (ds ++ rest) = ds ++ rest := by
  obtain ⟨d, ds, rfl⟩ := List.exists_cons_of_ne_nil present
  have visible : ¬ isBlank d = true := by
    rw [isBlank_of_digit (all d List.mem_cons_self)]
    exact Bool.false_ne_true
  rw [trimStart, List.cons_append, List.dropWhile_cons_of_neg visible]

theorem splitSign_of_digit {c : Char} (digit : isDigit c = true) (cs : List Char) :
    splitSign (c :: cs) = (false, c :: cs) := by
  unfold splitSign
  split
  · rename_i sign
    cases sign
    cases digit
  · rename_i sign
    cases sign
    cases digit
  · rfl

theorem splitSign_of_digits {ds : List Char} (present : ds ≠ []) (all : ∀ d ∈ ds, isDigit d = true)
    (rest : List Char) : splitSign (ds ++ rest) = (false, ds ++ rest) := by
  obtain ⟨d, ds, rfl⟩ := List.exists_cons_of_ne_nil present
  exact splitSign_of_digit (all d List.mem_cons_self) _

theorem integer?_intDigits (n : Int) : integer? (intDigits n) = some n := by
  unfold integer? intDigits
  by_cases negative : n < 0
  · simp only [if_pos negative, splitSign, natural?_digits, Option.map_some, applySign, if_true,
      Option.some.injEq]
    omega
  · have bare := splitSign_of_digits (digits_ne_nil n.natAbs)
      (fun _ member => isDigit_of_mem_digits member) []
    rw [List.append_nil] at bare
    simp only [if_neg negative, bare, natural?_digits, Option.map_some, applySign, Option.some.injEq,
      Bool.false_eq_true, if_false]
    omega

theorem int64?_toInt (n : Int64) : int64? n.toInt = some n := by
  have range := And.intro (Int64.minValue_le_toInt n) (Int64.toInt_le n)
  rw [int64?, if_pos range, Int64.ofInt_toInt]

theorem int64?_eq_some_iff {k : Int} {n : Int64} : int64? k = some n ↔ n.toInt = k := by
  constructor
  · intro found
    have low : Int64.minValue.toInt = -2 ^ 63 := rfl
    have high : Int64.maxValue.toInt = 2 ^ 63 - 1 := rfl
    unfold int64? at found
    split at found
    · cases found
      exact Int64.toInt_ofInt_of_le (by omega) (by omega)
    · cases found
  · rintro rfl
    exact int64?_toInt n

theorem readInt64_intDigits (n : Int64) : readInt64 (intDigits n.toInt) = some n := by
  rw [readInt64, integer?_intDigits, Option.bind_some, int64?_toInt]

theorem nonneg_of_integer? {cs : List Char} {k : Int} (unsigned : '-' ∉ cs)
    (read : integer? cs = some k) : 0 ≤ k := by
  have positive : (splitSign cs).1 = false := by
    unfold splitSign
    split
    · exact absurd List.mem_cons_self unsigned
    · rfl
    · rfl
  unfold integer? at read
  obtain ⟨n, -, signed⟩ := Option.map_eq_some_iff.mp read
  have signed : applySign (splitSign cs).1 n = k := signed
  rw [positive] at signed
  exact signed ▸ Int.natCast_nonneg n

theorem readIndex_lt {cs : List Char} {i : Nat} (read : readIndex cs = some i) : i < indexBound := by
  obtain ⟨n, -, bounded⟩ := Option.bind_eq_some_iff.mp read
  split at bounded
  · rename_i small
    cases bounded
    exact small
  · cases bounded

end ComputedColumns.Text
