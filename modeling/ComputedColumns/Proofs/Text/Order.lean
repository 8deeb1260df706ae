import ComputedColumns.Proofs.Text.Numeral
import ComputedColumns.Text.Order
import Mathlib.Data.List.Induction
import Mathlib.Data.Nat.Basic
import Mathlib.Order.Lattice

namespace ComputedColumns.Text

theorem compare_eq_then {α β : Type} [LinearOrder α] [LinearOrder β] {a b : α} {x y : β} {next : Ordering}
    (less : a < b → x < y) (more : b < a → y < x) (tie : a = b → compare x y = next) :
    compare x y = (compare a b).then next := by
  rcases lt_trichotomy a b with before | same | behind
  · rw [compare_lt_iff_lt.mpr before, compare_lt_iff_lt.mpr (less before)]
    rfl
  · rw [compare_eq_iff_eq.mpr same, tie same]
    rfl
  · rw [compare_gt_iff_gt.mpr behind, compare_gt_iff_gt.mpr (more behind)]
    rfl

theorem compare_eq_compare {α β : Type} [LinearOrder α] [LinearOrder β] {a b : α} {x y : β}
    (less : a < b → x < y) (more : b < a → y < x) (same : a = b → x = y) : compare x y = compare a b := by
  have decided : compare x y = (compare a b).then .eq :=
    compare_eq_then less more fun equal => compare_eq_iff_eq.mpr (same equal)
  rw [decided, Ordering.then_eq]

theorem compareChars_append {as bs : List Char} (even : as.length = bs.length) (cs ds : List Char) :
    compareChars (as ++ cs) (bs ++ ds) = (compareChars as bs).then (compareChars cs ds) := by
  induction as generalizing bs with
  | nil =>
    obtain rfl := List.length_eq_zero_iff.mp even.symm
    rfl
  | cons a as ih =>
    obtain ⟨b, bs, rfl⟩ := List.exists_cons_of_length_eq_add_one even.symm
    have rest := ih (Nat.succ_inj.mp even)
    rw [List.cons_append, List.cons_append, compareChars, compareChars, rest, Ordering.then_assoc]

theorem compareChars_self (cs : List Char) : compareChars cs cs = .eq := by
  induction cs with
  | nil => rfl
  | cons c cs ih => rw [compareChars, ih, Nat.compare_eq_eq.mpr rfl, Ordering.then_self]

theorem compareChars_cons_self (c : Char) (cs ds : List Char) :
    compareChars (c :: cs) (c :: ds) = compareChars cs ds := by
  rw [compareChars, Nat.compare_eq_eq.mpr rfl, Ordering.eq_then]

theorem compareChars_eq_iff {cs ds : List Char} : compareChars cs ds = .eq ↔ cs = ds := by
  constructor
  · intro tie
    induction cs generalizing ds with
    | nil =>
      cases ds with
      | nil => rfl
      | cons d ds => cases tie
    | cons c cs ih =>
      cases ds with
      | nil => cases tie
      | cons d ds =>
        obtain ⟨first, rest⟩ := Ordering.then_eq_eq.mp tie
        rw [ih rest, Char.toNat_inj.mp (Nat.compare_eq_eq.mp first)]
  · rintro rfl
    exact compareChars_self cs

theorem toNat_of_digit {c : Char} (digit : isDigit c = true) :
    c.toNat = 48 + digitValue c ∧ digitValue c < 10 := by
  have bounds : '0' ≤ c ∧ c ≤ '9' := by simpa [isDigit] using digit
  have low : 48 ≤ c.toNat := bounds.1
  have high : c.toNat ≤ 57 := bounds.2
  rw [digitValue]
  omega

theorem compareChars_digit {c d : Char} (cDigit : isDigit c = true) (dDigit : isDigit d = true) :
    compareChars [c] [d] = compare (digitValue c) (digitValue d) := by
  have cValue := toNat_of_digit cDigit
  have dValue := toNat_of_digit dDigit
  rw [compareChars, compareChars, Ordering.then_eq]
  apply compare_eq_compare
  · omega
  · omega
  · omega

theorem compareChars_digits {ds es : List Char} (dsDigits : ∀ d ∈ ds, isDigit d = true)
    (esDigits : ∀ e ∈ es, isDigit e = true) (even : ds.length = es.length) :
    compareChars ds es = compare (ofDigits ds) (ofDigits es) := by
  -- From the end: the last digit decides only when those in front of it are the same.
  induction ds using List.reverseRecOn generalizing es with
  | nil =>
    obtain rfl := List.length_eq_zero_iff.mp even.symm
    rfl
  | append_singleton ds d ih =>
    obtain ⟨es, e, rfl⟩ : ∃ front e, es = front ++ [e] := by
      rcases List.eq_nil_or_concat es with rfl | split
      · simp at even
      · simpa using split
    have evenFront : ds.length = es.length := by simpa using even
    rw [List.forall_mem_append, List.forall_mem_singleton] at dsDigits esDigits
    obtain ⟨dsDigits, dDigit⟩ := dsDigits
    obtain ⟨esDigits, eDigit⟩ := esDigits
    have dSmall := (toNat_of_digit dDigit).2
    have eSmall := (toNat_of_digit eDigit).2
    rw [compareChars_append evenFront, ih dsDigits esDigits evenFront, compareChars_digit dDigit eDigit,
      ofDigits_concat, ofDigits_concat]
    symm
    apply compare_eq_then
    · intro less
      omega
    · intro more
      omega
    · intro tie
      apply compare_eq_compare
      · omega
      · omega
      · omega

theorem compareChars_padded {width m n : Nat} (positive : 0 < width) (mFits : m < 10 ^ width)
    (nFits : n < 10 ^ width) (cs ds : List Char) :
    compareChars (padded width m ++ cs) (padded width n ++ ds) =
      (compare m n).then (compareChars cs ds) := by
  have even : (padded width m).length = (padded width n).length := by
    rw [length_padded positive mFits, length_padded positive nFits]
  rw [compareChars_append even, compareChars_digits (fun _ member => isDigit_of_mem_padded member)
    (fun _ member => isDigit_of_mem_padded member) even, ofDigits_padded, ofDigits_padded]

end ComputedColumns.Text
