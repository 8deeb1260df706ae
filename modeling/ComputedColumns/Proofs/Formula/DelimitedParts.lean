import ComputedColumns.Formula.Call
import ComputedColumns.Proofs.Text.Occurrence

namespace ComputedColumns

open Text

/-- Parts of `t` between occurrences of `d`, with what the functions make of them. -/
structure DelimitedParts (t d : String) (parts : List (List Char)) : Prop where
  present : parts ≠ []
  apart : ∀ part ∈ parts, ¬ d.toList <:+: part
  joined : d.toList.intercalate parts = t.toList
  split : ∀ (i : Int64) (j : Nat) (inside : j < parts.length),
    i.toInt = j ∨ i.toInt = (j : Int) - parts.length →
      Function.split.call [.text t, .text d, .number (.int i)] = .ok (.ofChars parts[j])
  split_outside : ∀ i : Int64, i.toInt < -(parts.length : Int) ∨ (parts.length : Int) ≤ i.toInt →
    Function.split.call [.text t, .text d, .number (.int i)] = .ok .nil
  replace : ∀ n : String,
    Function.replace.call [.text t, .text d, .text n] = .ok (.ofChars (n.toList.intercalate parts))
  replace_negative : ∀ (n : String) (c : Int64), c.toInt < 0 →
    Function.replace.call [.text t, .text d, .text n, .number (.int c)] =
      .ok (.ofChars (n.toList.intercalate parts))
  /-- The new text stands in the first gaps, and the delimiter in the others. -/
  replace_counted : ∀ (n : String) (c : Int64), 0 ≤ c.toInt →
    Function.replace.call [.text t, .text d, .text n, .number (.int c)] =
      .ok (.ofChars (n.toList.intercalate
        (parts.take (min c.toInt.toNat (parts.length - 1)) ++
          [d.toList.intercalate (parts.drop (min c.toInt.toNat (parts.length - 1)))])))
  contains : Function.contains.call [.text t, .text d] = .ok (.boolean (2 ≤ parts.length))

namespace Function

theorem nthPiece_of_position {parts : List (List Char)} {i : Int} {j : Nat} (inside : j < parts.length)
    (position : i = j ∨ i = (j : Int) - parts.length) : nthPiece parts i = .ofChars parts[j] := by
  have counted : (if i < 0 then i + parts.length else i) = j := by
    rcases position with rfl | rfl
    · rw [if_neg (by omega)]
    · rw [if_pos (by omega)]
      omega
  have found : parts[(j : Int).toNat]? = some parts[j] := by simp [inside]
  unfold nthPiece
  dsimp only
  rw [counted, if_neg (by omega), found]

theorem nthPiece_of_outside {parts : List (List Char)} {i : Int}
    (outside : i < -(parts.length : Int) ∨ (parts.length : Int) ≤ i) : nthPiece parts i = .nil := by
  unfold nthPiece
  dsimp only
  rcases outside with before | behind
  · rw [if_pos (by omega)]
  · have none : parts[i.toNat]? = none := List.getElem?_eq_none (by omega)
    rw [if_neg (by omega), if_neg (by omega), none]

variable {d : String} (present : d ≠ "")

include present in
theorem split_pieces (t : String) (i : Int64) :
    Function.split.call [.text t, .text d, .number (.int i)] =
      .ok (nthPiece (pieces d.toList t.toList) i.toInt) := by
  have filled : ¬ d.toList.isEmpty = true := by simpa using present
  have cut : splitText t.toList d.toList = pieces d.toList t.toList := by
    rw [splitText, if_neg filled]
  rw [← cut]
  rfl

theorem replace_counted (t d n : String) (c : Int64) :
    Function.replace.call [.text t, .text d, .text n, .number (.int c)] =
      .ok (.ofChars (replaceText t.toList d.toList n.toList (some c))) := rfl

include present in
theorem contains_pieces (t : String) :
    Function.contains.call [.text t, .text d] =
      .ok (.boolean (2 ≤ (pieces d.toList t.toList).length)) := by
  have filled : d.toList ≠ [] := by simpa using present
  have found : Text.contains d.toList t.toList =
      decide (2 ≤ (pieces d.toList t.toList).length) := by
    rw [Bool.eq_iff_iff, decide_eq_true_iff, contains_iff, two_le_length_pieces_iff filled]
  rw [← found]
  rfl

end Function

theorem delimitedParts_pieces {d : String} (present : d ≠ "") (t : String) :
    DelimitedParts t d (pieces d.toList t.toList) := by
  have filled : d.toList ≠ [] := by simpa using present
  have parts := pieces_ne_nil filled t.toList
  exact
    { present := parts
      apart := fun _ => not_infix_of_mem_pieces filled
      joined := intercalate_pieces filled t.toList
      split := by
        intro i j inside position
        rw [Function.split_pieces present, Function.nthPiece_of_position inside position]
      split_outside := by
        intro i outside
        rw [Function.split_pieces present, Function.nthPiece_of_outside outside]
      replace := fun _ => rfl
      replace_negative := by
        intro n c negative
        rw [Function.replace_counted, Function.replaceText, if_neg (Int.not_le.mpr negative),
          replaceAll]
      replace_counted := by
        intro n c counted
        rw [Function.replace_counted, Function.replaceText, if_pos counted, replaceFirst,
          joinFirst_eq parts]
      contains := Function.contains_pieces present t }

example : pieces "aba".toList "abababa".toList = [[], ['b'], []] := by decide

/-- Every text has parts between the occurrences of a delimiter that all three functions go by. -/
theorem exists_delimitedParts {d : String} (present : d ≠ "") (t : String) :
    ∃ parts, DelimitedParts t d parts :=
  ⟨_, delimitedParts_pieces present t⟩

/-- A delimiter whose occurrences overlap. -/
theorem exists_delimitedParts_overlapping :
    "aba" ≠ "" ∧ ∃ parts, DelimitedParts "abababa" "aba" parts := by
  have present : "aba" ≠ "" := by decide
  exact ⟨present, exists_delimitedParts present "abababa"⟩

end ComputedColumns
