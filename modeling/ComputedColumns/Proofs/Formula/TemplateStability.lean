import ComputedColumns.Proofs.Formula.Template
import ComputedColumns.Proofs.Text.Spacing
import Mathlib.Data.List.TakeWhile

namespace ComputedColumns

open Text

namespace Template

/-- Somewhere a brace opens and is closed. -/
def HoldsReference (cs : List Char) : Prop :=
  ∃ front name back, cs = front ++ '{' :: (name ++ '}' :: back) ∧ '}' ∉ name

theorem holdsReference_iff {cs : List Char} :
    HoldsReference cs ↔ '}' ∈ cs.dropWhile (· ≠ '{') := by
  constructor
  · rintro ⟨front, name, back, rfl, -⟩
    rw [List.dropWhile_append]
    split
    · simp
    · simp
  · intro closes
    obtain ⟨c, rest, split⟩ := List.exists_cons_of_ne_nil (List.ne_nil_of_mem closes)
    obtain rfl : c = '{' := by
      have stops := List.head?_dropWhile_not (· ≠ '{') cs
      rw [split] at stops
      simpa using stops
    rw [split] at closes
    have behind : '}' ∈ rest := by simpa using closes
    obtain ⟨name, back, rfl, inside⟩ := List.eq_append_cons_of_mem behind
    refine ⟨cs.takeWhile (· ≠ '{'), name, back, ?_, inside⟩
    rw [← split, List.takeWhile_append_dropWhile]

instance (cs : List Char) : Decidable (HoldsReference cs) :=
  decidable_of_iff _ holdsReference_iff.symm

theorem takeReference_eq_none {cs : List Char} (unclosed : '}' ∉ cs) : takeReference cs = none := by
  have skipped : cs.dropWhile (· ≠ '}') = [] := by
    rw [List.dropWhile_eq_nil_iff]
    intro c member
    simpa using fun same : c = '}' => unclosed (same ▸ member)
  rw [takeReference, skipped]

theorem segments_unclosed {cs : List Char} (unclosed : '}' ∉ cs) :
    segments ('{' :: cs) = .literal '{' :: segments cs := by
  rw [segments, if_pos rfl]
  split
  · rename_i found
    rw [takeReference_eq_none unclosed] at found
    cases found
  · rfl

theorem segments_of_not_holdsReference {cs : List Char} (bare : ¬ HoldsReference cs) :
    segments cs = cs.map .literal := by
  induction cs with
  | nil => rw [segments, List.map_nil]
  | cons c cs ih =>
    have rest : ¬ HoldsReference cs := by
      rintro ⟨front, name, back, rfl, inside⟩
      exact bare ⟨c :: front, name, back, rfl, inside⟩
    rw [List.map_cons, ← ih rest]
    by_cases opens : c = '{'
    · subst opens
      apply segments_unclosed
      intro closes
      obtain ⟨name, back, rfl, inside⟩ := List.eq_append_cons_of_mem closes
      exact bare ⟨[], name, back, rfl, inside⟩
    · exact segments_literal opens cs

theorem substitute_of_not_holdsReference (env : Environment) {cs : List Char}
    (bare : ¬ HoldsReference cs) : substitute env cs = cs := by
  rw [substitute, segments_of_not_holdsReference bare, List.flatMap_map]
  exact List.flatMap_singleton' cs

/-- A template comes out with single spaces between its words and with the characters that are not blank as
substitution leaves them. It comes out unchanged once more, whatever the values are, if it holds no reference
then. -/
theorem evaluateTemplate_normal (template : String) (env : Environment) :
    SingleSpaced (evaluateTemplate template env).toList ∧
      (evaluateTemplate template env).toList.filter (!isBlank ·) =
        (substitute env template.toList).filter (!isBlank ·) ∧
      (¬ HoldsReference (evaluateTemplate template env).toList → ∀ env' : Environment,
        evaluateTemplate (evaluateTemplate template env) env' = evaluateTemplate template env) := by
  have out : (evaluateTemplate template env).toList = collapse (substitute env template.toList) :=
    String.toList_ofList
  have spaced : SingleSpaced (evaluateTemplate template env).toList := by
    rw [out]
    exact singleSpaced_collapse _
  refine ⟨spaced, ?_, ?_⟩
  · rw [out, filter_collapse]
  · intro bare env'
    conv_lhs =>
      rw [evaluateTemplate, substitute_of_not_holdsReference env' bare, collapse_of_singleSpaced spaced]
    exact String.ofList_toList

def braced : Environment := .ofList [("A", .text "\u00a0\x7d\t\n\u3000x \x7b"), ("B", .text " ")]

theorem evaluateTemplate_normal_braced :
    evaluateTemplate "{B}\u2003y{A}{B} {C}" braced = "y \x7d x \x7b" ∧
      ¬ HoldsReference "y \x7d x \x7b".toList ∧
      ∀ env : Environment, evaluateTemplate "y \x7d x \x7b" env = "y \x7d x \x7b" := by
  have out : evaluateTemplate "{B}\u2003y{A}{B} {C}" braced = "y \x7d x \x7b" := by decide +kernel
  have bare : ¬ HoldsReference "y \x7d x \x7b".toList := by decide
  have again := (evaluateTemplate_normal "{B}\u2003y{A}{B} {C}" braced).2.2
  rw [out] at again
  exact ⟨out, bare, again bare⟩

end Template

end ComputedColumns
