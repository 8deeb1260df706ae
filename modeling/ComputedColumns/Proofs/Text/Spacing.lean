import ComputedColumns.Proofs.Text.Blank
import Mathlib.Data.List.Basic

namespace ComputedColumns.Text

/-- Every blank is a space, and on both sides of it stands a character that is not blank. So there is none
at the ends. -/
def SingleSpaced (cs : List Char) : Prop :=
  ∀ front c back, cs = front ++ c :: back → isBlank c = true →
    c = ' ' ∧ (∃ b, front.getLast? = some b ∧ isBlank b = false) ∧
      ∃ d, back.head? = some d ∧ isBlank d = false

namespace SingleSpaced

variable {c : Char} {cs : List Char}

theorem nil : SingleSpaced [] := by
  intro front c back split
  simp at split

theorem first (spaced : SingleSpaced (c :: cs)) : isBlank c = false := by
  cases blank : isBlank c with
  | false => rfl
  | true =>
    obtain ⟨-, ⟨b, before, -⟩, -⟩ := spaced [] c cs rfl blank
    cases before

theorem visible (spaced : SingleSpaced cs) (visible : isBlank c = false) : SingleSpaced (c :: cs) := by
  intro front d back split blank
  cases front with
  | nil =>
    obtain ⟨rfl, rfl⟩ := List.cons.inj split
    rw [visible] at blank
    cases blank
  | cons _ front =>
    obtain ⟨rfl, rest⟩ := List.cons.inj split
    obtain ⟨space, ⟨b, before, shown⟩, after⟩ := spaced front d back rest blank
    refine ⟨space, ⟨b, ?_, shown⟩, after⟩
    rw [List.getLast?_cons, before]
    rfl

theorem spaceBetween (spaced : SingleSpaced cs) (present : cs ≠ []) (visible : isBlank c = false) :
    SingleSpaced (c :: ' ' :: cs) := by
  obtain ⟨d, ds, rfl⟩ := List.exists_cons_of_ne_nil present
  intro front e back split blank
  match front, split with
  | [], split =>
    obtain ⟨rfl, -⟩ := List.cons.inj split
    rw [visible] at blank
    cases blank
  | [_], split =>
    obtain ⟨rfl, rest⟩ := List.cons.inj split
    obtain ⟨rfl, rfl⟩ := List.cons.inj rest
    exact ⟨rfl, ⟨_, rfl, visible⟩, ⟨d, rfl, spaced.first⟩⟩
  | _ :: _ :: front, split =>
    obtain ⟨rfl, rest⟩ := List.cons.inj split
    obtain ⟨rfl, behind⟩ := List.cons.inj rest
    obtain ⟨space, ⟨b, before, shown⟩, after⟩ := spaced front e back behind blank
    refine ⟨space, ⟨b, ?_, shown⟩, after⟩
    rw [List.getLast?_cons, List.getLast?_cons, before]
    rfl

theorem of_append (as : List Char) (spaced : SingleSpaced (as ++ cs))
    (begins : ∀ d, cs.head? = some d → isBlank d = false) : SingleSpaced cs := by
  intro front c back split blank
  have whole : as ++ cs = (as ++ front) ++ c :: back := by rw [split, List.append_assoc]
  obtain ⟨space, ⟨b, before, shown⟩, after⟩ := spaced (as ++ front) c back whole blank
  refine ⟨space, ?_, after⟩
  cases front with
  | nil =>
    have visible := begins c (congrArg List.head? split)
    rw [visible] at blank
    cases blank
  | cons a front =>
    rw [List.getLast?_append_of_ne_nil as (List.cons_ne_nil a front)] at before
    exact ⟨b, before, shown⟩

theorem of_blank {d : Char} (spaced : SingleSpaced (c :: d :: cs)) (blank : isBlank d = true) :
    d = ' ' ∧ SingleSpaced cs ∧ cs ≠ [] := by
  obtain ⟨space, -, e, next, shown⟩ := spaced [c] d cs rfl blank
  refine ⟨space, of_append [c, d] spaced ?_, ?_⟩
  · intro f first
    rw [next] at first
    cases first
    exact shown
  · rintro rfl
    cases next

end SingleSpaced

theorem singleSpaced_collapse (cs : List Char) : SingleSpaced (collapse cs) := by
  induction cs with
  | nil => exact .nil
  | cons c cs ih =>
    cases blank : isBlank c with
    | true => rwa [collapse_blank blank]
    | false =>
      rw [collapse_visible blank]
      split
      · rename_i ends
        exact ih.spaceBetween ends.1 blank
      · exact ih.visible blank

theorem filter_collapse (cs : List Char) :
    (collapse cs).filter (!isBlank ·) = cs.filter (!isBlank ·) := by
  have space : isBlank ' ' = true := rfl
  induction cs with
  | nil => rfl
  | cons c cs ih =>
    cases blank : isBlank c with
    | true => rw [collapse_blank blank, ih, List.filter_cons_of_neg (by simp [blank])]
    | false =>
      rw [collapse_visible blank, List.filter_cons_of_pos (by simp [blank]),
        List.filter_cons_of_pos (by simp [blank])]
      split
      · rw [List.filter_cons_of_neg (by simp [space]), ih]
      · rw [ih]

theorem collapse_of_singleSpaced : ∀ {cs : List Char}, SingleSpaced cs → collapse cs = cs
  | [], _ => rfl
  | [c], spaced => by
    rw [collapse_visible spaced.first]
    rfl
  | c :: d :: cs, spaced => by
    rw [collapse_visible spaced.first]
    cases blank : isBlank d with
    | true =>
      obtain ⟨rfl, rest, present⟩ := spaced.of_blank blank
      rw [collapse_blank blank, collapse_of_singleSpaced rest, if_pos ⟨present, blank⟩]
    | false =>
      have between : ¬ (collapse (d :: cs) ≠ [] ∧ (d :: cs).head?.any isBlank = true) := by
        simp [blank]
      have rest : SingleSpaced (d :: cs) := by
        apply SingleSpaced.of_append [c] spaced
        intro e first
        cases first
        exact blank
      rw [if_neg between, collapse_of_singleSpaced rest]

end ComputedColumns.Text
