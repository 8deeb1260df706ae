import ComputedColumns.Proofs.Formula.Transparency
import Mathlib.Data.List.Basic

namespace ComputedColumns

namespace Expr

def operands : Expr → List Expr
  | binary _ left right => [left, right]
  | negate operand => [operand]
  | call _ args => args
  | _ => []

/-- The expression at a place of the tree: the way to it names one operand or argument after the
other. -/
def at? : Expr → List Nat → Option Expr
  | e, [] => some e
  | e, i :: place => e.operands[i]?.bind fun operand => operand.at? place

def below? (es : List Expr) : List Nat → Option Expr
  | [] => none
  | i :: place => es[i]?.bind fun operand => operand.at? place

/-- The first stands at a place to the left of all places of the second. -/
def AppearsBefore (e : Expr) (r s : Reference) : Prop :=
  ∃ place, e.at? place = some (.reference r) ∧
    ∀ other, e.at? other = some (.reference s) → place < other

/-- Places with their references from left to right: all those that `find` finds, and no others. -/
structure Located (find : List Nat → Option Expr) (rs : List Reference)
    (places : List (List Nat × Reference)) : Prop where
  listed : places.map Prod.snd = rs
  sorted : places.Pairwise fun p q => p.1 < q.1
  found : ∀ place r, (place, r) ∈ places ↔ find place = some (.reference r)

theorem Located.nil {find : List Nat → Option Expr}
    (none : ∀ place r, find place ≠ some (.reference r)) : Located find [] [] where
  listed := rfl
  sorted := .nil
  found place r := by simp [none]

def shift : List Nat → List Nat
  | [] => []
  | i :: place => (i + 1) :: place

theorem shift_lt {p q : List Nat} (less : p < q) : shift p < shift q := by
  cases q with
  | nil => cases less
  | cons j q =>
    cases p with
    | nil => exact List.nil_lt_cons _ _
    | cons i p =>
      simp only [shift, List.cons_lt_cons_iff] at less ⊢
      exact less.imp (fun less => by omega) (fun ⟨same, less⟩ => ⟨by omega, less⟩)

theorem Located.cons {e : Expr} {es : List Expr} {rs ss : List Reference}
    {first rest : List (List Nat × Reference)} (inFirst : Located e.at? rs first)
    (inRest : Located (below? es) ss rest) :
    Located (below? (e :: es)) (rs ++ ss)
      (first.map (Prod.map (0 :: ·) id) ++ rest.map (Prod.map shift id)) where
  listed := by
    rw [List.map_append, List.map_map, List.map_map, ← inFirst.listed, ← inRest.listed]
    rfl
  sorted := by
    rw [List.pairwise_append]
    refine ⟨inFirst.sorted.map _ ?_, inRest.sorted.map _ fun _ _ => shift_lt, ?_⟩
    · intro p q less
      exact List.cons_lt_cons_iff.mpr (.inr ⟨rfl, less⟩)
    · simp only [List.forall_mem_map]
      rintro ⟨p, r⟩ _ ⟨q, s⟩ member
      cases q with
      | nil => cases (inRest.found [] s).mp member
      | cons i q => exact List.cons_lt_cons_iff.mpr (.inl (Nat.zero_lt_succ i))
  found place r := by
    rw [List.mem_append, List.mem_map, List.mem_map]
    constructor
    · rintro (⟨⟨p, s⟩, member, same⟩ | ⟨⟨p, s⟩, member, same⟩)
      · cases same
        exact (inFirst.found p s).mp member
      · cases same
        cases p with
        | nil => cases (inRest.found [] s).mp member
        | cons i p => exact (inRest.found (i :: p) s).mp member
    · intro is
      match place with
      | [] => cases is
      | 0 :: p => exact .inl ⟨(p, r), (inFirst.found p r).mpr is, rfl⟩
      | (i + 1) :: p => exact .inr ⟨(i :: p, r), (inRest.found (i :: p) r).mpr is, rfl⟩

theorem located_below {es : List Expr}
    (each : ∀ e ∈ es, ∃ places, Located e.at? e.occurrences places) :
    ∃ places, Located (below? es) (occurrencesAll es) places := by
  induction es with
  | nil =>
    refine ⟨[], .nil ?_⟩
    intro place r is
    cases place <;> cases is
  | cons e es ih =>
    obtain ⟨first, inFirst⟩ := each e List.mem_cons_self
    obtain ⟨rest, inRest⟩ := ih fun e member => each e (List.mem_cons_of_mem _ member)
    exact ⟨_, inFirst.cons inRest⟩

theorem Located.of_below {e : Expr} {rs : List Reference} {places : List (List Nat × Reference)}
    (inside : Located (below? e.operands) rs places) (other : ∀ r, e ≠ .reference r) :
    Located e.at? rs places where
  listed := inside.listed
  sorted := inside.sorted
  found place r := by
    rw [inside.found]
    cases place with
    | nil => simp [below?, at?, other r]
    | cons i place => rfl

theorem Located.leaf {e : Expr} (bottom : e.operands = []) (other : ∀ r, e ≠ .reference r) :
    Located e.at? [] [] := by
  apply Located.nil
  intro place r
  cases place with
  | nil => simp [at?, other r]
  | cons i place => simp [at?, bottom]

theorem located (e : Expr) : ∃ places, Located e.at? e.occurrences places := by
  induction e using Expr.inductionOn with
  | number n => exact ⟨[], .leaf rfl (by simp)⟩
  | text s => exact ⟨[], .leaf rfl (by simp)⟩
  | boolean b => exact ⟨[], .leaf rfl (by simp)⟩
  | reference r =>
    refine ⟨[([], r)], rfl, List.pairwise_singleton _ _, ?_⟩
    intro place s
    cases place with
    | nil => simp [at?, eq_comm]
    | cons i place => simp [at?, operands]
  | binary op left right inLeft inRight =>
    obtain ⟨places, inside⟩ := @located_below [left, right] (by simp [inLeft, inRight])
    rw [occurrencesAll, occurrencesAll, occurrencesAll, List.append_nil] at inside
    exact ⟨places, .of_below (e := binary op left right) inside (by simp)⟩
  | negate operand inOperand =>
    obtain ⟨places, inside⟩ := @located_below [operand] (by simp [inOperand])
    rw [occurrencesAll, occurrencesAll, List.append_nil] at inside
    exact ⟨places, .of_below (e := negate operand) inside (by simp)⟩
  | call name args inArgs =>
    obtain ⟨places, inside⟩ := located_below inArgs
    exact ⟨places, .of_below (e := call name args) inside (by simp)⟩

end Expr

namespace Reference

theorem mem_distinct {rs : List Reference} {r : Reference} : r ∈ distinct rs ↔ r ∈ rs := by
  induction rs with
  | nil => rfl
  | cons s rs ih =>
    rw [distinct, List.mem_cons, List.mem_cons, List.mem_filter, ih, decide_eq_true_iff]
    by_cases same : r = s <;> simp [same]

theorem nodup_distinct (rs : List Reference) : (distinct rs).Nodup := by
  induction rs with
  | nil => exact .nil
  | cons r rs ih =>
    rw [distinct, List.nodup_cons]
    exact ⟨by simp, ih.filter _⟩

theorem pairwise_distinct {places : List (List Nat × Reference)}
    (sorted : places.Pairwise fun p q => p.1 < q.1) :
    (distinct (places.map Prod.snd)).Pairwise fun r s =>
      ∃ place, (place, r) ∈ places ∧ ∀ other, (other, s) ∈ places → place < other := by
  induction places with
  | nil => exact .nil
  | cons entry places ih =>
    obtain ⟨place, r⟩ := entry
    obtain ⟨before, sorted⟩ := List.pairwise_cons.mp sorted
    rw [List.map_cons, distinct, List.pairwise_cons]
    have behind : ∀ s ∈ (distinct (places.map Prod.snd)).filter (· ≠ r),
        ∀ other, (other, s) ∈ (place, r) :: places → (other, s) ∈ places := by
      intro s kept other member
      have different : s ≠ r := by simpa using (List.mem_filter.mp kept).2
      rcases List.mem_cons.mp member with same | member
      · exact absurd (congrArg Prod.snd same) different
      · exact member
    constructor
    · intro s kept
      exact ⟨place, List.mem_cons_self, fun other member => before _ (behind s kept other member)⟩
    · apply List.Pairwise.imp_of_mem ?_ ((ih sorted).filter _)
      rintro s u _ kept ⟨first, member, earlier⟩
      exact ⟨first, List.mem_cons_of_mem _ member,
        fun other member => earlier other (behind u kept other member)⟩

end Reference

variable {env env' : Environment}

theorem Expr.evaluate_eq_of_lookup (e : Expr)
    (same : ∀ r ∈ e.references, env.lookup r = env'.lookup r) : e.evaluate env = e.evaluate env' := by
  have occurring : ∀ r ∈ e.occurrences, env.lookup r = env'.lookup r :=
    fun r occurs => same r (Reference.mem_distinct.mpr occurs)
  cases e with
  | reference r => rw [evaluate, evaluate, occurring r List.mem_cons_self]
  | _ =>
    -- Apart from a reference, values inside their types decide.
    have alike := evaluate_congr _ fun r occurs => congrArg Value.plain (occurring r occurs)
    exact alike.2 (by simp)

theorem evaluateTemplate_eq_of_lookup (template : String)
    (same : ∀ r ∈ templateReferences template, env.lookup r = env'.lookup r) :
    evaluateTemplate template env = evaluateTemplate template env' := by
  have texts : ∀ segment ∈ Template.segments template.toList,
      segment.text env = segment.text env' := by
    intro segment member
    cases segment with
    | literal c => rfl
    | reference r =>
      have mentioned : r ∈ templateReferences template :=
        List.mem_filterMap.mpr ⟨_, member, rfl⟩
      rw [Template.Segment.text, Template.Segment.text, same r mentioned]
  rw [evaluateTemplate, evaluateTemplate, Template.substitute, Template.substitute,
    List.flatMap_congr texts]

/-- Two environments that agree on what an expression or a template mentions give the same result, and
the references of an expression are those at the places of its tree, each once, by their first places
from left to right. -/
theorem references_determine :
    (∀ (e : Expr) (env env' : Environment),
      (∀ r ∈ e.references, env.lookup r = env'.lookup r) → e.evaluate env = e.evaluate env') ∧
    (∀ (template : String) (env env' : Environment),
      (∀ r ∈ templateReferences template, env.lookup r = env'.lookup r) →
        evaluateTemplate template env = evaluateTemplate template env') ∧
    ∀ e : Expr, e.references.Nodup ∧
      (∀ r, r ∈ e.references ↔ ∃ place, e.at? place = some (.reference r)) ∧
      e.references.Pairwise e.AppearsBefore := by
  refine ⟨fun e _ _ => e.evaluate_eq_of_lookup,
    fun template _ _ => evaluateTemplate_eq_of_lookup template, ?_⟩
  intro e
  obtain ⟨places, listed, sorted, found⟩ := e.located
  rw [Expr.references, ← listed]
  refine ⟨Reference.nodup_distinct _, ?_, ?_⟩
  · intro r
    rw [Reference.mem_distinct, List.mem_map]
    constructor
    · rintro ⟨⟨place, s⟩, member, rfl⟩
      exact ⟨place, (found place s).mp member⟩
    · rintro ⟨place, is⟩
      exact ⟨(place, r), (found place r).mpr is, rfl⟩
  · apply (Reference.pairwise_distinct sorted).imp
    rintro r s ⟨place, member, earlier⟩
    exact ⟨place, (found place r).mp member, fun other is => earlier other ((found other s).mpr is)⟩

def priced (tax : String) : Environment :=
  .ofList [("Price", .text "8"), ("Price[0]", .text "8"), ("Tax", .text tax)]

theorem references_determine_priced :
    let e : Expr := .binary .multiply (.reference ⟨"Price", none⟩) (.reference ⟨"Price", some 0⟩)
    (∀ r ∈ e.references, (priced "1").lookup r = (priced "2").lookup r) ∧
      e.evaluate (priced "2") = .ok (.number (.int 64)) ∧
      (∀ r ∈ templateReferences "{Price} or {Price}[0]", (priced "1").lookup r = (priced "2").lookup r) ∧
      evaluateTemplate "{Price} or {Price}[0]" (priced "2") = "8 or 8" := by
  intro e
  have alike : ∀ r ∈ [(⟨"Price", none⟩ : Reference), ⟨"Price", some 0⟩],
      (priced "1").lookup r = (priced "2").lookup r := by
    intro r member
    rcases List.mem_pair.mp member with rfl | rfl <;> rfl
  have inTree : e.references = [⟨"Price", none⟩, ⟨"Price", some 0⟩] := by decide +kernel
  have inTemplate : templateReferences "{Price} or {Price}[0]" =
      [⟨"Price", none⟩, ⟨"Price", some 0⟩] := by decide +kernel
  have product : e.evaluate (priced "1") = .ok (.number (.int 64)) := by decide +kernel
  have text : evaluateTemplate "{Price} or {Price}[0]" (priced "1") = "8 or 8" := by decide +kernel
  rw [inTree, inTemplate]
  obtain ⟨expressions, templates, -⟩ := references_determine
  have sameValue := expressions e (priced "1") (priced "2") (by rwa [inTree])
  have sameText := templates _ (priced "1") (priced "2") (by rwa [inTemplate])
  exact ⟨alike, sameValue.symm.trans product, alike, sameText.symm.trans text⟩

end ComputedColumns
