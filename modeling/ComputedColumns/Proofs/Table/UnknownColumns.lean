import ComputedColumns.Proofs.Formula.Checking
import ComputedColumns.Proofs.Formula.Environment
import ComputedColumns.Proofs.Formula.References
import ComputedColumns.Table.Recompute
import Mathlib.Data.List.Count
import Mathlib.Data.List.Nodup

namespace ComputedColumns

def references? (source : String) : Option (List Reference) :=
  if isFormula source then (parseFormula source).toOption.map Expr.references
  else some (Reference.distinct (templateReferences source))

theorem Expr.unknownColumn_not_mem_checkCalls (e : Expr) (r : Reference) :
    .unknownColumn r ∉ e.checkCalls := by
  induction e using Expr.inductionOn with
  | binary op left right inLeft inRight =>
    rw [checkCalls, List.mem_append]
    rintro (reported | reported)
    · exact inLeft reported
    · exact inRight reported
  | negate operand inOperand => exact inOperand
  | call name args inArgs =>
    rw [checkCalls, List.mem_append, mem_checkCallsAll]
    rintro (reported | ⟨a, member, reported⟩)
    · rcases mem_checkCall.mp reported with ⟨-, other⟩ | ⟨f, -, -, other⟩ <;> cases other
    · exact inArgs a member reported
  | _ => exact List.not_mem_nil

theorem count_unknownColumns (known : List String) (rs : List Reference) (r : Reference) :
    (unknownColumns known rs).count (.unknownColumn r) =
      if r.isKnown known then 0 else rs.count r := by
  have injective : Function.Injective Diagnostic.unknownColumn := fun _ _ => Diagnostic.unknownColumn.inj
  rw [unknownColumns, List.count_map_of_injective _ _ injective]
  by_cases held : r.isKnown known = true
  · rw [if_pos held, List.count_eq_zero]
    intro member
    have unknown := (List.mem_filter.mp member).2
    simp [held] at unknown
  · rw [if_neg held, List.count_filter (by simpa using held)]

theorem count_checkFormula {source : String} {rs : List Reference} (read : references? source = some rs)
    (known : List String) (r : Reference) :
    (checkFormula source known).count (.unknownColumn r) =
      if r.isKnown known then 0 else rs.count r := by
  unfold references? at read
  unfold checkFormula
  by_cases formula : isFormula source = true
  · rw [if_pos formula] at read ⊢
    cases parsed : parseFormula source with
    | error e =>
      rw [parsed] at read
      cases read
    | ok e =>
      rw [parsed] at read
      cases read
      have calls := List.count_eq_zero.mpr (e.unknownColumn_not_mem_checkCalls r)
      rw [List.count_append, calls, Nat.zero_add, count_unknownColumns]
  · rw [if_neg formula] at read ⊢
    cases read
    exact count_unknownColumns known _ r

theorem nodup_references? {source : String} {rs : List Reference} (read : references? source = some rs) :
    rs.Nodup := by
  unfold references? at read
  split at read
  · obtain ⟨e, -, rfl⟩ := Option.map_eq_some_iff.mp read
    exact Reference.nodup_distinct _
  · cases read
    exact Reference.nodup_distinct _

namespace Table

def sourceNames (t : Table) : List String := t.sources.map (·.1.name)

theorem get?_environment_eq_none_iff {t : Table}
    (sourcesBare : ∀ n ∈ t.sourceNames, ¬ Reference.EndsInIndex n) {r : Reference}
    (bare : ¬ Reference.EndsInIndex r.name) (record : Record) :
    (t.environment record).get? r.key = none ↔ r.isKnown t.sourceNames = false := by
  have names : (t.sources.map fun source =>
      (source.1.name, Value.ofCell source.1.type (record.get? source.2))).map Prod.fst =
        t.sourceNames := by
    rw [List.map_map]
    rfl
  have columnsBare : ∀ c ∈ t.sources.map fun source =>
      (source.1.name, Value.ofCell source.1.type (record.get? source.2)),
        ¬ Reference.EndsInIndex c.1 := by
    intro c member
    have named := List.mem_map_of_mem (f := Prod.fst) member
    rw [names] at named
    exact sourcesBare c.1 named
  rw [environment, Environment.get?_ofColumns_of_bare columnsBare bare, Option.map_eq_none_iff,
    Environment.meant?_eq_none_iff, names, Reference.isKnown, decide_eq_false_iff_not, Nat.not_lt]

/-- Among names that do not end in an index, the check of a formula or template against the source columns
reports the references without an entry in the environment of a record, whatever the record is, and each
of them once. They are nil for every record. -/
theorem unknownColumn_reported_iff {t : Table}
    (sourcesBare : ∀ n ∈ t.sourceNames, ¬ Reference.EndsInIndex n) {source : String}
    {rs : List Reference} (read : references? source = some rs) {r : Reference}
    (bare : ¬ Reference.EndsInIndex r.name) (record : Record) :
    (.unknownColumn r ∈ checkFormula source t.sourceNames ↔
      r ∈ rs ∧ (t.environment record).get? r.key = none) ∧
    (.unknownColumn r ∈ checkFormula source t.sourceNames →
      (checkFormula source t.sourceNames).count (.unknownColumn r) = 1 ∧
      ∀ other : Record, (t.environment other).lookup r = .nil) := by
  have counted := count_checkFormula read t.sourceNames r
  have absent := get?_environment_eq_none_iff sourcesBare bare
  have reported : .unknownColumn r ∈ checkFormula source t.sourceNames ↔
      r ∈ rs ∧ r.isKnown t.sourceNames = false := by
    rw [← List.count_pos_iff, counted]
    by_cases known : r.isKnown t.sourceNames = true
    · simp [known]
    · simp [known, List.count_pos_iff]
  refine ⟨?_, ?_⟩
  · rw [reported, absent record]
  · intro found
    obtain ⟨member, unknown⟩ := reported.mp found
    refine ⟨?_, ?_⟩
    · rw [counted, unknown, List.count_eq_one_of_mem (nodup_references? read) member]
      rfl
    · intro other
      rw [Environment.lookup, (absent other).mpr unknown]
      rfl

/-- Two columns have one name, with a computed column between them. -/
def orders : Table :=
  ⟨"orders", [.source "Item" .text, .computed "Label" "={Item}[1] & {Item}[2] & {Label} & {Item}[2]",
    .source "Item" .number]⟩

def missingItem : Reference := ⟨"Item", some 2⟩

theorem not_endsInIndex {name : String} (last : name.toList.getLast? ≠ some ']') :
    ¬ Reference.EndsInIndex name := by
  rintro ⟨n, i, rfl⟩
  rw [String.toList_append, Reference.toList_indexText, ← List.cons_append, ← List.append_assoc,
    List.getLast?_concat] at last
  exact last rfl

theorem unknownColumn_reported_iff_orders :
    (∀ n ∈ orders.sourceNames, ¬ Reference.EndsInIndex n) ∧
      references? "={Item}[1] & {Item}[2] & {Label} & {Item}[2]" =
        some [⟨"Item", some 1⟩, missingItem, ⟨"Label", none⟩] ∧
      ¬ Reference.EndsInIndex missingItem.name ∧
      (checkFormula "={Item}[1] & {Item}[2] & {Label} & {Item}[2]" orders.sourceNames).count
        (.unknownColumn missingItem) = 1 ∧
      ∀ other : Record, (orders.environment other).lookup missingItem = .nil := by
  have names : orders.sourceNames = ["Item", "Item"] := rfl
  have bare : ¬ Reference.EndsInIndex "Item" := not_endsInIndex (by decide)
  have sourcesBare : ∀ n ∈ orders.sourceNames, ¬ Reference.EndsInIndex n := by
    rw [names]
    intro n member
    rcases List.mem_pair.mp member with rfl | rfl <;> exact bare
  have read : references? "={Item}[1] & {Item}[2] & {Label} & {Item}[2]" =
      some [⟨"Item", some 1⟩, missingItem, ⟨"Label", none⟩] := by decide +kernel
  have absent : (orders.environment ⟨[]⟩).get? missingItem.key = none := by decide +kernel
  have itemBare : ¬ Reference.EndsInIndex missingItem.name := bare
  have main := unknownColumn_reported_iff sourcesBare read itemBare ⟨[]⟩
  have reported := main.1.mpr ⟨by simp, absent⟩
  exact ⟨sourcesBare, read, itemBare, main.2 reported⟩

end Table

end ComputedColumns
