import ComputedColumns.Proofs.Table.Independence
import ComputedColumns.Proofs.Table.UnknownColumns

namespace ComputedColumns

theorem Environment.meant?_concat_of_known {columns : List (String × Value)} {r : Reference}
    (known : r.isKnown (columns.map Prod.fst) = true) (name : String) (v : Value) :
    meant? (columns ++ [(name, v)]) r = meant? columns r := by
  have earlier : r.index.getD 0 < (columns.map Prod.fst).count r.name := of_decide_eq_true known
  have other : ¬ (r.name = name ∧ r.index.getD 0 = (columns.map Prod.fst).count name) := by
    rintro ⟨rfl, last⟩
    omega
  rw [meant?_concat, if_neg other]

theorem Environment.lookup_concat_of_known {columns : List (String × Value)} {name : String} {v : Value}
    (columnsBare : ∀ c ∈ columns ++ [(name, v)], ¬ Reference.EndsInIndex c.1) {r : Reference}
    (known : r.isKnown (columns.map Prod.fst) = true) :
    (ofColumns (columns ++ [(name, v)])).lookup r = (ofColumns columns).lookup r := by
  have earlierBare : ∀ c ∈ columns, ¬ Reference.EndsInIndex c.1 :=
    fun c member => columnsBare c (List.mem_append_left _ member)
  -- A name that is known is one of a column, and so without an index at its end.
  have named : r.name ∈ columns.map Prod.fst := by
    have earlier : r.index.getD 0 < (columns.map Prod.fst).count r.name := of_decide_eq_true known
    exact List.count_pos_iff.mp (Nat.zero_lt_of_lt earlier)
  obtain ⟨c, member, same⟩ := List.mem_map.mp named
  have bare : ¬ Reference.EndsInIndex r.name := by
    rw [← same]
    exact earlierBare c member
  rw [lookup, lookup, get?_ofColumns_of_bare columnsBare bare, get?_ofColumns_of_bare earlierBare bare,
    meant?_concat_of_known known]

theorem isKnown_of_complete {source : String} {known : List String}
    (complete : ∀ r, .unknownColumn r ∉ checkFormula source known) {rs : List Reference}
    (read : references? source = some rs) : ∀ r ∈ rs, r.isKnown known = true := by
  intro r member
  by_contra unknown
  apply complete r
  rw [← List.count_pos_iff, count_checkFormula read, if_neg unknown]
  exact List.count_pos_iff.mpr member

theorem tryEvaluate_eq_of_lookup {env env' : Environment} {source : String}
    (same : ∀ rs, references? source = some rs → ∀ r ∈ rs, env.lookup r = env'.lookup r) :
    tryEvaluate source env = tryEvaluate source env' := by
  unfold references? at same
  unfold tryEvaluate
  split
  · rename_i formula
    rw [if_pos formula] at same
    cases parsed : parseFormula source with
    | error e => rfl
    | ok e =>
      rw [parsed] at same
      exact e.evaluate_eq_of_lookup (same e.references rfl)
  · rename_i template
    rw [if_neg template] at same
    have mentioned : ∀ r ∈ templateReferences source, env.lookup r = env'.lookup r :=
      fun r member => same _ rfl r (Reference.mem_distinct.mpr member)
    rw [evaluateTemplate_eq_of_lookup source mentioned]

namespace Table

variable {t : Table} {r : Record} {added : Column}

theorem width_addColumn (t : Table) (added : Column) : (t.addColumn added).width = t.width + 1 := by
  simp [width, addColumn]

theorem sources_addColumn (source : added.formula = none) :
    (t.addColumn added).sources = t.sources ++ [(added, t.width)] := by
  simp [sources, addColumn, List.zipIdx_append, source, width]

theorem environment_addColumn (source : added.formula = none) (r : Record) :
    (t.addColumn added).environment r =
      .ofColumns ((t.sources.map fun (c, index) => (c.name, .ofCell c.type (r.get? index))) ++
        [(added.name, .ofCell added.type (r.get? t.width))]) := by
  rw [environment, sources_addColumn source, List.map_append]
  rfl

theorem sourceNames_addColumn (source : added.formula = none) :
    (t.addColumn added).sourceNames = t.sourceNames ++ [added.name] := by
  rw [sourceNames, sources_addColumn source, List.map_append]
  rfl

theorem lookup_addColumn (source : added.formula = none)
    (bare : ∀ n ∈ (t.addColumn added).sourceNames, ¬ Reference.EndsInIndex n) {reference : Reference}
    (known : reference.isKnown t.sourceNames = true) (r : Record) :
    ((t.addColumn added).environment r).lookup reference = (t.environment r).lookup reference := by
  have names : (t.sources.map fun (c, index) =>
      (c.name, Value.ofCell c.type (r.get? index))).map Prod.fst = t.sourceNames := by
    rw [List.map_map]
    rfl
  rw [environment_addColumn source, environment]
  apply Environment.lookup_concat_of_known
  · intro column member
    apply bare
    rw [sourceNames_addColumn source, ← names]
    simpa using List.mem_map_of_mem (f := Prod.fst) member
  · rwa [names]

theorem evaluate_addColumn (source : added.formula = none)
    (bare : ∀ n ∈ (t.addColumn added).sourceNames, ¬ Reference.EndsInIndex n) {formula : String}
    (complete : ∀ reference, .unknownColumn reference ∉ checkFormula formula t.sourceNames) (r : Record) :
    evaluate formula ((t.addColumn added).environment r) = evaluate formula (t.environment r) := by
  have same : tryEvaluate formula ((t.addColumn added).environment r) =
      tryEvaluate formula (t.environment r) := by
    apply tryEvaluate_eq_of_lookup
    intro rs read reference member
    exact lookup_addColumn source bare (isKnown_of_complete complete read reference member) r
  rw [evaluate, evaluate, same]

/-- With one more source column at the end, among names that do not end in an index, a record gets the same
cells in the computed columns without unknown references, and the same types unless the results are markers. -/
theorem recompute_addColumn (fits : r.width ≤ t.width) (source : added.formula = none)
    (bare : ∀ n ∈ (t.addColumn added).sourceNames, ¬ Reference.EndsInIndex n) :
    (t.recompute .default r).2 = none ∧ ((t.addColumn added).recompute .default r).2 = none ∧
    ∀ i c formula, t.columns[i]? = some c → c.formula = some formula →
      (∀ reference, .unknownColumn reference ∉ checkFormula formula t.sourceNames) →
      ∃ text, (t.recompute .default r).1.record.get? i = some text ∧
        ((t.addColumn added).recompute .default r).1.record.get? i = some text ∧
        ((evaluate formula (t.environment r)).isErrorMarker = false →
          ∃ type, (t.recompute .default r).1.table.columns[i]?.map Column.type = some type ∧
            ((t.addColumn added).recompute .default r).1.table.columns[i]?.map Column.type =
              some type) := by
  have wider : r.width ≤ (t.addColumn added).width := by
    rw [width_addColumn]
    exact Nat.le_succ_of_le fits
  refine ⟨?_, ?_, ?_⟩
  · rw [recompute_passes (passes_default fits)]
  · rw [recompute_passes (passes_default wider)]
  · intro i c formula found computed complete
    have inside : i < t.columns.length := (List.getElem?_eq_some_iff.mp found).1
    have kept : (t.addColumn added).columns[i]? = some c :=
      (List.getElem?_append_left inside).trans found
    have same := evaluate_addColumn source bare complete r
    have first := get?_recompute fits found computed
    have second := get?_recompute wider kept computed
    rw [same] at second
    refine ⟨_, first, second, ?_⟩
    intro value
    have type := type_recompute fits found computed value
    have type' := type_recompute wider kept computed (by rw [same, value])
    rw [same] at type'
    exact ⟨_, type, type'⟩

/-- Both columns of one name are mentioned, and the cell of the second one is missing. -/
def stock : Table :=
  ⟨"stock", [.source "Item" .text, ⟨"Label", .date, some "={Item}[0] & {Item} & {Item}[1]", none⟩,
    .source "Item" .boolean]⟩

def longerStock : Table := stock.addColumn (.source "Item" .boolean)

theorem recompute_addColumn_stock :
    (∀ n ∈ longerStock.sourceNames, ¬ Reference.EndsInIndex n) ∧
      checkFormula "={Item}[0] & {Item} & {Item}[1]" stock.sourceNames = [] ∧
      (stock.recompute .default ⟨[some "nut"]⟩).1.record.get? 1 = some "nutnutfalse" ∧
      (longerStock.recompute .default ⟨[some "nut"]⟩).1.record.get? 1 = some "nutnutfalse" ∧
      (stock.recompute .default ⟨[some "nut"]⟩).1.table.columns[1]?.map Column.type = some .text ∧
      (longerStock.recompute .default ⟨[some "nut"]⟩).1.table.columns[1]?.map Column.type =
        some .text := by
  have bare : ∀ n ∈ longerStock.sourceNames, ¬ Reference.EndsInIndex n := by
    have item : ¬ Reference.EndsInIndex "Item" := not_endsInIndex (by decide)
    have names : longerStock.sourceNames = ["Item", "Item", "Item"] := rfl
    rw [names]
    simpa using item
  have checked : checkFormula "={Item}[0] & {Item} & {Item}[1]" stock.sourceNames = [] := by
    decide +kernel
  have complete : ∀ reference, .unknownColumn reference ∉
      checkFormula "={Item}[0] & {Item} & {Item}[1]" stock.sourceNames := by
    rw [checked]
    exact fun _ => List.not_mem_nil
  have first : (stock.recompute .default ⟨[some "nut"]⟩).1.record.get? 1 = some "nutnutfalse" := by
    decide +kernel
  have firstType : (stock.recompute .default ⟨[some "nut"]⟩).1.table.columns[1]?.map Column.type =
      some .text := by decide +kernel
  have value : (evaluate "={Item}[0] & {Item} & {Item}[1]"
      (stock.environment ⟨[some "nut"]⟩)).isErrorMarker = false := by decide +kernel
  obtain ⟨-, -, results⟩ :=
    recompute_addColumn (t := stock) (r := ⟨[some "nut"]⟩) (by decide) rfl bare
  obtain ⟨text, before, after, types⟩ := results 1 _ _ rfl rfl complete
  obtain ⟨type, typeBefore, typeAfter⟩ := types value
  rw [first] at before
  rw [firstType] at typeBefore
  cases before
  cases typeBefore
  exact ⟨bare, checked, first, after, firstType, typeAfter⟩

end Table

end ComputedColumns
