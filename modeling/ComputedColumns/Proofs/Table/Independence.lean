import ComputedColumns.Proofs.Table.Batch

namespace ComputedColumns

namespace Table

def sourceColumns (t : Table) : List (String × ColumnType) :=
  t.sources.map fun (c, _) => (c.name, c.type)

def sourceCells (t : Table) (r : Record) : List (Option String) :=
  t.sources.map fun (_, index) => r.get? index

theorem environment_eq (t : Table) (r : Record) :
    t.environment r =
      .ofColumns (List.zipWith (fun (name, type) cell => (name, .ofCell type cell)) t.sourceColumns
        (t.sourceCells r)) := by
  rw [environment, sourceColumns, sourceCells, List.zipWith_map, List.zipWith_self]

variable {t : Table} {r : Record} {index : Nat} {c : Column} {formula : String}

theorem passes_default (fits : r.width ≤ t.width) : t.Passes .default r where
  fits := fits
  goesOn c _ := by simp [Column.stops, RecomputeOptions.default]

theorem get?_recompute (fits : r.width ≤ t.width) (found : t.columns[index]? = some c)
    (computed : c.formula = some formula) :
    (t.recompute .default r).1.record.get? index =
      some (evaluate formula (t.environment r)).storedText := by
  rw [recompute_passes (passes_default fits), get?_filled found]
  simp [Column.cellAfter, computed, RecomputeOptions.default]

theorem type_recompute (fits : r.width ≤ t.width) (found : t.columns[index]? = some c)
    (computed : c.formula = some formula)
    (value : (evaluate formula (t.environment r)).isErrorMarker = false) :
    (t.recompute .default r).1.table.columns[index]?.map Column.type =
      some (evaluate formula (t.environment r)).columnType := by
  rw [recompute_passes (passes_default fits), declared, List.getElem?_map, found]
  simp [Column.declared, RecomputeOptions.default, Column.resultTypes_of_value computed value]

/-- Computed columns with the same formula, in tables with the same source columns and for records with
the same cells in them, get the same cell, and the same type unless the result is a marker. -/
theorem recompute_independent {t t' : Table} {r r' : Record} (fits : r.width ≤ t.width)
    (fits' : r'.width ≤ t'.width) (columns : t.sourceColumns = t'.sourceColumns)
    (cells : t.sourceCells r = t'.sourceCells r') :
    (t.recompute .default r).2 = none ∧ (t'.recompute .default r').2 = none ∧
    ∀ i j c c' formula, t.columns[i]? = some c → t'.columns[j]? = some c' →
      c.formula = some formula → c'.formula = some formula →
      ∃ text, (t.recompute .default r).1.record.get? i = some text ∧
        (t'.recompute .default r').1.record.get? j = some text ∧
        ((evaluate formula (t.environment r)).isErrorMarker = false →
          ∃ type, (t.recompute .default r).1.table.columns[i]?.map Column.type = some type ∧
            (t'.recompute .default r').1.table.columns[j]?.map Column.type = some type) := by
  have same : t.environment r = t'.environment r' := by
    rw [environment_eq, environment_eq, columns, cells]
  refine ⟨?_, ?_, ?_⟩
  · rw [recompute_passes (passes_default fits)]
  · rw [recompute_passes (passes_default fits')]
  · intro i j c c' formula found found' computed computed'
    have first := get?_recompute fits found computed
    have second := get?_recompute fits' found' computed'
    rw [← same] at second
    refine ⟨_, first, second, ?_⟩
    intro value
    have type := type_recompute fits found computed value
    have type' := type_recompute fits' found' computed' (by rw [← same, value])
    rw [← same] at type'
    exact ⟨_, type, type'⟩

/-- A quotient behind a column that fails, with cells and a type from other results. -/
def crowded : Table :=
  ⟨"crowded", [.computed "ratio" "=1/0", .source "a" .number,
    ⟨"half", .date, some "={a}/2", none⟩]⟩

theorem recompute_independent_crowded :
    quotients.sourceColumns = crowded.sourceColumns ∧
      quotients.sourceCells ⟨[some "3"]⟩ = crowded.sourceCells ⟨[some "x", some "3", some "9"]⟩ ∧
      ∃ text type,
        (quotients.recompute .default ⟨[some "3"]⟩).1.record.get? 1 = some text ∧
        (crowded.recompute .default ⟨[some "x", some "3", some "9"]⟩).1.record.get? 2 = some text ∧
        (quotients.recompute .default ⟨[some "3"]⟩).1.table.columns[1]?.map Column.type =
          some type ∧
        (crowded.recompute .default ⟨[some "x", some "3", some "9"]⟩).1.table.columns[2]?.map
          Column.type = some type := by
  have columns : quotients.sourceColumns = crowded.sourceColumns := rfl
  have cells : quotients.sourceCells ⟨[some "3"]⟩ =
      crowded.sourceCells ⟨[some "x", some "3", some "9"]⟩ := rfl
  have value : (evaluate "={a}/2" (quotients.environment ⟨[some "3"]⟩)).isErrorMarker = false := by
    decide +kernel
  obtain ⟨-, -, results⟩ := recompute_independent (by decide) (by decide) columns cells
  obtain ⟨text, first, second, types⟩ := results 1 2 _ _ _ rfl rfl rfl rfl
  obtain ⟨type, firstType, secondType⟩ := types value
  exact ⟨columns, cells, text, type, first, second, firstType, secondType⟩

end Table

end ComputedColumns
