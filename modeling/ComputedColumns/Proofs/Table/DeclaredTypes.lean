import ComputedColumns.Proofs.Formula.Storage
import ComputedColumns.Proofs.Table.Batch

namespace ComputedColumns

namespace Table

variable (t : Table) (r : Record)

theorem isPlain_environment (name : Reference) : ((t.environment r).lookup name).IsPlain := by
  apply Environment.isPlain_lookup
  intro column member
  obtain ⟨⟨c, index⟩, _, rfl⟩ := List.mem_map.mp member
  exact Value.isPlain_ofCell c.type (r.get? index)

variable {t r}

/-- After a record has been recomputed, the declared type of each computed column accepts the stored cell,
unless the result was the marker of an error. -/
theorem recompute_fits {run : Recomputation} (done : t.recompute .default r = (run, none)) :
    ∀ index c formula, t.columns[index]? = some c → c.formula = some formula →
      (evaluate formula (t.environment r)).isErrorMarker = false →
      ∃ d text, run.table.columns[index]? = some d ∧ run.record.get? index = some text ∧
        d.type.check text = .ok () := by
  intro index c formula found computed value
  have passes : t.Passes .default r := passes_of_recompute (by rw [done])
  rw [recompute_passes passes] at done
  obtain ⟨rfl, -⟩ := Prod.mk.inj done
  have storable := evaluate_storable (isPlain_environment t r) formula
  have declared : (c.declared .default [t.environment r]).type =
      (evaluate formula (t.environment r)).columnType := by
    simp [Column.declared, RecomputeOptions.default, Column.resultTypes_of_value computed value]
  have cell : c.cellAfter .default (t.environment r) (r.get? index) =
      some (evaluate formula (t.environment r)).storedText := by
    simp [Column.cellAfter, computed, value]
  refine ⟨c.declared .default [t.environment r],
    (evaluate formula (t.environment r)).storedText, ?_, ?_, ?_⟩
  · simp only [Table.declared, List.getElem?_map, found, Option.map_some]
  · rw [get?_filled found, cell]
  · rw [declared]
    exact Value.check_storedText storable

/-- Years before the common era are stored with their sign. -/
def dated : Table := ⟨"dated", [.source "year" .number, .computed "day" "=DATE({year},3,15)"]⟩

theorem recompute_fits_dated :
    (dated.recompute .default ⟨[some "-44"]⟩).2 = none ∧
      (evaluate "=DATE({year},3,15)" (dated.environment ⟨[some "-44"]⟩)).isErrorMarker = false ∧
      ∃ d text, (dated.recompute .default ⟨[some "-44"]⟩).1.table.columns[1]? = some d ∧
        (dated.recompute .default ⟨[some "-44"]⟩).1.record.get? 1 = some text ∧
        d.type.check text = .ok () := by
  have done : (dated.recompute .default ⟨[some "-44"]⟩).2 = none := by decide +kernel
  have value : (evaluate "=DATE({year},3,15)"
      (dated.environment ⟨[some "-44"]⟩)).isErrorMarker = false := by decide +kernel
  exact ⟨done, value, recompute_fits (Prod.ext rfl done) 1 _ _ rfl rfl value⟩

end Table

end ComputedColumns
