import ComputedColumns.CommandLine.Run
import ComputedColumns.Proofs.Csv.RoundTrip
import ComputedColumns.Proofs.Table.DeclaredTypes
import ComputedColumns.Proofs.Table.Failure

namespace ComputedColumns

theorem RecomputeStats.errors_total (counts : List RecomputeStats) :
    (total counts).errors = (counts.map (·.errors)).sum := by
  induction counts with
  | nil => rfl
  | cons a counts ih => rw [total, add, ih, List.map_cons, List.sum_cons]

theorem Column.errors_effort_eq_zero_iff {options : RecomputeOptions} {envs : List Environment}
    {c : Column} : (c.effort options envs).errors = 0 ↔ ∀ env ∈ envs, ¬ c.Marks env := by
  cases computed : c.formula with
  | none =>
    rw [effort_source computed]
    simp [RecomputeStats.zero, Marks, computed]
  | some formula => simp [effort, Marks, computed]

theorem Table.errors_effort_eq_zero_iff {options : RecomputeOptions} {envs : List Environment}
    {t : Table} : (t.effort options envs).errors = 0 ↔ ∀ c ∈ t.columns, ∀ env ∈ envs, ¬ c.Marks env := by
  rw [effort, RecomputeStats.errors_total, List.sum_eq_zero_iff_forall_eq_nat]
  simp only [List.map_map, List.forall_mem_map, Function.comp_def, Column.errors_effort_eq_zero_iff]

namespace CommandLine

/-- The source cells of a row as formulas see them, each under the type declared for its column. -/
def rowEnvironment (types : TypedNames) (header row : List String) : Environment :=
  .ofColumns (List.zipWith (fun name cell => (name, .ofCell (typeOf types name) (some cell))) header row)

variable (types : TypedNames) (computed : List Assignment) (header : List String)
  (rows : List (List String))

/-- The stored texts of the formulas for a row. -/
def computedCells (row : List String) : List String :=
  computed.map fun (_, formula) => (evaluate formula (rowEnvironment types header row)).storedText

def resultRows : List (List String) :=
  (header ++ computed.map (·.1)) :: rows.map fun row => row ++ computedCells types computed header row

/-- Some computed cell begins as a marker does. -/
def HasMarker : Prop :=
  ∃ row ∈ rows, ∃ cell ∈ computedCells types computed header row, errorMark.toList <+: cell.toList

def resultTable : Table :=
  ⟨"", header.map (fun name => .source name (typeOf types name)) ++
    computed.map fun (name, formula) => .computed name formula⟩

def cellsOf (row : List String) : Record := ⟨row.map some⟩

variable {types computed header rows}

theorem foldl_addColumn (t : Table) :
    computed.foldl (fun t (name, formula) => t.addColumn (.computed name formula)) t =
      ⟨t.name, t.columns ++ computed.map fun (name, formula) => .computed name formula⟩ := by
  induction computed generalizing t with
  | nil => simp
  | cons assignment computed ih =>
    rw [List.foldl_cons, ih]
    simp [Table.addColumn]

theorem foldl_sources :
    computed.foldl (fun t (name, formula) => t.addColumn (.computed name formula))
        ⟨"", header.map fun name => .source name (typeOf types name)⟩ =
      resultTable types computed header := foldl_addColumn _

theorem width_resultTable :
    (resultTable types computed header).width = header.length + computed.length := by
  simp [Table.width, resultTable]

theorem sources_resultTable : (resultTable types computed header).sources =
    (header.map fun name => .source name (typeOf types name)).zipIdx := by
  have kept : ∀ entry ∈ (header.map fun name => Column.source name (typeOf types name)).zipIdx,
      entry.1.formula.isNone = true := by
    rintro ⟨c, index⟩ member
    obtain ⟨name, _, rfl⟩ := List.mem_map.mp (List.fst_mem_of_mem_zipIdx member)
    rfl
  have dropped : ∀ entry ∈ (computed.map fun (name, formula) => Column.computed name formula).zipIdx
      (0 + (header.map fun name => Column.source name (typeOf types name)).length),
      ¬ entry.1.formula.isNone = true := by
    rintro ⟨c, index⟩ member
    obtain ⟨⟨name, formula⟩, _, rfl⟩ := List.mem_map.mp (List.fst_mem_of_mem_zipIdx member)
    nofun
  rw [Table.sources, resultTable, List.zipIdx_append, List.filter_append, List.filter_eq_self.mpr kept,
    List.filter_eq_nil_iff.mpr dropped, List.append_nil]

theorem environment_resultTable {row : List String} (even : row.length = header.length) :
    (resultTable types computed header).environment (cellsOf row) = rowEnvironment types header row := by
  rw [Table.environment, sources_resultTable, rowEnvironment]
  congr 1
  apply List.ext_getElem?
  intro index
  simp only [List.getElem?_map, List.getElem?_zipIdx, List.getElem?_zipWith, cellsOf, Record.get?]
  cases named : header[index]? with
  | none => rfl
  | some name =>
    have inside : index < row.length := by
      rw [even]
      exact (List.getElem?_eq_some_iff.mp named).1
    simp [Column.source, List.getElem?_eq_getElem inside]

theorem filled_resultTable {strict : Bool} {row : List String} (even : row.length = header.length) :
    ((resultTable types computed header).filled ⟨true, false, strict⟩ (cellsOf row)).cells =
      (row ++ computedCells types computed header row).map some := by
  have narrow : (cellsOf row).width = header.length := by simp [cellsOf, Record.width, even]
  have sources : List.zipWith (Column.cellAfter ⟨true, false, strict⟩ (rowEnvironment types header row))
      (header.map fun name => .source name (typeOf types name)) (row.map some) = row.map some := by
    apply List.ext_getElem
    · simp [even]
    · intro index _ _
      simp [Column.cellAfter, Column.source]
  have results : List.zipWith (Column.cellAfter ⟨true, false, strict⟩ (rowEnvironment types header row))
      (computed.map fun (name, formula) => .computed name formula)
      (List.replicate computed.length none) = (computedCells types computed header row).map some := by
    apply List.ext_getElem
    · simp [computedCells]
    · intro index _ _
      simp [Column.cellAfter, Column.computed, computedCells]
  rw [Table.filled, environment_resultTable even, width_resultTable, Record.resize, narrow,
    Nat.add_sub_cancel_left]
  simp only [resultTable, cellsOf]
  rw [List.zipWith_append (by simp [even]), sources, results, List.map_append]

theorem marks_iff {row : List String} (even : row.length = header.length) :
    (∃ c ∈ (resultTable types computed header).columns,
      c.Marks ((resultTable types computed header).environment (cellsOf row))) ↔
      ∃ cell ∈ computedCells types computed header row, errorMark.toList <+: cell.toList := by
  have bare (r : Reference) :=
    Table.isPlain_environment (resultTable types computed header) (cellsOf row) r
  rw [environment_resultTable even] at bare ⊢
  have same (formula : String) :
      (evaluate formula (rowEnvironment types header row)).isErrorMarker = true ↔ errorMark.toList <+:
        (evaluate formula (rowEnvironment types header row)).storedText.toList := by
    rw [Value.isErrorMarker_eq (evaluate_storable bare formula), List.isPrefixOf_iff_prefix]
  constructor
  · rintro ⟨c, member, formula, isComputed, marker⟩
    rcases List.mem_append.mp member with source | result
    · obtain ⟨name, _, rfl⟩ := List.mem_map.mp source
      cases isComputed
    · obtain ⟨assignment, among, rfl⟩ := List.mem_map.mp result
      cases isComputed
      exact ⟨_, List.mem_map_of_mem among, (same _).mp marker⟩
  · rintro ⟨cell, member, marked⟩
    obtain ⟨assignment, among, rfl⟩ := List.mem_map.mp member
    refine ⟨.computed assignment.1 assignment.2, ?_, assignment.2, rfl, (same _).mpr marked⟩
    exact List.mem_append_right _ (List.mem_map_of_mem among)

theorem not_fails_iff {strict : Bool} {row : List String} (even : row.length = header.length) :
    ¬ (resultTable types computed header).Fails ⟨true, false, strict⟩ (cellsOf row) ↔
      (strict = true →
        ¬ ∃ cell ∈ computedCells types computed header row, errorMark.toList <+: cell.toList) := by
  have fits : ¬ (resultTable types computed header).width < (cellsOf row).width := by
    rw [width_resultTable]
    simp only [cellsOf, Record.width, List.length_map, even]
    omega
  rw [Table.Fails, marks_iff even]
  simp only [fits, false_or, not_and]

theorem errors_eq_zero_iff {strict : Bool} (even : ∀ row ∈ rows, row.length = header.length) :
    ((resultTable types computed header).effort ⟨true, false, strict⟩
      ((rows.map cellsOf).map (resultTable types computed header).environment)).errors = 0 ↔
      ¬ HasMarker types computed header rows := by
  rw [Table.errors_effort_eq_zero_iff]
  simp only [List.forall_mem_map]
  constructor
  · rintro unmarked ⟨row, member, marked⟩
    obtain ⟨c, among, marks⟩ := (marks_iff (even row member)).mpr marked
    exact unmarked c among row member marks
  · intro unmarked c among row member marks
    exact unmarked ⟨row, member, (marks_iff (even row member)).mp ⟨c, among, marks⟩⟩

theorem passes_iff {strict : Bool} (even : ∀ row ∈ rows, row.length = header.length) :
    (∀ r ∈ rows.map cellsOf, (resultTable types computed header).Passes ⟨true, false, strict⟩ r) ↔
      (strict = true → ¬ HasMarker types computed header rows) := by
  simp only [List.forall_mem_map, ← Table.not_fails_iff]
  constructor
  · rintro fine isStrict ⟨row, member, marked⟩
    exact (not_fails_iff (even row member)).mp (fine row member) isStrict marked
  · intro unmarked row member
    rw [not_fails_iff (even row member)]
    intro isStrict marked
    exact unmarked isStrict ⟨row, member, marked⟩

def resultOf (strict : Bool) (types : TypedNames) (computed : List Assignment) (header : List String)
    (rows : List (List String)) : Recomputed :=
  let t := resultTable types computed header
  let records := rows.map cellsOf
  ⟨t.declared ⟨true, false, strict⟩ (records.map t.environment),
    records.map (t.filled ⟨true, false, strict⟩),
    (⟨records.length, 0, 0, 0⟩ : RecomputeStats).add
      (t.effort ⟨true, false, strict⟩ (records.map t.environment))⟩

theorem csv_resultOf {strict : Bool} (even : ∀ row ∈ rows, row.length = header.length) :
    (resultOf strict types computed header rows).csv =
      Csv.write (resultRows types computed header rows) := by
  have names : (resultOf strict types computed header rows).table.columns.map (·.name) =
      header ++ computed.map (·.1) := by
    simp [resultOf, Table.declared, resultTable, Function.comp_def, Column.declared_name, Column.source,
      Column.computed]
  have cells : (resultOf strict types computed header rows).records.map
      (fun record => record.cells.map (·.getD "")) =
        rows.map fun row => row ++ computedCells types computed header row := by
    simp only [resultOf, List.map_map]
    apply List.map_congr_left
    intro row member
    simp only [Function.comp_apply, filled_resultTable (even row member), List.map_map]
    simp [Function.comp_def]
  rw [Recomputed.csv, names, cells, resultRows]

theorem errors_resultOf {strict : Bool} (even : ∀ row ∈ rows, row.length = header.length) :
    (resultOf strict types computed header rows).stats.errors = 0 ↔
      ¬ HasMarker types computed header rows := by
  have counted := @errors_eq_zero_iff types computed header rows strict even
  rw [← counted]
  simp [resultOf, RecomputeStats.add]

theorem length_computedCells {row : List String} :
    (computedCells types computed header row).length = computed.length := by
  rw [computedCells, List.length_map]

theorem fieldsOf_resultRows (computes : computed ≠ []) :
    Csv.fieldsOf (Csv.write (resultRows types computed header rows)) =
      resultRows types computed header rows := by
  apply Csv.fieldsOf_write
  have wider (xs ys : List String) (wide : ys ≠ []) : xs ++ ys ≠ [] := by simp [wide]
  rw [resultRows, List.forall_mem_cons, List.forall_mem_map]
  refine ⟨wider _ _ (by simpa using computes), ?_⟩
  intro row _
  exact wider _ _ (by simpa [computedCells] using computes)

theorem read_resultRows (computes : computed ≠ []) (even : ∀ row ∈ rows, row.length = header.length)
    (unmarked : (Csv.write (resultRows types computed header rows)).toList.head? ≠ some '\uFEFF') :
    Csv.read (Csv.write (resultRows types computed header rows)) none =
      .ok ⟨header ++ computed.map (·.1),
        .ok (rows.map fun row => row ++ computedCells types computed header row)⟩ := by
  have wide : header ++ computed.map (·.1) ≠ [] := by simp [computes]
  apply Csv.read_write wide ?_ unmarked
  rw [List.forall_mem_map]
  intro row member
  rw [List.length_append, List.length_append, length_computedCells, List.length_map, even row member]

end CommandLine

end ComputedColumns
