import ComputedColumns.Proofs.Table.ColumnAccount

namespace ComputedColumns

namespace Recomputation

variable {options : RecomputeOptions} {env : Environment} {name : String}
  {before cells : List (Option String)} {done cs : List Column} {stats : RecomputeStats}

theorem store_at (t : Table) (cell : Option String) (text : String) :
    (⟨t, ⟨before ++ cell :: cells⟩, stats⟩ : Recomputation).store before.length text =
      ⟨t, ⟨before ++ some text :: cells⟩, stats⟩ := by
  simp [store, Record.put]

theorem modify_at {α : Type} (f : α → α) (xs : List α) (a : α) (ys : List α) :
    (xs ++ a :: ys).modify xs.length f = xs ++ f a :: ys := by
  induction xs with
  | nil => rfl
  | cons x xs ih => simp [ih]

theorem declare_at (r : Record) (c : Column) (type : ColumnType) :
    (⟨⟨name, done ++ c :: cs⟩, r, stats⟩ : Recomputation).declare done.length type =
      ⟨⟨name, done ++ { c with type } :: cs⟩, r,
        stats.add ⟨0, 0, 0, Column.changes [c.type, type]⟩⟩ := by
  have found : (⟨name, done ++ c :: cs⟩ : Table).column? done.length = some c := by
    simp [Table.column?]
  have modified : (⟨name, done ++ c :: cs⟩ : Table).modify done.length ({ · with type }) =
      ⟨name, done ++ { c with type } :: cs⟩ := by
    simp only [Table.modify, modify_at]
  unfold declare
  rw [found, modified]
  by_cases same : c.type = type
  · obtain rfl := same
    simp [Column.changes, RecomputeStats.add]
  · simp [Column.changes, count, same]

theorem advance_column {c : Column} {formula : String} (computed : c.formula = some formula)
    (passes : c.stops options env = false) (aligned : before.length = done.length)
    (cell : Option String) (rest : List Computation) :
    advance options env ⟨⟨name, done ++ c :: cs⟩, ⟨before ++ cell :: cells⟩, stats⟩
        (⟨done.length, c.name, formula⟩ :: rest) =
      advance options env
        ⟨⟨name, done ++ c.declared options [env] :: cs⟩,
          ⟨before ++ c.cellAfter options env cell :: cells⟩, stats.add (c.effort options [env])⟩
        rest := by
  rw [advance, CellResult.ofFormula, CellResult.ofValue]
  cases marker : (evaluate formula env).isErrorMarker with
  | true =>
    have goesOn : options.stopOnError = false := by
      simpa [Column.stops, computed, marker] using passes
    have unchanged : c.declared options [env] = c := by
      simp [Column.declared, Column.resultTypes_of_marker computed marker]
    have counted : c.effort options [env] = ⟨0, 1, 1, 0⟩ := by
      simp [Column.effort, computed, marker, Column.resultTypes_of_marker computed marker,
        Column.changes]
    rw [unchanged, counted]
    simp only [if_true, goesOn]
    unfold mark
    cases skipped : options.skipMarkers with
    | true => simp [Column.cellAfter, computed, marker, skipped, count]
    | false =>
      simp only [count, ← aligned, store_at]
      simp [Column.cellAfter, computed, marker, skipped, Value.storedText_of_marker marker]
  | false =>
    simp only [Bool.false_eq_true, if_false]
    congr 1
    have stored : c.cellAfter options env cell = some (evaluate formula env).storedText := by
      simp [Column.cellAfter, computed, marker]
    have types := Column.resultTypes_of_value computed marker
    unfold accept
    rw [stored]
    simp only [count, Value.stored, ← aligned, store_at]
    cases kept : options.updateTypes with
    | true =>
      rw [aligned]
      simp only [if_true, declare_at]
      simp [Column.declared, Column.effort, computed, marker, kept, types, RecomputeStats.add]
    | false =>
      simp [Column.declared, Column.effort, computed, marker, kept]

theorem advance_columns (rest : List Column) (after : List (Option String))
    (later : List Computation) (aligned : before.length = done.length)
    (fits : cells.length = cs.length) (pass : ∀ c ∈ cs, c.stops options env = false) :
    advance options env ⟨⟨name, done ++ (cs ++ rest)⟩, ⟨before ++ (cells ++ after)⟩, stats⟩
        (computationsFrom done.length cs ++ later) =
      advance options env
        ⟨⟨name, done ++ (cs.map (Column.declared options [env]) ++ rest)⟩,
          ⟨before ++ (List.zipWith (Column.cellAfter options env) cs cells ++ after)⟩,
          stats.add (.total (cs.map (Column.effort options [env])))⟩
        later := by
  -- From left to right: what is done grows by one column, and with it the position.
  induction cs generalizing done before cells stats with
  | nil =>
    obtain rfl := List.length_eq_zero_iff.mp fits
    simp [computationsFrom, RecomputeStats.total, RecomputeStats.add_zero]
  | cons c cs ih =>
    obtain ⟨cell, cells, rfl⟩ : ∃ cell rest, cells = cell :: rest :=
      List.exists_cons_of_length_eq_add_one fits
    have next := @ih (before ++ [c.cellAfter options env cell]) cells
      (done ++ [c.declared options [env]]) (stats.add (c.effort options [env])) (by simp [aligned])
      (by simpa using fits) (fun d member => pass d (List.mem_cons_of_mem _ member))
    simp only [List.length_append, List.length_singleton, List.append_assoc,
      List.singleton_append] at next
    simp only [List.cons_append, List.map_cons, List.zipWith_cons_cons, RecomputeStats.total,
      ← RecomputeStats.add_assoc]
    rw [← next]
    cases computed : c.formula with
    | none =>
      rw [computationsFrom_source computed, Column.declared_source computed,
        Column.cellAfter_source computed, Column.effort_source computed, RecomputeStats.add_zero]
    | some formula =>
      rw [computationsFrom_computed computed, List.cons_append]
      exact advance_column computed (pass c List.mem_cons_self) aligned cell _

theorem advance_stop {c : Column} {formula : String} (computed : c.formula = some formula)
    (stopped : c.stops options env = true) (run : Recomputation) (index : Nat)
    (rest : List Computation) :
    advance options env run (⟨index, c.name, formula⟩ :: rest) =
      (run, some (.formula c.name (markedProblem (evaluate formula env).display))) := by
  simp only [Column.stops, computed, Option.any_some, Bool.and_eq_true] at stopped
  obtain ⟨stopOnError, marker⟩ := stopped
  rw [advance, CellResult.ofFormula, CellResult.ofValue]
  simp only [marker, stopOnError, if_true]

end Recomputation

theorem Record.get?_resize (r : Record) (width index : Nat) :
    (r.resize width).get? index = r.get? index := by
  unfold get? resize
  by_cases inside : index < r.cells.length
  · rw [List.getElem?_append_left inside]
  · rw [List.getElem?_append_right (by omega), List.getElem?_replicate,
      List.getElem?_eq_none (by omega)]
    split <;> rfl

theorem Record.width_resize {r : Record} {width : Nat} (fits : r.width ≤ width) :
    (r.resize width).width = width := by
  unfold Record.width at fits
  simp only [Record.width, resize, List.length_append, List.length_replicate]
  omega

namespace Table

variable (options : RecomputeOptions) (t : Table)

def declared (envs : List Environment) : Table :=
  ⟨t.name, t.columns.map (Column.declared options envs)⟩

def filled (r : Record) : Record :=
  ⟨List.zipWith (Column.cellAfter options (t.environment r)) t.columns (r.resize t.width).cells⟩

def filledIn (front : List Column) (r : Record) : Record :=
  ⟨List.zipWith (Column.cellAfter options (t.environment r)) front
      ((r.resize t.width).cells.take front.length) ++
    (r.resize t.width).cells.drop front.length⟩

def effort (envs : List Environment) : RecomputeStats :=
  .total (t.columns.map (Column.effort options envs))

/-- Nothing ends the run in this record. -/
structure Passes (r : Record) : Prop where
  fits : r.width ≤ t.width
  goesOn : ∀ c ∈ t.columns, c.stops options (t.environment r) = false

theorem computations_eq : t.computations = computationsFrom 0 t.columns := rfl

theorem environment_resize (r : Record) (width : Nat) :
    t.environment (r.resize width) = t.environment r := by
  simp only [environment, Record.get?_resize]

variable {options t} {r : Record}

theorem recompute_passes (passes : t.Passes options r) :
    t.recompute options r =
      (⟨t.declared options [t.environment r], t.filled options r,
        (⟨1, 0, 0, 0⟩ : RecomputeStats).add (t.effort options [t.environment r])⟩, none) := by
  obtain ⟨fits, pass⟩ := passes
  have grown := Record.width_resize fits
  have advanced := @Recomputation.advance_columns options (t.environment r) t.name []
    (r.resize t.width).cells [] t.columns ⟨1, 0, 0, 0⟩ [] [] [] rfl grown pass
  simp only [List.nil_append, List.append_nil, List.length_nil] at advanced
  rw [recompute, if_neg (by omega)]
  simp only [environment_resize, computations_eq]
  exact advanced

theorem length_le_width {front back : List Column} (found : t.columns = front ++ back) :
    front.length ≤ t.width := by
  rw [width, found, List.length_append]
  omega

theorem recompute_stops {front back : List Column} {c : Column} (fits : r.width ≤ t.width)
    (found : t.columns = front ++ c :: back)
    (pass : ∀ d ∈ front, d.stops options (t.environment r) = false)
    {formula : String} (computed : c.formula = some formula)
    (stopped : c.stops options (t.environment r) = true) :
    t.recompute options r =
      (⟨⟨t.name, front.map (Column.declared options [t.environment r]) ++ c :: back⟩,
        t.filledIn options front r,
        (⟨1, 0, 0, 0⟩ : RecomputeStats).add
          (.total (front.map (Column.effort options [t.environment r])))⟩,
        some (.formula c.name (markedProblem (evaluate formula (t.environment r)).display))) := by
  have grown : (r.resize t.width).cells.length = t.width := Record.width_resize fits
  have inside := length_le_width found
  have taken : ((r.resize t.width).cells.take front.length).length = front.length := by
    rw [List.length_take, grown]
    omega
  have advanced := @Recomputation.advance_columns options (t.environment r) t.name []
    ((r.resize t.width).cells.take front.length) [] front ⟨1, 0, 0, 0⟩ (c :: back)
    ((r.resize t.width).cells.drop front.length) (computationsFrom front.length (c :: back))
    rfl taken pass
  simp only [List.nil_append, List.length_nil, List.take_append_drop] at advanced
  rw [computationsFrom_computed computed, Recomputation.advance_stop computed stopped] at advanced
  rw [recompute, if_neg (by omega)]
  simp only [environment_resize, computations_eq]
  rw [found, computationsFrom_append, computationsFrom_computed computed, Nat.zero_add]
  rw [← found] at advanced
  exact advanced

theorem exists_first_stop {env : Environment} {cs : List Column}
    (stops : ∃ c ∈ cs, c.stops options env = true) :
    ∃ front c back formula, cs = front ++ c :: back ∧
      (∀ d ∈ front, d.stops options env = false) ∧ c.formula = some formula ∧
      c.stops options env = true := by
  cases found : cs.find? (Column.stops options env) with
  | none =>
    obtain ⟨c, member, stopped⟩ := stops
    exact absurd stopped (List.find?_eq_none.mp found c member)
  | some c =>
    obtain ⟨stopped, front, back, split, earlier⟩ := List.find?_eq_some_iff_append.mp found
    have pass : ∀ d ∈ front, d.stops options env = false := by
      intro d member
      simpa using earlier d member
    cases computed : c.formula with
    | none => simp [Column.stops, computed] at stopped
    | some formula => exact ⟨front, c, back, formula, split, pass, computed, stopped⟩

theorem passes_of_recompute (ok : (t.recompute options r).2 = none) : t.Passes options r := by
  have fits : r.width ≤ t.width := by
    rcases Nat.lt_or_ge t.width r.width with wide | fits
    · rw [recompute, if_pos wide] at ok
      cases ok
    · exact fits
  refine ⟨fits, ?_⟩
  intro c member
  rw [Bool.eq_false_iff]
  intro stops
  obtain ⟨front, d, back, formula, split, pass, computed, stopped⟩ :=
    exists_first_stop ⟨c, member, stops⟩
  rw [recompute_stops fits split pass computed stopped] at ok
  cases ok

end Table

end ComputedColumns
