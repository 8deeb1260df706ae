import ComputedColumns.Proofs.Table.Failure

namespace ComputedColumns

namespace RecomputeStats

def work (stats : RecomputeStats) : RecomputeStats := { stats with typeChanges := 0 }

theorem work_add (a b : RecomputeStats) : (a.add b).work = a.work.add b.work := rfl

theorem work_total (counts : List RecomputeStats) : (total counts).work = total (counts.map work) := by
  induction counts with
  | nil => rfl
  | cons a rest ih => rw [total, work_add, ih, List.map_cons, total]

theorem typeChanges_total {counts : List RecomputeStats} (none : ∀ a ∈ counts, a.typeChanges = 0) :
    (total counts).typeChanges = 0 := by
  induction counts with
  | nil => rfl
  | cons a rest ih =>
    have first := none a List.mem_cons_self
    have others := ih fun b member => none b (List.mem_cons_of_mem _ member)
    rw [total, add, first, others]

end RecomputeStats

namespace Column

variable (options : RecomputeOptions) (c : Column)

theorem cellAfter_cellAfter (env : Environment) (cell : Option String) :
    c.cellAfter options env (c.cellAfter options env cell) = c.cellAfter options env cell := by
  unfold cellAfter
  cases c.formula with
  | none => rfl
  | some formula =>
    dsimp only
    split <;> rfl

theorem zipWith_cellAfter_again (env : Environment) (cs : List Column)
    (cells : List (Option String)) :
    List.zipWith (Column.cellAfter options env) cs
        (List.zipWith (Column.cellAfter options env) cs cells) =
      List.zipWith (Column.cellAfter options env) cs cells := by
  induction cs generalizing cells with
  | nil => rfl
  | cons c cs ih =>
    cases cells with
    | nil => rfl
    | cons cell cells => simp only [List.zipWith_cons_cons, cellAfter_cellAfter, ih]

theorem getLastD_getLastD {α : Type} (a : α) (xs : List α) :
    xs.getLastD (xs.getLastD a) = xs.getLastD a := by
  cases xs <;> rfl

theorem declared_declared (envs : List Environment) :
    (c.declared options envs).declared options envs = c.declared options envs := by
  have types := resultTypes_declared options c envs envs
  cases kept : options.updateTypes with
  | false => simp [declared, kept]
  | true =>
    simp only [declared, kept, if_true] at types ⊢
    rw [types, getLastD_getLastD]

theorem work_effort_declared (envs later : List Environment) :
    ((c.declared options envs).effort options later).work = (c.effort options later).work := by
  have formulas := declared_formula options c envs
  cases computed : c.formula with
  | none => rw [declared_source computed]
  | some formula =>
    rw [computed] at formulas
    simp only [effort, formulas, computed, RecomputeStats.work]

theorem typeChanges_declared (env : Environment) :
    ((c.declared options [env]).effort options [env]).typeChanges = 0 := by
  have formulas := declared_formula options c [env]
  cases computed : c.formula with
  | none =>
    rw [declared_source computed, effort_source computed]
    rfl
  | some formula =>
    rw [computed] at formulas
    cases kept : options.updateTypes with
    | false => simp [effort, formulas, kept]
    | true =>
      cases marker : (evaluate formula env).isErrorMarker with
      | true =>
        simp [effort, formulas, kept, resultTypes_of_marker formulas marker, changes]
      | false =>
        have type : (c.declared options [env]).type = (evaluate formula env).columnType := by
          simp [declared, kept, resultTypes_of_value computed marker]
        simp [effort, formulas, kept, resultTypes_of_value formulas marker, type, changes]

end Column

theorem Record.resize_of_width {r : Record} {width : Nat} (full : r.width = width) :
    r.resize width = r := by
  simp [resize, full]

namespace Table

variable {options : RecomputeOptions} {t : Table} {r : Record}

theorem environment_congr {after : Record}
    (same : ∀ index c, t.columns[index]? = some c → c.formula = none →
      after.get? index = r.get? index) : t.environment after = t.environment r := by
  unfold environment
  congr 1
  apply List.map_congr_left
  rintro ⟨c, index⟩ member
  obtain ⟨found, source⟩ := mem_sources.mp member
  dsimp only
  rw [same index c found source]

theorem filled_eq_filledIn (fits : r.width ≤ t.width) :
    t.filled options r = t.filledIn options t.columns r := by
  have grown : (r.resize t.width).cells.length = t.columns.length := Record.width_resize fits
  rw [filled, filledIn, ← grown, List.take_length, List.drop_length, List.append_nil]

theorem environment_filledIn {front back : List Column} (fits : r.width ≤ t.width)
    (found : t.columns = front ++ back) :
    t.environment (t.filledIn options front r) = t.environment r := by
  apply environment_congr
  intro index c listed source
  exact get?_filledIn_source fits found listed source

theorem filledIn_filledIn {front back : List Column} (fits : r.width ≤ t.width)
    (found : t.columns = front ++ back) :
    t.filledIn options front (t.filledIn options front r) = t.filledIn options front r := by
  have full : (t.filledIn options front r).width = t.width := width_filledIn fits found
  have length := length_front options fits found
  rw [filledIn, environment_filledIn fits found, Record.resize_of_width full, filledIn,
    List.take_left' length, List.drop_left' length, Column.zipWith_cellAfter_again]

variable (options) in
theorem environment_filled (fits : r.width ≤ t.width) :
    t.environment (t.filled options r) = t.environment r := by
  rw [filled_eq_filledIn fits]
  exact environment_filledIn fits (List.append_nil _).symm

variable (options) in
theorem width_filled (fits : r.width ≤ t.width) : (t.filled options r).width = t.width := by
  rw [filled_eq_filledIn fits]
  exact width_filledIn fits (List.append_nil _).symm

theorem filled_filled (fits : r.width ≤ t.width) :
    t.filled options (t.filled options r) = t.filled options r := by
  have full : (t.filled options r).width ≤ t.width := Nat.le_of_eq (width_filled options fits)
  rw [filled_eq_filledIn full, filled_eq_filledIn fits]
  exact filledIn_filledIn fits (List.append_nil _).symm

theorem passes_filled (passes : t.Passes options r) : t.Passes options (t.filled options r) where
  fits := Nat.le_of_eq (width_filled options passes.fits)
  goesOn := by
    rw [environment_filled options passes.fits]
    exact passes.goesOn

theorem declared_declared (envs : List Environment) :
    (t.declared options envs).declared options envs = t.declared options envs := by
  simp only [declared, List.map_map, Function.comp_def, Column.declared_declared]

theorem map_environment_filled {t' : Table} (same : t'.untyped = t.untyped) {rs : List Record}
    (passes : ∀ r ∈ rs, t.Passes options r) :
    (rs.map (t.filled options)).map t'.environment = rs.map t.environment := by
  rw [environment_of_untyped same, List.map_map]
  apply List.map_congr_left
  intro r member
  exact environment_filled options (passes r member).fits

theorem map_filled_filled {t' : Table} (same : t'.untyped = t.untyped) {rs : List Record}
    (passes : ∀ r ∈ rs, t.Passes options r) :
    (rs.map (t.filled options)).map (t'.filled options) = rs.map (t.filled options) := by
  rw [filled_of_untyped same, List.map_map]
  apply List.map_congr_left
  intro r member
  exact filled_filled (passes r member).fits

theorem forall_passes_filled {t' : Table} (same : t'.untyped = t.untyped) {rs : List Record}
    (passes : ∀ r ∈ rs, t.Passes options r) :
    ∀ r ∈ rs.map (t.filled options), t'.Passes options r := by
  rw [List.forall_mem_map]
  intro r member
  exact (passes_of_untyped same).mpr (passes_filled (passes r member))

theorem recomputeAll_wide {done : List Record} (passes : ∀ d ∈ done, t.Passes options d)
    (wide : t.width < r.width) (rest : List Record) :
    t.recomputeAll options (done ++ r :: rest) =
      ⟨t.declared options (done.map t.environment), done.map (t.filled options) ++ r :: rest,
        .error (.recordWidth t.width r.width)⟩ := by
  have wider : (t.declared options (done.map t.environment)).width < r.width := by
    rwa [width_declared]
  rw [recomputeAll_append passes, recomputeAll, recompute, if_pos wider, width_declared]
  rfl

theorem recomputeAll_stops {done : List Record} (passes : ∀ d ∈ done, t.Passes options d)
    {front back : List Column} {c : Column} {formula : String} (fits : r.width ≤ t.width)
    (found : t.columns = front ++ c :: back)
    (pass : ∀ d ∈ front, d.stops options (t.environment r) = false)
    (computed : c.formula = some formula) (stopped : c.stops options (t.environment r) = true)
    (rest : List Record) :
    t.recomputeAll options (done ++ r :: rest) =
      ⟨⟨t.name,
          front.map (Column.declared options (done.map t.environment ++ [t.environment r])) ++
            (c :: back).map (Column.declared options (done.map t.environment))⟩,
        done.map (t.filled options) ++ t.filledIn options front r :: rest,
        .error (.formula c.name
          (markedProblem (evaluate formula (t.environment r)).display))⟩ := by
  obtain ⟨stats, ended⟩ :=
    recompute_stops_declared fits found pass computed stopped (done.map t.environment)
  rw [recomputeAll_append passes, recomputeAll, ended]
  rfl

def BatchResult.again (options : RecomputeOptions) (first : BatchResult) : BatchResult :=
  first.table.recomputeAll options first.records

variable {rs done : List Record}

theorem again_wide (passes : ∀ d ∈ done, t.Passes options d) (wide : t.width < r.width)
    (rest : List Record) :
    (t.recomputeAll options (done ++ r :: rest)).again options =
      t.recomputeAll options (done ++ r :: rest) := by
  have same := untyped_declared options t (done.map t.environment)
  have wider : (t.declared options (done.map t.environment)).width < r.width := by
    rwa [width_of_untyped same]
  rw [recomputeAll_wide passes wide, BatchResult.again,
    recomputeAll_wide (forall_passes_filled same passes) wider,
    map_environment_filled same passes, map_filled_filled same passes, declared_declared,
    width_of_untyped same]

theorem again_stops (passes : ∀ d ∈ done, t.Passes options d) {front back : List Column}
    {c : Column} {formula : String} (fits : r.width ≤ t.width)
    (found : t.columns = front ++ c :: back)
    (pass : ∀ d ∈ front, d.stops options (t.environment r) = false)
    (computed : c.formula = some formula) (stopped : c.stops options (t.environment r) = true)
    (rest : List Record) :
    (t.recomputeAll options (done ++ r :: rest)).again options =
      t.recomputeAll options (done ++ r :: rest) := by
  -- The table that the first run leaves, with the failing column where it was.
  obtain ⟨left, leaves⟩ : ∃ left : Table, left =
      ⟨t.name, front.map (Column.declared options (done.map t.environment ++ [t.environment r])) ++
        (c :: back).map (Column.declared options (done.map t.environment))⟩ := ⟨_, rfl⟩
  have same : left.untyped = t.untyped := by
    simp only [leaves, untyped, found, List.map_append, List.map_map, Function.comp_def,
      Column.untyped_declared]
  have environment : left.environment (t.filledIn options front r) = t.environment r := by
    rw [environment_of_untyped same, environment_filledIn fits found]
  have fitsAgain : (t.filledIn options front r).width ≤ left.width := by
    rw [width_of_untyped same, width_filledIn fits found]
  have foundAgain : left.columns =
      front.map (Column.declared options (done.map t.environment ++ [t.environment r])) ++
        c.declared options (done.map t.environment) ::
          back.map (Column.declared options (done.map t.environment)) := by
    rw [leaves, List.map_cons]
  have passAgain :
      ∀ d ∈ front.map (Column.declared options (done.map t.environment ++ [t.environment r])),
        d.stops options (left.environment (t.filledIn options front r)) = false := by
    rw [environment, List.forall_mem_map]
    intro d member
    rw [Column.stops_declared, pass d member]
  have fronts :
      (front.map (Column.declared options (done.map t.environment ++ [t.environment r]))).map
        Column.untyped = front.map Column.untyped := by
    simp only [List.map_map, Function.comp_def, Column.untyped_declared]
  have first := recomputeAll_stops passes fits found pass computed stopped rest
  have second := recomputeAll_stops (forall_passes_filled same passes) fitsAgain foundAgain passAgain
    ((Column.declared_formula options c _).trans computed)
    (by rw [environment, Column.stops_declared, stopped]) rest
  rw [environment, map_environment_filled same passes, map_filled_filled same passes,
    filledIn_of_untyped same fronts, filledIn_filledIn fits found, Column.declared_name] at second
  rw [first, BatchResult.again, ← leaves, second, leaves]
  simp only [List.map_map, Function.comp_def, Column.declared_declared, List.map_cons]

theorem again_passes (passes : ∀ r ∈ rs, t.Passes options r) :
    (t.recomputeAll options rs).again options =
      ⟨t.declared options (rs.map t.environment), rs.map (t.filled options),
        .ok ((⟨rs.length, 0, 0, 0⟩ : RecomputeStats).add
          ((t.declared options (rs.map t.environment)).effort options (rs.map t.environment)))⟩ := by
  have same := untyped_declared options t (rs.map t.environment)
  rw [recomputeAll_passes passes, BatchResult.again,
    recomputeAll_passes (forall_passes_filled same passes), map_environment_filled same passes,
    map_filled_filled same passes, declared_declared, List.length_map]

theorem work_effort_declared (envs later : List Environment) :
    ((t.declared options envs).effort options later).work = (t.effort options later).work := by
  simp only [effort, declared, RecomputeStats.work_total, List.map_map, Function.comp_def,
    Column.work_effort_declared]

theorem typeChanges_declared (env : Environment) :
    ((t.declared options [env]).effort options [env]).typeChanges = 0 := by
  apply RecomputeStats.typeChanges_total
  simp only [declared, List.forall_mem_map]
  intro c _
  exact c.typeChanges_declared options env

theorem exists_first_failure (options : RecomputeOptions) (t : Table) (rs : List Record) :
    (∀ r ∈ rs, t.Passes options r) ∨
      ∃ done r rest, rs = done ++ r :: rest ∧ (∀ d ∈ done, t.Passes options d) ∧
        t.Fails options r := by
  induction rs with
  | nil => exact .inl (by simp)
  | cons r rs ih =>
    by_cases fails : t.Fails options r
    · exact .inr ⟨[], r, rs, rfl, by simp, fails⟩
    · have first := not_fails_iff.mp fails
      rcases ih with passes | ⟨done, s, rest, rfl, passes, fails⟩
      · exact .inl (List.forall_mem_cons.mpr ⟨first, passes⟩)
      · exact .inr ⟨r :: done, s, rest, rfl, List.forall_mem_cons.mpr ⟨first, passes⟩, fails⟩

theorem again_fails (passes : ∀ d ∈ done, t.Passes options d) (fails : t.Fails options r)
    (rest : List Record) :
    (t.recomputeAll options (done ++ r :: rest)).again options =
      t.recomputeAll options (done ++ r :: rest) := by
  rcases Nat.lt_or_ge t.width r.width with wide | fits
  · exact again_wide passes wide rest
  · obtain ⟨front, c, back, formula, found, pass, computed, stopped⟩ :=
      exists_first_stop (exists_stop_of_fails fits fails)
    exact again_stops passes fits found pass computed stopped rest

/-- A second run leaves the table and the records as they are and ends as the first did: with the same
error, or with the same counts but for the changes of types, of which a single record has none. -/
theorem recomputeAll_again (options : RecomputeOptions) (t : Table) (rs : List Record) :
    ((t.recomputeAll options rs).again options).table = (t.recomputeAll options rs).table ∧
    ((t.recomputeAll options rs).again options).records = (t.recomputeAll options rs).records ∧
    ((t.recomputeAll options rs).again options).outcome.map RecomputeStats.work =
      (t.recomputeAll options rs).outcome.map RecomputeStats.work ∧
    ∀ r stats, rs = [r] → ((t.recomputeAll options rs).again options).outcome = .ok stats →
      stats.typeChanges = 0 := by
  rcases exists_first_failure options t rs with passes | ⟨done, r, rest, rfl, passes, fails⟩
  · have first := recomputeAll_passes passes
    rw [again_passes passes, first]
    refine ⟨rfl, rfl, ?_, ?_⟩
    · simp only [Except.map, RecomputeStats.work_add, work_effort_declared]
    · rintro r stats rfl ok
      obtain rfl := Except.ok.inj ok
      exact (Nat.zero_add _).trans (typeChanges_declared (t.environment r))
  · have same := again_fails passes fails rest
    rw [same]
    refine ⟨rfl, rfl, rfl, ?_⟩
    intro _ stats _ ok
    exact absurd fails (not_fails_iff.mpr (passes_of_recomputeAll ok r (by simp)))

end Table

end ComputedColumns
