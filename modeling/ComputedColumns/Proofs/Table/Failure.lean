import ComputedColumns.Proofs.Table.Batch

namespace ComputedColumns

/-- The formula of the column gives the marker of an error. -/
def Column.Marks (env : Environment) (c : Column) : Prop :=
  ∃ formula, c.formula = some formula ∧ (evaluate formula env).isErrorMarker = true

/-- The record is too wide, or one of its formulas gives a marker where markers end the run. -/
def Table.Fails (options : RecomputeOptions) (t : Table) (r : Record) : Prop :=
  t.width < r.width ∨
    options.stopOnError = true ∧ ∃ c ∈ t.columns, c.Marks (t.environment r)

/-- A record before and after a run that ended in the column at `limit`: grown to the width of the table,
with the results of the computed columns in front of `limit` and all else as it was. -/
structure StoppedAt (t : Table) (limit : Nat) (before after : Record) : Prop where
  width : after.width = t.width
  computed : ∀ index c formula, index < limit → t.columns[index]? = some c →
    c.formula = some formula →
    after.get? index = some (evaluate formula (t.environment before)).storedText
  source : ∀ index c, t.columns[index]? = some c → c.formula = none →
    after.get? index = before.get? index
  kept : ∀ index, limit ≤ index → after.get? index = before.get? index

/-- The table, the record and the error that a failing record leaves behind records with the environments
`envs`. Its own results declare types only in front of the column that ended the run. -/
inductive Halted (options : RecomputeOptions) (t : Table) (envs : List Environment) (r : Record) :
    Table → Record → TableError → Prop where
  | tooWide (wide : t.width < r.width) :
    Halted options t envs r (t.declared options envs) r (.recordWidth t.width r.width)
  | marked {front back : List Column} {c : Column} {formula problem : String} {stopped : Record}
      (fits : r.width ≤ t.width) (stopOnError : options.stopOnError = true)
      (found : t.columns = front ++ c :: back)
      (unmarked : ∀ d ∈ front, ¬ d.Marks (t.environment r)) (computed : c.formula = some formula)
      (marker : evaluate formula (t.environment r) = .text (errorMark ++ problem))
      (left : StoppedAt t front.length r stopped) :
    Halted options t envs r
      ⟨t.name, front.map (Column.declared options (envs ++ [t.environment r])) ++
        (c :: back).map (Column.declared options envs)⟩
      stopped (.formula c.name problem)

theorem Column.stops_iff {options : RecomputeOptions} {env : Environment} {c : Column} :
    c.stops options env = true ↔ options.stopOnError = true ∧ c.Marks env := by
  unfold stops Marks
  rw [Bool.and_eq_true, Option.any_eq_true]

theorem Value.marker_eq {v : Value} (marker : v.isErrorMarker = true) :
    v = .text (errorMark ++ markedProblem v.display) := by
  cases v with
  | text s =>
    have begins : errorMark.toList.isPrefixOf s.toList = true := marker
    obtain ⟨problem, split⟩ := List.isPrefixOf_iff_prefix.mp begins
    have length : errorMark.length = errorMark.toList.length := String.length_toList.symm
    have behind : markedProblem s = String.ofList problem := by
      rw [markedProblem, if_pos begins, ← split, length, List.drop_left]
    have whole : s = errorMark ++ String.ofList problem := by
      apply String.toList_inj.mp
      rw [String.toList_append, String.toList_ofList, split]
    rw [display, behind, ← whole]
  | _ => cases marker

namespace Table

variable {options : RecomputeOptions} {t : Table} {r : Record}

theorem not_fails_iff : ¬ t.Fails options r ↔ t.Passes options r := by
  constructor
  · intro fine
    refine ⟨Nat.le_of_not_lt fun wide => fine (.inl wide), ?_⟩
    intro c member
    rw [Bool.eq_false_iff, Ne, Column.stops_iff]
    rintro ⟨stopOnError, marks⟩
    exact fine (.inr ⟨stopOnError, c, member, marks⟩)
  · rintro ⟨fits, goesOn⟩ (wide | ⟨stopOnError, c, member, marks⟩)
    · omega
    · have stopped := Column.stops_iff.mpr ⟨stopOnError, marks⟩
      rw [goesOn c member] at stopped
      cases stopped

theorem exists_stop_of_fails (fits : r.width ≤ t.width) (fails : t.Fails options r) :
    ∃ c ∈ t.columns, c.stops options (t.environment r) = true := by
  rcases fails with wide | ⟨stopOnError, c, member, marks⟩
  · omega
  · exact ⟨c, member, Column.stops_iff.mpr ⟨stopOnError, marks⟩⟩

theorem filledIn_of_untyped {t' : Table} {front front' : List Column}
    (same : t'.untyped = t.untyped)
    (fronts : front'.map Column.untyped = front.map Column.untyped) :
    t'.filledIn options front' r = t.filledIn options front r := by
  have length : front'.length = front.length := by simpa using congrArg List.length fronts
  rw [filledIn, environment_of_untyped same, width_of_untyped same, length,
    ← Column.zipWith_cellAfter_untyped, fronts, Column.zipWith_cellAfter_untyped, filledIn]

theorem get?_filledIn {front back : List Column} (found : t.columns = front ++ back)
    {index : Nat} {c : Column} (listed : t.columns[index]? = some c) (early : index < front.length) :
    (t.filledIn options front r).get? index =
      c.cellAfter options (t.environment r) (r.get? index) := by
  have inside : index < t.width := (List.getElem?_eq_some_iff.mp listed).1
  have first : front[index]? = some c := by
    rw [← listed, found, List.getElem?_append_left early]
  have cell : ((r.resize t.width).cells.take front.length)[index]? = some (r.get? index) := by
    rw [List.getElem?_take_of_lt early, Record.cell_resize r inside]
  have zipped : (List.zipWith (Column.cellAfter options (t.environment r)) front
      ((r.resize t.width).cells.take front.length))[index]? =
        some (c.cellAfter options (t.environment r) (r.get? index)) := by
    rw [List.getElem?_zipWith, first, cell]
  rw [Record.get?, filledIn, List.getElem?_append_left (List.getElem?_eq_some_iff.mp zipped).1,
    zipped, Option.join_some]

theorem length_front (options : RecomputeOptions) (fits : r.width ≤ t.width)
    {front back : List Column} (found : t.columns = front ++ back) :
    (List.zipWith (Column.cellAfter options (t.environment r)) front
      ((r.resize t.width).cells.take front.length)).length = front.length := by
  have grown : (r.resize t.width).cells.length = t.width := Record.width_resize fits
  have inside := length_le_width found
  rw [List.length_zipWith, List.length_take, grown]
  omega

theorem get?_filledIn_behind {front back : List Column} (fits : r.width ≤ t.width)
    (found : t.columns = front ++ back) {index : Nat} (late : front.length ≤ index) :
    (t.filledIn options front r).get? index = r.get? index := by
  have length := length_front options fits found
  rw [← Record.get?_resize r t.width index, Record.get?, Record.get?, filledIn,
    List.getElem?_append_right (by omega), length, List.getElem?_drop, Nat.add_sub_cancel' late]

theorem get?_filledIn_source {front back : List Column} (fits : r.width ≤ t.width)
    (found : t.columns = front ++ back) {index : Nat} {c : Column}
    (listed : t.columns[index]? = some c) (source : c.formula = none) :
    (t.filledIn options front r).get? index = r.get? index := by
  rcases Nat.lt_or_ge index front.length with early | late
  · rw [get?_filledIn found listed early, Column.cellAfter_source source]
  · exact get?_filledIn_behind fits found late

theorem width_filledIn {front back : List Column} (fits : r.width ≤ t.width)
    (found : t.columns = front ++ back) : (t.filledIn options front r).width = t.width := by
  have grown : (r.resize t.width).cells.length = t.width := Record.width_resize fits
  have inside := length_le_width found
  rw [Record.width, filledIn, List.length_append, length_front options fits found,
    List.length_drop, grown]
  omega

theorem stoppedAt_filledIn {front back : List Column} (fits : r.width ≤ t.width)
    (found : t.columns = front ++ back) (unmarked : ∀ d ∈ front, ¬ d.Marks (t.environment r)) :
    StoppedAt t front.length r (t.filledIn options front r) where
  width := width_filledIn fits found
  computed index c formula early listed computed := by
    have member : c ∈ front := by
      rw [found, List.getElem?_append_left early] at listed
      exact List.mem_of_getElem? listed
    have value : ¬ (evaluate formula (t.environment r)).isErrorMarker = true :=
      fun marker => unmarked c member ⟨formula, computed, marker⟩
    rw [get?_filledIn found listed early]
    simp [Column.cellAfter, computed, value]
  source _ _ listed source := get?_filledIn_source fits found listed source
  kept _ late := get?_filledIn_behind fits found late

theorem recompute_stops_declared {front back : List Column} {c : Column} (fits : r.width ≤ t.width)
    (found : t.columns = front ++ c :: back)
    (pass : ∀ d ∈ front, d.stops options (t.environment r) = false)
    {formula : String} (computed : c.formula = some formula)
    (stopped : c.stops options (t.environment r) = true) (envs : List Environment) :
    ∃ stats, (t.declared options envs).recompute options r =
      (⟨⟨t.name, front.map (Column.declared options (envs ++ [t.environment r])) ++
          (c :: back).map (Column.declared options envs)⟩, t.filledIn options front r, stats⟩,
        some (.formula c.name (markedProblem (evaluate formula (t.environment r)).display))) := by
  have declaredFits : r.width ≤ (t.declared options envs).width := by rwa [width_declared]
  have declaredFound : (t.declared options envs).columns =
      front.map (Column.declared options envs) ++
        c.declared options envs :: back.map (Column.declared options envs) := by
    rw [declared, found, List.map_append, List.map_cons]
  have declaredPass : ∀ d ∈ front.map (Column.declared options envs),
      d.stops options ((t.declared options envs).environment r) = false := by
    rw [environment_declared, List.forall_mem_map]
    intro d member
    rw [Column.stops_declared, pass d member]
  have ended := recompute_stops declaredFits declaredFound declaredPass
    ((Column.declared_formula options c envs).trans computed)
    (by rw [environment_declared, Column.stops_declared, stopped])
  have fronts : (front.map (Column.declared options envs)).map Column.untyped =
      front.map Column.untyped := by
    simp only [List.map_map, Function.comp_def, Column.untyped_declared]
  rw [filledIn_of_untyped (untyped_declared options t envs) fronts] at ended
  simp only [environment_declared, List.map_map, Function.comp_def, Column.declared_append,
    Column.declared_name] at ended
  exact ⟨_, ended⟩

theorem recompute_halts (fails : t.Fails options r) (envs : List Environment) :
    ∃ run e, (t.declared options envs).recompute options r = (run, some e) ∧
      Halted options t envs r run.table run.record e := by
  rcases Nat.lt_or_ge t.width r.width with wide | fits
  · have wider : (t.declared options envs).width < r.width := by rwa [width_declared]
    refine ⟨_, _, by rw [recompute, if_pos wider], ?_⟩
    rw [width_declared]
    exact .tooWide wide
  · obtain ⟨front, c, back, formula, found, pass, computed, stopped⟩ :=
      exists_first_stop (exists_stop_of_fails fits fails)
    obtain ⟨stopOnError, formula', same, marker⟩ := Column.stops_iff.mp stopped
    obtain rfl : formula = formula' := Option.some.inj (computed.symm.trans same)
    have unmarked : ∀ d ∈ front, ¬ d.Marks (t.environment r) := by
      intro d member marks
      have stops := Column.stops_iff.mpr ⟨stopOnError, marks⟩
      rw [pass d member] at stops
      cases stops
    obtain ⟨stats, ended⟩ := recompute_stops_declared fits found pass computed stopped envs
    exact ⟨_, _, ended, .marked fits stopOnError found unmarked computed (Value.marker_eq marker)
      (stoppedAt_filledIn fits found unmarked)⟩

/-- The run fails exactly if some record does. It ends at the first of them: the records before are
recomputed as they are by themselves, the failing one is left as `Halted` says, and those behind are not
touched. -/
theorem recomputeAll_failure (options : RecomputeOptions) (t : Table) (rs : List Record) :
    ((∃ e, (t.recomputeAll options rs).outcome = .error e) ↔ ∃ r ∈ rs, t.Fails options r) ∧
    ∀ done r rest, rs = done ++ r :: rest → (∀ d ∈ done, ¬ t.Fails options d) →
      t.Fails options r →
      ∃ before stats after left e,
        t.recomputeAll options done =
          ⟨t.declared options (done.map t.environment), before, .ok stats⟩ ∧
        List.Forall₂ (Recomputed options t) done before ∧
        t.recomputeAll options rs = ⟨after, before ++ left :: rest, .error e⟩ ∧
        Halted options t (done.map t.environment) r after left e := by
  refine ⟨⟨?_, ?_⟩, ?_⟩
  · rintro ⟨e, failed⟩
    by_contra none
    have passes : ∀ r ∈ rs, t.Passes options r := by
      intro r member
      exact not_fails_iff.mp fun fails => none ⟨r, member, fails⟩
    rw [recomputeAll_passes passes] at failed
    cases failed
  · rintro ⟨r, member, fails⟩
    cases ended : (t.recomputeAll options rs).outcome with
    | error e => exact ⟨e, rfl⟩
    | ok stats => exact absurd fails (not_fails_iff.mpr (passes_of_recomputeAll ended r member))
  · intro done r rest split passed fails
    have passes : ∀ d ∈ done, t.Passes options d := fun d member =>
      not_fails_iff.mp (passed d member)
    have recomputed : List.Forall₂ (Recomputed options t) done (done.map (t.filled options)) := by
      rw [List.forall₂_map_right_iff, List.forall₂_same]
      exact fun d member => filled_recomputed (passes d member).fits
    obtain ⟨run, e, ended, halted⟩ := recompute_halts fails (done.map t.environment)
    have whole := recomputeAll_append passes (r :: rest)
    rw [← split, recomputeAll, ended] at whole
    exact ⟨_, _, run.table, run.record, e, recomputeAll_passes passes, recomputed, whole, halted⟩

end Table

end ComputedColumns
