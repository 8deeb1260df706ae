import ComputedColumns.Proofs.Outcome
import ComputedColumns.Proofs.Table.Recomputation
import Mathlib.Algebra.Ring.Nat
import Mathlib.Data.List.Forall2

namespace ComputedColumns

namespace Column

variable (options : RecomputeOptions) (c : Column) (envs : List Environment)

def untyped : Column := if c.formula = none then c else { c with type := .text }

theorem untyped_source {c : Column} (source : c.formula = none) : c.untyped = c := if_pos source

@[simp] theorem untyped_formula : c.untyped.formula = c.formula := by
  unfold untyped
  split <;> rfl

theorem untyped_declared : (c.declared options envs).untyped = c.untyped := by
  cases computed : c.formula with
  | none => rw [declared_source computed]
  | some formula =>
    have formulas := declared_formula options c envs
    simp only [untyped, formulas, computed, reduceCtorEq, if_false]
    unfold declared
    split <;> rfl

theorem cellAfter_untyped (env : Environment) :
    c.untyped.cellAfter options env = c.cellAfter options env := by
  funext cell
  simp only [cellAfter, untyped_formula]

theorem zipWith_cellAfter_untyped (env : Environment) (cs : List Column)
    (cells : List (Option String)) :
    List.zipWith (Column.cellAfter options env) (cs.map Column.untyped) cells =
      List.zipWith (Column.cellAfter options env) cs cells := by
  simp only [List.zipWith_map_left, cellAfter_untyped]

theorem stops_untyped (env : Environment) : c.untyped.stops options env = c.stops options env := by
  simp only [stops, untyped_formula]

theorem stops_declared (env : Environment) :
    (c.declared options envs).stops options env = c.stops options env := by
  rw [← stops_untyped, untyped_declared, stops_untyped]

theorem effort_nil : Column.effort options [] = fun _ => .zero := by
  funext c
  cases computed : c.formula with
  | none => exact effort_source computed []
  | some formula => simp [effort, computed, resultTypes, changes, RecomputeStats.zero]

end Column

namespace RecomputeStats

theorem total_map_add (f g : Column → RecomputeStats) (cs : List Column) :
    total (cs.map fun c => (f c).add (g c)) = (total (cs.map f)).add (total (cs.map g)) := by
  induction cs with
  | nil => rfl
  | cons c cs ih =>
    simp only [List.map_cons, total, ih]
    simp only [add, mk.injEq]
    omega

theorem total_map_zero (cs : List Column) : total (cs.map fun _ => zero) = zero := by
  induction cs with
  | nil => rfl
  | cons c cs ih => rw [List.map_cons, total, ih, add_zero]

end RecomputeStats

theorem total_effort (options : RecomputeOptions) (envs : List Environment) (position : Nat)
    (cs : List Column) :
    RecomputeStats.total (cs.map (Column.effort options envs)) =
      ⟨0, envs.length * (computationsFrom position cs).length,
        ((computationsFrom position cs).map fun c =>
          envs.countP fun env => (evaluate c.formula env).isErrorMarker).sum,
        if options.updateTypes then
          (cs.map fun c => Column.changes (c.type :: c.resultTypes envs)).sum
        else 0⟩ := by
  induction cs generalizing position with
  | nil => simp [RecomputeStats.total, RecomputeStats.zero, computationsFrom]
  | cons c cs ih =>
    rw [List.map_cons, RecomputeStats.total, ih (position + 1)]
    cases computed : c.formula with
    | none =>
      have untyped : c.resultTypes envs = [] := by simp [Column.resultTypes, computed]
      rw [Column.effort_source computed, RecomputeStats.zero_add, computationsFrom_source computed]
      simp [untyped, Column.changes]
    | some formula =>
      rw [computationsFrom_computed computed]
      simp only [Column.effort, computed, RecomputeStats.add, List.length_cons, List.map_cons,
        List.sum_cons, RecomputeStats.mk.injEq, Nat.mul_add, Nat.mul_one, Nat.add_zero, true_and]
      refine ⟨Nat.add_comm _ _, ?_⟩
      split <;> rfl

theorem Record.cell_resize (r : Record) {width index : Nat} (inside : index < width) :
    (r.resize width).cells[index]? = some (r.get? index) := by
  rw [← Record.get?_resize r width index, Record.get?]
  have grown : index < (r.resize width).cells.length := by
    simp only [resize, List.length_append, List.length_replicate, Record.width]
    omega
  rw [List.getElem?_eq_getElem grown]
  rfl

/-- A record before and after: source columns keep their cells, the others have what their formulas
give for the cells before. -/
structure Recomputed (options : RecomputeOptions) (t : Table) (before after : Record) : Prop where
  width : after.width = t.width
  source : ∀ index c, t.columns[index]? = some c → c.formula = none →
    after.get? index = before.get? index
  computed : ∀ index c formula, t.columns[index]? = some c → c.formula = some formula →
    after.get? index =
      if (evaluate formula (t.environment before)).isErrorMarker && options.skipMarkers then
        before.get? index
      else some (evaluate formula (t.environment before)).storedText

namespace Table

variable (options : RecomputeOptions) (t : Table) (envs : List Environment)

def untyped : Table := ⟨t.name, t.columns.map Column.untyped⟩

theorem width_untyped : t.untyped.width = t.width := by
  simp only [width, untyped, List.length_map]

variable {t} in
theorem mem_sources {c : Column} {index : Nat} :
    (c, index) ∈ t.sources ↔ t.columns[index]? = some c ∧ c.formula = none := by
  rw [sources, List.mem_filter, List.mem_zipIdx_iff_getElem?]
  simp

theorem sources_untyped : t.untyped.sources = t.sources := by
  have unchanged : ∀ entry ∈ t.columns.zipIdx.filter (·.1.formula.isNone),
      Prod.map Column.untyped id entry = entry := by
    rintro ⟨c, index⟩ member
    have source : c.formula = none := by simpa using (List.mem_filter.mp member).2
    simp only [Prod.map, Column.untyped_source source, id]
  have tested : ((·.1.formula.isNone) ∘ Prod.map Column.untyped id : Column × Nat → Bool) =
      (·.1.formula.isNone) := by
    funext entry
    simp only [Function.comp, Prod.map, Column.untyped_formula]
  simp only [sources, untyped, List.zipIdx_map, List.filter_map, tested]
  exact (List.map_congr_left unchanged).trans (List.map_id _)

theorem untyped_declared : (t.declared options envs).untyped = t.untyped := by
  simp only [untyped, declared, List.map_map, Function.comp_def, Column.untyped_declared]

section Retyped

variable {options t} {t' : Table} (same : t'.untyped = t.untyped)
include same

theorem width_of_untyped : t'.width = t.width := by
  rw [← width_untyped t', same, width_untyped]

theorem environment_of_untyped : t'.environment = t.environment := by
  funext r
  rw [environment, ← sources_untyped t', same, sources_untyped, environment]

theorem filled_of_untyped : t'.filled options = t.filled options := by
  funext r
  have columns : t'.columns.map Column.untyped = t.columns.map Column.untyped :=
    congrArg Table.columns same
  rw [filled, environment_of_untyped same, width_of_untyped same,
    ← Column.zipWith_cellAfter_untyped, columns, Column.zipWith_cellAfter_untyped, filled]

theorem passes_of_untyped {r : Record} : t'.Passes options r ↔ t.Passes options r := by
  have columns : t'.columns.map Column.untyped = t.columns.map Column.untyped :=
    congrArg Table.columns same
  have untypedStops : ∀ cs : List Column,
      (∀ c ∈ cs, c.stops options (t.environment r) = false) ↔
        ∀ c ∈ cs.map Column.untyped, c.stops options (t.environment r) = false := by
    intro cs
    simp only [List.forall_mem_map, Column.stops_untyped]
  have stops : (∀ c ∈ t'.columns, c.stops options (t'.environment r) = false) ↔
      ∀ c ∈ t.columns, c.stops options (t.environment r) = false := by
    rw [environment_of_untyped same, untypedStops, columns, ← untypedStops]
  constructor
  · rintro ⟨fits, goesOn⟩
    rw [width_of_untyped same] at fits
    exact ⟨fits, stops.mp goesOn⟩
  · rintro ⟨fits, goesOn⟩
    refine ⟨?_, stops.mpr goesOn⟩
    rwa [width_of_untyped same]

end Retyped

theorem width_declared : (t.declared options envs).width = t.width :=
  width_of_untyped (untyped_declared options t envs)

theorem environment_declared : (t.declared options envs).environment = t.environment :=
  environment_of_untyped (untyped_declared options t envs)

theorem filled_declared : (t.declared options envs).filled options = t.filled options :=
  filled_of_untyped (untyped_declared options t envs)

theorem declared_nil : t.declared options [] = t := by
  simp only [declared, Column.declared_nil, List.map_id]

theorem declared_cons (env : Environment) :
    (t.declared options [env]).declared options envs = t.declared options (env :: envs) := by
  simp only [declared, List.map_map, Function.comp_def, Column.declared_cons]

theorem effort_nil : t.effort options [] = .zero := by
  simp only [effort, Column.effort_nil, RecomputeStats.total_map_zero]

theorem effort_cons (env : Environment) :
    t.effort options (env :: envs) =
      (t.effort options [env]).add ((t.declared options [env]).effort options envs) := by
  have each : Column.effort options (env :: envs) = fun c =>
      (c.effort options [env]).add ((c.declared options [env]).effort options envs) :=
    funext fun c => Column.effort_cons options c env envs
  simp only [effort, declared, each, RecomputeStats.total_map_add, List.map_map, Function.comp_def]

variable {options t envs} {rs : List Record} {stats : RecomputeStats}

theorem passes_declared {r : Record} :
    (t.declared options envs).Passes options r ↔ t.Passes options r :=
  passes_of_untyped (untyped_declared options t envs)

theorem recomputeAll_append (passes : ∀ r ∈ rs, t.Passes options r) (later : List Record) :
    t.recomputeAll options (rs ++ later) =
      ⟨((t.declared options (rs.map t.environment)).recomputeAll options later).table,
        rs.map (t.filled options) ++
          ((t.declared options (rs.map t.environment)).recomputeAll options later).records,
        ((t.declared options (rs.map t.environment)).recomputeAll options later).outcome.map
          ((⟨rs.length, 0, 0, 0⟩ : RecomputeStats).add
            (t.effort options (rs.map t.environment))).add⟩ := by
  -- The records behind the first one see the types that it declares, and so another table.
  induction rs generalizing t with
  | nil =>
    have nothing : (⟨0, 0, 0, 0⟩ : RecomputeStats).add .zero = .zero := rfl
    have same : RecomputeStats.zero.add = id := funext RecomputeStats.zero_add
    simp only [List.nil_append, List.map_nil, List.length_nil, declared_nil, effort_nil, nothing,
      same]
    cases t.recomputeAll options later with
    | mk table records outcome => cases outcome <;> rfl
  | cons r rs ih =>
    have next : ∀ s ∈ rs, (t.declared options [t.environment r]).Passes options s :=
      fun s member => passes_declared.mpr (passes s (List.mem_cons_of_mem _ member))
    have rest := ih next
    rw [environment_declared, filled_declared, declared_cons] at rest
    rw [List.cons_append, recomputeAll, recompute_passes (passes r List.mem_cons_self)]
    simp only [rest, List.map_cons, List.length_cons, List.cons_append]
    rw [effort_cons options t (rs.map t.environment) (t.environment r)]
    congr 1
    cases ((t.declared options (t.environment r :: rs.map t.environment)).recomputeAll options
        later).outcome with
    | error e => rfl
    | ok stats =>
      simp only [Except.map, Except.ok.injEq, RecomputeStats.add, RecomputeStats.mk.injEq]
      omega

theorem recomputeAll_passes (passes : ∀ r ∈ rs, t.Passes options r) :
    t.recomputeAll options rs =
      ⟨t.declared options (rs.map t.environment), rs.map (t.filled options),
        .ok ((⟨rs.length, 0, 0, 0⟩ : RecomputeStats).add
          (t.effort options (rs.map t.environment)))⟩ := by
  have all := recomputeAll_append passes []
  simpa only [List.append_nil, recomputeAll, Except.map, RecomputeStats.add_zero] using all

theorem passes_of_recomputeAll (ok : (t.recomputeAll options rs).outcome = .ok stats) :
    ∀ r ∈ rs, t.Passes options r := by
  induction rs generalizing t stats with
  | nil => simp
  | cons r rs ih =>
    rw [recomputeAll] at ok
    cases ended : (t.recompute options r).2 with
    | some e =>
      have step : t.recompute options r = ((t.recompute options r).1, some e) := Prod.ext rfl ended
      rw [step] at ok
      cases ok
    | none =>
      have first := passes_of_recompute ended
      rw [recompute_passes first] at ok
      cases others :
          ((t.declared options [t.environment r]).recomputeAll options rs).outcome with
      | error e =>
        simp only [others] at ok
        cases ok
      | ok stats =>
        intro s member
        rcases List.mem_cons.mp member with rfl | member
        · exact first
        · exact passes_declared.mp (ih others s member)

theorem get?_filled {index : Nat} {c : Column} (found : t.columns[index]? = some c) (r : Record) :
    (t.filled options r).get? index =
      c.cellAfter options (t.environment r) (r.get? index) := by
  have inside : index < t.width := (List.getElem?_eq_some_iff.mp found).1
  simp only [filled, Record.get?, List.getElem?_zipWith, found]
  rw [Record.cell_resize r inside]
  rfl

theorem filled_recomputed {r : Record} (fits : r.width ≤ t.width) :
    Recomputed options t r (t.filled options r) where
  width := by
    have grown : (r.resize t.width).cells.length = t.width := Record.width_resize fits
    rw [Record.width, filled, List.length_zipWith, grown]
    exact Nat.min_self _
  source index c found source := by
    rw [get?_filled found, Column.cellAfter_source source]
  computed index c formula found computed := by
    rw [get?_filled found]
    simp only [Column.cellAfter, computed]

/-- What a run over all records leaves if nothing ends it. -/
theorem recomputeAll_done (ok : (t.recomputeAll options rs).outcome = .ok stats) :
    List.Forall₂ (Recomputed options t) rs (t.recomputeAll options rs).records ∧
      (t.recomputeAll options rs).table = t.declared options (rs.map t.environment) ∧
      stats =
        ⟨rs.length, rs.length * t.computations.length,
          (t.computations.map fun c =>
            rs.countP fun r => (evaluate c.formula (t.environment r)).isErrorMarker).sum,
          if options.updateTypes then
            (t.columns.map fun c =>
              Column.changes (c.type :: c.resultTypes (rs.map t.environment))).sum
          else 0⟩ := by
  have passes := passes_of_recomputeAll ok
  have passed := recomputeAll_passes passes
  have counted := total_effort options (rs.map t.environment) 0 t.columns
  refine ⟨?_, ?_, ?_⟩
  · rw [passed, List.forall₂_map_right_iff, List.forall₂_same]
    intro r member
    exact filled_recomputed (passes r member).fits
  · rw [passed]
  · rw [passed] at ok
    obtain rfl := Except.ok.inj ok
    rw [effort, counted, ← computations_eq]
    simp only [RecomputeStats.add, List.length_map, List.countP_map, Nat.zero_add, Nat.add_zero]
    rfl

/-- A marker stands where `a` is zero. -/
def quotients : Table :=
  ⟨"quotients", [.source "a" .number, .computed "half" "={a}/2", .computed "inverse" "=1/{a}"]⟩

theorem recomputeAll_done_quotients :
    (quotients.recomputeAll .default [⟨[some "2"]⟩, ⟨[some "0"]⟩]).outcome = .ok ⟨2, 4, 1, 2⟩ ∧
      List.Forall₂ (Recomputed .default quotients) [⟨[some "2"]⟩, ⟨[some "0"]⟩]
        (quotients.recomputeAll .default [⟨[some "2"]⟩, ⟨[some "0"]⟩]).records ∧
      (quotients.recomputeAll .default [⟨[some "2"]⟩, ⟨[some "0"]⟩]).table =
        quotients.declared .default
          ([⟨[some "2"]⟩, ⟨[some "0"]⟩].map quotients.environment) := by
  have counted : (quotients.recomputeAll .default
      [⟨[some "2"]⟩, ⟨[some "0"]⟩]).outcome.toOption.any (· = ⟨2, 4, 1, 2⟩) = true := by
    decide +kernel
  obtain ⟨stats, ok, same⟩ := ok_of_toOption_any counted
  obtain rfl : stats = ⟨2, 4, 1, 2⟩ := of_decide_eq_true same
  obtain ⟨records, table, -⟩ := recomputeAll_done ok
  exact ⟨ok, records, table⟩

end Table

end ComputedColumns
