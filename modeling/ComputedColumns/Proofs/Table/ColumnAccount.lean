import ComputedColumns.Table.Recompute

namespace ComputedColumns

namespace RecomputeStats

theorem add_assoc (a b c : RecomputeStats) : (a.add b).add c = a.add (b.add c) := by
  simp only [add, Nat.add_assoc]

theorem add_zero (a : RecomputeStats) : a.add zero = a := rfl

theorem zero_add (a : RecomputeStats) : zero.add a = a := by
  simp only [add, zero, Nat.zero_add]

def total : List RecomputeStats → RecomputeStats
  | [] => zero
  | a :: rest => a.add (total rest)

end RecomputeStats

namespace Column

variable (options : RecomputeOptions)

def cellAfter (env : Environment) (c : Column) (before : Option String) : Option String :=
  match c.formula with
  | none => before
  | some formula =>
    if (evaluate formula env).isErrorMarker && options.skipMarkers then before
    else some (evaluate formula env).storedText

/-- The types of the results that are no markers, in the order of the environments. -/
def resultTypes (envs : List Environment) (c : Column) : List ColumnType :=
  match c.formula with
  | none => []
  | some formula =>
    ((envs.map (evaluate formula)).filter (!·.isErrorMarker)).map Value.columnType

/-- A column takes the last type of its results if declared types are kept up. -/
def declared (envs : List Environment) (c : Column) : Column :=
  if options.updateTypes then { c with type := (c.resultTypes envs).getLastD c.type } else c

def changes : List ColumnType → Nat
  | a :: b :: rest => (if a = b then 0 else 1) + changes (b :: rest)
  | _ => 0

def effort (envs : List Environment) (c : Column) : RecomputeStats :=
  match c.formula with
  | none => .zero
  | some formula =>
    ⟨0, envs.length, envs.countP fun env => (evaluate formula env).isErrorMarker,
      if options.updateTypes then changes (c.type :: c.resultTypes envs) else 0⟩

def stops (env : Environment) (c : Column) : Bool :=
  options.stopOnError && c.formula.any fun formula => (evaluate formula env).isErrorMarker

end Column

def computationsFrom (position : Nat) (cs : List Column) : List Computation :=
  (cs.zipIdx position).filterMap fun (c, index) => c.formula.map (⟨index, c.name, ·⟩)

theorem computationsFrom_source {c : Column} (source : c.formula = none) (position : Nat)
    (cs : List Column) :
    computationsFrom position (c :: cs) = computationsFrom (position + 1) cs := by
  simp [computationsFrom, source]

theorem computationsFrom_computed {c : Column} {formula : String}
    (computed : c.formula = some formula) (position : Nat) (cs : List Column) :
    computationsFrom position (c :: cs) =
      ⟨position, c.name, formula⟩ :: computationsFrom (position + 1) cs := by
  simp [computationsFrom, computed]

theorem computationsFrom_append (position : Nat) (cs ds : List Column) :
    computationsFrom position (cs ++ ds) =
      computationsFrom position cs ++ computationsFrom (position + cs.length) ds := by
  simp only [computationsFrom, List.zipIdx_append, List.filterMap_append]

theorem Value.storedText_of_marker {v : Value} (marker : v.isErrorMarker = true) :
    v.storedText = v.display := by
  cases v with
  | text s => rfl
  | _ => cases marker

namespace Column

variable {options : RecomputeOptions} {c : Column} {formula : String} {env : Environment}

theorem declared_source (source : c.formula = none) (envs : List Environment) :
    c.declared options envs = c := by
  have untyped : c.resultTypes envs = [] := by simp [resultTypes, source]
  simp [declared, untyped]

theorem cellAfter_source (source : c.formula = none) (cell : Option String) :
    c.cellAfter options env cell = cell := by
  simp [cellAfter, source]

theorem effort_source (source : c.formula = none) (envs : List Environment) :
    c.effort options envs = .zero := by
  simp [effort, source]

theorem resultTypes_of_marker (computed : c.formula = some formula)
    (marker : (evaluate formula env).isErrorMarker = true) : c.resultTypes [env] = [] := by
  simp [resultTypes, computed, marker]

theorem resultTypes_of_value (computed : c.formula = some formula)
    (value : (evaluate formula env).isErrorMarker = false) :
    c.resultTypes [env] = [(evaluate formula env).columnType] := by
  simp [resultTypes, computed, value]

theorem getLastD_append {α : Type} (a : α) (xs ys : List α) :
    (xs ++ ys).getLastD a = ys.getLastD (xs.getLastD a) := by
  induction xs generalizing a with
  | nil => rfl
  | cons x xs ih => rw [List.cons_append, List.getLastD_cons, List.getLastD_cons, ih]

theorem changes_append (a : ColumnType) (xs ys : List ColumnType) :
    changes (a :: (xs ++ ys)) = changes (a :: xs) + changes (xs.getLastD a :: ys) := by
  induction xs generalizing a with
  | nil => simp [changes]
  | cons x xs ih =>
    rw [List.cons_append, changes, changes, ih, List.getLastD_cons, Nat.add_assoc]

variable (options c)

theorem resultTypes_cons (env : Environment) (envs : List Environment) :
    c.resultTypes (env :: envs) = c.resultTypes [env] ++ c.resultTypes envs := by
  unfold resultTypes
  cases c.formula with
  | none => rfl
  | some formula =>
    simp only [List.map_cons, List.map_nil, ← List.map_append, ← List.filter_append,
      List.singleton_append]

theorem declared_formula (envs : List Environment) :
    (c.declared options envs).formula = c.formula := by
  unfold declared
  split <;> rfl

theorem declared_name (envs : List Environment) : (c.declared options envs).name = c.name := by
  unfold declared
  split <;> rfl

theorem resultTypes_declared (later envs : List Environment) :
    (c.declared options later).resultTypes envs = c.resultTypes envs := by
  simp only [resultTypes, declared_formula]

theorem declared_cons (env : Environment) (envs : List Environment) :
    (c.declared options [env]).declared options envs = c.declared options (env :: envs) := by
  cases kept : options.updateTypes with
  | false => simp [declared, kept]
  | true =>
    have first : c.declared options [env] =
        { c with type := (c.resultTypes [env]).getLastD c.type } := by
      simp [declared, kept]
    have types := resultTypes_declared options c [env] envs
    rw [first] at types ⊢
    simp only [declared, kept, if_true, types]
    rw [resultTypes_cons c env envs, getLastD_append]

theorem declared_nil : Column.declared options [] = id := by
  funext c
  have untyped : c.resultTypes [] = [] := by
    unfold resultTypes
    cases c.formula <;> rfl
  simp [declared, untyped]

theorem declared_append (envs later : List Environment) :
    (c.declared options envs).declared options later = c.declared options (envs ++ later) := by
  induction envs generalizing c with
  | nil => rw [declared_nil, List.nil_append, id]
  | cons env envs ih =>
    rw [← declared_cons, ih, declared_cons, List.cons_append]

theorem effort_cons (env : Environment) (envs : List Environment) :
    c.effort options (env :: envs) =
      (c.effort options [env]).add ((c.declared options [env]).effort options envs) := by
  cases computed : c.formula with
  | none =>
    rw [declared_source computed]
    simp [effort_source computed, RecomputeStats.add_zero]
  | some formula =>
    have formulas := declared_formula options c [env]
    rw [computed] at formulas
    simp only [effort, computed, formulas, resultTypes_declared]
    have evaluations : (env :: envs).length = [env].length + envs.length := by
      rw [List.length_cons, List.length_singleton, Nat.add_comm]
    have errors : (env :: envs).countP (fun env => (evaluate formula env).isErrorMarker) =
        [env].countP (fun env => (evaluate formula env).isErrorMarker) +
          envs.countP fun env => (evaluate formula env).isErrorMarker := by
      rw [← List.countP_append, List.singleton_append]
    cases kept : options.updateTypes with
    | false =>
      simp only [RecomputeStats.add, evaluations, errors, Bool.false_eq_true, if_false]
    | true =>
      have type : (c.declared options [env]).type = (c.resultTypes [env]).getLastD c.type := by
        simp [declared, kept]
      simp only [RecomputeStats.add, evaluations, errors, type, if_true]
      rw [resultTypes_cons c env envs, changes_append]

end Column

end ComputedColumns
