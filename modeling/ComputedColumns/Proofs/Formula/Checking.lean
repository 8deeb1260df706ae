import ComputedColumns.Formula.Diagnostic
import ComputedColumns.Proofs.Formula.Evaluation

namespace ComputedColumns

/-- The report that an error has if it does not depend on values. -/
def FormulaError.report? : FormulaError → Option Diagnostic
  | malformed e => some (.malformed e)
  | unknownFunction name => some (.unknownFunction name)
  | argumentCount f count => some (.argumentCount f count)
  | divisionByZero | invalidTemporal _ _ => none

theorem FormulaError.report?_eq_none {e : FormulaError} (none : e.report? = none) :
    e = .divisionByZero ∨ ∃ t problem, e = .invalidTemporal t problem := by
  cases e with
  | divisionByZero => exact .inl rfl
  | invalidTemporal t problem => exact .inr ⟨t, problem, rfl⟩
  | _ => cases none

theorem FormulaError.report?_message {e : FormulaError} {d : Diagnostic}
    (report : e.report? = some d) :
    d.message = (if e.isMalformed then "Syntax error: " else "") ++ e.message := by
  cases e with
  | divisionByZero => cases report
  | invalidTemporal t problem => cases report
  | malformed problem =>
    cases report
    rfl
  | _ =>
    cases report
    exact (String.empty_append).symm

theorem mem_checkCall {name : String} {count : Nat} {d : Diagnostic} :
    d ∈ checkCall name count ↔
      Function.ofName? name = none ∧ d = .unknownFunction name ∨
      ∃ f, Function.ofName? name = some f ∧ f.arity.accepts count = false ∧
        d = .argumentCount f count := by
  unfold checkCall
  cases named : Function.ofName? name with
  | none => simp
  | some f => by_cases accepted : f.arity.accepts count = true <;> simp [accepted]

namespace Expr

theorem mem_checkCallsAll {es : List Expr} {d : Diagnostic} :
    d ∈ checkCallsAll es ↔ ∃ a ∈ es, d ∈ a.checkCalls := by
  induction es with
  | nil => simp [checkCallsAll]
  | cons a es ih => simp [checkCallsAll, ih]

theorem call_reported {name : String} {vs : List Value} {e : FormulaError} {d : Diagnostic}
    (failed : (Function.lookup name >>= fun f => f.call vs) = .error e)
    (report : e.report? = some d) : d ∈ checkCall name vs.length := by
  rw [mem_checkCall]
  unfold Function.lookup at failed
  cases named : Function.ofName? name with
  | none =>
    rw [named] at failed
    cases failed
    cases report
    exact .inl ⟨rfl, rfl⟩
  | some f =>
    rw [named] at failed
    rcases Function.call_error failed with ⟨refused, rfl⟩ | ⟨t, problem, rfl⟩
    · cases report
      exact .inr ⟨f, rfl, refused, rfl⟩
    · cases report

theorem call_fails {name : String} {vs : List Value} {d : Diagnostic}
    (reported : d ∈ checkCall name vs.length) :
    ∃ e, (Function.lookup name >>= fun f => f.call vs) = .error e := by
  unfold Function.lookup
  rcases mem_checkCall.mp reported with ⟨named, _⟩ | ⟨f, named, refused, _⟩
  · rw [named]
    exact ⟨_, rfl⟩
  · rw [named]
    refine ⟨.argumentCount f vs.length, ?_⟩
    change f.call vs = _
    simp only [Function.call, Function.checkArity, refused]
    rfl

theorem evaluate_reported (e : Expr) {env : Environment} {err : FormulaError} {d : Diagnostic}
    (failed : e.evaluate env = .error err) (report : err.report? = some d) :
    d ∈ e.checkCalls := by
  induction e using Expr.inductionOn with
  | number n => cases failed
  | text s => cases failed
  | boolean b => cases failed
  | reference r => cases failed
  | binary op left right inLeft inRight =>
    rw [checkCalls, List.mem_append]
    rw [evaluate] at failed
    rcases bind_eq_error.mp failed with failed | ⟨v, _, failed⟩
    · exact .inl (inLeft failed)
    · rcases bind_eq_error.mp failed with failed | ⟨w, _, failed⟩
      · exact .inr (inRight failed)
      · rw [BinaryOp.apply_error failed] at report
        cases report
  | negate operand inside =>
    rw [checkCalls]
    rw [evaluate] at failed
    rcases bind_eq_error.mp failed with failed | ⟨_, _, done⟩
    · exact inside failed
    · cases done
  | call name args inside =>
    rw [checkCalls, List.mem_append, mem_checkCallsAll]
    rw [evaluate] at failed
    rcases bind_eq_error.mp failed with failed | ⟨vs, done, failed⟩
    · obtain ⟨a, member, failed⟩ := evaluateAll_error failed
      exact .inr ⟨a, member, inside a member failed⟩
    · rw [← evaluateAll_length done]
      exact .inl (call_reported failed report)

theorem reported_fails (e : Expr) {d : Diagnostic} (reported : d ∈ e.checkCalls)
    (env : Environment) : ∃ err, e.evaluate env = .error err := by
  induction e using Expr.inductionOn with
  | number n => cases reported
  | text s => cases reported
  | boolean b => cases reported
  | reference r => cases reported
  | binary op left right inLeft inRight =>
    rw [checkCalls, List.mem_append] at reported
    rw [evaluate]
    cases first : left.evaluate env with
    | error err => exact ⟨err, rfl⟩
    | ok v =>
      rcases reported with reported | reported
      · obtain ⟨err, failed⟩ := inLeft reported
        rw [first] at failed
        cases failed
      · obtain ⟨err, failed⟩ := inRight reported
        exact ⟨err, by rw [failed]; rfl⟩
  | negate operand inside =>
    rw [checkCalls] at reported
    obtain ⟨err, failed⟩ := inside reported
    exact ⟨err, by rw [evaluate, failed]; rfl⟩
  | call name args inside =>
    rw [checkCalls, List.mem_append, mem_checkCallsAll] at reported
    rw [evaluate]
    cases done : evaluateAll env args with
    | error err => exact ⟨err, rfl⟩
    | ok vs =>
      rcases reported with reported | ⟨a, member, reported⟩
      · rw [← evaluateAll_length done] at reported
        exact call_fails reported
      · obtain ⟨err, failed⟩ := inside a member reported
        obtain ⟨err, failed⟩ := evaluateAll_fails member failed
        rw [done] at failed
        cases failed

end Expr

theorem mem_unknownColumns {known : List String} {rs : List Reference} {d : Diagnostic}
    (reported : d ∈ unknownColumns known rs) : ∃ r, d = .unknownColumn r := by
  obtain ⟨r, _, rfl⟩ := List.mem_map.mp reported
  exact ⟨r, rfl⟩

theorem isFormula_iff (source : String) :
    isFormula source = true ↔ source.toList.head? = some '=' := by
  unfold isFormula
  exact beq_iff_eq

theorem failure_reported {source : String} (formula : isFormula source = true)
    (known : List String) {env : Environment} {e : FormulaError} {d : Diagnostic}
    (failed : tryEvaluate source env = .error e) (report : e.report? = some d) :
    d ∈ checkFormula source known := by
  simp only [tryEvaluate, formula, if_true] at failed
  simp only [checkFormula, formula, if_true]
  cases parsed : parseFormula source with
  | error problem =>
    rw [parsed] at failed
    cases failed
    cases report
    exact List.mem_singleton_self _
  | ok expr =>
    rw [parsed] at failed
    exact List.mem_append_left _ (expr.evaluate_reported failed report)

theorem report_fails {source : String} (formula : isFormula source = true) {known : List String}
    {d : Diagnostic} (reported : d ∈ checkFormula source known)
    (other : ∀ r, d ≠ .unknownColumn r) (env : Environment) :
    ∃ e, tryEvaluate source env = .error e := by
  simp only [checkFormula, formula, if_true] at reported
  simp only [tryEvaluate, formula, if_true]
  cases parsed : parseFormula source with
  | error problem => exact ⟨_, rfl⟩
  | ok expr =>
    rw [parsed] at reported
    rcases List.mem_append.mp reported with reported | reported
    · exact expr.reported_fails reported env
    · obtain ⟨r, rfl⟩ := mem_unknownColumns reported
      exact absurd rfl (other r)

/-- A formula fails for a reason that does not depend on values in one environment only if the check
reports that reason, and then it fails in every environment. A template has nothing but unknown columns
to report, and never fails. -/
theorem check_agrees (source : String) (known : List String) :
    (source.toList.head? = some '=' →
      (∀ env e d, tryEvaluate source env = .error e → e.report? = some d →
        d ∈ checkFormula source known ∧
        d.message = (if e.isMalformed then "Syntax error: " else "") ++ e.message) ∧
      (∀ d ∈ checkFormula source known, (∀ r, d ≠ .unknownColumn r) →
        ∀ env, ∃ e, tryEvaluate source env = .error e) ∧
      ((∀ d ∈ checkFormula source known, ∃ r, d = .unknownColumn r) →
        ∀ env e, tryEvaluate source env = .error e →
          e = .divisionByZero ∨ ∃ t problem, e = .invalidTemporal t problem)) ∧
    (source.toList.head? ≠ some '=' →
      (∀ d ∈ checkFormula source known, ∃ r, d = .unknownColumn r) ∧
      ∀ env, ∃ v, tryEvaluate source env = .ok v) := by
  constructor
  · intro starts
    have formula := (isFormula_iff source).mpr starts
    refine ⟨?_, ?_, ?_⟩
    · intro env e d failed report
      exact ⟨failure_reported formula known failed report, FormulaError.report?_message report⟩
    · intro d reported other env
      exact report_fails formula reported other env
    · intro clean env e failed
      cases report : e.report? with
      | none => exact FormulaError.report?_eq_none report
      | some d =>
        obtain ⟨r, rfl⟩ := clean d (failure_reported formula known failed report)
        cases e <;> cases report
  · intro starts
    have template : ¬ isFormula source = true :=
      fun formula => starts ((isFormula_iff source).mp formula)
    simp only [checkFormula, tryEvaluate, if_neg template]
    exact ⟨fun d reported => mem_unknownColumns reported, fun env => ⟨_, rfl⟩⟩

end ComputedColumns
