import ComputedColumns.Proofs.Formula.Evaluation

namespace ComputedColumns

namespace Value

variable (v w : Value)

@[simp] theorem plain_plain : v.plain.plain = v.plain := by
  induction v with
  | typed kind inner ih => exact ih
  | _ => rfl

@[simp] theorem toNumber_plain : v.plain.toNumber = v.toNumber := by
  induction v with
  | typed kind inner ih => exact ih
  | _ => rfl

@[simp] theorem display_plain : v.plain.display = v.display := by
  induction v with
  | typed kind inner ih => exact ih
  | _ => rfl

@[simp] theorem equal_plain : v.plain.equal w.plain = v.equal w := by
  simp only [equal, plain_plain]

@[simp] theorem compare?_plain : v.plain.compare? w.plain = v.compare? w := by
  simp only [compare?, plain_plain, display_plain]

end Value

theorem BinaryOp.apply_plain (op : BinaryOp) (v w : Value) :
    op.apply v.plain w.plain = op.apply v w := by
  cases op <;> simp [apply]

theorem BinaryOp.apply_congr (op : BinaryOp) {v v' w w' : Value} (left : v.plain = v'.plain)
    (right : w.plain = w'.plain) : op.apply v w = op.apply v' w' := by
  rw [← apply_plain, left, right, apply_plain]

theorem Value.neg_congr {v w : Value} (alike : v.plain = w.plain) :
    v.toNumber.neg = w.toNumber.neg := by
  rw [← toNumber_plain, alike, toNumber_plain]

theorem bind_congr_of_plain {β : Type} {x y : Except FormulaError Value}
    {f g : Value → Except FormulaError β} (alike : x.map Value.plain = y.map Value.plain)
    (same : ∀ v w, v.plain = w.plain → f v = g w) : (x >>= f) = (y >>= g) := by
  cases x with
  | error e =>
    cases y with
    | error e' => exact congrArg _ (Except.error.inj alike)
    | ok w => cases alike
  | ok v =>
    cases y with
    | error e' => cases alike
    | ok w => exact same v w (Except.ok.inj alike)

namespace Expr

variable {env env' : Environment}

theorem occurrences_of_mem {es : List Expr} {e : Expr} (member : e ∈ es) {r : Reference}
    (occurs : r ∈ e.occurrences) : r ∈ occurrencesAll es := by
  induction es with
  | nil => cases member
  | cons first es ih =>
    rw [occurrencesAll, List.mem_append]
    rcases List.mem_cons.mp member with rfl | member
    · exact .inl occurs
    · exact .inr (ih member)

theorem evaluateAll_congr {es : List Expr}
    (alike : ∀ e ∈ es, (e.evaluate env).map Value.plain = (e.evaluate env').map Value.plain) :
    evaluateAll env es = evaluateAll env' es := by
  induction es with
  | nil => rfl
  | cons e es ih =>
    have rest := ih fun e member => alike e (List.mem_cons_of_mem _ member)
    rw [evaluateAll, evaluateAll, rest]
    apply bind_congr_of_plain (alike e List.mem_cons_self)
    intro v w same
    rw [same]

/-- Where the references of an expression have the same values inside their types, it has the same value
inside its types, and the very same one unless it is a reference. -/
theorem evaluate_congr (e : Expr)
    (alike : ∀ r ∈ e.occurrences, (env.lookup r).plain = (env'.lookup r).plain) :
    (e.evaluate env).map Value.plain = (e.evaluate env').map Value.plain ∧
      ((∀ r, e ≠ .reference r) → e.evaluate env = e.evaluate env') := by
  -- Operands are compared inside their types, since each of them may be a reference.
  induction e using Expr.inductionOn with
  | number n => exact ⟨rfl, fun _ => rfl⟩
  | text s => exact ⟨rfl, fun _ => rfl⟩
  | boolean b => exact ⟨rfl, fun _ => rfl⟩
  | reference r =>
    have same := alike r List.mem_cons_self
    refine ⟨?_, fun other => absurd rfl (other r)⟩
    simp only [evaluate, Except.map, same]
  | binary op left right inLeft inRight =>
    have first := (inLeft fun r occurs => alike r (List.mem_append_left _ occurs)).1
    have second := (inRight fun r occurs => alike r (List.mem_append_right _ occurs)).1
    have same : (binary op left right).evaluate env = (binary op left right).evaluate env' := by
      rw [evaluate, evaluate]
      apply bind_congr_of_plain first
      intro v v' leftAlike
      apply bind_congr_of_plain second
      intro w w' rightAlike
      exact op.apply_congr leftAlike rightAlike
    exact ⟨congrArg _ same, fun _ => same⟩
  | negate operand inside =>
    have same : (negate operand).evaluate env = (negate operand).evaluate env' := by
      rw [evaluate, evaluate]
      apply bind_congr_of_plain (inside alike).1
      intro v w operandAlike
      rw [Value.neg_congr operandAlike]
    exact ⟨congrArg _ same, fun _ => same⟩
  | call name args inside =>
    have all : evaluateAll env args = evaluateAll env' args := by
      apply evaluateAll_congr
      intro e member
      exact (inside e member fun r occurs => alike r (occurrences_of_mem member occurs)).1
    have same : (call name args).evaluate env = (call name args).evaluate env' := by
      rw [evaluate, evaluate, all]
    exact ⟨congrArg _ same, fun _ => same⟩

end Expr

namespace Environment

def plain (env : Environment) : Environment :=
  ⟨env.entries.map fun (key, v) => (key, v.plain)⟩

theorem get?_plain (env : Environment) (key : String) :
    env.plain.get? key = (env.get? key).map Value.plain := by
  obtain ⟨entries⟩ := env
  unfold plain get?
  induction entries with
  | nil => rfl
  | cons entry rest ih =>
    obtain ⟨k, v⟩ := entry
    rw [List.map_cons, List.lookup_cons, List.lookup_cons]
    cases key == k with
    | true => rfl
    | false => exact ih

theorem lookup_plain (env : Environment) (r : Reference) :
    env.plain.lookup r = (env.lookup r).plain := by
  rw [lookup, get?_plain, lookup]
  cases env.get? r.key <;> rfl

end Environment

/-- Without the types of the environment an expression fails with the same error or has the same value
inside its types; only a reference can lose a type by that. -/
theorem Expr.evaluate_plain (e : Expr) (env : Environment) :
    ((∃ err, e.evaluate env = .error err ∧ e.evaluate env.plain = .error err) ∨
      ∃ v w, e.evaluate env = .ok v ∧ e.evaluate env.plain = .ok w ∧ v.plain = w.plain) ∧
    ((∀ r, e ≠ .reference r) → e.evaluate env = e.evaluate env.plain) := by
  have alike : ∀ r ∈ e.occurrences, (env.lookup r).plain = (env.plain.lookup r).plain := by
    intro r _
    rw [Environment.lookup_plain, Value.plain_plain]
  obtain ⟨inside, same⟩ := e.evaluate_congr alike
  refine ⟨?_, same⟩
  cases first : e.evaluate env with
  | error err =>
    cases second : e.evaluate env.plain with
    | error err' =>
      rw [first, second] at inside
      cases inside
      exact .inl ⟨err, rfl, rfl⟩
    | ok w =>
      rw [first, second] at inside
      cases inside
  | ok v =>
    cases second : e.evaluate env.plain with
    | error err =>
      rw [first, second] at inside
      cases inside
    | ok w =>
      rw [first, second] at inside
      exact .inr ⟨v, w, rfl, rfl, Except.ok.inj inside⟩

end ComputedColumns
