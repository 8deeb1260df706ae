import ComputedColumns.Proofs.Formula.ExactArithmetic
import ComputedColumns.Proofs.Formula.Storage
import ComputedColumns.Proofs.Formula.Transparency

namespace ComputedColumns

/-- The operands with an operator between them, grouped to the left. -/
def Expr.chain (op : BinaryOp) (first : Expr) (others : List Expr) : Expr :=
  others.foldl (.binary op) first

/-- The operator and the function see their operands alike, and merge what they see alike; the function
begins with `start`. -/
structure Merges {α : Type} (op : BinaryOp) (f : Function) (view : Value → α) (result : α → Value)
    (merge : α → α → α) (start : α) : Prop where
  operator : ∀ v w, op.apply v w = .ok (result (merge (view v) (view w)))
  function : ∀ vs, f.apply vs = .ok (result ((vs.map view).foldl merge start))
  arity : ∀ count, 0 < count → f.checkArity count = .ok ()
  again : ∀ a, view (result a) = a
  plain : ∀ v : Value, view v.plain = view v

theorem merges_concat :
    Merges .concat .concat (fun v => v.display) .text (fun s t : String => s ++ t) "" where
  operator _ _ := rfl
  function vs := by rw [Function.apply, List.foldl_map]
  arity count present := if_pos (decide_eq_true present)
  again _ := rfl
  plain := Value.display_plain

theorem merges_sum :
    Merges .add .sum (fun v => v.toNumber) .number Number.add (.int 0) where
  operator _ _ := rfl
  function vs := by rw [Function.apply, Function.total, List.foldl_map]
  arity count present := if_pos (decide_eq_true present)
  again _ := rfl
  plain := Value.toNumber_plain

namespace Merges

variable {α : Type} {op : BinaryOp} {f : Function} {view : Value → α} {result : α → Value}
  {merge : α → α → α} {start : α} (merges : Merges op f view result merge start)
  (env : Environment)
include merges

theorem evaluate_binary (first second : Expr) :
    (Expr.binary op first second).evaluate env = (do
      let v ← first.evaluate env
      let w ← second.evaluate env
      .ok (result (merge (view v) (view w)))) := by
  simp only [Expr.evaluate, merges.operator]

theorem evaluate_chain (first second : Expr) (others : List Expr) :
    (Expr.chain op first (second :: others)).evaluate env = (do
      let v ← first.evaluate env
      let ws ← Expr.evaluateAll env (second :: others)
      .ok (result ((ws.map view).foldl merge (view v)))) := by
  -- The first two operands are the first operand of a shorter chain.
  induction others generalizing first second with
  | nil =>
    have whole : Expr.chain op first [second] = .binary op first second := rfl
    simp only [whole, merges.evaluate_binary, Expr.evaluateAll, bind_assoc, ok_bind, List.map_cons,
      List.map_nil, List.foldl_cons, List.foldl_nil, merges.plain]
  | cons third others ih =>
    have shorter : Expr.chain op first (second :: third :: others) =
        Expr.chain op (.binary op first second) (third :: others) := rfl
    rw [shorter, ih]
    simp only [merges.evaluate_binary, Expr.evaluateAll, bind_assoc, ok_bind, List.map_cons,
      List.foldl_cons, merges.plain, merges.again]

theorem evaluate_call {name : String} (named : Function.ofName? name = some f) (first : Expr)
    (others : List Expr) :
    (Expr.call name (first :: others)).evaluate env = (do
      let v ← first.evaluate env
      let ws ← Expr.evaluateAll env others
      .ok (result ((ws.map view).foldl merge (merge start (view v))))) := by
  have called : ∀ v vs, f.call (Value.plain v :: vs) =
      .ok (result ((vs.map view).foldl merge (merge start (view v)))) := by
    intro v vs
    have present : f.checkArity (v.plain :: vs).length = .ok () :=
      merges.arity _ (Nat.succ_pos vs.length)
    rw [Function.call_eq_apply present, merges.function, List.map_cons, List.foldl_cons, merges.plain]
  rw [Expr.evaluate, Function.lookup_eq_ok_iff.mpr named]
  simp only [Expr.evaluateAll, bind_assoc, ok_bind, called]

theorem evaluate_call_eq_chain {name : String} (named : Function.ofName? name = some f)
    (first second : Expr) (others : List Expr)
    (neutral : ∀ v, first.evaluate env = .ok v → merge start (view v) = view v) :
    (Expr.call name (first :: second :: others)).evaluate env =
      (Expr.chain op first (second :: others)).evaluate env := by
  rw [merges.evaluate_call env named, merges.evaluate_chain]
  cases value : first.evaluate env with
  | error e => rfl
  | ok v => rw [ok_bind, ok_bind, neutral v value]

end Merges

theorem zero_add_int (n : Int64) : (Number.int 0).add (.int n) = .int n :=
  Number.add_eq_int_iff.mpr ⟨0, n, rfl, rfl, Int.zero_add n.toInt⟩

/-- Joining by a call and by operators have one outcome, value or first error; so do adding by a call and
by operators if the first operand, where it has a value, is an integer as a number. -/
theorem evaluate_variadic_eq_chain (env : Environment) (first second : Expr) (others : List Expr) :
    (∀ name, Function.ofName? name = some .concat →
      (Expr.call name (first :: second :: others)).evaluate env =
        (Expr.chain .concat first (second :: others)).evaluate env) ∧
    (∀ name, Function.ofName? name = some .sum →
      (∀ v, first.evaluate env = .ok v → ∃ n, v.toNumber = .int n) →
      (Expr.call name (first :: second :: others)).evaluate env =
        (Expr.chain .add first (second :: others)).evaluate env) := by
  constructor
  · intro name named
    exact merges_concat.evaluate_call_eq_chain env named first second others
      fun v _ => String.empty_append
  · intro name named integer
    refine merges_sum.evaluate_call_eq_chain env named first second others ?_
    intro v value
    obtain ⟨n, coerced⟩ := integer v value
    rw [coerced]
    exact zero_add_int n

/-- A text that is an integer as a number; operands that all have a value, and an error among others. -/
theorem evaluate_variadic_eq_chain_mixed :
    let env : Environment :=
      .ofList [("A", .typed .currency (.number (.int 3))), ("B", .text "4")]
    let first : Expr := .text " 12"
    let second : Expr := .negate (.reference ⟨"A", none⟩)
    let valued : List Expr := [.call "ABS" [second], .reference ⟨"B", none⟩]
    let broken : List Expr := [.number (.int Int64.maxValue), .call "NOW" [], .reference ⟨"B", none⟩]
    Function.ofName? "Concat" = some .concat ∧ Function.ofName? "sum" = some .sum ∧
      (∀ v, first.evaluate env = .ok v → ∃ n, v.toNumber = .int n) ∧
      (Expr.chain .concat first (second :: valued)).evaluate env = .ok (.text " 12-334") ∧
      (Expr.chain .add first (second :: valued)).evaluate env = .ok (.number (.int 16)) ∧
      (Expr.call "Concat" (first :: second :: broken)).evaluate env =
        (Expr.chain .concat first (second :: broken)).evaluate env ∧
      (Expr.call "sum" (first :: second :: broken)).evaluate env =
        (Expr.chain .add first (second :: broken)).evaluate env := by
  intro env first second valued broken
  have join : Function.ofName? "Concat" = some .concat := by decide +kernel
  have sum : Function.ofName? "sum" = some .sum := by decide +kernel
  have integer : ∀ v, first.evaluate env = .ok v → ∃ n, v.toNumber = .int n := by
    rintro v ⟨⟩
    exact ⟨12, by rfl⟩
  have joinedText : (Expr.call "Concat" (first :: second :: valued)).evaluate env =
      .ok (.text " 12-334") := by decide +kernel
  have total : (Expr.call "sum" (first :: second :: valued)).evaluate env =
      .ok (.number (.int 16)) := by decide +kernel
  obtain ⟨joined, added⟩ := evaluate_variadic_eq_chain env first second valued
  obtain ⟨joinedBroken, addedBroken⟩ := evaluate_variadic_eq_chain env first second broken
  exact ⟨join, sum, integer, (joined "Concat" join).symm.trans joinedText,
    (added "sum" sum integer).symm.trans total, joinedBroken "Concat" join,
    addedBroken "sum" sum integer⟩

end ComputedColumns
