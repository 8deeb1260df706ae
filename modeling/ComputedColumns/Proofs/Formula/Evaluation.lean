import ComputedColumns.Formula.Evaluation
import ComputedColumns.Proofs.Outcome

namespace ComputedColumns

@[elab_as_elim]
theorem Expr.inductionOn {motive : Expr → Prop} (e : Expr) (number : ∀ n, motive (.number n))
    (text : ∀ s, motive (.text s)) (boolean : ∀ b, motive (.boolean b))
    (reference : ∀ r, motive (.reference r))
    (binary : ∀ op left right, motive left → motive right → motive (.binary op left right))
    (negate : ∀ operand, motive operand → motive (.negate operand))
    (call : ∀ name args, (∀ e ∈ args, motive e) → motive (.call name args)) : motive e := by
  refine @Expr.rec motive (fun args => ∀ e ∈ args, motive e) number text boolean reference binary
    negate call (by simp) ?_ e
  intro e es first others other member
  rcases List.mem_cons.mp member with rfl | member
  · exact first
  · exact others _ member

namespace Temporal

theorem readAs_error {α : Type} {t : Temporal} {read : List Char → Option α} {cs : List Char}
    {e : FormulaError} (failed : t.readAs read cs = .error e) :
    ∃ problem, e = .invalidTemporal t problem := by
  unfold readAs at failed
  rcases bind_eq_error.mp failed with blank | ⟨trimmed, _, unread⟩
  · unfold nonBlank at blank
    split at blank
    · cases blank
      exact ⟨_, rfl⟩
    · cases blank
  · cases found : read trimmed with
    | some a =>
      simp only [found] at unread
      cases unread
    | none =>
      simp only [found] at unread
      cases unread
      exact ⟨_, rfl⟩

theorem dateOfNumbers_error {year month day : Int} {e : FormulaError}
    (failed : dateOfNumbers year month day = .error e) :
    ∃ problem, e = .invalidTemporal date problem := by
  unfold dateOfNumbers at failed
  dsimp only at failed
  split at failed
  · cases failed
  · cases failed
    exact ⟨_, rfl⟩

theorem timeOfNumbers_error {hour minute : Int} {e : FormulaError}
    (failed : timeOfNumbers hour minute = .error e) :
    ∃ problem, e = .invalidTemporal time problem := by
  unfold timeOfNumbers at failed
  dsimp only at failed
  split at failed
  · cases failed
  · cases failed
    exact ⟨_, rfl⟩

end Temporal

namespace Function

theorem castDate_error {args : List Value} {e : FormulaError}
    (failed : castDate args = .error e) : ∃ t problem, e = .invalidTemporal t problem := by
  unfold castDate at failed
  split at failed
  · rcases bind_eq_error.mp failed with failed | ⟨_, _, done⟩
    · exact ⟨_, Temporal.dateOfNumbers_error failed⟩
    · cases done
  · rcases bind_eq_error.mp failed with failed | ⟨_, _, done⟩
    · exact ⟨_, Temporal.readAs_error failed⟩
    · cases done

theorem castTime_error {args : List Value} {e : FormulaError}
    (failed : castTime args = .error e) : ∃ t problem, e = .invalidTemporal t problem := by
  unfold castTime at failed
  split at failed
  · rcases bind_eq_error.mp failed with failed | ⟨_, _, done⟩
    · exact ⟨_, Temporal.timeOfNumbers_error failed⟩
    · cases done
  · rcases bind_eq_error.mp failed with failed | ⟨_, _, done⟩
    · exact ⟨_, Temporal.readAs_error failed⟩
    · cases done

theorem castDateTime_error {args : List Value} {e : FormulaError}
    (failed : castDateTime args = .error e) : ∃ t problem, e = .invalidTemporal t problem := by
  unfold castDateTime at failed
  split at failed
  · rcases bind_eq_error.mp failed with failed | ⟨_, _, failed⟩
    · exact ⟨_, Temporal.readAs_error failed⟩
    · rcases bind_eq_error.mp failed with failed | ⟨_, _, done⟩
      · exact ⟨_, Temporal.readAs_error failed⟩
      · cases done
  · rcases bind_eq_error.mp failed with failed | ⟨_, _, done⟩
    · exact ⟨_, Temporal.readAs_error failed⟩
    · cases done

theorem apply_error {f : Function} {args : List Value} {e : FormulaError}
    (failed : f.apply args = .error e) : ∃ t problem, e = .invalidTemporal t problem := by
  cases f with
  | date => exact castDate_error failed
  | time => exact castTime_error failed
  | datetime => exact castDateTime_error failed
  | _ => cases failed

theorem call_eq_apply {f : Function} {args : List Value}
    (arity : f.checkArity args.length = .ok ()) : f.call args = f.apply args := by
  rw [call, arity]
  rfl

theorem call_error {f : Function} {args : List Value} {e : FormulaError}
    (failed : f.call args = .error e) :
    f.arity.accepts args.length = false ∧ e = .argumentCount f args.length ∨
      ∃ t problem, e = .invalidTemporal t problem := by
  unfold call checkArity at failed
  split at failed
  · exact .inr (apply_error failed)
  · rename_i refused
    cases failed
    exact .inl ⟨by simpa using refused, rfl⟩

end Function

theorem BinaryOp.apply_error {op : BinaryOp} {v w : Value} {e : FormulaError}
    (failed : op.apply v w = .error e) : e = .divisionByZero := by
  cases op with
  | divide =>
    unfold apply at failed
    dsimp only at failed
    split at failed
    · cases failed
    · cases failed
      rfl
  | _ => cases failed

namespace Expr

variable {env : Environment}

theorem evaluateAll_error {es : List Expr} {e : FormulaError}
    (failed : evaluateAll env es = .error e) : ∃ a ∈ es, a.evaluate env = .error e := by
  induction es with
  | nil => cases failed
  | cons a es ih =>
    rw [evaluateAll] at failed
    rcases bind_eq_error.mp failed with first | ⟨_, _, failed⟩
    · exact ⟨a, List.mem_cons_self, first⟩
    · rcases bind_eq_error.mp failed with others | ⟨_, _, done⟩
      · obtain ⟨b, member, failed⟩ := ih others
        exact ⟨b, List.mem_cons_of_mem _ member, failed⟩
      · cases done

theorem evaluateAll_fails {es : List Expr} {a : Expr} {e : FormulaError} (member : a ∈ es)
    (failed : a.evaluate env = .error e) : ∃ e, evaluateAll env es = .error e := by
  induction es with
  | nil => cases member
  | cons b es ih =>
    rw [evaluateAll]
    cases first : b.evaluate env with
    | error e => exact ⟨e, rfl⟩
    | ok v =>
      rcases List.mem_cons.mp member with rfl | member
      · rw [first] at failed
        cases failed
      · obtain ⟨e, others⟩ := ih member
        exact ⟨e, by rw [others]; rfl⟩

theorem evaluateAll_length {es : List Expr} {vs : List Value}
    (done : evaluateAll env es = .ok vs) : vs.length = es.length := by
  induction es generalizing vs with
  | nil =>
    cases done
    rfl
  | cons a es ih =>
    rw [evaluateAll] at done
    obtain ⟨v, _, rest⟩ := bind_eq_ok.mp done
    obtain ⟨vs, others, last⟩ := bind_eq_ok.mp rest
    cases last
    simp only [List.length_cons, ih others]

end Expr

end ComputedColumns
