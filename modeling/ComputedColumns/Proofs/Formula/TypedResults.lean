import ComputedColumns.Proofs.Formula.Storage

namespace ComputedColumns

namespace Kind

variable {kind other : Kind} {inner : Value}

theorem eq_of_cast_eq (same : kind.cast = other.cast) : kind = other := by
  rcases kind with _ | _ | _ | _ <;> rcases other with _ | _ | _ | _ <;> cases same <;> rfl

theorem Result.exists_typed {v : Value} (result : kind.Result v) : ∃ inner, v = .typed kind inner := by
  cases result with
  | currency x => exact ⟨_, rfl⟩
  | temporal written => exact ⟨_, rfl⟩

theorem Result.float (result : Result .currency (.typed .currency inner)) :
    ∃ x, inner = .number (.float x) := by
  cases result with
  | currency x => exact ⟨x, rfl⟩

theorem Result.canonical {t : Temporal} (result : Result (.temporal t) (.typed (.temporal t) inner)) :
    ∃ s, inner = .text s ∧ t.canonical s.toList = .ok s.toList := by
  cases result with
  | temporal written =>
    rename_i text
    refine ⟨String.ofList text, rfl, ?_⟩
    rw [String.toList_ofList]
    exact Temporal.canonical_of_written written

theorem Result.isPlain (result : kind.Result (.typed other inner)) : inner.IsPlain := by
  cases result <;> trivial

end Kind

theorem Environment.isPlain_lookup_of_entries {env : Environment}
    (bare : ∀ entry ∈ env.entries, entry.2.IsPlain) (r : Reference) : (env.lookup r).IsPlain := by
  rw [lookup, get?]
  cases found : env.entries.lookup r.key with
  | none => trivial
  | some v =>
    obtain ⟨before, after, split, -⟩ := List.lookup_eq_some_iff.mp found
    exact bare (r.key, v) (by simp [split])

namespace Expr

variable {env : Environment} {e : Expr} {v : Value}

theorem result_of_typed (bare : ∀ r, (env.lookup r).IsPlain) (done : e.evaluate env = .ok v)
    {kind : Kind} {inner : Value} (typed : v = .typed kind inner) :
    e.IsCastTo kind ∧ kind.Result v := by
  rcases evaluate_cases bare done with ⟨other, root, result⟩ | ⟨-, plain⟩
  · obtain ⟨_, same⟩ := result.exists_typed
    cases same.symm.trans typed
    exact ⟨root, result⟩
  · rw [typed] at plain
    cases plain

theorem typed_of_isCastTo (bare : ∀ r, (env.lookup r).IsPlain) (done : e.evaluate env = .ok v)
    {kind : Kind} (root : e.IsCastTo kind) : ∃ inner, v = .typed kind inner := by
  rcases evaluate_cases bare done with ⟨other, found, result⟩ | ⟨noCast, -⟩
  · obtain ⟨name, args, call, cast⟩ := root
    obtain ⟨name', args', call', cast'⟩ := found
    cases call.symm.trans call'
    cases Kind.eq_of_cast_eq (Option.some.inj (cast.symm.trans cast'))
    exact result.exists_typed
  · exact absurd root (noCast kind)

/-- Over plain values a formula has a typed value just when it is a call of the cast to this type. Inside is
a float, or a text that is its own canonical text, and never another type. -/
theorem typed_iff_isCastTo (bare : ∀ entry ∈ env.entries, entry.2.IsPlain)
    (done : e.evaluate env = .ok v) :
    (∀ kind, (∃ inner, v = .typed kind inner) ↔ e.IsCastTo kind) ∧
      (∀ inner, v = .typed .currency inner → ∃ x, inner = .number (.float x)) ∧
      (∀ t inner, v = .typed (.temporal t) inner →
        ∃ s, inner = .text s ∧ t.canonical s.toList = .ok s.toList) ∧
      ∀ kind inner, v = .typed kind inner → inner.IsPlain := by
  have bare := Environment.isPlain_lookup_of_entries bare
  refine ⟨?_, ?_, ?_, ?_⟩
  · intro kind
    constructor
    · rintro ⟨inner, typed⟩
      exact (result_of_typed bare done typed).1
    · exact typed_of_isCastTo bare done
  · rintro inner rfl
    exact (result_of_typed bare done rfl).2.float
  · rintro t inner rfl
    exact (result_of_typed bare done rfl).2.canonical
  · rintro kind inner rfl
    exact (result_of_typed bare done rfl).2.isPlain

def orderRow : Environment := ⟨[("Ordered", .text " 2024-3-5 8:07")]⟩

def orderDate : Expr := call "Date" [reference ⟨"Ordered", none⟩]

/-- The cast at the root gives a type, and the choice of its result has none. -/
theorem typed_iff_isCastTo_order :
    (∀ entry ∈ orderRow.entries, entry.2.IsPlain) ∧
      orderDate.evaluate orderRow = .ok (.typed (.temporal .date) (.text "2024-03-05")) ∧
      orderDate.IsCastTo (.temporal .date) ∧
      (∃ s, Value.text "2024-03-05" = .text s ∧ Temporal.date.canonical s.toList = .ok s.toList) ∧
      (call "IF" [boolean true, orderDate]).evaluate orderRow = .ok (.text "2024-03-05") ∧
      ∀ kind, ¬ (call "IF" [boolean true, orderDate]).IsCastTo kind := by
  have bare : ∀ entry ∈ orderRow.entries, entry.2.IsPlain := by simp [orderRow, Value.IsPlain]
  have dated : orderDate.evaluate orderRow =
      .ok (.typed (.temporal .date) (.text "2024-03-05")) := by decide +kernel
  have chosen : (call "IF" [boolean true, orderDate]).evaluate orderRow =
      .ok (.text "2024-03-05") := by decide +kernel
  obtain ⟨root, -, canonical, -⟩ := typed_iff_isCastTo bare dated
  obtain ⟨noRoot, -, -, -⟩ := typed_iff_isCastTo bare chosen
  refine ⟨bare, dated, (root _).mp ⟨_, rfl⟩, canonical _ _ rfl, chosen, ?_⟩
  intro kind cast
  obtain ⟨inner, typed⟩ := (noRoot kind).mpr cast
  cases typed

end Expr

end ComputedColumns
