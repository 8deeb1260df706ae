import ComputedColumns.Proofs.Table.Failure

namespace ComputedColumns

namespace Column

variable (engine : Pattern.Engine) (options : ValidationOptions) (c : Column) (value : String)

structure Admits : Prop where
  type : c.type.check value = .ok ()
  format : ∀ format, c.format = some format → format.checkWithin engine options value = .ok ()

/-- Why the column refuses the value: the type comes before the format. -/
inductive Refuses : Rejection → Prop where
  | type {cause : Rejection} (refused : c.type.check value = .error cause) : Refuses cause
  | format {format : ValueFormat} {cause : Rejection} (typed : c.type.check value = .ok ())
      (asked : c.format = some format) (refused : format.checkWithin engine options value = .error cause) :
      Refuses cause

variable {engine options c value}

theorem check_eq_ok_iff : c.check engine options value = .ok () ↔ c.Admits engine options value := by
  rw [check, bind_eq_ok]
  constructor
  · rintro ⟨⟨⟩, typed, formatted⟩
    refine ⟨typed, ?_⟩
    intro format asked
    rwa [asked] at formatted
  · rintro ⟨typed, formatted⟩
    refine ⟨(), typed, ?_⟩
    cases asked : c.format with
    | none => rfl
    | some format => exact formatted format asked

theorem check_eq_error_iff {cause : Rejection} :
    c.check engine options value = .error cause ↔ c.Refuses engine options value cause := by
  rw [check, bind_eq_error]
  constructor
  · rintro (refused | ⟨⟨⟩, typed, refused⟩)
    · exact .type refused
    · cases asked : c.format with
      | none =>
        rw [asked] at refused
        cases refused
      | some format =>
        rw [asked] at refused
        exact .format typed asked refused
  · rintro (refused | ⟨typed, asked, refused⟩)
    · exact .inl refused
    · refine .inr ⟨(), typed, ?_⟩
      rwa [asked]

theorem Refuses.unique {cause other : Rejection} (one : c.Refuses engine options value cause)
    (again : c.Refuses engine options value other) : cause = other := by
  rw [← check_eq_error_iff] at one again
  exact Except.error.inj (one.symm.trans again)

theorem Admits.not_refuses {cause : Rejection} (admits : c.Admits engine options value) :
    ¬ c.Refuses engine options value cause := by
  rw [← check_eq_error_iff, check_eq_ok_iff.mpr admits]
  nofun

end Column

def Record.text (r : Record) (index : Nat) : String := (r.get? index).getD ""

namespace Table

variable (engine : Pattern.Engine) (options : ValidationOptions) (t : Table) (r : Record)

def AdmitsBefore (limit : Nat) : Prop :=
  ∀ index (c : Column), index < limit → t.columns[index]? = some c → c.formula = none →
    c.Admits engine options (r.text index)

/-- What the check of a record comes to: nothing wrong, a wrong width, or the first cell of a source
column that its column refuses. -/
inductive Verdict : Except TableError Unit → Prop where
  | valid (full : r.width = t.width)
      (admitted : ∀ index (c : Column), t.columns[index]? = some c → c.formula = none →
        c.Admits engine options (r.text index)) : Verdict (.ok ())
  | width (other : r.width ≠ t.width) : Verdict (.error (.recordWidth t.width r.width))
  | value {index : Nat} {c : Column} {cause : Rejection} (full : r.width = t.width)
      (found : t.columns[index]? = some c) (source : c.formula = none)
      (refused : c.Refuses engine options (r.text index) cause)
      (first : AdmitsBefore engine options t r index) :
      Verdict (.error (.invalidValue c.name cause))

variable {engine options t r}

theorem sources_sorted : t.sources.Pairwise fun a b => a.2 < b.2 := by
  have positions : (t.columns.zipIdx.map Prod.snd).Pairwise (· < ·) := by
    rw [List.zipIdx_map_snd]
    exact List.pairwise_lt_range'
  exact (List.pairwise_map.mp positions).filter _

theorem mem_front {front back : List (Column × Nat)} {c d : Column} {index earlier : Nat}
    (split : t.sources = front ++ (c, index) :: back) (member : (d, earlier) ∈ t.sources)
    (before : earlier < index) : (d, earlier) ∈ front := by
  have sorted := t.sources_sorted
  rw [split] at sorted member
  rcases List.mem_append.mp member with inFront | behind
  · exact inFront
  · have order := (List.pairwise_append.mp sorted).2.1
    rcases List.mem_cons.mp behind with same | later
    · cases same
      exact absurd before (Nat.lt_irrefl _)
    · have after := (List.pairwise_cons.mp order).1 _ later
      exact absurd after (Nat.lt_asymm before)

def AllAdmit (engine : Pattern.Engine) (options : ValidationOptions) (r : Record)
    (cs : List (Column × Nat)) : Prop :=
  ∀ c index, (c, index) ∈ cs → c.Admits engine options (r.text index)

theorem AllAdmit.cons {c : Column} {index : Nat} {cs : List (Column × Nat)}
    (first : c.Admits engine options (r.text index)) (others : AllAdmit engine options r cs) :
    AllAdmit engine options r ((c, index) :: cs) := by
  intro d later member
  rcases List.mem_cons.mp member with same | member
  · cases same
    exact first
  · exact others d later member

theorem validateColumns_cases (engine : Pattern.Engine) (options : ValidationOptions) (r : Record)
    (cs : List (Column × Nat)) :
    (validateColumns engine options r cs = .ok () ∧ AllAdmit engine options r cs) ∨
      ∃ front c index back cause, cs = front ++ (c, index) :: back ∧ AllAdmit engine options r front ∧
        c.Refuses engine options (r.text index) cause ∧
        validateColumns engine options r cs = .error (.invalidValue c.name cause) := by
  induction cs with
  | nil => exact .inl ⟨rfl, nofun⟩
  | cons entry cs ih =>
    obtain ⟨c, index⟩ := entry
    rw [validateColumns, ← Record.text]
    cases checked : c.check engine options (r.text index) with
    | error cause =>
      exact .inr ⟨[], c, index, cs, cause, rfl, nofun, Column.check_eq_error_iff.mp checked, rfl⟩
    | ok =>
      have admits := Column.check_eq_ok_iff.mp checked
      rcases ih with ⟨passed, all⟩ | ⟨front, d, later, back, cause, rfl, all, refused, failed⟩
      · exact .inl ⟨passed, all.cons admits⟩
      · exact .inr ⟨(c, index) :: front, d, later, back, cause, rfl, all.cons admits, refused, failed⟩

theorem validateWithin_verdict (engine : Pattern.Engine) (options : ValidationOptions) (t : Table)
    (r : Record) : t.Verdict engine options r (t.validateWithin engine options r) := by
  rw [validateWithin]
  by_cases full : r.width = t.width
  · rw [if_pos full]
    rcases validateColumns_cases engine options r t.sources with
      ⟨passed, admitted⟩ | ⟨front, c, index, back, cause, split, admitted, refused, failed⟩
    · rw [passed]
      refine .valid full ?_
      intro index c found source
      exact admitted c index (mem_sources.mpr ⟨found, source⟩)
    · rw [failed]
      have listed : (c, index) ∈ t.sources := by
        rw [split]
        exact List.mem_append_right _ List.mem_cons_self
      obtain ⟨found, source⟩ := mem_sources.mp listed
      refine .value full found source refused ?_
      intro earlier d before present plain
      exact admitted d earlier (mem_front split (mem_sources.mpr ⟨present, plain⟩) before)
  · rw [if_neg full]
    exact .width full

theorem le_of_refused {i j : Nat} {c : Column} {cause : Rejection} (found : t.columns[i]? = some c)
    (source : c.formula = none) (refused : c.Refuses engine options (r.text i) cause)
    (first : AdmitsBefore engine options t r j) : j ≤ i := by
  by_contra before
  exact (first i c (Nat.lt_of_not_le before) found source).not_refuses refused

theorem Verdict.unique {a b : Except TableError Unit} (one : t.Verdict engine options r a)
    (other : t.Verdict engine options r b) : a = b := by
  cases one with
  | width wrong =>
    cases other with
    | width _ => rfl
    | valid full _ => exact absurd full wrong
    | value full _ _ _ _ => exact absurd full wrong
  | valid full admitted =>
    cases other with
    | width wrong => exact absurd full wrong
    | valid _ _ => rfl
    | value _ found source refused _ => exact absurd refused (admitted _ _ found source).not_refuses
  | @value i c cause full found source refused first =>
    cases other with
    | width wrong => exact absurd full wrong
    | valid _ admitted => exact absurd refused (admitted _ _ found source).not_refuses
    | @value j d cause' _ found' source' refused' first' =>
      -- Neither of the two positions can stand in front of the other.
      have position : i = j :=
        Nat.le_antisymm (le_of_refused found' source' refused' first)
          (le_of_refused found source refused first')
      subst position
      obtain rfl : c = d := Option.some.inj (found.symm.trans found')
      rw [refused.unique refused']

theorem validateWithin_eq_iff {outcome : Except TableError Unit} :
    t.validateWithin engine options r = outcome ↔ t.Verdict engine options r outcome := by
  constructor
  · rintro rfl
    exact validateWithin_verdict engine options t r
  · exact (validateWithin_verdict engine options t r).unique

/-- The table is the same but for declared types, the record has the width of the table, and the source
columns have their cells. -/
structure Keeps (t : Table) (r : Record) (t' : Table) (r' : Record) : Prop where
  table : t'.untyped = t.untyped
  width : r'.width = t.width
  source : ∀ index (c : Column), t.columns[index]? = some c → c.formula = none →
    r'.get? index = r.get? index

theorem recompute_keeps (options : RecomputeOptions) (fits : r.width ≤ t.width) :
    t.Keeps r (t.recompute options r).1.table (t.recompute options r).1.record := by
  by_cases fails : t.Fails options r
  · obtain ⟨⟨table, record, stats⟩, e, halted, left⟩ := recompute_halts fails []
    rw [declared_nil] at halted
    rw [halted]
    dsimp only at left ⊢
    cases left with
    | tooWide wide => omega
    | @marked front back c formula problem _ _ _ found _ _ _ stopped =>
      refine ⟨?_, stopped.width, stopped.source⟩
      simp only [untyped, found, List.map_append, List.map_map, Function.comp_def,
        Column.untyped_declared]
  · rw [recompute_passes (not_fails_iff.mp fails)]
    have recomputed : Recomputed options t r (t.filled options r) := filled_recomputed fits
    exact ⟨untyped_declared options t _, recomputed.width, recomputed.source⟩

theorem validateColumns_congr {r' : Record} {cs : List (Column × Nat)}
    (same : ∀ c index, (c, index) ∈ cs → r'.get? index = r.get? index) :
    validateColumns engine options r' cs = validateColumns engine options r cs := by
  induction cs with
  | nil => rfl
  | cons entry cs ih =>
    obtain ⟨c, index⟩ := entry
    have first := same c index List.mem_cons_self
    have others := ih fun d later member => same d later (List.mem_cons_of_mem _ member)
    rw [validateColumns, validateColumns, first, others]

theorem Keeps.validateWithin {t' : Table} {r' : Record} (keeps : t.Keeps r t' r')
    (full : r.width = t.width) (engine : Pattern.Engine) (options : ValidationOptions) :
    t'.validateWithin engine options r' = t.validateWithin engine options r := by
  have width := width_of_untyped keeps.table
  have sources : t'.sources = t.sources := by
    rw [← sources_untyped t', keeps.table, sources_untyped]
  have same : ∀ c index, (c, index) ∈ t.sources → r'.get? index = r.get? index := by
    intro c index member
    obtain ⟨found, source⟩ := mem_sources.mp member
    exact keeps.source index c found source
  rw [Table.validateWithin, Table.validateWithin, if_pos (keeps.width.trans width.symm), if_pos full,
    sources, validateColumns_congr same]

/-- The check of a record comes to its verdict, whatever the limits of pattern checks are and whichever
patterns keep to them. Recomputing a record that is no narrower than the table does not change it, nor
does a recomputation that fails. -/
theorem validateWithin_recompute (engine : Pattern.Engine) (options : ValidationOptions) (t : Table)
    (r : Record) :
    (∀ outcome, t.validateWithin engine options r = outcome ↔ t.Verdict engine options r outcome) ∧
      (t.width ≤ r.width → ∀ how : RecomputeOptions,
        (t.recompute how r).1.table.validateWithin engine options (t.recompute how r).1.record =
          t.validateWithin engine options r) := by
  refine ⟨fun outcome => validateWithin_eq_iff, ?_⟩
  intro enough how
  rcases Nat.lt_or_eq_of_le enough with wide | full
  · rw [recompute, if_pos wide]
  · exact (recompute_keeps how (Nat.le_of_eq full.symm)).validateWithin full.symm engine options

def shares : Table :=
  ⟨"shares", [.source "count" .number, .computed "share" "=100/{count}",
    ⟨"code", .text, none, some (.pattern "A|BC")⟩]⟩

/-- An engine that says how large a pattern may be. -/
def reporting : Pattern.Engine :=
  { Pattern.Engine.byFootprint with
    report := fun sizeLimit _ =>
      some ("Compiled regex exceeds size limit of " ++ Nat.repr sizeLimit ++ " bytes.") }

/-- The run ends in the second column. The cell of the third is refused as it was before: for the size of
the pattern under a small limit, and else since it does not match. -/
theorem validateWithin_recompute_shares :
    let r : Record := ⟨[some "0", some "old", some "AB"]⟩
    let how : RecomputeOptions := ⟨true, false, true⟩
    let after := (shares.recompute how r).1
    let large : TableError :=
      .invalidValue "code" (.invalidPattern (some "Compiled regex exceeds size limit of 64 bytes."))
    let other : TableError := .invalidValue "code" (.noMatch "A|BC")
    shares.width ≤ r.width ∧
      (shares.recompute how r).2 = some (.formula "share" "Division by zero") ∧
      shares.validateWithin reporting ⟨64, 2, 0⟩ r = .error large ∧
      after.table.validateWithin reporting ⟨64, 2, 0⟩ after.record = .error large ∧
      shares.validateWithin reporting .default r = .error other ∧
      after.table.validateWithin reporting .default after.record = .error other := by
  intro r how after large other
  have enough : shares.width ≤ r.width := Nat.le_refl 3
  have ended : (shares.recompute how r).2 = some (.formula "share" "Division by zero") := by
    decide +kernel
  have tooLarge : shares.validateWithin reporting ⟨64, 2, 0⟩ r = .error large := by decide +kernel
  have noMatch : shares.validateWithin reporting .default r = .error other := by decide +kernel
  have kept := fun options => (validateWithin_recompute reporting options shares r).2 enough how
  exact ⟨enough, ended, tooLarge, (kept _).trans tooLarge, noMatch, (kept _).trans noMatch⟩

end Table

end ComputedColumns
