import ComputedColumns.Formula.Storage
import ComputedColumns.Proofs.Binary64.Reader
import ComputedColumns.Proofs.Formula.Environment
import ComputedColumns.Proofs.Formula.TemporalCast
import ComputedColumns.Proofs.Formula.Transparency
import ComputedColumns.Table.Validation

namespace ComputedColumns

open Text

theorem ColumnType.check_of_fits {type : ColumnType} {cs : List Char} (fits : type.fits cs = true) :
    type.check (String.ofList cs) = .ok () := by
  rw [check, String.toList_ofList, fits, Bool.or_true, if_pos rfl]

theorem Date.text_fits (d : Date) : ColumnType.date.fits d.text = true := by
  rw [ColumnType.fits, Calendar.date?_text, Option.isSome_some]

theorem TimeOfDay.text_fits (t : TimeOfDay) : ColumnType.time.fits t.text = true := by
  rw [ColumnType.fits, Calendar.time?_text, Option.isSome_some]

theorem DateTime.text_fits (m : DateTime) : ColumnType.datetime.fits m.text = true := by
  rw [ColumnType.fits, Calendar.dateTime?_text, Option.isSome_some]

namespace Temporal

theorem Written.fits {t : Temporal} {text : List Char} (written : t.Written text) :
    t.columnType.fits text = true := by
  cases written with
  | date d => exact d.text_fits
  | time t => exact t.text_fits
  | datetime m => exact m.text_fits

theorem canonical_fits {t : Temporal} {cs text : List Char} (read : t.canonical cs = .ok text) :
    t.columnType.fits text = true := by
  rw [canonical_eq, map_eq_ok] at read
  obtain ⟨meant, -, rfl⟩ := read
  exact (written_textOf meant).fits

theorem stored_fits (t : Temporal) {cs : List Char} (fits : t.columnType.fits cs = true) :
    t.columnType.fits (t.stored cs) = true := by
  unfold stored
  split
  · rename_i text read
    exact canonical_fits read
  · exact fits

end Temporal

theorem Value.floatText_fits (x : Binary64) : ColumnType.decimal.fits (floatText x) = true := by
  rw [ColumnType.fits]
  unfold floatText
  split
  · split
    · exact Binary64.read_fixed _ 1
    · exact Binary64.read_display _
  · exact Binary64.read_display _

theorem currencyText_fits (x : Binary64) : ColumnType.currency.fits (currencyText x) = true := by
  rw [ColumnType.fits]
  unfold currencyText
  split
  · exact Decimal.read_text _
  · exact Binary64.read_fixed x 2

namespace Value

def IsPlain : Value → Prop
  | typed _ _ => False
  | _ => True

/-- Plain values, and what the casts make: an amount, and the text of a date or time. -/
inductive Storable : Value → Prop where
  | plain {v : Value} (bare : v.IsPlain) : Storable v
  | currency (x : Binary64) : Storable (.typed .currency (.number (.float x)))
  | temporal {t : Temporal} {cs : List Char} (fits : t.columnType.fits cs = true) :
    Storable (t.value cs)

theorem isPlain_plain (v : Value) : v.plain.IsPlain := by
  induction v with
  | typed kind inner ih => exact ih
  | _ => trivial

theorem isPlain_ofCell (type : ColumnType) (cell : Option String) : (ofCell type cell).IsPlain := by
  unfold ofCell
  split
  · trivial
  · split <;> trivial
  · split <;> trivial
  · split <;> trivial
  · split
    · split <;> trivial
    · trivial

theorem check_storedText {v : Value} (storable : v.Storable) :
    v.columnType.check v.storedText = .ok () := by
  cases storable with
  | currency x =>
    have fits := currencyText_fits x
    rw [columnType, Kind.columnType, storedText, toNumber, Number.toFloat]
    exact ColumnType.check_of_fits fits
  | @temporal t cs fits =>
    have fits := t.stored_fits fits
    have inside : (text (String.ofList cs)).plain = text (String.ofList cs) := rfl
    rw [Temporal.value, columnType, Kind.columnType, storedText, ofChars, inside, display,
      String.toList_ofList]
    exact ColumnType.check_of_fits fits
  | plain bare =>
    cases v with
    | number n =>
      cases n with
      | int n =>
        have fits : ColumnType.number.fits (intDigits n.toInt) = true := by
          rw [ColumnType.fits, readInt64_intDigits, Option.isSome_some]
        exact ColumnType.check_of_fits fits
      | float x =>
        have fits := floatText_fits x
        exact ColumnType.check_of_fits fits
    | text s => simp [columnType, ColumnType.check, ColumnType.fits]
    | boolean b => cases b <;> rfl
    | nil => rfl
    | typed kind inner => cases bare

end Value

theorem Environment.isPlain_lookup {columns : List (String × Value)}
    (bare : ∀ column ∈ columns, column.2.IsPlain) (r : Reference) :
    ((ofColumns columns).lookup r).IsPlain := by
  rcases lookup_mem columns r with absent | ⟨column, member, found⟩
  · rw [absent]
    trivial
  · rw [found]
    exact bare column member

namespace Kind

def cast : Kind → Function
  | currency => .currency
  | temporal t => t.cast

/-- What the casts make: an amount as a float, and a date or time as its canonical text. -/
inductive Result : Kind → Value → Prop where
  | currency (x : Binary64) : Result .currency (.typed .currency (.number (.float x)))
  | temporal {t : Temporal} {text : List Char} (written : t.Written text) :
    Result (.temporal t) (t.value text)

theorem Result.storable {kind : Kind} {v : Value} (result : kind.Result v) : v.Storable := by
  cases result with
  | currency x => exact .currency x
  | temporal written => exact .temporal written.fits

end Kind

namespace Function

variable {args : List Value}

theorem isPlain_arg (bare : ∀ v ∈ args, v.IsPlain) (i : Nat) : (arg args i).IsPlain := by
  unfold arg
  rw [List.getD_eq_getElem?_getD]
  cases found : args[i]? with
  | none => trivial
  | some v => exact bare v (List.mem_of_getElem? found)

theorem isPlain_nthPiece (parts : List (List Char)) (index : Int) :
    (nthPiece parts index).IsPlain := by
  rw [nthPiece]
  generalize (if index < 0 then index + parts.length else index) = position
  split
  · trivial
  · split <;> trivial

theorem lookup_eq_ok_iff {name : String} {f : Function} :
    lookup name = .ok f ↔ ofName? name = some f := by
  unfold lookup
  cases ofName? name <;> simp

theorem apply_isPlain {f : Function} {v : Value} (bare : ∀ v ∈ args, v.IsPlain)
    (other : ∀ kind : Kind, f ≠ kind.cast) (done : f.apply args = .ok v) : v.IsPlain := by
  cases f with
  | conditional =>
    cases done
    split
    · exact isPlain_arg bare 1
    · rw [List.getD_eq_getElem?_getD]
      cases found : args[2]? with
      | none => trivial
      | some v => exact bare v (List.mem_of_getElem? found)
  | split =>
    cases done
    exact isPlain_nthPiece _ _
  | coalesce =>
    cases done
    cases found : args.find? (·.isTruthy) with
    | none => trivial
    | some v => exact bare v (List.mem_of_find?_eq_some found)
  | currency => exact absurd rfl (other .currency)
  | date => exact absurd rfl (other (.temporal .date))
  | time => exact absurd rfl (other (.temporal .time))
  | datetime => exact absurd rfl (other (.temporal .datetime))
  | _ =>
    cases done
    trivial

theorem apply_cases {f : Function} {v : Value} (bare : ∀ v ∈ args, v.IsPlain)
    (done : f.apply args = .ok v) :
    (∃ kind : Kind, f = kind.cast ∧ kind.Result v) ∨ (∀ kind : Kind, f ≠ kind.cast) ∧ v.IsPlain := by
  by_cases other : ∀ kind : Kind, f ≠ kind.cast
  · exact .inr ⟨other, apply_isPlain bare other done⟩
  obtain ⟨kind, rfl⟩ : ∃ kind : Kind, f = kind.cast := by simpa using other
  refine .inl ⟨kind, rfl, ?_⟩
  cases kind with
  | currency =>
    cases done
    exact .currency _
  | temporal t =>
    obtain ⟨text, written, rfl⟩ := Temporal.written_of_apply done
    exact .temporal written

end Function

theorem BinaryOp.apply_isPlain {op : BinaryOp} {v w u : Value} (done : op.apply v w = .ok u) :
    u.IsPlain := by
  cases op with
  | divide =>
    unfold apply at done
    dsimp only at done
    split at done
    · cases done
      trivial
    · cases done
  | _ =>
    cases done
    trivial

theorem Expr.evaluateAll_isPlain {env : Environment} {es : List Expr} {vs : List Value}
    (done : evaluateAll env es = .ok vs) : ∀ v ∈ vs, v.IsPlain := by
  induction es generalizing vs with
  | nil =>
    cases done
    simp
  | cons e es ih =>
    rw [evaluateAll] at done
    obtain ⟨v, _, rest⟩ := bind_eq_ok.mp done
    obtain ⟨ws, others, last⟩ := bind_eq_ok.mp rest
    cases last
    intro w member
    rcases List.mem_cons.mp member with rfl | member
    · exact v.isPlain_plain
    · exact ih others w member

/-- The root of the expression is a call of the cast to the kind. -/
def Expr.IsCastTo (kind : Kind) (e : Expr) : Prop :=
  ∃ name args, e = .call name args ∧ Function.ofName? name = some kind.cast

theorem Expr.not_isCastTo {e : Expr} (leaf : ∀ name args, e ≠ .call name args) (kind : Kind) :
    ¬ e.IsCastTo kind := by
  rintro ⟨name, args, root, -⟩
  exact leaf name args root

theorem Expr.evaluate_cases {env : Environment} (bare : ∀ r, (env.lookup r).IsPlain) {e : Expr}
    {v : Value} (done : e.evaluate env = .ok v) :
    (∃ kind, e.IsCastTo kind ∧ kind.Result v) ∨ (∀ kind, ¬ e.IsCastTo kind) ∧ v.IsPlain := by
  cases e with
  | number n =>
    cases done
    exact .inr ⟨not_isCastTo fun _ _ => Expr.noConfusion, trivial⟩
  | text s =>
    cases done
    exact .inr ⟨not_isCastTo fun _ _ => Expr.noConfusion, trivial⟩
  | boolean b =>
    cases done
    exact .inr ⟨not_isCastTo fun _ _ => Expr.noConfusion, trivial⟩
  | reference r =>
    cases done
    exact .inr ⟨not_isCastTo fun _ _ => Expr.noConfusion, bare r⟩
  | binary op left right =>
    rw [evaluate] at done
    obtain ⟨_, _, rest⟩ := bind_eq_ok.mp done
    obtain ⟨_, _, last⟩ := bind_eq_ok.mp rest
    exact .inr ⟨not_isCastTo fun _ _ => Expr.noConfusion, op.apply_isPlain last⟩
  | negate operand =>
    rw [evaluate] at done
    obtain ⟨_, _, last⟩ := bind_eq_ok.mp done
    cases last
    exact .inr ⟨not_isCastTo fun _ _ => Expr.noConfusion, trivial⟩
  | call name args =>
    -- Arguments lose their types before the call, so a cast inside leaves none.
    rw [evaluate] at done
    obtain ⟨vs, all, rest⟩ := bind_eq_ok.mp done
    obtain ⟨f, found, called⟩ := bind_eq_ok.mp rest
    obtain ⟨_, _, applied⟩ := bind_eq_ok.mp called
    have known := Function.lookup_eq_ok_iff.mp found
    rcases Function.apply_cases (Expr.evaluateAll_isPlain all) applied with
      ⟨kind, rfl, result⟩ | ⟨other, plain⟩
    · exact .inl ⟨kind, ⟨name, args, rfl, known⟩, result⟩
    · refine .inr ⟨?_, plain⟩
      rintro kind ⟨_, _, root, cast⟩
      cases root
      exact other kind (Option.some.inj (known.symm.trans cast))

theorem Expr.evaluate_storable {env : Environment} (bare : ∀ r, (env.lookup r).IsPlain) {e : Expr}
    {v : Value} (done : e.evaluate env = .ok v) : v.Storable := by
  rcases evaluate_cases bare done with ⟨kind, -, result⟩ | ⟨-, plain⟩
  · exact result.storable
  · exact .plain plain

theorem evaluate_storable {env : Environment} (bare : ∀ r, (env.lookup r).IsPlain)
    (source : String) : (evaluate source env).Storable := by
  unfold evaluate tryEvaluate
  split
  · rename_i v done
    split at done
    · split at done
      · exact Expr.evaluate_storable bare done
      · cases done
    · cases done
      exact .plain trivial
  · exact .plain trivial

theorem ColumnType.not_fits_hash {type : ColumnType}
    (checked : type ∈ [number, decimal, currency, boolean, date, time, datetime]) (cs : List Char) :
    type.fits ('#' :: cs) = false := by
  have all : ∀ type ∈ [number, decimal, currency, boolean, date, time, datetime],
      type.fits ('#' :: cs) = false := by
    simp only [List.forall_mem_cons]
    exact ⟨rfl, rfl, rfl, rfl, rfl, rfl, rfl, nofun⟩
  exact all type checked

namespace Value

theorem isErrorMarker_eq {v : Value} (storable : v.Storable) :
    v.isErrorMarker = errorMark.toList.isPrefixOf v.storedText.toList := by
  have ok := check_storedText storable
  have other (checked : v.columnType ∈
      [.number, .decimal, .currency, .boolean, .date, .time, .datetime]) :
      errorMark.toList.isPrefixOf v.storedText.toList = false := by
    rw [Bool.eq_false_iff]
    intro marked
    obtain ⟨problem, split⟩ := List.isPrefixOf_iff_prefix.mp marked
    have begins : v.storedText.toList = '#' :: ("ERROR: ".toList ++ problem) := split.symm
    have shown : v.storedText ≠ "" := by
      intro empty
      rw [empty] at begins
      cases begins
    rw [ColumnType.check, begins, ColumnType.not_fits_hash checked] at ok
    simp [shown] at ok
  cases v with
  | text s => rfl
  | nil => rfl
  | number n => cases n <;> exact (other (by simp [columnType])).symm
  | boolean b => exact (other (by simp [columnType])).symm
  | typed kind inner =>
    refine (other ?_).symm
    rcases kind with _ | _ | _ | _ <;> simp [columnType, Kind.columnType, Temporal.columnType]

end Value
end ComputedColumns
