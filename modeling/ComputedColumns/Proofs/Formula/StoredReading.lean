import ComputedColumns.Proofs.Formula.Storage

namespace ComputedColumns

open Text

namespace Text

theorem isBlank_of_toLower {c : Char} (visible : isBlank c.toLower = false) : isBlank c = false := by
  by_cases letter : c.val ≥ 'A'.val ∧ c.val ≤ 'Z'.val
  · have low : 65 ≤ c.toNat := letter.1
    have high : c.toNat ≤ 90 := letter.2
    simp [isBlank]
    omega
  · have same : c.toLower = c := dif_neg letter
    rwa [same] at visible

variable {cs : List Char}

theorem visible_of_splitSign (visible : ∀ c ∈ (splitSign cs).2, isBlank c = false) :
    ∀ c ∈ cs, isBlank c = false := by
  unfold splitSign at visible
  split at visible
  · exact List.forall_mem_cons.mpr ⟨rfl, visible⟩
  · exact List.forall_mem_cons.mpr ⟨rfl, visible⟩
  · exact visible

theorem isDigit_of_natural? {n : Nat} (read : natural? cs = some n) : ∀ d ∈ cs, isDigit d = true := by
  unfold natural? at read
  split at read
  · rename_i filled
    simp only [Bool.and_eq_true, List.all_eq_true] at filled
    exact filled.2
  · cases read

theorem visible_of_integer? {n : Int} (read : integer? cs = some n) : ∀ c ∈ cs, isBlank c = false := by
  obtain ⟨m, digits, -⟩ := Option.map_eq_some_iff.mp read
  apply visible_of_splitSign
  exact fun d member => isBlank_of_digit (isDigit_of_natural? digits d member)

theorem visible_of_readInt64 {n : Int64} (read : readInt64 cs = some n) :
    ∀ c ∈ cs, isBlank c = false := by
  obtain ⟨k, read, -⟩ := Option.bind_eq_some_iff.mp read
  exact visible_of_integer? read

end Text

namespace Binary64

variable {cs : List Char}

theorem visible_of_readExponent {n : Int} (read : readExponent cs = some n) :
    ∀ c ∈ cs, isBlank c = false := by
  cases cs with
  | nil => exact List.forall_mem_nil _
  | cons c cs =>
    rw [readExponent] at read
    split at read
    · rename_i mark
      have visible : isBlank c = false := by
        simp only [Bool.or_eq_true, decide_eq_true_eq] at mark
        rcases mark with rfl | rfl <;> rfl
      exact List.forall_mem_cons.mpr ⟨visible, visible_of_integer? read⟩
    · cases read

theorem visible_of_digits (all : ∀ d ∈ cs.dropWhile isDigit, isBlank d = false) :
    ∀ c ∈ cs, isBlank c = false := by
  have front : ∀ d ∈ cs.takeWhile isDigit, isBlank d = false :=
    fun d member => isBlank_of_digit (List.mem_takeWhile_imp member)
  have both := List.forall_mem_append.mpr ⟨front, all⟩
  rwa [List.takeWhile_append_dropWhile] at both

theorem visible_of_readUnsigned {negative : Bool} {x : Binary64}
    (read : readUnsigned negative cs = some x) : ∀ c ∈ cs, isBlank c = false := by
  apply visible_of_digits
  unfold readUnsigned at read
  dsimp only at read
  split at read
  · rename_i decimals rest point
    split at read
    · cases read
    · obtain ⟨n, exponent, -⟩ := Option.map_eq_some_iff.mp read
      rw [point]
      exact List.forall_mem_cons.mpr ⟨rfl, visible_of_digits (visible_of_readExponent exponent)⟩
  · split at read
    · cases read
    · obtain ⟨n, exponent, -⟩ := Option.map_eq_some_iff.mp read
      exact visible_of_readExponent exponent

theorem visible_of_read {x : Binary64} (read : Binary64.read cs = some x) :
    ∀ c ∈ cs, isBlank c = false := by
  have named {name : List Char} (same : (splitSign cs).2.map Char.toLower = name)
      (visible : name.any isBlank = false) : ∀ c ∈ (splitSign cs).2, isBlank c = false := by
    intro c member
    apply isBlank_of_toLower
    have lower : c.toLower ∈ name := same ▸ List.mem_map_of_mem member
    simpa using List.any_eq_false.mp visible c.toLower lower
  apply visible_of_splitSign
  unfold Binary64.read at read
  dsimp only at read
  split at read
  · rename_i name
    exact named name rfl
  · rename_i name
    exact named name rfl
  · rename_i name
    exact named name rfl
  · exact visible_of_readUnsigned read

end Binary64

namespace Temporal

/-- What the check of a column finds in a text. -/
def checked? : (t : Temporal) → List Char → Option t.Meaning
  | date => Calendar.date?
  | time => Calendar.time? false
  | datetime => Calendar.dateTime? .letter false

variable {t : Temporal} {cs : List Char} {meant : t.Meaning}

theorem fits_eq (t : Temporal) (cs : List Char) : t.columnType.fits cs = (t.checked? cs).isSome := by
  cases t <;> rfl

/-- The check does not cut off blanks, yet those in front do not matter to it and none can stand behind. -/
theorem checked?_trim (checked : t.checked? cs = some meant) : t.checked? (trim cs) = some meant := by
  cases t with
  | date => exact Calendar.date?_trim checked
  | time => exact Calendar.time?_trim checked
  | datetime => exact Calendar.dateTime?_trim checked

theorem checked?_nil (t : Temporal) : t.checked? [] = none := by
  cases t <;> rfl

theorem reading_of_checked (checked : t.checked? cs = some meant) : t.reading cs = .ok meant := by
  have trimmed := checked?_trim checked
  have present : trim cs ≠ [] := by
    intro empty
    rw [empty, checked?_nil] at trimmed
    cases trimmed
  cases t with
  | date =>
    have found : anyDate? (trim cs) = some meant := by
      rw [anyDate?, show Calendar.date? (trim cs) = some meant from trimmed]
      rfl
    exact readAs_eq_ok_iff.mpr ⟨present, found⟩
  | time =>
    have found : anyTime? (trim cs) = some meant := by
      rw [anyTime?, Calendar.time?_seconds_eq_none trimmed,
        show Calendar.time? false (trim cs) = some meant from trimmed]
      rfl
    exact readAs_eq_ok_iff.mpr ⟨present, found⟩
  | datetime =>
    have found : anyDateTime? (trim cs) = some meant := by
      rw [anyDateTime?, dateTimeOnly?, Calendar.dateTime?_seconds_eq_none trimmed,
        show Calendar.dateTime? .letter false (trim cs) = some meant from trimmed]
      rfl
    exact readAs_eq_ok_iff.mpr ⟨present, found⟩

theorem checked?_textOf (checked : t.checked? cs = some meant) :
    t.checked? (t.textOf meant) = some meant := by
  cases t with
  | date => exact Calendar.date?_text meant
  | time =>
    have whole := Calendar.whole_of_time? checked
    exact (Calendar.time?_text meant).trans (congrArg some whole)
  | datetime =>
    have whole := Calendar.whole_of_dateTime? checked
    exact (Calendar.dateTime?_text meant).trans (congrArg (some <| DateTime.mk meant.date ·) whole)

end Temporal

theorem ColumnType.fits_of_check {type : ColumnType} {s : String} (filled : s ≠ "")
    (accepted : type.check s = .ok ()) : type.fits s.toList = true := by
  have blank : ¬ (decide (s = "")) = true := by simpa using filled
  unfold check at accepted
  split at accepted
  · rename_i fits
    exact (Bool.or_eq_true_iff.mp fits).resolve_left blank
  · cases accepted

namespace Value

variable {s : String}

theorem ofCell_number {n : Int64} (read : readInt64 s.toList = some n) :
    ofCell .number (some s) = .number (.int n) := by
  have kept := trim_of_visible (visible_of_readInt64 read)
  rw [ofCell, Option.bind_some, kept, read]

theorem ofCell_float {type : ColumnType} (isFloat : type ∈ [ColumnType.decimal, .currency])
    {x : Binary64} (read : Binary64.read s.toList = some x) :
    ofCell type (some s) = .number (.float x) := by
  have kept := trim_of_visible (Binary64.visible_of_read read)
  simp only [List.mem_cons, List.not_mem_nil, or_false] at isFloat
  rcases isFloat with rfl | rfl <;> rw [ofCell, Option.bind_some, kept, read]

theorem ofCell_temporal (filled : s ≠ "") (t : Temporal) :
    ofCell t.columnType (some s) = .text s := by
  cases t <;> exact if_neg filled

end Value

/-- What the check of a column accepts is read as the number or as the date or time that the check found;
a cast then keeps it, and the text that its outcome is stored as is accepted again, as the same. -/
theorem ColumnType.accepted_is_read {s : String} (filled : s ≠ "") :
    (number.check s = .ok () →
      ∃ n, readInt64 s.toList = some n ∧ Value.ofCell number (some s) = .number (.int n)) ∧
    (∀ type ∈ [decimal, currency], type.check s = .ok () →
      ∃ x, Binary64.read s.toList = some x ∧ Value.ofCell type (some s) = .number (.float x)) ∧
    ∀ t : Temporal, t.columnType.check s = .ok () →
      ∃ meant, t.checked? s.toList = some meant ∧
        t.reading (Value.ofCell t.columnType (some s)).display.toList = .ok meant ∧
        t.cast.call [Value.ofCell t.columnType (some s)] = .ok (t.value (t.textOf meant)) ∧
        t.columnType.check (t.value (t.textOf meant)).storedText = .ok () ∧
        t.checked? (t.value (t.textOf meant)).storedText.toList = some meant := by
  refine ⟨?_, ?_, ?_⟩
  · intro accepted
    obtain ⟨n, read⟩ := Option.isSome_iff_exists.mp (fits_of_check filled accepted)
    exact ⟨n, read, Value.ofCell_number read⟩
  · intro type isFloat accepted
    have fits : (Binary64.read s.toList).isSome = true := by
      have fits := fits_of_check filled accepted
      simp only [List.mem_cons, List.not_mem_nil, or_false] at isFloat
      rcases isFloat with rfl | rfl <;> exact fits
    obtain ⟨x, read⟩ := Option.isSome_iff_exists.mp fits
    exact ⟨x, read, Value.ofCell_float isFloat read⟩
  · intro t accepted
    have fits := fits_of_check filled accepted
    rw [Temporal.fits_eq] at fits
    obtain ⟨meant, checked⟩ := Option.isSome_iff_exists.mp fits
    have reading := Temporal.reading_of_checked checked
    have written := Temporal.written_textOf meant
    have stored : (t.value (t.textOf meant)).storedText = String.ofList (t.textOf meant) :=
      congrArg Stored.text (Temporal.stored_of_written written)
    rw [Value.ofCell_temporal filled]
    refine ⟨meant, checked, reading, Temporal.cast_eq_ok_iff.mpr ⟨meant, reading, rfl⟩, ?_, ?_⟩
    · rw [stored]
      exact check_of_fits written.fits
    · rw [stored, String.toList_ofList]
      exact Temporal.checked?_textOf checked

/-- A number with a sign and zeros in front, an amount without a digit in front of its point, and a minute
of the year 45 before the common era with blanks in front of its parts. -/
theorem ColumnType.accepted_is_read_loose :
    number.check "+007" = .ok () ∧
      (∃ n, readInt64 "+007".toList = some n ∧
        Value.ofCell number (some "+007") = .number (.int n)) ∧
      currency.check "-.5E+3" = .ok () ∧
      (∃ x, Binary64.read "-.5E+3".toList = some x ∧
        Value.ofCell currency (some "-.5E+3") = .number (.float x)) ∧
      datetime.check "  -44- 3-15T 7:5" = .ok () ∧
      ∃ meant, Temporal.datetime.checked? "  -44- 3-15T 7:5".toList = some meant ∧
        Temporal.datetime.reading (Value.ofCell datetime (some "  -44- 3-15T 7:5")).display.toList =
          .ok meant ∧
        Temporal.datetime.cast.call [Value.ofCell datetime (some "  -44- 3-15T 7:5")] =
          .ok (Temporal.datetime.value (DateTime.text meant)) ∧
        datetime.check (Temporal.datetime.value (DateTime.text meant)).storedText = .ok () ∧
        Temporal.datetime.checked?
          (Temporal.datetime.value (DateTime.text meant)).storedText.toList = some meant := by
  have signed : number.check "+007" = .ok () := by decide +kernel
  have pointed : currency.check "-.5E+3" = .ok () := by decide +kernel
  have dated : datetime.check "  -44- 3-15T 7:5" = .ok () := by decide +kernel
  exact ⟨signed, (accepted_is_read (by decide)).1 signed, pointed,
    (accepted_is_read (by decide)).2.1 currency (by decide) pointed, dated,
    (accepted_is_read (by decide)).2.2 .datetime dated⟩

end ComputedColumns
