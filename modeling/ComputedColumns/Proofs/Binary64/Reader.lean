import ComputedColumns.Decimal
import ComputedColumns.Proofs.Text.Numeral

namespace ComputedColumns

open Text

namespace Binary64

/-- Digits with at most one point behind the first of them. -/
inductive Positional : List Char → Prop where
  | whole {ds : List Char} (present : ds ≠ []) (all : ∀ d ∈ ds, isDigit d = true) : Positional ds
  | decimals {ds es : List Char} (present : ds ≠ []) (all : ∀ d ∈ ds, isDigit d = true)
    (rest : ∀ e ∈ es, isDigit e = true) : Positional (ds ++ '.' :: es)

theorem Positional.isDigit_or_point {cs : List Char} (written : Positional cs) {c : Char}
    (member : c ∈ cs) : isDigit c = true ∨ c = '.' := by
  cases written with
  | whole _ all => exact .inl (all c member)
  | decimals _ all rest =>
    rcases List.mem_append.mp member with digit | member
    · exact .inl (all c digit)
    · rcases List.mem_cons.mp member with point | digit
      · exact .inr point
      · exact .inl (rest c digit)

/-- Digits that stand for `n`, in two parts with `places` of them in the second one. -/
structure Divided (n places : Nat) (whole decimals : List Char) : Prop where
  begun : whole ≠ []
  allWhole : ∀ d ∈ whole, isDigit d = true
  allDecimals : ∀ d ∈ decimals, isDigit d = true
  value : ofDigits (whole ++ decimals) = n
  length : decimals.length = places

theorem withPoint_eq {ds : List Char} (all : ∀ d ∈ ds, isDigit d = true) {places : Nat}
    (point : places ≠ 0) :
    ∃ whole decimals, withPoint ds places = whole ++ '.' :: decimals ∧
      Divided (ofDigits ds) places whole decimals := by
  rw [withPoint, if_neg point]
  dsimp only
  generalize zeros : places + 1 - ds.length = count
  have filled : ∀ d ∈ List.replicate count '0' ++ ds, isDigit d = true := by
    intro d member
    rcases List.mem_append.mp member with zero | digit
    · rw [(List.mem_replicate.mp zero).2]
      rfl
    · exact all d digit
  have length : places < (List.replicate count '0' ++ ds).length := by
    rw [List.length_append, List.length_replicate]
    omega
  refine ⟨_, _, rfl, ?_, fun d member => filled d (List.mem_of_mem_take member),
    fun d member => filled d (List.mem_of_mem_drop member), ?_, ?_⟩
  · intro empty
    have none := congrArg List.length empty
    rw [List.length_take, List.length_nil] at none
    omega
  · rw [List.take_append_drop, ofDigits_zeros]
  · rw [List.length_drop]
    omega

theorem positional_withPoint {ds : List Char} (present : ds ≠ [])
    (all : ∀ d ∈ ds, isDigit d = true) (places : Nat) : Positional (withPoint ds places) := by
  by_cases point : places = 0
  · rw [withPoint, if_pos point]
    exact .whole present all
  · obtain ⟨whole, decimals, written, divided⟩ := withPoint_eq all point
    rw [written]
    exact .decimals divided.begun divided.allWhole divided.allDecimals

theorem readUnsigned_whole {ds : List Char} (present : ds ≠ []) (all : ∀ d ∈ ds, isDigit d = true)
    (negative : Bool) :
    readUnsigned negative ds = some (ofScientific negative (ofDigits ds) 0) := by
  have filled : ds.isEmpty = false := by simpa using present
  have run := takeWhile_all all
  simp only [readUnsigned, run.1, run.2, filled, Bool.false_and, Bool.false_eq_true, if_false,
    readExponent, Option.map_some, List.append_nil, List.length_nil, Int.natCast_zero, Int.sub_zero]

theorem readUnsigned_decimals {ds es : List Char} (present : ds ≠ [])
    (all : ∀ d ∈ ds, isDigit d = true) (rest : ∀ e ∈ es, isDigit e = true) (negative : Bool) :
    readUnsigned negative (ds ++ '.' :: es) =
      some (ofScientific negative (ofDigits (ds ++ es)) (-es.length)) := by
  have filled : ds.isEmpty = false := by simpa using present
  have run := takeWhile_point all es
  have last := takeWhile_all rest
  simp only [readUnsigned, run.1, run.2, last.1, last.2, filled, Bool.false_and, Bool.false_eq_true,
    if_false, readExponent, Option.map_some, Int.zero_sub]

theorem readUnsigned_positional {cs : List Char} (written : Positional cs) (negative : Bool) :
    (readUnsigned negative cs).isSome = true := by
  cases written with
  | whole present all => rw [readUnsigned_whole present all, Option.isSome_some]
  | decimals present all rest => rw [readUnsigned_decimals present all rest, Option.isSome_some]

theorem readUnsigned_withPoint {ds : List Char} (present : ds ≠ [])
    (all : ∀ d ∈ ds, isDigit d = true) (places : Nat) (negative : Bool) :
    readUnsigned negative (withPoint ds places) =
      some (ofScientific negative (ofDigits ds) (-places)) := by
  by_cases point : places = 0
  · rw [withPoint, if_pos point, readUnsigned_whole present all, point]
    rfl
  · obtain ⟨whole, decimals, written, divided⟩ := withPoint_eq all point
    rw [written, readUnsigned_decimals divided.begun divided.allWhole divided.allDecimals,
      divided.value, divided.length]

theorem splitSign_withSign {cs : List Char} (written : Positional cs) (negative : Bool) :
    splitSign (withSign negative cs) = (negative, cs) := by
  cases negative with
  | true => rfl
  | false =>
    have unsigned : splitSign cs = (false, cs) := by
      cases written with
      | whole present all =>
        have bare := splitSign_of_digits present all []
        rwa [List.append_nil] at bare
      | decimals present all rest => exact splitSign_of_digits present all _
    exact unsigned

theorem toLower_of_digit {c : Char} (digit : isDigit c = true) : c.toLower = c := by
  have bounds : '0' ≤ c ∧ c ≤ '9' := by simpa [isDigit] using digit
  have high : c.toNat ≤ 57 := bounds.2
  have outside : ¬ (c.val ≥ 'A'.val ∧ c.val ≤ 'Z'.val) := by
    rintro ⟨letter, -⟩
    have low : 65 ≤ c.toNat := letter
    omega
  exact dif_neg outside

theorem read_withSign {cs : List Char} (written : Positional cs) (negative : Bool) :
    read (withSign negative cs) = readUnsigned negative cs := by
  obtain ⟨d, ds, begins, digit⟩ : ∃ d ds, cs = d :: ds ∧ isDigit d = true := by
    cases written with
    | whole present all =>
      obtain ⟨d, ds, rfl⟩ := List.exists_cons_of_ne_nil present
      exact ⟨d, ds, rfl, all d List.mem_cons_self⟩
    | decimals present all rest =>
      obtain ⟨d, ds, rfl⟩ := List.exists_cons_of_ne_nil present
      exact ⟨d, _, rfl, all d List.mem_cons_self⟩
  have first : ∀ c cs, d :: ds.map Char.toLower = c :: cs → isDigit c = true := by
    intro c cs same
    rwa [← (List.cons.inj same).1]
  unfold read
  rw [splitSign_withSign written, begins]
  simp only [List.map_cons, toLower_of_digit digit]
  split
  · rename_i name
    cases first _ _ name
  · rename_i name
    cases first _ _ name
  · rename_i name
    cases first _ _ name
  · rfl

theorem read_positional {cs : List Char} (written : Positional cs) (negative : Bool) :
    (read (withSign negative cs)).isSome = true := by
  rw [read_withSign written]
  exact readUnsigned_positional written negative

theorem isDigit_of_mem_shifted {n places : Nat} {c : Char}
    (member : c ∈ digits n ++ List.replicate places '0') : isDigit c = true := by
  rcases List.mem_append.mp member with digit | zero
  · exact isDigit_of_mem_digits digit
  · rw [(List.mem_replicate.mp zero).2]
    rfl

theorem shifted_ne_nil (n places : Nat) : digits n ++ List.replicate places '0' ≠ [] := by
  intro empty
  exact digits_ne_nil n (List.append_eq_nil_iff.mp empty).1

theorem positional_shortest (s : Scientific) : Positional s.positional := by
  unfold Scientific.positional
  split
  · exact .whole (shifted_ne_nil _ _) (fun _ member => isDigit_of_mem_shifted member)
  · exact positional_withPoint (digits_ne_nil _) (fun _ member => isDigit_of_mem_digits member) _

theorem read_display (x : Binary64) : (read x.display).isSome = true := by
  cases x with
  | nan => rfl
  | infinite s => cases s <;> rfl
  | finite s e f =>
    have zero : Positional ['0'] := .whole (List.cons_ne_nil _ _) (List.forall_mem_singleton.mpr rfl)
    rw [display]
    split
    · exact read_positional zero s
    · exact read_positional (positional_shortest _) s

theorem read_fixed (x : Binary64) (places : Nat) : (read (x.fixed places)).isSome = true := by
  cases x with
  | nan => exact read_display nan
  | infinite s => exact read_display (infinite s)
  | finite s e f =>
    exact read_positional
      (positional_withPoint (digits_ne_nil _) (fun _ member => isDigit_of_mem_digits member) _) s

theorem visible_withSign {cs : List Char} (written : Positional cs) (s : Bool) :
    ∀ c ∈ withSign s cs, isBlank c = false := by
  have visible : ∀ c ∈ cs, isBlank c = false := by
    intro c member
    rcases written.isDigit_or_point member with digit | rfl
    · exact isBlank_of_digit digit
    · rfl
  cases s with
  | false => exact visible
  | true =>
    intro c member
    rcases List.mem_cons.mp member with rfl | member
    · rfl
    · exact visible c member

theorem visible_fixed (s : Bool) (e : Fin 2047) (f : Fin 4503599627370496) (places : Nat) :
    ∀ c ∈ (finite s e f).fixed places, isBlank c = false :=
  visible_withSign (positional_withPoint (digits_ne_nil _)
    (fun _ member => isDigit_of_mem_digits member) places) s

theorem visible_display (s : Bool) (e : Fin 2047) (f : Fin 4503599627370496) :
    ∀ c ∈ (finite s e f).display, isBlank c = false := by
  rw [display]
  split
  · have single : Positional ['0'] :=
      .whole (List.cons_ne_nil _ _) (List.forall_mem_singleton.mpr rfl)
    exact visible_withSign single s
  · exact visible_withSign (positional_shortest _) s

end Binary64

theorem Decimal.read_text (d : Decimal) : (Binary64.read d.text).isSome = true :=
  Binary64.read_positional
    (Binary64.positional_withPoint (digits_ne_nil _) (fun _ member => isDigit_of_mem_digits member) _) _

end ComputedColumns
