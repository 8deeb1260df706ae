import ComputedColumns.Proofs.Pattern.Reading

namespace ComputedColumns.Pattern

open Unicode

variable (verbose : Bool)

theorem fixedHex_reads (count value : Nat) : Reads (fixedHex verbose count value) := by
  induction count generalizing value with
  | zero => exact reads_some value
  | succ count ih =>
    refine reads_cons rfl fun c => ?_
    by_cases digit : isHexDigit c = true
    · simp only [fixedHex, digit, if_true]
      exact (skipBlanks_skips verbose).bind (ih _)
    · simp only [fixedHex, digit]
      exact reads_none

theorem hexEscape_skips (digits : Nat) (cs : List Char) :
    hexEscape verbose digits cs = hexEscape verbose digits (skipBlanks verbose cs) := by
  simp only [hexEscape, skipBlanks_idem]

theorem hexEscape_reads (digits : Nat) : Reads (hexEscape verbose (digits + 1)) := by
  refine reads_after_blanks verbose (hexEscape_skips verbose (digits + 1)) ?_ fun c stays => ?_
  · cases verbose <;> rfl
  · by_cases brace : c = '{'
    · subst brace
      intro cs p rest found
      simp only [hexEscape, stays] at found
      split at found
      next d ds after run =>
        obtain ⟨e, scalar, same⟩ := Option.map_eq_some_iff.mp found
        obtain ⟨rfl, rfl⟩ := Prod.mk.inj same
        obtain ⟨used, split, again⟩ := takeRun_skipped_reads verbose isHexDigit cs _ _ (congrArg some run)
        obtain ⟨gap, gapSplit, gapAgain⟩ := skipBlanks_skips verbose after
        refine ⟨used ++ '}' :: gap, by rw [split]; simp [← gapSplit], ?_⟩
        intro left same _
        have inside := again ('}' :: (gap ++ left)) (by rw [gapSplit, same]; simp) trivial
        have behind := gapAgain left same
        simp only [Option.some.injEq] at inside
        simp only [hexEscape, stays, List.append_assoc, List.cons_append, inside, scalar,
          Option.map_some, behind]
      next => exact absurd found (by simp)
    · by_cases digit : isHexDigit c = true
      · have number := (skipBlanks_skips verbose).bind (fixedHex_reads verbose digits (Ranges.hexValue c))
        refine (number.map fun value => (scalar? value).map fun d =>
          Primitive.literal d (digits + 1 == 2)).congr fun cs => ?_
        simp [hexEscape, fixedHex, stays, brace, digit]
        congr
        funext found
        cases scalar? found.1 <;> rfl
      · refine reads_none.congr fun cs => ?_
        simp [hexEscape, fixedHex, stays, brace, digit]

theorem propertyEscape_skips (negated : Bool) (cs : List Char) :
    propertyEscape verbose negated cs = propertyEscape verbose negated (skipBlanks verbose cs) := by
  simp only [propertyEscape, skipBlanks_idem]

theorem propertyEscape_reads (negated : Bool) : Reads (propertyEscape verbose negated) := by
  refine reads_after_blanks verbose (propertyEscape_skips verbose negated) ?_ fun c stays => ?_
  · cases verbose <;> rfl
  · by_cases slash : c = '\\'
    · subst slash
      exact reads_none.congr fun cs => by simp [propertyEscape, stays]
    · by_cases brace : c = '{'
      · subst brace
        intro cs p rest found
        simp only [propertyEscape, stays] at found
        split at found
        next name after run =>
          cases found
          obtain ⟨used, split, again⟩ := takeRun_skipped_reads verbose _ cs _ _ (congrArg some run)
          refine ⟨used ++ ['}'], by rw [split]; simp, ?_⟩
          intro left same _
          have inside := again ('}' :: left) (by rw [same]; simp) trivial
          simp only [Option.some.injEq] at inside
          simp only [propertyEscape, stays, List.append_assoc, List.cons_append, List.nil_append, inside]
        next => exact absurd found (by simp)
      · have letter : Reads _ := (skipBlanks_skips verbose).bind
          (reads_some (Primitive.cls (.property (.named (String.singleton c)) negated)))
        exact letter.congr fun cs => by simp [propertyEscape, stays]

/-- A word boundary in front of a brace with nothing in it, which may still become the name of a kind. -/
def Undecided (p : Primitive) (left : List Char) : Prop :=
  p = .assertion .wordBoundary ∧ ∃ tail, left = '{' :: tail ∧ skipBlanks verbose tail = []

theorem not_undecided_of_ne {p : Primitive} {left : List Char}
    (other : p ≠ .assertion .wordBoundary) : ¬ Undecided verbose p left :=
  fun undecided => other undecided.1

theorem boundaryEscape_of_ne {cs : List Char} (plain : ∀ tail, cs ≠ '{' :: tail) :
    boundaryEscape verbose cs = some (.assertion .wordBoundary, cs) := by
  cases cs with
  | nil => rfl
  | cons c cs =>
    have other : c ≠ '{' := fun same => plain cs (by rw [same])
    simp [boundaryEscape]

theorem boundaryEscape_reads :
    ReadsTo (fun p left => ¬ Undecided verbose p left) (boundaryEscape verbose) := by
  intro cs p rest found
  by_cases brace : ∃ tail, cs = '{' :: tail
  · obtain ⟨tail, rfl⟩ := brace
    simp only [boundaryEscape] at found
    split at found
    · exact absurd found (by simp)
    next behind run =>
      cases found
      refine ⟨[], rfl, ?_⟩
      intro left same ok
      cases left with
      | nil => cases same
      | cons c left =>
        obtain ⟨rfl, rfl⟩ := List.cons.inj same
        cases start : skipBlanks verbose left with
        | nil => exact absurd ⟨rfl, left, rfl, start⟩ ok
        | cons d inner =>
          change takeRun verbose _ (skipBlanks verbose (left ++ closing)).length
            (skipBlanks verbose (left ++ closing)) = _ at run
          rw [skipBlanks_append start] at run
          have first := not_passes_of_takeRun verbose run
          simp [boundaryEscape, start, takeRun_cons, first]
    next name after _ run =>
      obtain ⟨kind, named, same⟩ := Option.map_eq_some_iff.mp found
      obtain ⟨rfl, rfl⟩ := Prod.mk.inj same
      obtain ⟨used, split, again⟩ := (skipBlanks_skips verbose).bind (takeRun_whole_reads verbose _)
        tail _ _ (congrArg some run)
      refine ⟨'{' :: (used ++ ['}']), by rw [split]; simp, ?_⟩
      intro left same _
      have inside := again ('}' :: left) (by rw [same]; simp) trivial
      simp only [Option.some.injEq] at inside
      simp [boundaryEscape, inside, named]
    · exact absurd found (by simp)
  · have plain : ∀ tail, cs ≠ '{' :: tail := fun tail same => brace ⟨tail, same⟩
    rw [boundaryEscape_of_ne verbose plain] at found
    cases found
    refine ⟨[], rfl, ?_⟩
    intro left same _
    refine boundaryEscape_of_ne verbose fun tail brace => ?_
    exact plain (tail ++ closing) (by rw [same, ← List.nil_append left, brace]; rfl)

theorem escape_reads : ReadsTo (fun p left => ¬ Undecided verbose p left) (escape verbose) := by
  refine reads_cons rfl fun c => ?_
  simp only [escape]
  split
  case h_1 | h_2 | h_3 => exact (hexEscape_reads verbose _).mono fun _ _ _ => trivial
  case h_4 | h_5 => exact (propertyEscape_reads verbose _).mono fun _ _ _ => trivial
  case h_20 => exact boundaryEscape_reads verbose
  case h_24 =>
    split
    · exact reads_some _
    · exact reads_none
  all_goals exact reads_some _

theorem primitive_reads (c : Char) :
    ReadsTo (fun p left => ¬ Undecided verbose p left) fun cs => primitive verbose (c :: cs) := by
  by_cases slash : c = '\\'
  · subst slash
    exact escape_reads verbose
  · by_cases dot : c = '.'
    · subst dot
      exact reads_some _
    · by_cases start : c = '^'
      · subst start
        exact reads_some _
      · by_cases finish : c = '$'
        · subst finish
          exact reads_some _
        · exact (reads_some (Primitive.literal c false)).congr fun cs => by simp [primitive]

theorem classPrimitive_reads (c : Char) :
    ReadsTo (fun p _ => p ≠ .assertion .wordBoundary) fun cs => classPrimitive verbose (c :: cs) := by
  by_cases slash : c = '\\'
  · subst slash
    exact (escape_reads verbose).mono fun p left other => not_undecided_of_ne verbose other
  · exact (reads_some (Primitive.literal c false)).congr fun cs => by simp [classPrimitive]

end ComputedColumns.Pattern
