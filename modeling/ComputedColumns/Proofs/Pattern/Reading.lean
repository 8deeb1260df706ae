import ComputedColumns.Pattern.Compiled

namespace ComputedColumns.Pattern

open Text

def closing : List Char := [')', '$']

theorem ne_closing (left : List Char) : [] ≠ left ++ closing := by
  simp [closing]

/-- The characters skipped, with what is skipped of them in front of another rest. -/
def Skips (skip : List Char → List Char) : Prop :=
  ∀ cs, ∃ used, cs = used ++ skip cs ∧
    ∀ left, skip cs = left ++ closing → skip (used ++ left) = left

/-- The characters read, with what is read of them in front of a rest that is fine after it. -/
def ReadsTo {α : Type} (fine : α → List Char → Prop) (read : List Char → Option (α × List Char)) :
    Prop :=
  ∀ cs a rest, read cs = some (a, rest) →
    ∃ used, cs = used ++ rest ∧
      ∀ left, rest = left ++ closing → fine a left → read (used ++ left) = some (a, left)

abbrev Reads {α : Type} (read : List Char → Option (α × List Char)) : Prop :=
  ReadsTo (fun _ _ => True) read

theorem Skips.length_le {skip : List Char → List Char} (skips : Skips skip) (cs : List Char) :
    (skip cs).length ≤ cs.length := by
  obtain ⟨used, split, -⟩ := skips cs
  have lengths := congrArg List.length split
  rw [List.length_append] at lengths
  omega

theorem Skips.reads {skip : List Char → List Char} (skips : Skips skip) :
    Reads fun cs => some ((), skip cs) := by
  intro cs a rest found
  obtain ⟨-, rfl⟩ := Prod.mk.inj (Option.some.inj found)
  obtain ⟨used, split, again⟩ := skips cs
  exact ⟨used, split, fun left same _ => congrArg (fun rest => some ((), rest)) (again left same)⟩

section Readers

variable {α β : Type} {fine : β → List Char → Prop} {read : List Char → Option (α × List Char)}
  {next : α → List Char → Option (β × List Char)}

theorem ReadsTo.length_le {fine : α → List Char → Prop} (reads : ReadsTo fine read)
    {cs rest : List Char} {a : α} (found : read cs = some (a, rest)) : rest.length ≤ cs.length := by
  obtain ⟨used, rfl, -⟩ := reads cs a rest found
  rw [List.length_append]
  omega

theorem ReadsTo.mono {fine other : α → List Char → Prop} (reads : ReadsTo fine read)
    (finer : ∀ a left, other a left → fine a left) : ReadsTo other read := by
  intro cs a rest found
  obtain ⟨used, split, again⟩ := reads cs a rest found
  exact ⟨used, split, fun left same ok => again left same (finer a left ok)⟩

theorem ReadsTo.congr {fine : α → List Char → Prop} {other : List Char → Option (α × List Char)}
    (reads : ReadsTo fine other) (same : ∀ cs, read cs = other cs) : ReadsTo fine read := by
  rw [funext same]
  exact reads

theorem reads_none : ReadsTo fine fun _ => none := by
  intro cs b rest found
  exact absurd found (by simp)

theorem reads_some (b : β) : ReadsTo fine fun cs => some (b, cs) := by
  intro cs a rest found
  cases found
  exact ⟨[], rfl, fun left _ _ => rfl⟩

theorem ReadsTo.bind {ok : α → List Char → Prop} (reads : ReadsTo ok read)
    (goesOn : ∀ a, ReadsTo fine (next a))
    (fits : ∀ a left result, next a left = some result → ok a left) :
    ReadsTo fine fun cs => (read cs).bind fun (a, rest) => next a rest := by
  intro cs b rest found
  obtain ⟨⟨a, middle⟩, first, second⟩ := Option.bind_eq_some_iff.mp found
  obtain ⟨used, split, again⟩ := reads cs a middle first
  obtain ⟨more, split', again'⟩ := goesOn a middle b rest second
  refine ⟨used ++ more, by rw [split, split', List.append_assoc], ?_⟩
  intro left same good
  have inner := again' left same good
  have outer := again (more ++ left) (by rw [split', same, List.append_assoc]) (fits a _ _ inner)
  simp only [List.append_assoc, outer, Option.bind_some, inner]

theorem ReadsTo.then (reads : Reads read) (goesOn : ∀ a, ReadsTo fine (next a)) :
    ReadsTo fine fun cs => (read cs).bind fun (a, rest) => next a rest :=
  reads.bind goesOn fun _ _ _ _ => trivial

theorem Skips.bind {skip : List Char → List Char} {read : List Char → Option (β × List Char)}
    (skips : Skips skip) (reads : ReadsTo fine read) : ReadsTo fine fun cs => read (skip cs) :=
  skips.reads.then fun _ => reads

theorem ReadsTo.map (reads : Reads read) (f : α → Option β) :
    Reads fun cs => (read cs).bind fun (a, rest) => (f a).map fun b => (b, rest) := by
  have goesOn (a : α) : Reads fun rest => (f a).map fun b => (b, rest) := by
    cases f a with
    | none => exact reads_none
    | some b => exact reads_some b
  exact reads.then goesOn

theorem reads_cons {read : List Char → Option (β × List Char)} (empty : read [] = none)
    (goesOn : ∀ c, ReadsTo fine fun cs => read (c :: cs)) : ReadsTo fine read := by
  intro cs b rest found
  cases cs with
  | nil => exact absurd found (by simp [empty])
  | cons c cs =>
    obtain ⟨used, rfl, again⟩ := goesOn c cs b rest found
    exact ⟨c :: used, rfl, again⟩

theorem reads_sign {read without : List Char → Option (β × List Char)} (sign : Char)
    (behind : ReadsTo fine fun cs => read (sign :: cs)) (otherwise : ReadsTo fine without)
    (same : ∀ cs, (∀ tail, cs ≠ sign :: tail) → read cs = without cs) : ReadsTo fine read := by
  intro cs b rest found
  by_cases signed : ∃ tail, cs = sign :: tail
  · obtain ⟨tail, rfl⟩ := signed
    obtain ⟨used, rfl, again⟩ := behind tail b rest found
    exact ⟨sign :: used, rfl, again⟩
  · have plain : ∀ tail, cs ≠ sign :: tail := fun tail is => signed ⟨tail, is⟩
    rw [same cs plain] at found
    obtain ⟨used, split, again⟩ := otherwise cs b rest found
    refine ⟨used, split, ?_⟩
    intro left ends good
    rw [same]
    · exact again left ends good
    · intro tail is
      refine plain (tail ++ closing) ?_
      rw [split, ends, ← List.append_assoc, is, List.cons_append]

end Readers

theorem dropWhile_skips (test : Char → Bool) : Skips (List.dropWhile test) := by
  intro cs
  refine ⟨cs.takeWhile test, List.takeWhile_append_dropWhile.symm, ?_⟩
  intro left behind
  have all : ∀ c ∈ cs.takeWhile test, test c = true := by
    rw [← List.all_eq_true]
    exact List.all_takeWhile
  rw [List.dropWhile_append_of_pos all]
  cases left with
  | nil => rfl
  | cons c left =>
    have first := List.head?_dropWhile_not test cs
    rw [behind] at first
    exact List.dropWhile_cons_of_neg (by simpa using first)

theorem cutAt_iff {sign : Char} {cs before after : List Char} :
    cs.takeWhile (· ≠ sign) = before ∧ cs.dropWhile (· ≠ sign) = sign :: after ↔
      cs = before ++ sign :: after ∧ ∀ c ∈ before, c ≠ sign := by
  constructor
  · rintro ⟨rfl, drop⟩
    refine ⟨by rw [← drop, List.takeWhile_append_dropWhile], ?_⟩
    intro c member
    have passes := List.all_eq_true.mp List.all_takeWhile c member
    exact of_decide_eq_true passes
  · rintro ⟨rfl, free⟩
    have passes : ∀ c ∈ before, decide (c ≠ sign) = true :=
      fun c member => decide_eq_true (free c member)
    constructor
    · rw [List.takeWhile_append_of_pos passes]
      simp
    · rw [List.dropWhile_append_of_pos passes]
      simp

theorem skipBlanksFrom_skips (inComment : Bool) : Skips (skipBlanksFrom inComment) := by
  intro cs
  induction cs generalizing inComment with
  | nil => exact ⟨[], rfl, fun left same => absurd same (ne_closing left)⟩
  | cons c cs ih =>
    have goOn : ∀ inside, (∀ ds, skipBlanksFrom inComment (c :: ds) = skipBlanksFrom inside ds) →
        ∃ used, c :: cs = used ++ skipBlanksFrom inComment (c :: cs) ∧
          ∀ left, skipBlanksFrom inComment (c :: cs) = left ++ closing →
            skipBlanksFrom inComment (used ++ left) = left := by
      intro inside step
      obtain ⟨used, split, again⟩ := ih inside
      rw [step]
      refine ⟨c :: used, by rw [List.cons_append, ← split], ?_⟩
      intro left same
      rw [List.cons_append, step]
      exact again left same
    by_cases comment : inComment = true
    · exact goOn (c ≠ '\n') (by simp [skipBlanksFrom, comment])
    · by_cases blank : isBlank c = true
      · exact goOn false (by simp [skipBlanksFrom, comment, blank])
      · by_cases sign : c = '#'
        · rw [sign] at blank
          exact goOn true (by simp [skipBlanksFrom, comment, blank, sign])
        · have stays : ∀ ds, skipBlanksFrom inComment (c :: ds) = c :: ds := by
            simp [skipBlanksFrom, comment, blank, sign]
          rw [stays]
          refine ⟨[], rfl, ?_⟩
          intro left same
          cases left with
          | nil => cases inComment <;> rfl
          | cons d left =>
            obtain ⟨rfl, -⟩ := List.cons.inj same
            exact stays left

theorem skipBlanks_skips (verbose : Bool) : Skips (skipBlanks verbose) := by
  cases verbose with
  | true => exact skipBlanksFrom_skips false
  | false => exact fun cs => ⟨[], rfl, fun left _ => rfl⟩

theorem start_of_skipBlanksFrom {inComment : Bool} {cs tail : List Char} {c : Char}
    (start : skipBlanksFrom inComment cs = c :: tail) : isBlank c = false ∧ c ≠ '#' := by
  induction cs generalizing inComment with
  | nil => cases start
  | cons d cs ih =>
    rw [skipBlanksFrom] at start
    split at start
    · exact ih start
    · split at start
      · exact ih start
      · split at start
        · exact ih start
        next blank sign =>
          cases start
          exact ⟨Bool.eq_false_iff.mpr blank, sign⟩

theorem skipBlanks_of_start {verbose : Bool} {cs tail : List Char} {c : Char}
    (start : skipBlanks verbose cs = c :: tail) (other : List Char) :
    skipBlanks verbose (c :: other) = c :: other := by
  cases verbose with
  | false => rfl
  | true =>
    obtain ⟨blank, sign⟩ := start_of_skipBlanksFrom start
    simp [skipBlanks, skipBlanksFrom, blank, sign]

theorem skipBlanks_idem (verbose : Bool) (cs : List Char) :
    skipBlanks verbose (skipBlanks verbose cs) = skipBlanks verbose cs := by
  cases start : skipBlanks verbose cs with
  | nil => cases verbose <;> rfl
  | cons c tail => exact skipBlanks_of_start start tail

theorem skipBlanksFrom_append {inComment : Bool} {cs tail : List Char} {c : Char}
    (start : skipBlanksFrom inComment cs = c :: tail) (more : List Char) :
    skipBlanksFrom inComment (cs ++ more) = c :: (tail ++ more) := by
  induction cs generalizing inComment with
  | nil => cases start
  | cons d cs ih =>
    rw [List.cons_append, skipBlanksFrom]
    rw [skipBlanksFrom] at start
    by_cases comment : inComment = true
    · rw [if_pos comment] at start ⊢
      exact ih start
    · rw [if_neg comment] at start ⊢
      by_cases blank : isBlank d = true
      · rw [if_pos blank] at start ⊢
        exact ih start
      · rw [if_neg blank] at start ⊢
        by_cases sign : d = '#'
        · rw [if_pos sign] at start ⊢
          exact ih start
        · rw [if_neg sign] at start ⊢
          cases start
          rfl

theorem skipBlanks_append {verbose : Bool} {cs tail : List Char} {c : Char}
    (start : skipBlanks verbose cs = c :: tail) (more : List Char) :
    skipBlanks verbose (cs ++ more) = c :: (tail ++ more) := by
  cases verbose with
  | true => exact skipBlanksFrom_append start more
  | false => exact congrArg (· ++ more) start

section Blanks

variable {β : Type} {fine : β → List Char → Prop} {verbose : Bool}
  {read : List Char → Option (β × List Char)}

theorem reads_behind_blanks (skips : ∀ cs, read cs = read (skipBlanks verbose cs))
    {cs tail rest : List Char} {c : Char} {b : β} (start : skipBlanks verbose cs = c :: tail)
    (goesOn : ReadsTo fine fun cs => read (c :: cs)) (found : read cs = some (b, rest)) :
    ∃ used, cs = used ++ rest ∧
      ∀ left, rest = left ++ closing → fine b left → read (used ++ left) = some (b, left) := by
  obtain ⟨blanks, split, again⟩ := skipBlanks_skips verbose cs
  rw [skips, start] at found
  rw [start] at split again
  obtain ⟨used, tailSplit, inside⟩ := goesOn tail b rest found
  refine ⟨blanks ++ c :: used, by rw [split, tailSplit]; simp, ?_⟩
  intro left same ok
  have outside := again (c :: (used ++ left)) (by rw [tailSplit, same]; simp)
  rw [skips, List.append_assoc, List.cons_append, outside]
  exact inside left same ok

variable (verbose) in
theorem reads_after_blanks (skips : ∀ cs, read cs = read (skipBlanks verbose cs))
    (empty : read [] = none)
    (goesOn : ∀ c, (∀ cs, skipBlanks verbose (c :: cs) = c :: cs) →
      ReadsTo fine fun cs => read (c :: cs)) :
    ReadsTo fine read := by
  intro cs b rest found
  cases start : skipBlanks verbose cs with
  | nil => rw [skips, start, empty] at found; cases found
  | cons c tail => exact reads_behind_blanks skips start (goesOn c (skipBlanks_of_start start)) found

end Blanks

section Runs

variable (verbose : Bool) (test : Char → Bool)

theorem takeRun_cons (fuel : Nat) (c : Char) (cs : List Char) :
    takeRun verbose test (fuel + 1) (c :: cs) =
      if test c then
        (c :: (takeRun verbose test fuel (skipBlanks verbose cs)).1,
          (takeRun verbose test fuel (skipBlanks verbose cs)).2)
      else ([], c :: cs) := rfl

variable {test} in
theorem not_passes_of_takeRun {fuel : Nat} {c : Char} {cs rest : List Char}
    (nothing : takeRun verbose test (fuel + 1) (c :: cs) = ([], rest)) : test c = false := by
  rw [takeRun_cons] at nothing
  by_cases passes : test c = true
  · simp [passes] at nothing
  · exact Bool.eq_false_iff.mpr passes

theorem takeRun_enough {fuel more : Nat} {cs : List Char} (enough : cs.length ≤ fuel)
    (less : fuel ≤ more) : takeRun verbose test more cs = takeRun verbose test fuel cs := by
  induction fuel generalizing more cs with
  | zero =>
    obtain rfl := List.length_eq_zero_iff.mp (Nat.le_zero.mp enough)
    cases more <;> rfl
  | succ fuel ih =>
    obtain ⟨more, rfl⟩ := Nat.exists_eq_add_of_lt less
    cases cs with
    | nil => rfl
    | cons c cs =>
      have shorter := (skipBlanks_skips verbose).length_le cs
      rw [List.length_cons] at enough
      have rest := @ih (fuel + more) (skipBlanks verbose cs) (by omega) (by omega)
      rw [takeRun_cons, takeRun_cons, rest]

theorem takeRun_reads (fuel : Nat) : Reads fun cs => some (takeRun verbose test fuel cs) := by
  intro cs run rest found
  replace found := Option.some.inj found
  suffices h : ∃ used, cs = used ++ rest ∧
      ∀ left, rest = left ++ closing → takeRun verbose test fuel (used ++ left) = (run, left) by
    obtain ⟨used, split, again⟩ := h
    exact ⟨used, split, fun left same _ => congrArg some (again left same)⟩
  induction fuel generalizing cs run rest with
  | zero =>
    cases found
    exact ⟨[], rfl, fun left _ => rfl⟩
  | succ fuel ih =>
    cases cs with
    | nil =>
      cases found
      exact ⟨[], rfl, fun left same => absurd same (ne_closing left)⟩
    | cons c cs =>
      rw [takeRun_cons] at found
      by_cases passes : test c = true
      · rw [if_pos passes] at found
        obtain ⟨rfl, rfl⟩ := Prod.mk.inj found
        obtain ⟨blanks, blankSplit, blankAgain⟩ := skipBlanks_skips verbose cs
        obtain ⟨used, split, again⟩ := ih _ _ _ rfl
        refine ⟨c :: (blanks ++ used), ?_, ?_⟩
        · rw [List.cons_append, List.append_assoc, ← split, ← blankSplit]
        · intro left same
          have outer := blankAgain (used ++ left) (by rw [List.append_assoc, ← same, ← split])
          rw [List.cons_append, List.append_assoc, takeRun_cons, if_pos passes, outer, again left same]
      · rw [if_neg passes] at found
        obtain ⟨rfl, rfl⟩ := Prod.mk.inj found
        refine ⟨[], rfl, ?_⟩
        intro left same
        cases left with
        | nil => rfl
        | cons d left =>
          obtain ⟨rfl, -⟩ := List.cons.inj same
          rw [List.nil_append, takeRun_cons, if_neg passes]

theorem takeRun_whole_reads : Reads fun cs => some (takeRun verbose test cs.length cs) := by
  intro cs run rest found
  obtain ⟨used, split, again⟩ := takeRun_reads verbose test cs.length cs run rest found
  refine ⟨used, split, ?_⟩
  intro left same _
  have shorter : (used ++ left).length ≤ cs.length := by
    rw [split, same]
    simp
  have enough := takeRun_enough verbose test (Nat.le_refl _) shorter
  exact (congrArg some enough).symm.trans (again left same trivial)

theorem takeRun_skipped_reads :
    Reads fun cs => some (takeRun verbose test cs.length (skipBlanks verbose cs)) := by
  have whole := (skipBlanks_skips verbose).bind (takeRun_whole_reads verbose test)
  have same (cs : List Char) := takeRun_enough verbose test (Nat.le_refl _)
    ((skipBlanks_skips verbose).length_le cs)
  simpa only [same] using whole

end Runs

end ComputedColumns.Pattern
