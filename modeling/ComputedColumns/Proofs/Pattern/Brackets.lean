import ComputedColumns.Proofs.Pattern.Escape

namespace ComputedColumns.Pattern

open Text

variable (verbose : Bool)

theorem peekPast_of_blank {cs : List Char} (drop : cs.dropWhile isBlank = []) :
    peekPast true cs = cs.head? := by
  simp [peekPast, drop]

theorem peekPast_of_visible {cs tail : List Char} {d : Char} (drop : cs.dropWhile isBlank = d :: tail)
    (sign : d ≠ '#') : peekPast true cs = some d := by
  simp only [peekPast, drop, if_true]
  split
  next same => exact absurd (List.cons.inj same).1 sign
  next => rfl

theorem peekPast_of_comment {cs tail : List Char} (drop : cs.dropWhile isBlank = '#' :: tail) :
    peekPast true cs = ((tail.dropWhile isBlank).head? <|> cs.head?) := by
  simp [peekPast, drop]

theorem dropWhile_append_closing {cs tail : List Char} {d : Char}
    (drop : cs.dropWhile isBlank = d :: tail) :
    (cs ++ closing).dropWhile isBlank = d :: (tail ++ closing) := by
  rw [List.dropWhile_append, drop]
  rfl

theorem dropWhile_closing {cs : List Char} (drop : cs.dropWhile isBlank = []) :
    (cs ++ closing).dropWhile isBlank = closing := by
  rw [List.dropWhile_append, drop]
  rfl

theorem peekPast_append {c : Char} (visible : isBlank c = false) (noComment : c ≠ '#')
    (noEnd : ')' ≠ c) (cs : List Char) :
    peekPast verbose (cs ++ closing) = some c ↔ peekPast verbose cs = some c := by
  cases verbose with
  | false => cases cs <;> simp [peekPast, closing, noEnd]
  | true =>
    have first (head : cs.head? = some c) : cs.dropWhile isBlank = cs := by
      obtain ⟨tail, rfl⟩ := List.head?_eq_some_iff.mp head
      exact List.dropWhile_cons_of_neg (by simp [visible])
    cases drop : cs.dropWhile isBlank with
    | nil =>
      have nothing : cs.head? ≠ some c := by
        intro head
        rw [first head] at drop
        simp [drop] at head
      rw [peekPast_of_visible (dropWhile_closing drop) (by decide), peekPast_of_blank drop]
      simp [noEnd, nothing]
    | cons d tail =>
      by_cases sign : d = '#'
      · subst sign
        have nothing : cs.head? ≠ some c := by
          intro head
          rw [first head] at drop
          rw [drop] at head
          exact noComment (Option.some.inj head).symm
        rw [peekPast_of_comment (dropWhile_append_closing drop), peekPast_of_comment drop]
        cases inner : tail.dropWhile isBlank with
        | nil =>
          rw [dropWhile_closing inner]
          simp [closing, noEnd]
          exact fun same => nothing same
        | cons e more => simp [dropWhile_append_closing inner]
      · rw [peekPast_of_visible (dropWhile_append_closing drop) sign, peekPast_of_visible drop sign]

def asciiName? (negated : Bool) (start : List Char) : Option (ClassItem × List Char) :=
  match start.dropWhile (· ≠ ':') with
  | ':' :: ']' :: after =>
    (asciiClassNamed? (String.ofList (start.takeWhile (· ≠ ':')))).map fun cls =>
      (.ascii cls negated, after)
  | _ => none

theorem asciiName?_eq_some_iff {negated : Bool} {start after : List Char} {item : ClassItem} :
    asciiName? negated start = some (item, after) ↔
      ∃ name cls, start = name ++ ':' :: ']' :: after ∧ (∀ c ∈ name, c ≠ ':') ∧
        asciiClassNamed? (String.ofList name) = some cls ∧ item = .ascii cls negated := by
  constructor
  · intro found
    rw [asciiName?] at found
    split at found
    next behind drop =>
      obtain ⟨cls, named, same⟩ := Option.map_eq_some_iff.mp found
      obtain ⟨rfl, rfl⟩ := Prod.mk.inj same
      obtain ⟨split, noColon⟩ := cutAt_iff.mp ⟨rfl, drop⟩
      exact ⟨_, cls, split, noColon, named, rfl⟩
    next => cases found
  · rintro ⟨name, cls, rfl, noColon, named, rfl⟩
    obtain ⟨take, drop⟩ := cutAt_iff.mpr ⟨rfl, noColon⟩
    rw [asciiName?, drop, take, named]
    rfl

theorem asciiName?_reads (negated : Bool) : Reads (asciiName? negated) := by
  intro cs item rest found
  obtain ⟨name, cls, rfl, noColon, named, rfl⟩ := asciiName?_eq_some_iff.mp found
  refine ⟨name ++ [':', ']'], by simp, ?_⟩
  intro left _ _
  exact asciiName?_eq_some_iff.mpr ⟨name, cls, by simp, noColon, named, rfl⟩

theorem asciiName?_append {negated : Bool} {cs rest : List Char} {item : ClassItem}
    (found : asciiName? negated cs = some (item, rest)) (more : List Char) :
    asciiName? negated (cs ++ more) = some (item, rest ++ more) := by
  obtain ⟨name, cls, rfl, noColon, named, rfl⟩ := asciiName?_eq_some_iff.mp found
  exact asciiName?_eq_some_iff.mpr ⟨name, cls, by simp, noColon, named, rfl⟩

theorem asciiClass?_of_ne {c : Char} (other : c ≠ ':') (cs : List Char) :
    asciiClass? (c :: cs) = none := by
  rw [asciiClass?]
  exact fun rest same => other (List.cons.inj same).1

theorem asciiClass?_of_not_negated {cs : List Char} (plain : ∀ tail, cs ≠ '^' :: tail) :
    asciiClass? (':' :: cs) = asciiName? false cs := by
  cases cs with
  | nil => rfl
  | cons c cs =>
    have other : c ≠ '^' := fun same => plain cs (by rw [same])
    simp only [asciiClass?]
    rfl

theorem asciiClass?_reads : Reads asciiClass? := by
  refine reads_cons rfl fun c => ?_
  by_cases colon : c = ':'
  · subst colon
    exact reads_sign '^' (asciiName?_reads true) (asciiName?_reads false) fun _ =>
      asciiClass?_of_not_negated
  · exact reads_none.congr (asciiClass?_of_ne colon)

theorem asciiClass?_append {cs rest : List Char} {item : ClassItem}
    (found : asciiClass? cs = some (item, rest)) (more : List Char) :
    asciiClass? (cs ++ more) = some (item, rest ++ more) := by
  rcases cs with _ | ⟨c, cs⟩
  · cases found
  by_cases colon : c = ':'
  · subst colon
    rcases cs with _ | ⟨d, cs⟩
    · cases found
    by_cases negated : d = '^'
    · subst negated
      exact asciiName?_append found more
    · have plain (ds : List Char) : ∀ tail, d :: ds ≠ '^' :: tail :=
        fun tail same => negated (List.cons.inj same).1
      rw [asciiClass?_of_not_negated (plain cs)] at found
      rw [List.cons_append, List.cons_append, asciiClass?_of_not_negated (plain _)]
      exact asciiName?_append found more
  · rw [asciiClass?_of_ne colon] at found
    cases found

theorem asciiClass?_eq_none_of_append {cs more : List Char} (nothing : asciiClass? (cs ++ more) = none) :
    asciiClass? cs = none := by
  cases found : asciiClass? cs with
  | none => rfl
  | some result => rw [asciiClass?_append found more] at nothing; cases nothing

theorem Primitive.ne_wordBoundary_of_char? {p : Primitive} {c : Char}
    (found : p.char? = some c) : p ≠ .assertion .wordBoundary := by
  rintro rfl
  cases found

def rangeLast (verbose : Bool) (low : Char) (cs : List Char) : Option (ClassItem × List Char) :=
  (classPrimitive verbose cs).bind fun (last, rest) =>
    last.char?.bind fun high => if low ≤ high then some (.range low high, rest) else none

theorem rangeLast_reads (low : Char) : Reads (rangeLast verbose low) := by
  have goesOn (last : Primitive) : Reads fun rest =>
      last.char?.bind fun high => if low ≤ high then some (ClassItem.range low high, rest) else none := by
    cases last.char? with
    | none => exact reads_none
    | some high =>
      by_cases ordered : low ≤ high
      · simp only [Option.bind_some, ordered, if_true]
        exact reads_some _
      · simp only [Option.bind_some, ordered, if_false]
        exact reads_none
  refine reads_cons rfl fun c => ?_
  refine ((classPrimitive_reads verbose c).bind goesOn ?_).congr fun cs => rfl
  intro last left result found
  obtain ⟨high, isChar, -⟩ := Option.bind_eq_some_iff.mp found
  exact Primitive.ne_wordBoundary_of_char? isChar

def rangeEnd (verbose : Bool) (first : Primitive) (rest : List Char) :
    Option (ClassItem × List Char) :=
  match skipBlanks verbose rest with
  | [] => none
  | '-' :: after =>
    let next := peekPast verbose after
    if next = some ']' || next = some '-' then first.classItem?.map fun item => (item, '-' :: after)
    else
      first.char?.bind fun low => rangeLast verbose low (skipBlanks verbose after)
  | after => first.classItem?.map fun item => (item, after)

theorem classRange_eq (cs : List Char) :
    classRange verbose cs =
      (classPrimitive verbose cs).bind fun (first, rest) => rangeEnd verbose first rest := by
  have swapped (first : Primitive) (after : List Char) :
      (first.char?.bind fun low => rangeLast verbose low after) =
        (classPrimitive verbose after).bind fun (last, rest) =>
          first.char?.bind fun low => last.char?.bind fun high =>
            if low ≤ high then some (.range low high, rest) else none := by
    cases first.char? with
    | none => cases classPrimitive verbose after <;> rfl
    | some low => rfl
  simp only [classRange, rangeEnd, Option.map_eq_bind, swapped]
  rfl

theorem rangeEnd_wordBoundary (rest : List Char) :
    rangeEnd verbose (.assertion .wordBoundary) rest = none := by
  rw [rangeEnd]
  split
  · rfl
  · simp [Primitive.classItem?, Primitive.char?]
  · rfl

theorem staysMinus_append (cs : List Char) :
    (peekPast verbose (cs ++ closing) = some ']' || peekPast verbose (cs ++ closing) = some '-') =
      (peekPast verbose cs = some ']' || peekPast verbose cs = some '-' : Bool) := by
  have bracket := peekPast_append verbose (by decide : isBlank ']' = false) (by decide) (by decide) cs
  have minus := peekPast_append verbose (by decide : isBlank '-' = false) (by decide) (by decide) cs
  simp only [bracket, minus]

theorem rangeEnd_reads (first : Primitive) :
    ReadsTo (fun _ left => left ≠ []) (rangeEnd verbose first) := by
  intro cs item rest found
  obtain ⟨blanks, blankSplit, blankAgain⟩ := skipBlanks_skips verbose cs
  rw [rangeEnd] at found
  split at found
  · exact absurd found (by simp)
  next after start =>
    dsimp only at found
    split at found
    next decides =>
      obtain ⟨same, isItem, same'⟩ := Option.map_eq_some_iff.mp found
      cases same'
      refine ⟨blanks, by rw [← start, ← blankSplit], ?_⟩
      intro left same nonempty
      obtain ⟨d, left, rfl⟩ := List.exists_cons_of_ne_nil nonempty
      obtain ⟨rfl, behind⟩ := List.cons.inj same
      have outside := blankAgain ('-' :: left) (by rw [start, same])
      rw [show after = left ++ closing from behind, staysMinus_append] at decides
      simp only [rangeEnd, outside, decides, if_true, isItem, Option.map_some]
    next undecided =>
      obtain ⟨low, isChar, found⟩ := Option.bind_eq_some_iff.mp found
      obtain ⟨used, split, again⟩ := (skipBlanks_skips verbose).bind (rangeLast_reads verbose low)
        after item rest found
      refine ⟨blanks ++ '-' :: used, ?_, ?_⟩
      · rw [List.append_assoc, List.cons_append, ← split, ← start, ← blankSplit]
      · intro left same _
        have outside := blankAgain ('-' :: (used ++ left)) (by rw [start, split, same]; simp)
        rw [split, same, ← List.append_assoc, staysMinus_append] at undecided
        have inside := again left same trivial
        simp only [rangeEnd, List.append_assoc, List.cons_append, outside, undecided, isChar,
          Option.bind_some]
        exact inside
  next noMinus =>
    obtain ⟨same, isItem, same'⟩ := Option.map_eq_some_iff.mp found
    cases same'
    refine ⟨blanks, blankSplit, ?_⟩
    intro left same nonempty
    have outside := blankAgain left same
    obtain ⟨d, left, rfl⟩ := List.exists_cons_of_ne_nil nonempty
    simp only [rangeEnd, outside, isItem, Option.map_some]
    split
    next bad => cases bad
    next bad =>
      obtain ⟨rfl, -⟩ := List.cons.inj bad
      exact absurd same (noMinus _)
    next => rfl

theorem classRange_reads (c : Char) :
    ReadsTo (fun _ left => left ≠ []) fun cs => classRange verbose (c :: cs) := by
  have reads := (classPrimitive_reads verbose c).bind (rangeEnd_reads verbose) ?_
  · exact reads.congr fun cs => classRange_eq verbose (c :: cs)
  · rintro first left result found rfl
    rw [rangeEnd_wordBoundary] at found
    cases found

theorem leadingMinus_eq (fuel : Nat) (cs : List Char) :
    leadingMinus verbose fuel cs =
      ((takeRun verbose (· = '-') fuel cs).1.map fun _ => .range '-' '-',
        (takeRun verbose (· = '-') fuel cs).2) := by
  induction fuel generalizing cs with
  | zero => rfl
  | succ fuel ih =>
    cases cs with
    | nil => rfl
    | cons c cs =>
      by_cases minus : c = '-'
      · subst minus
        simp [leadingMinus, takeRun_cons, ih]
      · simp [leadingMinus, takeRun_cons, minus]

def classLead (verbose : Bool) (cs : List Char) : List ClassItem × List Char :=
  match leadingMinus verbose cs.length cs with
  | ([], ']' :: rest) => ([.range ']' ']'], skipBlanks verbose rest)
  | (items, rest) => (items, rest)

theorem leadingMinus_reads : Reads fun cs => some (leadingMinus verbose cs.length cs) := by
  have reads := (takeRun_whole_reads verbose (· = '-')).map fun run =>
    some (run.map fun _ => ClassItem.range '-' '-')
  exact reads.congr fun cs => by rw [leadingMinus_eq]; rfl

theorem classLead_reads : Reads fun cs => some (classLead verbose cs) := by
  intro cs items rest found
  replace found := Option.some.inj found
  rw [classLead] at found
  split at found
  next behind lead =>
    obtain ⟨rfl, rfl⟩ := Prod.mk.inj found
    obtain ⟨used, split, again⟩ := leadingMinus_reads verbose cs _ _ (congrArg some lead)
    obtain ⟨gap, gapSplit, gapAgain⟩ := skipBlanks_skips verbose behind
    refine ⟨used ++ ']' :: gap, by rw [split]; simp [← gapSplit], ?_⟩
    intro left same _
    have inside := again (']' :: (gap ++ left)) (by rw [gapSplit, same]; simp) trivial
    have outside := gapAgain left same
    simp only [Option.some.injEq] at inside
    simp only [classLead, List.append_assoc, List.cons_append, inside, outside]
  next items' rest' plain lead =>
    obtain ⟨rfl, rfl⟩ := Prod.mk.inj found
    obtain ⟨used, split, again⟩ := leadingMinus_reads verbose cs _ _ (congrArg some lead)
    refine ⟨used, split, ?_⟩
    intro left same _
    have inside := again left same trivial
    simp only [Option.some.injEq] at inside
    simp only [classLead, inside]
    split
    next behind ends =>
      obtain ⟨rfl, rfl⟩ := Prod.mk.inj ends
      exact absurd same (plain _ rfl)
    next ends =>
      obtain ⟨rfl, rfl⟩ := Prod.mk.inj ends
      rfl

def classSign (verbose : Bool) (cs : List Char) : Bool × List Char :=
  match skipBlanks verbose cs with
  | '^' :: rest => (true, skipBlanks verbose rest)
  | start => (false, start)

theorem classStart_eq (cs : List Char) :
    classStart verbose cs =
      ((classSign verbose cs).1, classLead verbose (classSign verbose cs).2) := by
  change (match leadingMinus verbose (classSign verbose cs).2.length (classSign verbose cs).2 with
    | ([], ']' :: rest) =>
      ((classSign verbose cs).1, [ClassItem.range ']' ']'], skipBlanks verbose rest)
    | (items, rest) => ((classSign verbose cs).1, items, rest)) = _
  rw [classLead]
  generalize leadingMinus verbose _ _ = lead
  obtain ⟨_ | ⟨item, items⟩, _ | ⟨c, rest⟩⟩ := lead
  case nil.cons =>
    by_cases bracket : c = ']'
    · subst bracket
      rfl
    · simp [bracket]
  all_goals rfl

theorem classSign_of_ne {cs : List Char} (plain : ∀ tail, skipBlanks verbose cs ≠ '^' :: tail) :
    classSign verbose cs = (false, skipBlanks verbose cs) := by
  rw [classSign]
  split
  next tail start => exact absurd start (plain tail)
  next => rfl

theorem classSign_reads : Reads fun cs => some (classSign verbose cs) := by
  intro cs negated rest found
  replace found := Option.some.inj found
  obtain ⟨blanks, blankSplit, blankAgain⟩ := skipBlanks_skips verbose cs
  by_cases sign : ∃ tail, skipBlanks verbose cs = '^' :: tail
  · obtain ⟨tail, start⟩ := sign
    obtain ⟨gap, gapSplit, gapAgain⟩ := skipBlanks_skips verbose tail
    simp only [classSign, start, Prod.mk.injEq] at found
    obtain ⟨rfl, rfl⟩ := found
    refine ⟨blanks ++ '^' :: gap, ?_, ?_⟩
    · rw [List.append_assoc, List.cons_append, ← gapSplit, ← start, ← blankSplit]
    · intro left same _
      have outside := blankAgain ('^' :: (gap ++ left)) (by rw [start, gapSplit, same]; simp)
      have inside := gapAgain left same
      simp only [classSign, List.append_assoc, List.cons_append, outside, inside]
  · have plain : ∀ tail, skipBlanks verbose cs ≠ '^' :: tail := fun tail start => sign ⟨tail, start⟩
    rw [classSign_of_ne verbose plain] at found
    obtain ⟨rfl, rfl⟩ := Prod.mk.inj found
    refine ⟨blanks, blankSplit, ?_⟩
    intro left same _
    have outside := blankAgain left same
    have stillPlain : ∀ tail, skipBlanks verbose (blanks ++ left) ≠ '^' :: tail := by
      intro tail start
      rw [outside] at start
      exact plain (tail ++ closing) (by rw [same, start, List.cons_append])
    show some (classSign verbose (blanks ++ left)) = some (false, left)
    rw [classSign_of_ne verbose stillPlain, outside]

theorem classStart_reads :
    Reads fun cs => some (((classStart verbose cs).1, (classStart verbose cs).2.1),
      (classStart verbose cs).2.2) := by
  have goesOn (negated : Bool) : Reads fun cs =>
      some ((negated, (classLead verbose cs).1), (classLead verbose cs).2) :=
    (classLead_reads verbose).map fun items => some (negated, items)
  refine ((classSign_reads verbose).then goesOn).congr fun cs => ?_
  rw [classStart_eq]
  rfl

theorem classBody_skips (fuel : Nat) (pending : Pending) (items : List ClassItem) (cs : List Char) :
    classBody verbose fuel pending items cs =
      classBody verbose fuel pending items (skipBlanks verbose cs) := by
  cases fuel with
  | zero => rfl
  | succ fuel => simp only [classBody, skipBlanks_idem]

theorem classBody_nil (fuel : Nat) (pending : Pending) (items : List ClassItem) :
    classBody verbose fuel pending items [] = none := by
  cases fuel with
  | zero => rfl
  | succ fuel => cases verbose <;> rfl

section Item

variable {verbose} {fuel : Nat} {pending : Pending} {items : List ClassItem} {c : Char}
  {cs : List Char}

def classOp? (c : Char) : Option ClassOp :=
  if c = '&' then some .intersection
  else if c = '-' then some .difference
  else if c = '~' then some .symmetricDifference
  else none

theorem classBody_item (stays : skipBlanks verbose (c :: cs) = c :: cs) (noOpen : c ≠ '[')
    (noClose : c ≠ ']') (noOp : classOp? c = none ∨ ∀ tail, cs ≠ c :: tail) :
    classBody verbose (fuel + 1) pending items (c :: cs) =
      (classRange verbose (c :: cs)).bind fun (item, after) =>
        classBody verbose fuel pending (item :: items) after := by
  rw [classBody, stays]
  split
  next same => cases same
  next same => exact absurd (List.cons.inj same).1 noOpen
  next same => exact absurd (List.cons.inj same).1 noClose
  next same =>
    obtain ⟨rfl, rfl⟩ := List.cons.inj same
    exact absurd rfl ((noOp.resolve_left (by decide)) _)
  next same =>
    obtain ⟨rfl, rfl⟩ := List.cons.inj same
    exact absurd rfl ((noOp.resolve_left (by decide)) _)
  next same =>
    obtain ⟨rfl, rfl⟩ := List.cons.inj same
    exact absurd rfl ((noOp.resolve_left (by decide)) _)
  next => cases classRange verbose (c :: cs) <;> rfl

theorem classBody_op {op : ClassOp} (stays : skipBlanks verbose (c :: c :: cs) = c :: c :: cs)
    (isOp : classOp? c = some op) :
    classBody verbose (fuel + 1) pending items (c :: c :: cs) =
      classBody verbose fuel (some (pending.close items, op)) [] cs := by
  rw [classOp?] at isOp
  split at isOp
  next is => subst is; cases isOp; simp only [classBody, stays]
  split at isOp
  next is => subst is; cases isOp; simp only [classBody, stays]
  split at isOp
  next is => subst is; cases isOp; simp only [classBody, stays]
  cases isOp

def classNested (verbose : Bool) (fuel : Nat) (cs : List Char) : Option (ClassItem × List Char) :=
  (classBody verbose fuel none (classStart verbose cs).2.1.reverse (classStart verbose cs).2.2).map
    fun (body, after) => (.bracketed body (classStart verbose cs).1, after)

def classInside (verbose : Bool) (fuel : Nat) (cs : List Char) : Option (ClassItem × List Char) :=
  match asciiClass? cs with
  | some result => some result
  | none => classNested verbose fuel cs

theorem classBody_open (stays : skipBlanks verbose ('[' :: cs) = '[' :: cs) :
    classBody verbose (fuel + 1) pending items ('[' :: cs) =
      (classInside verbose fuel cs).bind fun (item, after) =>
        classBody verbose fuel pending (item :: items) after := by
  simp only [classBody, stays, classInside, classNested]
  cases asciiClass? cs with
  | some result => rfl
  | none =>
    generalize classBody verbose fuel none _ _ = body
    cases body <;> rfl

end Item

theorem classNested_reads {fuel : Nat}
    (body : ∀ items, Reads (classBody verbose fuel none items)) : Reads (classNested verbose fuel) := by
  have goesOn (lead : Bool × List ClassItem) : Reads fun cs =>
      (classBody verbose fuel none lead.2.reverse cs).bind fun (item, after) =>
        some (ClassItem.bracketed item lead.1, after) :=
    (body lead.2.reverse).map fun item => some (ClassItem.bracketed item lead.1)
  refine ((classStart_reads verbose).then goesOn).congr fun cs => ?_
  rw [classNested, Option.map_eq_bind]
  rfl

theorem classInside_reads {fuel : Nat}
    (body : ∀ items, Reads (classBody verbose fuel none items)) : Reads (classInside verbose fuel) := by
  intro cs item rest found
  cases named : asciiClass? cs with
  | some result =>
    simp only [classInside, named] at found
    obtain ⟨used, split, again⟩ := asciiClass?_reads cs item rest (named.trans found)
    refine ⟨used, split, ?_⟩
    intro left same _
    simp only [classInside, again left same trivial]
  | none =>
    simp only [classInside, named] at found
    obtain ⟨used, split, again⟩ := classNested_reads verbose body cs item rest found
    refine ⟨used, split, ?_⟩
    intro left same _
    have noName : asciiClass? (used ++ left) = none := by
      rw [split, same, ← List.append_assoc] at named
      exact asciiClass?_eq_none_of_append named
    simp only [classInside, noName]
    exact again left same trivial

theorem classBody_reads (fuel : Nat) (pending : Pending) (items : List ClassItem) :
    Reads (classBody verbose fuel pending items) := by
  induction fuel generalizing pending items with
  | zero => exact reads_none
  | succ fuel ih =>
    refine reads_after_blanks verbose (classBody_skips verbose (fuel + 1) pending items)
      (classBody_nil verbose (fuel + 1) pending items) fun c stays => ?_
    have item : Reads fun cs => (classRange verbose (c :: cs)).bind fun (item, after) =>
        classBody verbose fuel pending (item :: items) after := by
      refine (classRange_reads verbose c).bind (fun item => ih pending (item :: items)) ?_
      rintro item left result found rfl
      rw [classBody_nil] at found
      cases found
    by_cases isOpen : c = '['
    · subst isOpen
      have inside := classInside_reads verbose (ih none)
      exact (inside.then fun item => ih pending (item :: items)).congr fun cs => classBody_open (stays cs)
    by_cases isClose : c = ']'
    · subst isClose
      exact (reads_some (pending.close items)).congr fun cs => by simp only [classBody, stays]
    cases isOp : classOp? c with
    | some op =>
      exact reads_sign c ((ih _ []).congr fun cs => classBody_op (stays _) isOp) item fun cs plain =>
        classBody_item (stays cs) isOpen isClose (.inr plain)
    | none => exact item.congr fun cs => classBody_item (stays cs) isOpen isClose (.inl isOp)

theorem classNested_enough {fuel more : Nat} {cs rest : List Char} {item : ClassItem}
    (body : ∀ {items cs item rest}, classBody verbose fuel none items cs = some (item, rest) →
      cs.length < more → classBody verbose more none items cs = some (item, rest))
    (found : classNested verbose fuel cs = some (item, rest))
    (enough : (classStart verbose cs).2.2.length < more) :
    classNested verbose more cs = some (item, rest) := by
  obtain ⟨⟨inner, after⟩, inside, same⟩ := Option.map_eq_some_iff.mp found
  rw [classNested, body inside enough]
  exact congrArg some same

theorem classInside_enough {fuel more : Nat} {cs rest : List Char} {item : ClassItem}
    (body : ∀ {items cs item rest}, classBody verbose fuel none items cs = some (item, rest) →
      cs.length < more → classBody verbose more none items cs = some (item, rest))
    (found : classInside verbose fuel cs = some (item, rest)) (enough : cs.length < more) :
    classInside verbose more cs = some (item, rest) := by
  cases named : asciiClass? cs with
  | some result =>
    simp only [classInside, named] at found ⊢
    exact found
  | none =>
    simp only [classInside, named] at found ⊢
    have less : (classStart verbose cs).2.2.length ≤ cs.length :=
      (classStart_reads verbose).length_le rfl
    exact classNested_enough verbose body found (by omega)

/-- Where a class can be read at all, it takes no more rounds than it has characters. -/
theorem classBody_enough {fuel more : Nat} {pending : Pending} {items : List ClassItem}
    {cs rest : List Char} {item : ClassItem}
    (found : classBody verbose fuel pending items cs = some (item, rest)) (enough : cs.length < more) :
    classBody verbose more pending items cs = some (item, rest) := by
  induction fuel generalizing more pending items cs item rest with
  | zero => cases found
  | succ fuel ih =>
    obtain ⟨more, rfl⟩ := Nat.exists_eq_succ_of_ne_zero (Nat.ne_of_gt (Nat.zero_lt_of_lt enough))
    have shorter := (skipBlanks_skips verbose).length_le cs
    rw [classBody_skips] at found ⊢
    cases start : skipBlanks verbose cs with
    | nil => rw [start, classBody_nil] at found; cases found
    | cons c tail =>
      have stays := skipBlanks_of_start start
      rw [start] at found shorter
      rw [List.length_cons] at shorter
      -- An operator that stands alone is an item like any other character.
      have item (isOpen : c ≠ '[') (isClose : c ≠ ']')
          (noOp : classOp? c = none ∨ ∀ more, tail ≠ c :: more) :
          classBody verbose (more + 1) pending items (c :: tail) = some (item, rest) := by
        rw [classBody_item (stays tail) isOpen isClose noOp] at found ⊢
        obtain ⟨⟨first, after⟩, range, found⟩ := Option.bind_eq_some_iff.mp found
        have less := (classRange_reads verbose c).length_le range
        rw [range]
        exact ih found (by omega)
      by_cases isOpen : c = '['
      · subst isOpen
        rw [classBody_open (stays tail)] at found ⊢
        obtain ⟨⟨first, after⟩, inside, found⟩ := Option.bind_eq_some_iff.mp found
        have less := (classInside_reads verbose (classBody_reads verbose fuel none)).length_le inside
        rw [classInside_enough verbose (fun found => ih found) inside (by omega)]
        exact ih found (by omega)
      by_cases isClose : c = ']'
      · subst isClose
        simp only [classBody, stays] at found ⊢
        exact found
      cases isOp : classOp? c with
      | none => exact item isOpen isClose (.inl isOp)
      | some op =>
        by_cases twice : ∃ more, tail = c :: more
        · obtain ⟨tail, rfl⟩ := twice
          rw [classBody_op (stays _) isOp] at found ⊢
          rw [List.length_cons] at shorter
          exact ih found (by omega)
        · exact item isOpen isClose (.inr fun more same => twice ⟨more, same⟩)

theorem brackets_eq (cs : List Char) :
    brackets verbose cs = classNested verbose ((classStart verbose cs).2.2.length + 1) cs := rfl

theorem brackets_reads : Reads (brackets verbose) := by
  intro cs item rest found
  rw [brackets_eq] at found
  obtain ⟨used, split, again⟩ :=
    classNested_reads verbose (classBody_reads verbose _ none) cs item rest found
  refine ⟨used, split, ?_⟩
  intro left same _
  rw [brackets_eq]
  exact classNested_enough verbose (classBody_enough verbose) (again left same trivial)
    (Nat.lt_succ_self _)

end ComputedColumns.Pattern
