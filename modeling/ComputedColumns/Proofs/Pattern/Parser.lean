import ComputedColumns.Proofs.Pattern.Brackets

namespace ComputedColumns.Pattern

open Text

def flagStep? (change : FlagChange) (cleared : Bool) (c : Char) : Option (FlagChange × Bool × Bool) :=
  if c = '-' then if cleared then none else some (change, true, true)
  else
    (Flag.ofLetter? c).bind fun flag =>
      if change.mentions flag then none else some (change.add cleared flag, cleared, false)

def endsFlags (c : Char) : Bool := c = ':' || c = ')'

theorem flagChange_stop {c : Char} (stop : endsFlags c = true) (change : FlagChange)
    (cleared dangling : Bool) (cs : List Char) :
    flagChange change cleared dangling (c :: cs) =
      if dangling then none else some (change, c :: cs) := by
  rw [endsFlags] at stop
  rw [flagChange, if_pos stop]

theorem flagChange_step {c : Char} (goesOn : endsFlags c = false) (change : FlagChange)
    (cleared dangling : Bool) (cs : List Char) :
    flagChange change cleared dangling (c :: cs) =
      (flagStep? change cleared c).bind fun (change, cleared, dangling) =>
        flagChange change cleared dangling cs := by
  have noStop : ¬ (c = ':' || c = ')') = true := by
    rw [← endsFlags, goesOn]
    decide
  rw [flagChange, if_neg noStop, flagStep?]
  by_cases minus : c = '-'
  · rw [if_pos minus, if_pos minus]
    cases cleared <;> rfl
  · rw [if_neg minus, if_neg minus]
    cases Flag.ofLetter? c with
    | none => rfl
    | some flag => by_cases twice : change.mentions flag = true <;> simp [twice]

theorem flagChange_reads (change : FlagChange) (cleared dangling : Bool) :
    ReadsTo (fun _ left => left ≠ []) (flagChange change cleared dangling) := by
  intro cs result rest found
  induction cs generalizing change cleared dangling with
  | nil => cases found
  | cons c cs ih =>
    cases stop : endsFlags c with
    | true =>
      rw [flagChange_stop stop] at found
      cases dangling with
      | true => cases found
      | false =>
        cases found
        refine ⟨[], rfl, ?_⟩
        intro left same nonempty
        obtain ⟨d, left, rfl⟩ := List.exists_cons_of_ne_nil nonempty
        obtain ⟨rfl, -⟩ := List.cons.inj same
        rw [List.nil_append, flagChange_stop stop]
        rfl
    | false =>
      rw [flagChange_step stop] at found
      obtain ⟨⟨next, cleared', dangling'⟩, step, found⟩ := Option.bind_eq_some_iff.mp found
      obtain ⟨used, rfl, again⟩ := ih next cleared' dangling' found
      refine ⟨c :: used, rfl, ?_⟩
      intro left same nonempty
      rw [List.cons_append, flagChange_step stop, step]
      exact again left same nonempty

theorem head_of_flagChange {change result : FlagChange} {cleared dangling : Bool} {cs rest : List Char}
    (found : flagChange change cleared dangling cs = some (result, rest)) :
    ∃ c tail, rest = c :: tail ∧ endsFlags c = true := by
  induction cs generalizing change cleared dangling with
  | nil => cases found
  | cons c cs ih =>
    cases stop : endsFlags c with
    | true =>
      rw [flagChange_stop stop] at found
      cases dangling with
      | true => cases found
      | false =>
        cases found
        exact ⟨c, cs, rfl, stop⟩
    | false =>
      rw [flagChange_step stop] at found
      obtain ⟨⟨next, cleared', dangling'⟩, -, found⟩ := Option.bind_eq_some_iff.mp found
      exact ih found

def openName (names : List (List Char)) (cs : List Char) :
    Option ((Opening × List (List Char)) × List Char) :=
  (groupName? cs).bind fun (name, rest) =>
    if names.contains name then none else some ((.capture, name :: names), rest)

def openFlags (names : List (List Char)) (cs : List Char) :
    Option ((Opening × List (List Char)) × List Char) :=
  (flagChange .none false false cs).bind fun (change, rest) =>
    match rest with
    | [] => none
    | c :: rest =>
      if c = ')' then if change.isNone then none else some ((.change change, names), rest)
      else some ((.scope change, names), rest)

def openBracketed (names : List (List Char)) (cs : List Char) :
    Option ((Opening × List (List Char)) × List Char) :=
  match cs with
  | '=' :: _ | '!' :: _ => none
  | _ => openName names cs

def openLettered (names : List (List Char)) (cs : List Char) :
    Option ((Opening × List (List Char)) × List Char) :=
  match cs with
  | 'P' :: '<' :: rest => openName names rest
  | _ => openFlags names cs

def openGroup (names : List (List Char)) (start : List Char) :
    Option ((Opening × List (List Char)) × List Char) :=
  match start with
  | '?' :: '<' :: rest => openBracketed names rest
  | '?' :: rest => openLettered names rest
  | rest => some ((.capture, names), rest)

def Opening.asRead (result : Opening × Input) : (Opening × List (List Char)) × List Char :=
  ((result.1, result.2.names), result.2.rest)

theorem namedGroup_eq (input : Input) (cs : List Char) :
    (namedGroup input cs).map Opening.asRead = openName input.names cs := by
  rw [namedGroup, openName]
  cases groupName? cs with
  | none => rfl
  | some result =>
    obtain ⟨name, rest⟩ := result
    by_cases twice : name ∈ input.names <;> simp [twice, Opening.asRead]

theorem flagGroup_eq (input : Input) (cs : List Char) :
    (flagGroup input cs).map Opening.asRead = openFlags input.names cs := by
  rw [flagGroup, openFlags]
  cases read : flagChange .none false false cs with
  | none => rfl
  | some result =>
    obtain ⟨change, rest⟩ := result
    obtain ⟨c, tail, rfl, -⟩ := head_of_flagChange read
    by_cases ends : c = ')'
    · subst ends
      by_cases nothing : change.isNone = true <;> simp [nothing, Opening.asRead]
    · simp [ends, Opening.asRead]

theorem groupName?_eq_some_iff {cs name rest : List Char} :
    groupName? cs = some (name, rest) ↔
      cs = name ++ '>' :: rest ∧ (∀ c ∈ name, c ≠ '>') ∧
        ∃ c tail, name = c :: tail ∧ (isNameStart c && tail.all isNameChar) = true := by
  constructor
  · intro found
    rw [groupName?] at found
    split at found
    next c tail d behind take drop =>
      split at found
      next valid =>
        cases found
        have first := List.head?_dropWhile_not (· ≠ '>') cs
        rw [drop] at first
        obtain rfl : d = '>' := by simpa using first
        obtain ⟨split, noEnd⟩ := cutAt_iff.mp ⟨take, drop⟩
        exact ⟨split, noEnd, c, tail, rfl, valid⟩
      next => cases found
    next => cases found
  · rintro ⟨rfl, noEnd, c, tail, rfl, valid⟩
    obtain ⟨take, drop⟩ := cutAt_iff.mpr ⟨rfl, noEnd⟩
    rw [groupName?, take, drop]
    simp only [valid, if_true]

theorem groupName?_reads (c : Char) : Reads fun cs => groupName? (c :: cs) := by
  intro cs name rest found
  obtain ⟨split, noEnd, d, tail, rfl, valid⟩ := groupName?_eq_some_iff.mp found
  obtain ⟨rfl, rfl⟩ := List.cons.inj split
  refine ⟨tail ++ ['>'], by simp, ?_⟩
  intro left _ _
  exact groupName?_eq_some_iff.mpr ⟨by simp, noEnd, c, tail, rfl, valid⟩

theorem opening_eq (input : Input) (cs : List Char) :
    (opening input cs).map Opening.asRead = openGroup input.names (skipBlanks input.verbose cs) := by
  rw [opening]
  generalize skipBlanks input.verbose cs = start
  split
  · rfl
  · rfl
  · rfl
  · rfl
  · exact namedGroup_eq _ _
  next noEqual noMark =>
    rw [openGroup, openBracketed]
    · exact namedGroup_eq _ _
    · exact fun tail same => noEqual tail (by rw [same])
    · exact fun tail same => noMark tail (by rw [same])
  next noEqual noMark noBehind noNotBehind noP noBracket =>
    rw [openGroup, openLettered]
    · exact flagGroup_eq _ _
    · exact fun tail same => noP tail (by rw [same])
    · exact fun tail same => noBracket tail (by rw [same])
  next noEqual noMark noBehind noNotBehind noP noBracket noQuestion =>
    rw [openGroup]
    · rfl
    · exact fun tail same => noBracket tail (by rw [same])
    · exact noQuestion

variable (names : List (List Char))

theorem openName_cons_reads (c : Char) : Reads fun cs => openName names (c :: cs) := by
  have goesOn (name : List Char) : Reads fun rest =>
      if names.contains name then none else some ((Opening.capture, name :: names), rest) := by
    by_cases twice : names.contains name = true
    · simp only [twice, if_true]
      exact reads_none
    · simp only [twice]
      exact reads_some _
  exact (groupName?_reads c).then goesOn

theorem openName_reads : Reads (openName names) :=
  reads_cons rfl (openName_cons_reads names)

theorem openBracketed_reads : Reads (openBracketed names) := by
  refine reads_cons rfl fun c => ?_
  by_cases equal : c = '='
  · subst equal
    exact reads_none
  by_cases mark : c = '!'
  · subst mark
    exact reads_none
  refine (openName_cons_reads names c).congr fun cs => ?_
  rw [openBracketed]
  · exact fun tail same => equal (List.cons.inj same).1
  · exact fun tail same => mark (List.cons.inj same).1

theorem openFlags_reads : Reads (openFlags names) := by
  have goesOn (change : FlagChange) : Reads fun rest =>
      match rest with
      | [] => none
      | c :: rest =>
        if c = ')' then if change.isNone then none else some ((Opening.change change, names), rest)
        else some ((Opening.scope change, names), rest) := by
    refine reads_cons rfl fun c => ?_
    by_cases ends : c = ')'
    · by_cases nothing : change.isNone = true
      · simp only [ends, nothing, if_true]
        exact reads_none
      · simp only [ends, nothing, if_true]
        exact reads_some _
    · simp only [ends, if_false]
      exact reads_some _
  refine (flagChange_reads .none false false).bind goesOn ?_
  rintro change left result found rfl
  cases found

theorem openLettered_reads : Reads (openLettered names) := by
  have lettered : Reads fun cs => openLettered names ('P' :: cs) := by
    refine reads_sign '<' (openName_reads names) reads_none fun cs plain => ?_
    rw [openLettered]
    · rfl
    · exact fun tail same => plain tail (List.cons.inj same).2
  refine reads_sign 'P' lettered (openFlags_reads names) fun cs plain => ?_
  rw [openLettered]
  exact fun tail => plain ('<' :: tail)

theorem openGroup_reads : Reads (openGroup names) := by
  have question : Reads fun cs => openGroup names ('?' :: cs) := by
    refine reads_sign '<' (openBracketed_reads names) (openLettered_reads names) fun cs plain => ?_
    rw [openGroup]
    exact plain
  refine reads_sign '?' question (reads_some (.capture, names)) fun cs plain => ?_
  rw [openGroup]
  · exact fun tail => plain ('<' :: tail)
  · exact plain

variable (verbose : Bool)

theorem countGap_skips :
    Skips fun cs => if verbose then skipBlanks true cs else cs.dropWhile isBlank := by
  cases verbose with
  | true => exact skipBlanks_skips true
  | false => exact dropWhile_skips isBlank

def countValue? (ds : List Char) : Option (Option Nat) :=
  if ds.isEmpty then some none
  else if ofDigits ds < countBound then some (some (ofDigits ds))
  else none

theorem count_reads : Reads (count verbose) := by
  have digits := (dropWhile_skips isBlank).bind (takeRun_whole_reads verbose isDigit)
  have goesOn (ds : List Char) : Reads fun rest =>
      (countValue? ds).map fun n =>
        (n, if verbose then skipBlanks true rest else rest.dropWhile isBlank) := by
    cases countValue? ds with
    | none => exact reads_none
    | some n => exact (countGap_skips verbose).bind (reads_some n)
  refine (digits.then goesOn).congr fun cs => ?_
  simp only [count, countValue?, Option.bind_some]
  split
  · rfl
  · split <;> rfl

def closeCounts (least : Nat) (most? : Option Nat) (cs : List Char) :
    Option ((Nat × Option Nat) × List Char) :=
  match cs with
  | '}' :: rest => most?.bind fun most => if least ≤ most then some ((least, some most), rest) else none
  | _ => none

theorem closeCounts_reads (least : Nat) (most? : Option Nat) : Reads (closeCounts least most?) := by
  have brace : Reads fun cs => closeCounts least most? ('}' :: cs) := by
    cases most? with
    | none => exact reads_none
    | some most =>
      by_cases ordered : least ≤ most
      · simp only [closeCounts, Option.bind_some, ordered, if_true]
        exact reads_some _
      · simp only [closeCounts, Option.bind_some, ordered, if_false]
        exact reads_none
  refine reads_sign '}' brace reads_none fun cs plain => ?_
  rw [closeCounts]
  exact plain

def mostCount (verbose : Bool) (least : Nat) (start : List Char) :
    Option ((Nat × Option Nat) × List Char) :=
  match start with
  | '}' :: rest => some ((least, none), rest)
  | _ => (count verbose start).bind fun (most?, rest) => closeCounts least most? rest

theorem mostCount_reads (least : Nat) : Reads (mostCount verbose least) := by
  have counted := (count_reads verbose).then (closeCounts_reads least)
  refine reads_sign '}' (reads_some (least, none)) counted ?_
  intro cs plain
  rw [mostCount]
  exact plain

def leastCount (verbose : Bool) (least? : Option Nat) (cs : List Char) :
    Option ((Nat × Option Nat) × List Char) :=
  match cs with
  | ',' :: after => least?.bind fun least => mostCount verbose least (skipBlanks verbose after)
  | '}' :: rest => least?.map fun least => ((least, some least), rest)
  | _ => none

theorem leastCount_reads (least? : Option Nat) : Reads (leastCount verbose least?) := by
  have comma : Reads fun cs => leastCount verbose least? (',' :: cs) := by
    cases least? with
    | none => exact reads_none
    | some least => exact (skipBlanks_skips verbose).bind (mostCount_reads verbose least)
  have brace : Reads fun cs => leastCount verbose least? ('}' :: cs) := by
    cases least? with
    | none => exact reads_none
    | some least => exact reads_some (least, some least)
  refine reads_cons rfl fun c => ?_
  by_cases isComma : c = ','
  · subst isComma
    exact comma
  by_cases isBrace : c = '}'
  · subst isBrace
    exact brace
  refine reads_none.congr fun cs => ?_
  rw [leastCount]
  · exact fun tail same => isComma (List.cons.inj same).1
  · exact fun tail same => isBrace (List.cons.inj same).1

def Repetition.asRead (result : Nat × Option Nat × List Char) : (Nat × Option Nat) × List Char :=
  ((result.1, result.2.1), result.2.2)

theorem closeCounts_eq (least : Nat) (most? : Option Nat) (cs : List Char) :
    (most?.bind fun most =>
      match cs with
      | '}' :: rest => if least ≤ most then some (least, some most, rest) else none
      | _ => none).map Repetition.asRead = closeCounts least most? cs := by
  unfold closeCounts
  cases most? with
  | none => split <;> rfl
  | some most =>
    rw [Option.bind_some]
    split
    next rest => by_cases ordered : least ≤ most <;> simp [ordered, Repetition.asRead]
    next => rfl

theorem mostCount_eq (least : Nat) (start : List Char) :
    (match start with
      | '}' :: rest => some (least, none, rest)
      | start => do
        let (most?, rest) ← count verbose start
        let most ← most?
        match rest with
        | '}' :: rest => if least ≤ most then some (least, some most, rest) else none
        | _ => none).map Repetition.asRead = mostCount verbose least start := by
  unfold mostCount
  split
  next => rfl
  next =>
    cases count verbose start with
    | none => rfl
    | some result => exact closeCounts_eq least result.1 result.2

theorem counts_eq (cs : List Char) :
    (counts verbose cs).map Repetition.asRead =
      (count verbose cs).bind fun (least?, rest) => leastCount verbose least? rest := by
  unfold counts leastCount
  cases count verbose cs with
  | none => rfl
  | some result =>
    obtain ⟨_ | least, rest⟩ := result
    · simp only [Option.bind_eq_bind, Option.bind_some, Option.bind_none, Option.map_none]
      split <;> rfl
    · simp only [Option.bind_eq_bind, Option.bind_some]
      rcases rest with _ | ⟨c, after⟩
      · rfl
      · by_cases isComma : c = ','
        · subst isComma
          exact mostCount_eq verbose least (skipBlanks verbose after)
        · by_cases isBrace : c = '}'
          · subst isBrace
            rfl
          · simp [isComma, isBrace]

theorem skipLazy_skips : Skips skipLazy := by
  intro cs
  cases cs with
  | nil => exact ⟨[], rfl, fun left same => absurd same (ne_closing left)⟩
  | cons c cs =>
    by_cases mark : c = '?'
    · subst mark
      exact ⟨['?'], rfl, fun left _ => rfl⟩
    · have stays (ds : List Char) : skipLazy (c :: ds) = c :: ds := by
        rw [skipLazy]
        exact fun rest same => mark (List.cons.inj same).1
      rw [stays]
      refine ⟨[], rfl, ?_⟩
      intro left same
      cases left with
      | nil => rfl
      | cons d left =>
        obtain ⟨rfl, -⟩ := List.cons.inj same
        exact stays left

def startsRepetition (c : Char) : Bool := c = '?' || c = '*' || c = '+' || c = '{'

theorem repetition?_cons (c : Char) (cs : List Char) :
    (repetition? verbose (c :: cs)).isSome = startsRepetition c := by
  unfold repetition? startsRepetition
  split
  next same => obtain ⟨rfl, -⟩ := List.cons.inj same; rfl
  next same => obtain ⟨rfl, -⟩ := List.cons.inj same; rfl
  next same => obtain ⟨rfl, -⟩ := List.cons.inj same; rfl
  next same => obtain ⟨rfl, -⟩ := List.cons.inj same; rfl
  next noMark noStar noPlus noBrace =>
    have mark : c ≠ '?' := fun same => noMark cs (by rw [same])
    have star : c ≠ '*' := fun same => noStar cs (by rw [same])
    have plus : c ≠ '+' := fun same => noPlus cs (by rw [same])
    have brace : c ≠ '{' := fun same => noBrace cs (by rw [same])
    simp [mark, star, plus, brace]

theorem repetition?_eq_none {c : Char} (noRepetition : startsRepetition c = false) (cs : List Char) :
    repetition? verbose (c :: cs) = none := by
  refine Option.not_isSome_iff_eq_none.mp ?_
  rw [repetition?_cons, noRepetition]
  decide

def repetitionBehind (verbose : Bool) (c : Char) (cs : List Char) :
    Option ((Nat × Option Nat) × List Char) :=
  (repetition? verbose (c :: cs)).join.map Repetition.asRead

theorem repetitionBehind_reads (c : Char) : Reads (repetitionBehind verbose c) := by
  cases starts : startsRepetition c with
  | false =>
    exact reads_none.congr fun cs => by
      rw [repetitionBehind, repetition?_eq_none verbose starts]
      rfl
  | true =>
    simp only [startsRepetition, Bool.or_eq_true, decide_eq_true_eq] at starts
    rcases starts with ((rfl | rfl) | rfl) | rfl
    · exact skipLazy_skips.bind (reads_some (0, some 1))
    · exact skipLazy_skips.bind (reads_some (0, none))
    · exact skipLazy_skips.bind (reads_some (1, none))
    · have behind (n : Nat × Option Nat) : Reads fun cs => some (n, skipLazy (skipBlanks verbose cs)) :=
        (skipBlanks_skips verbose).bind (skipLazy_skips.bind (reads_some n))
      have inBraces := (skipBlanks_skips verbose).bind
        ((count_reads verbose).then (leastCount_reads verbose))
      refine (inBraces.then behind).congr fun cs => ?_
      rw [← counts_eq]
      simp only [repetitionBehind, repetition?, Option.join_some]
      cases counts verbose (skipBlanks verbose cs) <;> rfl

/-- A node with the flag and the names that hold behind it. -/
abbrev Piece := Node × Bool × List (List Char)

def Input.asRead (result : Node × Input) : Piece × List Char :=
  ((result.1, result.2.verbose, result.2.names), result.2.rest)

def readBranches (fuel : Nat) (done items : List Node) (verbose : Bool) (names : List (List Char))
    (cs : List Char) : Option (Piece × List Char) :=
  (branches fuel done items ⟨cs, verbose, names⟩).map Input.asRead

def closeGroup (opened : Opening) (verbose : Bool) (body : Piece) (cs : List Char) :
    Option (Piece × List Char) :=
  match cs with
  | ')' :: rest => some ((opened.wrap body.1, verbose, body.2.2), rest)
  | _ => none

def readOpened (fuel : Nat) (verbose : Bool) (begun : (Opening × List (List Char)) × List Char) :
    Option (Piece × List Char) :=
  let inside := begun.1.1.flagChange.apply .verbose verbose
  match begun.1.1 with
  | .change change => some ((.flags change, inside, begun.1.2), begun.2)
  | opened =>
    (readBranches fuel [] [] inside begun.1.2 begun.2).bind fun (body, rest) =>
      closeGroup opened verbose body rest

def readGroup (fuel : Nat) (verbose : Bool) (names : List (List Char)) (cs : List Char) :
    Option (Piece × List Char) :=
  (openGroup names (skipBlanks verbose cs)).bind (readOpened fuel verbose)

def readPiece (fuel : Nat) (verbose : Bool) (names : List (List Char)) (c : Char) (cs : List Char) :
    Option (Piece × List Char) :=
  if c = '(' then readGroup fuel verbose names cs
  else if c = '[' then
    (brackets verbose cs).bind fun (item, rest) => some ((.cls item, verbose, names), rest)
  else (primitive verbose (c :: cs)).bind fun (p, rest) => some ((p.node, verbose, names), rest)

section Steps

variable {verbose : Bool} {names : List (List Char)} {fuel : Nat} {done items : List Node} {c : Char}
  {cs : List Char}

theorem readBranches_skips (cs : List Char) :
    readBranches fuel done items verbose names cs =
      readBranches fuel done items verbose names (skipBlanks verbose cs) := by
  cases fuel with
  | zero => rfl
  | succ fuel =>
    have same (rest : List Char) : opening ⟨cs, verbose, names⟩ rest =
        opening ⟨skipBlanks verbose cs, verbose, names⟩ rest := rfl
    unfold readBranches branches
    simp only [skipBlanks_idem, same]

theorem readBranches_stop (stop : cs = [] ∨ ∃ tail, cs = ')' :: tail) :
    readBranches (fuel + 1) done items verbose names cs =
      some ((.ofBranches (.ofItems items.reverse :: done).reverse, verbose, names), cs) := by
  rcases stop with rfl | ⟨tail, rfl⟩
  · cases verbose <;> rfl
  · cases verbose <;> rfl

theorem readBranches_bar (stays : skipBlanks verbose ('|' :: cs) = '|' :: cs) :
    readBranches (fuel + 1) done items verbose names ('|' :: cs) =
      readBranches fuel (.ofItems items.reverse :: done) [] verbose names cs := by
  rw [readBranches, branches]
  simp only [stays, repetition?_eq_none verbose (rfl : startsRepetition '|' = false)]
  rfl

theorem readBranches_repetition (stays : skipBlanks verbose (c :: cs) = c :: cs)
    (starts : startsRepetition c = true) :
    readBranches (fuel + 1) done items verbose names (c :: cs) =
      (repetitionBehind verbose c cs).bind fun ((least, most), rest) =>
        match items with
        | item :: before =>
          if item.isRepeatable then
            readBranches fuel done (.times item least most :: before) verbose names rest
          else none
        | [] => none := by
  have found := repetition?_cons verbose c cs
  rw [starts] at found
  obtain ⟨counts?, found⟩ := Option.isSome_iff_exists.mp found
  simp only [readBranches, branches, stays, repetitionBehind, found, Option.join_some]
  rcases counts? with _ | ⟨least, most, rest⟩
  · rfl
  · cases items with
    | nil => rfl
    | cons item before =>
      by_cases repeatable : item.isRepeatable = true <;> simp [repeatable, Repetition.asRead]

theorem readBranches_piece (stays : skipBlanks verbose (c :: cs) = c :: cs) (noStop : c ≠ ')')
    (noBar : c ≠ '|') (noRepetition : startsRepetition c = false) :
    readBranches (fuel + 1) done items verbose names (c :: cs) =
      (readPiece fuel verbose names c cs).bind fun ((node, verbose, names), rest) =>
        readBranches fuel done (node :: items) verbose names rest := by
  rw [readBranches, branches, readPiece]
  simp only [stays, repetition?_eq_none verbose noRepetition]
  split
  next same => cases same
  next same => exact absurd (List.cons.inj same).1 noStop
  next same => exact absurd (List.cons.inj same).1 noBar
  next same =>
    obtain ⟨rfl, rfl⟩ := List.cons.inj same
    have asRead := opening_eq ⟨'(' :: cs, verbose, names⟩ cs
    simp only [if_true, readGroup, ← asRead]
    cases opening ⟨'(' :: cs, verbose, names⟩ cs with
    | none => rfl
    | some result =>
      obtain ⟨opened, after⟩ := result
      cases opened with
      | change => rfl
      | capture | scope =>
        simp only [Option.map_some, Option.bind_some, Opening.asRead, readOpened, readBranches]
        generalize branches fuel [] [] _ = body
        obtain _ | ⟨body, ⟨rest, flag, given⟩⟩ := body
        · rfl
        · simp only [Option.map_some, Option.bind_some, Input.asRead]
          split
          next => rfl
          next noClose =>
            rw [closeGroup]
            · rfl
            · exact noClose
  next same =>
    obtain ⟨rfl, rfl⟩ := List.cons.inj same
    have group : ('[' : Char) ≠ '(' := by decide
    simp only [group, if_false, if_true]
    cases brackets verbose cs <;> rfl
  next noGroup noBrackets =>
    have group : c ≠ '(' := fun same => noGroup cs (by rw [same])
    have bracket : c ≠ '[' := fun same => noBrackets cs (by rw [same])
    simp only [group, bracket, if_false]
    cases primitive verbose (c :: cs) <;> rfl

end Steps

theorem closeGroup_reads (opened : Opening) (body : Piece) : Reads (closeGroup opened verbose body) := by
  have close : Reads fun cs => closeGroup opened verbose body (')' :: cs) := reads_some _
  refine reads_sign ')' close reads_none fun cs plain => ?_
  rw [closeGroup]
  exact plain

/-- A piece can be followed by anything but a brace with nothing in it. -/
def Piece.Fits (piece : Piece) (left : List Char) : Prop :=
  ∀ tail, left = '{' :: tail → skipBlanks piece.2.1 tail ≠ []

theorem readGroup_reads {fuel : Nat}
    (body : ∀ verbose names, Reads (readBranches fuel [] [] verbose names)) :
    Reads (readGroup fuel verbose names) := by
  have goesOn (begun : Opening × List (List Char)) :
      Reads fun rest => readOpened fuel verbose (begun, rest) := by
    obtain ⟨opened, given⟩ := begun
    have inBrackets := (body (opened.flagChange.apply .verbose verbose) given).then
      (closeGroup_reads verbose opened)
    cases opened with
    | change change => exact reads_some (Node.flags change, change.apply .verbose verbose, given)
    | capture | scope => exact inBrackets
  exact (skipBlanks_skips verbose).bind ((openGroup_reads names).then goesOn)

theorem readPiece_reads {fuel : Nat}
    (body : ∀ verbose names, Reads (readBranches fuel [] [] verbose names)) (c : Char) :
    ReadsTo Piece.Fits (readPiece fuel verbose names c) := by
  by_cases group : c = '('
  · refine ((readGroup_reads names verbose body).mono fun _ _ _ => trivial).congr fun cs => ?_
    rw [readPiece, if_pos group]
  by_cases bracket : c = '['
  · have item : Reads fun cs => (brackets verbose cs).bind fun (item, rest) =>
        some (((Node.cls item, verbose, names) : Piece), rest) :=
      (brackets_reads verbose).map fun item => some (Node.cls item, verbose, names)
    refine (item.mono fun _ _ _ => trivial).congr fun cs => ?_
    rw [readPiece, if_neg group, if_pos bracket]
  intro cs piece rest found
  rw [readPiece, if_neg group, if_neg bracket] at found
  obtain ⟨⟨p, after⟩, single, same⟩ := Option.bind_eq_some_iff.mp found
  cases same
  obtain ⟨used, split, again⟩ := primitive_reads verbose c cs p rest single
  refine ⟨used, split, ?_⟩
  intro left same fits
  have decided : ¬ Undecided verbose p left := fun ⟨_, tail, brace, nothing⟩ => fits tail brace nothing
  rw [readPiece, if_neg group, if_neg bracket]
  simp only [again left same decided, Option.bind_some]

theorem readBranches_undecided {fuel : Nat} {done items : List Node} {tail : List Char}
    (nothing : skipBlanks verbose tail = []) :
    readBranches fuel done items verbose names ('{' :: tail) = none := by
  cases fuel with
  | zero => rfl
  | succ fuel =>
    have stays : skipBlanks verbose ('{' :: tail) = '{' :: tail := by cases verbose <;> rfl
    have noCounts : counts verbose [] = none := by cases verbose <;> rfl
    rw [readBranches_repetition stays rfl, repetitionBehind]
    simp only [repetition?, nothing, noCounts]
    rfl

theorem readBranches_reads (fuel : Nat) (done items : List Node) :
    Reads (readBranches fuel done items verbose names) := by
  induction fuel generalizing done items verbose names with
  | zero => exact reads_none
  | succ fuel ih =>
    -- Behind the blanks, the first character decides how the reader goes on.
    have goesOn (c : Char) (noStop : c ≠ ')') (stays : ∀ cs, skipBlanks verbose (c :: cs) = c :: cs) :
        Reads fun cs => readBranches (fuel + 1) done items verbose names (c :: cs) := by
      by_cases bar : c = '|'
      · subst bar
        exact (ih names verbose _ []).congr fun cs => readBranches_bar (stays cs)
      cases starts : startsRepetition c with
      | true =>
        have repeated (n : Nat × Option Nat) : Reads fun rest =>
            match items with
            | item :: before =>
              if item.isRepeatable then
                readBranches fuel done (.times item n.1 n.2 :: before) verbose names rest
              else none
            | [] => none := by
          cases items with
          | nil => exact reads_none
          | cons item before =>
            by_cases repeatable : item.isRepeatable = true
            · simp only [repeatable, if_true]
              exact ih names verbose done _
            · simp only [repeatable]
              exact reads_none
        exact ((repetitionBehind_reads verbose c).then repeated).congr fun cs =>
          readBranches_repetition (stays cs) starts
      | false =>
        refine ((readPiece_reads names verbose (fun v n => ih n v [] []) c).bind
          (fun piece => ih piece.2.2 piece.2.1 done (piece.1 :: items)) ?_).congr fun cs =>
            readBranches_piece (stays cs) noStop bar starts
        -- Only a brace with nothing in it could still change the piece, and that is no pattern.
        rintro piece left result found tail rfl nothing
        rw [readBranches_undecided _ _ nothing] at found
        cases found
    intro cs result rest found
    obtain ⟨blanks, blankSplit, blankAgain⟩ := skipBlanks_skips verbose cs
    by_cases stop : skipBlanks verbose cs = [] ∨ ∃ tail, skipBlanks verbose cs = ')' :: tail
    · rw [readBranches_skips, readBranches_stop stop] at found
      cases found
      refine ⟨blanks, blankSplit, ?_⟩
      intro left same _
      have stillStop : left = [] ∨ ∃ tail, left = ')' :: tail := by
        rw [same] at stop
        rcases left with _ | ⟨c, left⟩
        · exact .inl rfl
        · rcases stop with stop | ⟨tail, stop⟩
          · cases stop
          · exact .inr ⟨left, by rw [(List.cons.inj stop).1]⟩
      rw [readBranches_skips, blankAgain left same, readBranches_stop stillStop]
    · rw [not_or] at stop
      obtain ⟨c, tail, start⟩ := List.exists_cons_of_ne_nil stop.1
      have noStop : c ≠ ')' := fun same => stop.2 ⟨tail, by rw [start, same]⟩
      exact reads_behind_blanks readBranches_skips start
        (goesOn c noStop (skipBlanks_of_start start)) found

section Enough

variable {verbose} {names} {fuel more : Nat}

theorem readGroup_enough
    (body : ∀ {verbose names cs result}, readBranches fuel [] [] verbose names cs = some result →
      cs.length < more → readBranches more [] [] verbose names cs = some result)
    {cs : List Char} {result : Piece × List Char}
    (found : readGroup fuel verbose names cs = some result) (enough : cs.length < more) :
    readGroup more verbose names cs = some result := by
  obtain ⟨⟨⟨opened, given⟩, inside⟩, begun, found⟩ := Option.bind_eq_some_iff.mp found
  have shorter := (skipBlanks_skips verbose).length_le cs
  have less := (openGroup_reads names).length_le begun
  rw [readGroup, begun, Option.bind_some]
  cases opened with
  | change change => exact found
  | capture | scope =>
    obtain ⟨result, branch, close⟩ := Option.bind_eq_some_iff.mp found
    have fewer : inside.length < more := by omega
    simp only [readOpened, body branch fewer, Option.bind_some]
    exact close

theorem readPiece_enough
    (body : ∀ {verbose names cs result}, readBranches fuel [] [] verbose names cs = some result →
      cs.length < more → readBranches more [] [] verbose names cs = some result)
    {c : Char} {cs : List Char} {result : Piece × List Char}
    (found : readPiece fuel verbose names c cs = some result) (enough : cs.length < more) :
    readPiece more verbose names c cs = some result := by
  rw [readPiece] at found ⊢
  split at found
  next group =>
    rw [if_pos group]
    exact readGroup_enough body found enough
  next group =>
    rw [if_neg group]
    exact found

/-- Where a pattern can be read at all, it takes no more rounds than it has characters, and one. -/
theorem readBranches_enough {done items : List Node} {cs : List Char} {result : Piece × List Char}
    (found : readBranches fuel done items verbose names cs = some result) (enough : cs.length < more) :
    readBranches more done items verbose names cs = some result := by
  induction fuel generalizing more done items verbose names cs result with
  | zero => cases found
  | succ fuel ih =>
    obtain ⟨more, rfl⟩ := Nat.exists_eq_succ_of_ne_zero (Nat.ne_of_gt (Nat.zero_lt_of_lt enough))
    -- Every round passes a character, so what is left of the text needs no more rounds than are left.
    have shorter := (skipBlanks_skips verbose).length_le cs
    rw [readBranches_skips] at found ⊢
    by_cases stop : skipBlanks verbose cs = [] ∨ ∃ tail, skipBlanks verbose cs = ')' :: tail
    · rw [readBranches_stop stop] at found ⊢
      exact found
    rw [not_or] at stop
    obtain ⟨c, tail, start⟩ := List.exists_cons_of_ne_nil stop.1
    have noStop : c ≠ ')' := fun same => stop.2 ⟨tail, by rw [start, same]⟩
    have stays := skipBlanks_of_start start tail
    rw [start] at found shorter ⊢
    rw [List.length_cons] at shorter
    by_cases bar : c = '|'
    · subst bar
      rw [readBranches_bar stays] at found ⊢
      exact ih found (by omega)
    cases starts : startsRepetition c with
    | true =>
      rw [readBranches_repetition stays starts] at found ⊢
      obtain ⟨⟨n, rest⟩, repeated, found⟩ := Option.bind_eq_some_iff.mp found
      have less := (repetitionBehind_reads verbose c).length_le repeated
      rw [repeated, Option.bind_some]
      cases items with
      | nil => cases found
      | cons item before =>
        by_cases repeatable : item.isRepeatable = true
        · simp only [repeatable, if_true] at found ⊢
          exact ih found (by omega)
        · simp only [repeatable] at found
          cases found
    | false =>
      rw [readBranches_piece stays noStop bar starts] at found ⊢
      obtain ⟨⟨piece, rest⟩, single, found⟩ := Option.bind_eq_some_iff.mp found
      have less := (readPiece_reads names verbose
        (fun verbose names => readBranches_reads names verbose fuel [] []) c).length_le single
      rw [readPiece_enough (fun found => ih found) single (by omega)]
      exact ih found (by omega)

end Enough

end ComputedColumns.Pattern
