import ComputedColumns.Proofs.Pattern.Matching
import ComputedColumns.Proofs.Pattern.Parser
import ComputedColumns.Table.Validation

namespace ComputedColumns

namespace Pattern

/-- Reading stops at a closing parenthesis that nothing in the text has opened. -/
def ClosesGroup (cs : List Char) : Prop :=
  ∃ node rest verbose names,
    branches (cs.length + 1) [] [] ⟨cs, false, []⟩ = some (node, ⟨')' :: rest, verbose, names⟩)

theorem branches_of_readBranches {fuel : Nat} {done items : List Node} {verbose : Bool}
    {names : List (List Char)} {cs rest : List Char} {piece : Piece}
    (found : readBranches fuel done items verbose names cs = some (piece, rest)) :
    branches fuel done items ⟨cs, verbose, names⟩ = some (piece.1, ⟨rest, piece.2.1, piece.2.2⟩) := by
  obtain ⟨⟨node, after⟩, read, same⟩ := Option.map_eq_some_iff.mp found
  obtain ⟨rfl, rfl⟩ := Prod.mk.inj same
  exact read

theorem closing_of_append {cs used rest : List Char} (split : cs ++ closing = used ++ ')' :: rest) :
    ∃ left, cs = used ++ left ∧ ')' :: rest = left ++ closing := by
  rcases List.append_eq_append_iff.mp split with ⟨more, rfl, ends⟩ | ⟨more, rfl, ends⟩
  · rcases more with _ | ⟨c, _ | ⟨d, more⟩⟩
    · exact ⟨[], by simp, ends.symm⟩
    · cases ends
    · simp [closing] at ends
  · exact ⟨more, rfl, ends⟩

theorem closeGroup_eq_some {opened : Opening} {verbose : Bool} {body piece : Piece}
    {cs rest : List Char} (found : closeGroup opened verbose body cs = some (piece, rest)) :
    cs = ')' :: rest ∧ piece = (opened.wrap body.1, verbose, body.2.2) := by
  unfold closeGroup at found
  split at found
  · obtain ⟨rfl, rfl⟩ := Prod.mk.inj (Option.some.inj found)
    exact ⟨rfl, rfl⟩
  · cases found

theorem readBranches_anchored {cs rest : List Char} {fuel : Nat} {piece : Piece}
    (found : readBranches (fuel + 2) [] [] false [] (anchored cs) = some (piece, rest)) :
    ∃ body behind, readBranches fuel [] [] false [] (cs ++ closing) = some (body, ')' :: behind) ∧
      readBranches fuel [] [.scope .none body.1, .assertion .lineStart] false body.2.2 behind =
        some (piece, rest) := by
  have line : readPiece (fuel + 1) false [] '^' ('(' :: '?' :: ':' :: (cs ++ closing)) =
      some ((.assertion .lineStart, false, []), '(' :: '?' :: ':' :: (cs ++ closing)) := rfl
  have group : readPiece fuel false [] '(' ('?' :: ':' :: (cs ++ closing)) =
      (readBranches fuel [] [] false [] (cs ++ closing)).bind fun inner =>
        closeGroup (.scope .none) false inner.1 inner.2 := rfl
  change readBranches (fuel + 2) [] [] false [] ('^' :: '(' :: '?' :: ':' :: (cs ++ closing)) = _ at found
  rw [readBranches_piece rfl (by decide) (by decide) rfl, line, Option.bind_some] at found
  dsimp only at found
  rw [readBranches_piece rfl (by decide) (by decide) rfl, group] at found
  obtain ⟨⟨scope, behind⟩, inside, found⟩ := Option.bind_eq_some_iff.mp found
  obtain ⟨⟨body, ends⟩, read, close⟩ := Option.bind_eq_some_iff.mp inside
  obtain ⟨rfl, rfl⟩ := closeGroup_eq_some close
  exact ⟨body, behind, read, found⟩

def between (body : Node) : Node :=
  .concat [.assertion .lineStart, .scope .none body, .assertion .lineEnd]

theorem readBranches_lineEnd (fuel : Nat) (body : Node) (names : List (List Char)) :
    readBranches (fuel + 2) [] [.scope .none body, .assertion .lineStart] false names ['$'] =
      some ((between body, false, names), []) := rfl

theorem parse?_eq_some_iff {cs : List Char} {node : Node} :
    parse? cs = some node ↔ node.depth ≤ depthLimit ∧
      ∃ verbose names, readBranches (cs.length + 1) [] [] false [] cs =
        some ((node, verbose, names), []) := by
  constructor
  · intro found
    rw [parse?] at found
    split at found
    next node' verbose names read =>
      split at found
      next shallow =>
        cases found
        refine ⟨shallow, verbose, names, ?_⟩
        rw [readBranches, read]
        rfl
      next => cases found
    next => cases found
  · rintro ⟨shallow, verbose, names, read⟩
    rw [parse?, branches_of_readBranches read]
    exact if_pos shallow

theorem parse?_anchored {cs : List Char} {node : Node} (found : parse? (anchored cs) = some node) :
    ClosesGroup cs ∨ ∃ body, parse? cs = some body ∧ node = between body := by
  obtain ⟨shallow, verbose, names, read⟩ := parse?_eq_some_iff.mp found
  have length : (anchored cs).length + 1 = cs.length + 5 + 2 := by
    simp [anchored]
  rw [length] at read
  obtain ⟨body, behind, inside, outside⟩ := readBranches_anchored read
  -- Where the group ends, reading the pattern by itself ends too.
  obtain ⟨used, split, again⟩ := readBranches_reads [] false _ [] [] _ _ _ inside
  obtain ⟨left, rfl, ends⟩ := closing_of_append split
  have alone := readBranches_enough (again left ends trivial) (Nat.lt_succ_self _)
  rcases left with _ | ⟨c, left⟩
  · right
    obtain ⟨-, rfl⟩ := List.cons.inj ends
    rw [readBranches_lineEnd] at outside
    cases outside
    refine ⟨body.1, parse?_eq_some_iff.mpr ⟨?_, body.2.1, body.2.2, alone⟩, rfl⟩
    simp only [between, Node.depth, Node.depthOfAll] at shallow
    omega
  · left
    obtain ⟨rfl, -⟩ := List.cons.inj ends
    exact ⟨body.1, left, body.2.1, body.2.2, branches_of_readBranches alone⟩

theorem parse?_of_closesGroup {cs : List Char} (closes : ClosesGroup cs) : parse? cs = none := by
  obtain ⟨node, rest, verbose, names, read⟩ := closes
  rw [parse?, read]

def whole (r : Regex Atom) : Regex Atom :=
  .seq (.step (.look .textStart)) (.seq r (.step (.look .textEnd)))

theorem meaning?_between (body : Node) :
    (between body).meaning? .default =
      (body.meaning? .default).map fun (r, _) => (whole r, .default) := by
  have same : Flags.default.change .none = Flags.default := by decide
  simp only [between, Node.meaning?, Node.meanings?, Option.bind_some, same]
  cases body.meaning? .default <;> rfl

theorem programSize_le (direction : Direction) (r : Regex Atom) :
    programSize direction r ≤ programSize direction (whole r) := by
  have least : (footprint direction (.empty : Regex Atom)).total direction = stateSize := rfl
  have size : (footprint direction (whole r)).total direction =
      stateSize + ((if r = .empty then 0 else (footprint direction r).total direction) + stateSize) := rfl
  rw [programSize, programSize, size]
  by_cases empty : r = .empty
  · rw [if_pos empty, empty, least]
    omega
  · rw [if_neg empty]
    omega

theorem expression?_anchored {cs : List Char} {r : Regex Atom}
    (found : expression? (anchored cs) = some r) :
    ClosesGroup cs ∨ ∃ s, expression? cs = some s ∧ r = whole s := by
  obtain ⟨node, parsed, found⟩ := Option.bind_eq_some_iff.mp found
  obtain ⟨⟨_, flags⟩, meant, rfl⟩ := Option.map_eq_some_iff.mp found
  rcases parse?_anchored parsed with closes | ⟨body, alone, rfl⟩
  · exact .inl closes
  · rw [meaning?_between] at meant
    obtain ⟨⟨s, after⟩, inside, same⟩ := Option.map_eq_some_iff.mp meant
    cases same
    refine .inr ⟨s, ?_, rfl⟩
    rw [expression?, alone, Option.bind_some, inside, Option.map_some]

namespace Engine

/-- What fits between the ends of the text fits by itself. -/
def FitsInside (engine : Engine) : Prop :=
  ∀ sizeLimit r, engine.fits sizeLimit (whole r) = true → engine.fits sizeLimit r = true

theorem byFootprint_fitsInside : byFootprint.FitsInside := by
  intro sizeLimit r fits
  simp only [byFootprint, Bool.and_eq_true, decide_eq_true_eq] at fits ⊢
  exact ⟨Nat.le_trans (programSize_le .forward r) fits.1,
    Nat.le_trans (programSize_le .backward r) fits.2⟩

theorem compile_eq_ok_iff {engine : Engine} {sizeLimit : Nat} {cs : List Char} {r : Regex Atom} :
    engine.compile sizeLimit cs = .ok r ↔
      expression? cs = some r ∧ engine.fits sizeLimit r = true := by
  rw [compile]
  cases expression? cs with
  | none => simp
  | some s =>
    dsimp only
    split
    next fits =>
      constructor
      · rintro ⟨⟩
        exact ⟨rfl, fits⟩
      · rintro ⟨⟨⟩, -⟩
        rfl
    next large =>
      constructor
      · rintro ⟨⟩
      · rintro ⟨⟨⟩, fits⟩
        exact absurd fits large

theorem compile_anchored {engine : Engine} {sizeLimit : Nat} {cs : List Char} {r : Regex Atom}
    (compiled : engine.compile sizeLimit (anchored cs) = .ok r) :
    ClosesGroup cs ∨ ∃ s, expression? cs = some s ∧ r = whole s ∧
      engine.fits sizeLimit (whole s) = true := by
  obtain ⟨found, fits⟩ := compile_eq_ok_iff.mp compiled
  rcases expression?_anchored found with closes | ⟨s, alone, rfl⟩
  · exact .inl closes
  · exact .inr ⟨s, alone, rfl, fits⟩

end Engine

theorem maskOf_inside (c : Char) (cs : List Char) :
    Step.maskOf ((Step.sides (some c) cs).map fun (before, _) => before.isNone) = 0 := by
  induction cs generalizing c with
  | nil => rfl
  | cons d cs ih =>
    rw [Step.sides, List.map_cons, Step.maskOf_cons, ih]
    rfl

theorem maskOf_start (cs : List Char) :
    Step.maskOf ((Step.sides none cs).map fun (before, _) => before.isNone) = 1 := by
  cases cs with
  | nil => rfl
  | cons c cs =>
    rw [Step.sides, List.map_cons, Step.maskOf_cons, maskOf_inside]
    rfl

theorem maskOf_end (before : Option Char) (cs : List Char) :
    Step.maskOf ((Step.sides before cs).map fun (_, after) => after.isNone) = 2 ^ cs.length := by
  induction cs generalizing before with
  | nil => rfl
  | cons c cs ih =>
    rw [Step.sides, List.map_cons, Step.maskOf_cons, ih, List.length_cons, Nat.pow_succ]
    simp
    omega

theorem occursIn_whole (r : Regex Atom) (cs : List Char) :
    (whole r).occursIn Atom.step cs = r.accepts Atom.step cs := by
  have start : (1 <<< (cs.length + 1) - 1) &&& 1 = 1 := by
    rw [Nat.shiftLeft_eq, Nat.and_one_is_mod, Nat.pow_succ]
    have positive := Nat.two_pow_pos cs.length
    omega
  have atStart : (Atom.step (.look .textStart) cs).after (1 <<< (cs.length + 1) - 1) = 1 :=
    (congrArg (fun mask => (1 <<< (cs.length + 1) - 1) &&& mask) (maskOf_start cs)).trans start
  have atEnd (starts : Nat) : (Atom.step (.look .textEnd) cs).after starts =
      (starts.testBit cs.length).toNat * 2 ^ cs.length :=
    (congrArg (fun mask => starts &&& mask) (maskOf_end none cs)).trans (Nat.and_two_pow starts _)
  simp only [Regex.occursIn, whole, Regex.map, Regex.ends, atStart, atEnd, Regex.accepts]
  cases ((r.map (Atom.step · cs)).ends (cs.length + 1) 1).testBit cs.length <;> simp

end Pattern

namespace ValueFormat

open Pattern (Engine)

theorem checkPattern_eq_ok {engine : Engine} {options : ValidationOptions} {source value : String}
    (passes : checkPattern engine options source value = .ok ()) :
    value.utf8ByteSize ≤ options.lengthLimit ∧
      ∃ r, engine.compile options.sizeLimit (Pattern.anchored source.toList) = .ok r ∧
        r.occursIn Pattern.Atom.step value.toList = true := by
  rw [checkPattern] at passes
  split at passes
  · cases passes
  next short =>
    split at passes
    · cases passes
    next r compiled =>
      split at passes
      · cases passes
      · split at passes
        next occurs => exact ⟨Nat.le_of_not_lt short, r, compiled, occurs⟩
        · cases passes

/-- A value that passes a pattern is no longer than the limit, and the pattern is one by itself that
matches the whole value, unless it closes the group that it is put into. It can be used by itself under
the same limit on its size if the ends of the text only add to that. -/
theorem pattern_matches_whole (engine : Engine) (options : ValidationOptions) {source value : String}
    (nonempty : value ≠ "")
    (passes : (ValueFormat.pattern source).checkWithin engine options value = .ok ()) :
    value.utf8ByteSize ≤ options.lengthLimit ∧
      (Pattern.ClosesGroup source.toList ∨
        ∃ r, Pattern.expression? source.toList = some r ∧
          (engine.FitsInside → engine.compile options.sizeLimit source.toList = .ok r) ∧
          Pattern.MatchesWhole r value.toList) := by
  rw [checkWithin, if_neg nonempty] at passes
  obtain ⟨short, r, compiled, occurs⟩ := checkPattern_eq_ok passes
  refine ⟨short, ?_⟩
  rcases Engine.compile_anchored compiled with closes | ⟨s, alone, rfl, fits⟩
  · exact .inl closes
  · rw [Pattern.occursIn_whole, Pattern.accepts_iff_matchesWhole] at occurs
    refine .inr ⟨s, alone, ?_, occurs⟩
    intro inside
    exact Engine.compile_eq_ok_iff.mpr ⟨alone, inside _ _ fits⟩

theorem pattern_matches_whole_alternation :
    let options : ValidationOptions := ⟨512, 2, 0⟩
    ("bc" ≠ "" ∧ (ValueFormat.pattern "a|bc").checkWithin .byFootprint options "bc" = .ok ()) ∧
      ∃ r, Engine.byFootprint.compile 512 "a|bc".toList = .ok r ∧
        Pattern.MatchesWhole r "bc".toList := by
  intro options
  have passes : (ValueFormat.pattern "a|bc").checkWithin .byFootprint options "bc" = .ok () := by
    decide +kernel
  have nonempty : "bc" ≠ "" := by decide
  refine ⟨⟨nonempty, passes⟩, ?_⟩
  rcases (pattern_matches_whole .byFootprint options nonempty passes).2 with
    closes | ⟨r, -, usable, whole⟩
  · have alone : (Pattern.parse? "a|bc".toList).isSome = true := by decide +kernel
    rw [Pattern.parse?_of_closesGroup closes] at alone
    cases alone
  · exact ⟨r, usable Engine.byFootprint_fitsInside, whole⟩

/-- A pattern that closes the group it is put into is none by itself, and still lets a value pass that
only begins with a match of its first branch. -/
theorem pattern_closing_its_group :
    (ValueFormat.pattern "a)|(b").checkWithin .byFootprint .default "axyz" = .ok () ∧
      Pattern.ClosesGroup "a)|(b".toList ∧ Pattern.expression? "a)|(b".toList = none :=
  ⟨by decide +kernel, ⟨_, _, _, _, rfl⟩, by decide +kernel⟩

end ValueFormat

end ComputedColumns
