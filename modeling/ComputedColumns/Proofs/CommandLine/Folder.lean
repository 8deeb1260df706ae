import ComputedColumns.CommandLine.Files
import ComputedColumns.CommandLine.Report

namespace ComputedColumns.CommandLine

namespace Folder

def after (folder : Folder) (report : Report) : Folder :=
  match report.written with
  | some (path, text) => folder.write path text
  | none => folder

/-- A part of a path that is kept as a name. -/
structure IsName (name : String) : Prop where
  nonempty : name ≠ ""
  notHere : name ≠ "."
  noSlash : '/' ∉ name.toList

theorem noSlash_of_splitOn {path part : List Char} (member : part ∈ path.splitOn '/') :
    '/' ∉ part := by
  induction path generalizing part with
  | nil =>
    rw [List.splitOn_nil, List.mem_singleton] at member
    subst member
    simp
  | cons c cs ih =>
    rw [List.splitOn_cons_eq_if_modifyHead] at member
    by_cases slash : c = '/'
    · subst slash
      rw [if_pos (by rfl), List.mem_cons] at member
      rcases member with rfl | member
      · simp
      · exact ih member
    · rw [if_neg (by simpa using slash)] at member
      cases parts : cs.splitOn '/' with
      | nil =>
        rw [parts] at member
        cases member
      | cons first rest =>
        rw [parts] at ih member
        rcases List.mem_cons.mp member with rfl | member
        · have behind := ih List.mem_cons_self
          simp only [List.mem_cons, not_or]
          exact ⟨Ne.symm slash, behind⟩
        · exact ih (List.mem_cons_of_mem _ member)

theorem isName_of_steps {path : List Char} {step : String} (member : step ∈ steps path)
    (moves : step ≠ ".") : IsName step := by
  obtain ⟨part, among, rfl⟩ := List.mem_map.mp member
  by_cases empty : part.isEmpty = true
  · rw [if_pos empty] at moves
    exact absurd rfl moves
  · rw [if_neg empty] at moves ⊢
    refine ⟨?_, moves, ?_⟩
    · intro nothing
      have blank : part = [] := by simpa using congrArg String.toList nothing
      rw [blank] at empty
      exact empty rfl
    · rw [String.toList_ofList]
      exact noSlash_of_splitOn among

theorem names_intercalate {place : List String} (named : place ≠ [])
    (all : ∀ name ∈ place, IsName name) : names (String.intercalate "/" place) = place := by
  have parts : (String.intercalate "/" place).toList.splitOn '/' = place.map String.toList := by
    rw [String.toList_intercalate]
    apply List.splitOn_intercalate
    · intro part member
      obtain ⟨name, among, rfl⟩ := List.mem_map.mp member
      exact (all name among).noSlash
    · simpa using named
  have kept : ∀ part ∈ place.map String.toList, (!part.isEmpty && part ≠ ['.']) = true := by
    intro part member
    obtain ⟨name, among, rfl⟩ := List.mem_map.mp member
    have nonempty : name.toList ≠ [] := by
      rw [Ne, String.toList_eq_nil_iff]
      exact (all name among).nonempty
    have notHere : name.toList ≠ ['.'] := by
      intro here
      exact (all name among).notHere (String.toList_inj.mp here)
    simp [nonempty, notHere]
  rw [names, parts, List.filter_eq_self.mpr kept, List.map_map]
  simp [Function.comp_def]

variable {folder : Folder}

theorem hasFolder_iff {place : List String} :
    folder.hasFolder place = true ↔ place = [] ∨ ∃ file ∈ folder.files,
      place <+: names file.1 ∧ place.length < (names file.1).length := by
  simp [hasFolder, List.isEmpty_iff, List.isPrefixOf_iff_prefix]

theorem hasFolder_around {outer inner : List String} (around : outer <+: inner)
    (has : folder.hasFolder inner = true) : folder.hasFolder outer = true := by
  rcases hasFolder_iff.mp has with rfl | ⟨file, member, through, shorter⟩
  · rw [List.prefix_nil] at around
    exact hasFolder_iff.mpr (.inl around)
  · have length := around.length_le
    exact hasFolder_iff.mpr (.inr ⟨file, member, around.trans through, by omega⟩)

/-- A file can stand there. -/
structure IsPlace (folder : Folder) (place : List String) : Prop where
  named : place ≠ []
  names : ∀ name ∈ place, IsName name
  inside : folder.hasFolder place.dropLast = true

section Put

variable {place : List String} (isPlace : folder.IsPlace place) (text : String)
include isPlace

theorem find?_put : (folder.put place text).find? place = some text := by
  have whole := names_intercalate isPlace.named isPlace.names
  have others : (folder.files.filter fun file => names file.1 ≠ place).find?
      (fun file => names file.1 = place) = none := by
    rw [List.find?_eq_none]
    intro file member
    simpa using (List.mem_filter.mp member).2
  simp only [find?, put, List.find?_append, others, Option.none_or, List.find?_singleton, whole,
    decide_true, if_true, Option.map_some]

theorem find?_put_of_ne {other : List String} (differs : other ≠ place) :
    (folder.put place text).find? other = folder.find? other := by
  have whole := names_intercalate isPlace.named isPlace.names
  have tested : (fun file : String × String =>
      decide (decide (names file.1 ≠ place) = true ∧ decide (names file.1 = other) = true)) =
      fun file => decide (names file.1 = other) := by
    funext file
    by_cases same : names file.1 = other
    · simp [same, differs]
    · simp [same]
  simp only [find?, put, List.find?_append, List.find?_filter, tested, List.find?_singleton, whole,
    Ne.symm differs, decide_false, Bool.false_eq_true, if_false, Option.or_none]

theorem hasFolder_put (other : List String) :
    (folder.put place text).hasFolder other = folder.hasFolder other := by
  have whole := names_intercalate isPlace.named isPlace.names
  rw [Bool.eq_iff_iff, hasFolder_iff, hasFolder_iff]
  constructor
  · rintro (rfl | ⟨file, member, through, shorter⟩)
    · exact .inl rfl
    · rcases List.mem_append.mp member with kept | added
      · exact .inr ⟨file, (List.mem_filter.mp kept).1, through, shorter⟩
      · rw [List.mem_singleton] at added
        subst added
        rw [whole] at through shorter
        have around : other <+: place.dropLast := by
          apply List.prefix_of_prefix_length_le through (List.dropLast_prefix place)
          rw [List.length_dropLast]
          omega
        exact hasFolder_iff.mp (hasFolder_around around isPlace.inside)
  · rintro (rfl | ⟨file, member, through, shorter⟩)
    · exact .inl rfl
    · by_cases replaced : names file.1 = place
      · refine .inr ⟨(String.intercalate "/" place, text), ?_, ?_⟩
        · exact List.mem_append_right _ (List.mem_singleton.mpr rfl)
        · rw [whole, ← replaced]
          exact ⟨through, shorter⟩
      · have kept : file ∈ folder.files.filter fun file => names file.1 ≠ place :=
          List.mem_filter.mpr ⟨member, by simpa using replaced⟩
        exact .inr ⟨file, List.mem_append_left _ kept, through, shorter⟩

end Put

def textOf : Except FileError Target → Option String
  | .ok (.file _ text) => some text
  | _ => none

/-- Where a path leads to a file, or to a name that is free. -/
def placeOf? : Except FileError Target → Option (List String)
  | .ok (.file place _) | .ok (.free place) => some place
  | _ => none

theorem text?_eq (path : String) : folder.text? path = textOf (folder.target path.toList) := by
  unfold text? read
  cases folder.target path.toList with
  | error e => rfl
  | ok target => cases target <;> rfl

theorem placeOf?_followOutside (steps : List String) : placeOf? (followOutside steps) = none := by
  fun_induction followOutside steps with
  | case1 => rfl
  | case2 _ _ _ ih => exact ih
  | case3 => rfl
  | case4 => rfl

section Steps

variable {here : List String} {step : String} (moves : step ≠ ".") (enters : step ≠ "..")
include moves enters

theorem follow_into (has : folder.hasFolder (here ++ [step]) = true) (rest : List String) :
    folder.follow here (step :: rest) = folder.follow (here ++ [step]) rest := by
  rw [follow, if_neg moves, if_neg enters]
  exact if_pos has

theorem follow_file (lacks : ¬ folder.hasFolder (here ++ [step]) = true) {text : String}
    (found : folder.find? (here ++ [step]) = some text) :
    folder.follow here [step] = .ok (.file (here ++ [step]) text) := by
  rw [follow, if_neg moves, if_neg enters]
  simp only [lacks, found, Bool.false_eq_true, if_false]

theorem follow_free (lacks : ¬ folder.hasFolder (here ++ [step]) = true)
    (missing : folder.find? (here ++ [step]) = none) :
    folder.follow here [step] = .ok (.free (here ++ [step])) := by
  rw [follow, if_neg moves, if_neg enters]
  simp only [lacks, missing, Bool.false_eq_true, if_false]

theorem textOf_follow_behind (lacks : ¬ folder.hasFolder (here ++ [step]) = true) (next : String)
    (rest : List String) : textOf (folder.follow here (step :: next :: rest)) = none := by
  rw [follow, if_neg moves, if_neg enters]
  simp only [lacks, Bool.false_eq_true, if_false]
  cases folder.find? (here ++ [step]) <;> rfl

end Steps

theorem isPlace_of_follow {here steps place : List String} (named : ∀ name ∈ here, IsName name)
    (has : folder.hasFolder here = true) (walk : ∀ step ∈ steps, step ≠ "." → IsName step)
    (leads : placeOf? (folder.follow here steps) = some place) : folder.IsPlace place := by
  have later {step : String} {rest : List String}
      (walk : ∀ s ∈ step :: rest, s ≠ "." → IsName s) :
      ∀ s ∈ rest, s ≠ "." → IsName s := fun s member => walk s (List.mem_cons_of_mem _ member)
  have longer {here : List String} {step : String} {rest : List String} (named : ∀ n ∈ here, IsName n)
      (moves : step ≠ ".") (walk : ∀ s ∈ step :: rest, s ≠ "." → IsName s) :
      ∀ n ∈ here ++ [step], IsName n := by
    simp only [List.forall_mem_append, List.forall_mem_singleton]
    exact ⟨named, walk step List.mem_cons_self moves⟩
  have isPlace {here : List String} {step : String} (has : folder.hasFolder here = true)
      (named : ∀ n ∈ here ++ [step], IsName n) : folder.IsPlace (here ++ [step]) := by
    refine ⟨by simp, named, ?_⟩
    rwa [List.dropLast_concat]
  -- Along the steps: the folder that has been reached is there, and its way consists of names.
  fun_induction folder.follow here steps with
  | case1 => cases leads
  | case2 _ _ ih => exact ih named has (later walk) leads
  | case3 =>
    rw [placeOf?_followOutside] at leads
    cases leads
  | case4 here _ _ _ ih =>
    have outer := hasFolder_around (List.dropLast_prefix here) has
    exact ih (fun name member => named name ((List.dropLast_prefix here).subset member)) outer
      (later walk) leads
  | case5 _ _ _ moves _ _ enters ih => exact ih (longer named moves walk) enters (later walk) leads
  | case6 _ _ moves | case8 _ _ moves =>
    obtain rfl := Option.some.inj leads
    exact isPlace has (longer named moves walk)
  | case7 | case9 => cases leads

theorem isPlace_of_target {path : String} {place : List String}
    (leads : placeOf? (folder.target path.toList) = some place) : folder.IsPlace place := by
  unfold target at leads
  split at leads
  · rw [placeOf?_followOutside] at leads
    cases leads
  · have top : folder.hasFolder [] = true := rfl
    exact isPlace_of_follow (by simp) top (fun _ member => isName_of_steps member) leads

section Put

variable {place : List String} (isPlace : folder.IsPlace place) (text : String)
include isPlace

theorem follow_put {here steps : List String} (leads : placeOf? (folder.follow here steps) = some place) :
    (folder.put place text).follow here steps = .ok (.file place text) := by
  fun_induction folder.follow here steps with
  | case1 => cases leads
  | case2 _ _ ih =>
    rw [follow, if_pos rfl]
    exact ih leads
  | case3 =>
    rw [placeOf?_followOutside] at leads
    cases leads
  | case4 _ _ inside up ih =>
    rw [follow, if_neg up, if_pos rfl, if_neg inside]
    exact ih leads
  | case5 _ _ _ moves enters _ has ih =>
    rw [follow_into moves enters (by rwa [hasFolder_put isPlace])]
    exact ih leads
  | case6 _ _ moves enters _ lacks | case8 _ _ moves enters _ lacks =>
    obtain rfl := Option.some.inj leads
    exact follow_file moves enters (by rwa [hasFolder_put isPlace]) (find?_put isPlace text)
  | case7 | case9 => cases leads

theorem textOf_follow_put {here steps : List String}
    (elsewhere : placeOf? (folder.follow here steps) ≠ some place) :
    textOf ((folder.put place text).follow here steps) = textOf (folder.follow here steps) := by
  fun_induction folder.follow here steps with
  | case1 => rfl
  | case2 _ _ ih =>
    rw [follow, if_pos rfl]
    exact ih elsewhere
  | case3 _ _ top up => rw [follow, if_neg up, if_pos rfl, if_pos top]
  | case4 _ _ inside up ih =>
    rw [follow, if_neg up, if_pos rfl, if_neg inside]
    exact ih elsewhere
  | case5 _ _ _ moves enters _ has ih =>
    rw [follow_into moves enters (by rwa [hasFolder_put isPlace])]
    exact ih elsewhere
  | case6 _ _ moves enters next lacks _ found =>
    have differs : next ≠ place := fun same => elsewhere (congrArg some same)
    rw [follow_file moves enters (by rwa [hasFolder_put isPlace])
      ((find?_put_of_ne isPlace text differs).trans found)]
  | case8 _ _ moves enters next lacks found =>
    have differs : next ≠ place := fun same => elsewhere (congrArg some same)
    rw [follow_free moves enters (by rwa [hasFolder_put isPlace])
      ((find?_put_of_ne isPlace text differs).trans found)]
  | case7 _ _ moves enters _ lacks | case9 _ _ moves enters _ lacks =>
    exact textOf_follow_behind moves enters (by rwa [hasFolder_put isPlace]) _ _

end Put

theorem write_of_place {path : String} {place : List String}
    (leads : placeOf? (folder.target path.toList) = some place) (text : String) :
    folder.write path text = folder.put place text := by
  unfold write
  cases reached : folder.target path.toList with
  | error e =>
    rw [reached] at leads
    cases leads
  | ok target =>
    rw [reached] at leads
    cases target <;> cases leads <;> rfl

theorem write_of_no_place {path : String} (leads : placeOf? (folder.target path.toList) = none)
    (text : String) : folder.write path text = folder := by
  unfold write
  cases reached : folder.target path.toList with
  | error e => rfl
  | ok target =>
    rw [reached] at leads
    cases target <;> first | rfl | cases leads

theorem text?_write {path : String} {place : List String}
    (leads : placeOf? (folder.target path.toList) = some place) (text : String) :
    (folder.write path text).text? path = some text := by
  have isPlace := isPlace_of_target leads
  rw [write_of_place leads, text?_eq]
  unfold target at leads ⊢
  split at leads
  · rw [placeOf?_followOutside] at leads
    cases leads
  · rename_i relative
    rw [if_neg relative, follow_put isPlace text leads]
    rfl

theorem text?_write_of_ne {path other : String}
    (elsewhere : placeOf? (folder.target other.toList) ≠ placeOf? (folder.target path.toList))
    (text : String) : (folder.write path text).text? other = folder.text? other := by
  cases leads : placeOf? (folder.target path.toList) with
  | none => rw [write_of_no_place leads]
  | some place =>
    have isPlace := isPlace_of_target leads
    rw [write_of_place leads, text?_eq, text?_eq]
    rw [leads] at elsewhere
    unfold target at elsewhere ⊢
    split
    · rfl
    · rename_i relative
      rw [if_neg relative] at elsewhere
      exact textOf_follow_put isPlace text elsewhere

theorem place_of_no_obstacle {path : String} (free : folder.obstacle path = none) :
    (∃ place, placeOf? (folder.target path.toList) = some place) ∨
      folder.target path.toList = .ok .outside := by
  unfold obstacle at free
  dsimp only at free
  by_cases slashes : (path.toList.reverse.takeWhile (· = '/')).isEmpty = true
  · have whole : path.toList.take (path.length -
        (path.toList.reverse.takeWhile (· = '/')).length) = path.toList := by
      rw [List.isEmpty_iff.mp slashes, List.length_nil, Nat.sub_zero, ← String.length_toList,
        List.take_length]
    rw [whole] at free
    cases reached : folder.target path.toList with
    | error e =>
      rw [reached] at free
      cases free
    | ok target =>
      rw [reached] at free
      cases target with
      | folder => cases free
      | file place text => exact .inl ⟨place, rfl⟩
      | free place => exact .inl ⟨place, rfl⟩
      | outside => exact .inr rfl
  · split at free
    · cases free
    · rw [if_neg slashes] at free
      cases free
    · cases free

end Folder

end ComputedColumns.CommandLine
