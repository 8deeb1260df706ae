import ComputedColumns.CommandLine.Command

namespace ComputedColumns.CommandLine

/-- An assignment as it is read: the name has characters, none of them an equals sign, and no blanks stand
around it. -/
structure IsAssignment (assignment : Assignment) : Prop where
  named : assignment.1 ≠ ""
  noEquals : '=' ∉ assignment.1.toList
  trimmed : Text.trim assignment.1.toList = assignment.1.toList

def assignmentText (assignment : Assignment) : String := assignment.1 ++ "=" ++ assignment.2

theorem forall_ne_equals {cs : List Char} (noEquals : '=' ∉ cs) : ∀ c ∈ cs, decide (c ≠ '=') = true := by
  intro c member
  simp only [decide_eq_true_eq]
  rintro rfl
  exact noEquals member

theorem span_equals {front : List Char} (noEquals : '=' ∉ front) (rest : List Char) :
    (front ++ '=' :: rest).takeWhile (· ≠ '=') = front ∧
      (front ++ '=' :: rest).dropWhile (· ≠ '=') = '=' :: rest := by
  have before := forall_ne_equals noEquals
  rw [List.takeWhile_append_of_pos before, List.dropWhile_append_of_pos before]
  simp

theorem assignment?_assignmentText {assignment : Assignment} (fine : IsAssignment assignment) :
    assignment? (assignmentText assignment) = some assignment := by
  obtain ⟨named, noEquals, trimmed⟩ := fine
  have chars : (assignmentText assignment).toList =
      assignment.1.toList ++ '=' :: assignment.2.toList := by
    simp [assignmentText]
  obtain ⟨taken, dropped⟩ := span_equals noEquals assignment.2.toList
  have visible : assignment.1.toList.isEmpty = false := by simpa using named
  rw [assignment?, chars]
  dsimp only
  rw [dropped, taken]
  simp [trimmed, visible]

def optionText (option : String × String) : String := "--" ++ option.1 ++ "=" ++ option.2

theorem shape_long {name : List Char} (named : name ≠ []) {argument : String}
    (chars : argument.toList = '-' :: '-' :: name) :
    Shape.of argument =
      match name.dropWhile (· ≠ '=') with
      | [] => .long name none
      | _ :: value => .long (name.takeWhile (· ≠ '=')) (some value) := by
  obtain ⟨c, cs, rfl⟩ := List.exists_cons_of_ne_nil named
  rw [Shape.of, chars]
  rfl

theorem shape_optionText {option : String × String} (noEquals : '=' ∉ option.1.toList) :
    Shape.of (optionText option) = .long option.1.toList (some option.2.toList) := by
  have chars : (optionText option).toList =
      '-' :: '-' :: (option.1.toList ++ '=' :: option.2.toList) := by
    simp [optionText]
  obtain ⟨taken, dropped⟩ := span_equals noEquals option.2.toList
  rw [shape_long (by simp) chars, dropped, taken]

theorem shape_flagText {long : String} (noEquals : '=' ∉ long.toList) (named : long ≠ "") :
    Shape.of ("--" ++ long) = .long long.toList none := by
  have chars : ("--" ++ long).toList = '-' :: '-' :: long.toList := by simp
  have dropped : (long.toList ++ []).dropWhile (· ≠ '=') = [] := by
    rw [List.dropWhile_append_of_pos (forall_ne_equals noEquals), List.dropWhile_nil]
  rw [List.append_nil] at dropped
  rw [shape_long (by simpa using named) chars, dropped]

namespace Given

def addAll (given : Given) (options : List (String × String)) : Given :=
  { given with options := given.options ++ options }

theorem addAll_append (given : Given) (front back : List (String × String)) :
    given.addAll (front ++ back) = (given.addAll front).addAll back := by
  simp only [addAll, List.append_assoc]

theorem has_none (long : String) : none.has long = false := rfl

theorem has_addAll (given : Given) (options : List (String × String)) (long : String) :
    (given.addAll options).has long = (given.has long || options.any (·.1 = long)) := by
  rw [has, addAll, List.any_append, has]

theorem addOption_eq {given : Given} {o : OptionSpec} {value : String}
    (fresh : o.role.isRepeatable = true ∨ given.has o.long = false)
    (allowed : o.role.value?.all (·.allows value) = true) :
    given.addOption o value = .ok (given.addAll [(o.long, value)]) := by
  have once : ¬ (!o.role.isRepeatable && given.has o.long) = true := by
    rcases fresh with repeatable | absent
    · simp [repeatable]
    · simp [absent]
  rw [addOption, if_neg once, if_pos allowed, addAll]

end Given

/-- Arguments that are read one after the other, with any arguments behind them. -/
def Takes (spec : CommandSpec) (arguments : List String) (given next : Given) : Prop :=
  ∀ fuel rest, readArguments spec (arguments.length + fuel) given (arguments ++ rest) =
    readArguments spec fuel next rest

section Takes

variable {spec : CommandSpec} {given next last : Given}

theorem Takes.nil : Takes spec [] given (given.addAll []) := by
  intro fuel rest
  rw [List.length_nil, Nat.zero_add, List.nil_append, Given.addAll, List.append_nil]

theorem Takes.append {front back : List String} (first : Takes spec front given next)
    (second : Takes spec back next last) : Takes spec (front ++ back) given last := by
  intro fuel rest
  rw [List.length_append, Nat.add_assoc, List.append_assoc, first, second]

def Offers (spec : CommandSpec) (long : String) (role : Role) : Prop :=
  '=' ∉ long.toList ∧ ∃ o, spec.options.find? (·.long.toList = long.toList) = some o ∧
    o.long = long ∧ o.role = role

theorem takes_option {long value : String} {role : Role} {accepts : Accepts}
    (offers : Offers spec long role) (valued : role.value? = some accepts)
    (allowed : accepts.allows value = true)
    (fresh : role.isRepeatable = true ∨ given.has long = false) :
    Takes spec [optionText (long, value)] given (given.addAll [(long, value)]) := by
  intro fuel rest
  obtain ⟨noEquals, o, listed, rfl, rfl⟩ := offers
  have admitted : o.role.value?.all (·.allows value) = true := by
    rw [valued, Option.all_some, allowed]
  have added := Given.addOption_eq fresh admitted
  rw [List.length_singleton, Nat.add_comm, List.singleton_append, readArguments,
    shape_optionText noEquals]
  simp only [readLong, listed, valued, String.ofList_toList, added]
  rfl

theorem takes_flag {long : String} (offers : Offers spec long .flag) (fresh : given.has long = false)
    (named : long ≠ "") : Takes spec ["--" ++ long] given (given.addAll [(long, "")]) := by
  intro fuel rest
  obtain ⟨noEquals, o, listed, rfl, flag⟩ := offers
  have admitted : o.role.value?.all (·.allows "") = true := by rw [flag]; rfl
  have added := Given.addOption_eq (.inr fresh) admitted
  rw [List.length_singleton, Nat.add_comm, List.singleton_append, readArguments,
    shape_flagText noEquals named]
  simp only [readLong, listed, flag, Role.value?, added]
  rfl

theorem takes_list {long : String} {accepts : Accepts} (offers : Offers spec long (.list accepts))
    {values : List String} (allowed : ∀ value ∈ values, accepts.allows value = true) (given : Given) :
    Takes spec (values.map fun value => optionText (long, value)) given
      (given.addAll (values.map fun value => (long, value))) := by
  induction values generalizing given with
  | nil => exact .nil
  | cons value values ih =>
    have first : Takes spec [optionText (long, value)] given (given.addAll [(long, value)]) :=
      takes_option offers rfl (allowed value List.mem_cons_self) (.inl rfl)
    have others := ih (fun value member => allowed value (List.mem_cons_of_mem _ member))
      (given.addAll [(long, value)])
    rw [← Given.addAll_append] at others
    exact first.append others

end Takes

namespace RecomputeRequest

variable (r : RecomputeRequest)

/-- A request that can be asked for. -/
structure IsReadable : Prop where
  computed : ∀ assignment ∈ r.computed, IsAssignment assignment
  types : ∀ assignment ∈ r.types, IsAssignment assignment
  input : r.input ≠ ""
  output : r.output ≠ some ""

def optionArguments : List String :=
  r.computed.map (fun assignment => optionText ("computed", assignmentText assignment)) ++
    r.types.map (fun assignment => optionText ("type", assignmentText assignment)) ++
    r.output.toList.map (fun path => optionText ("output", path)) ++
    if r.strict then ["--strict"] else []

/-- The arguments that ask for a request. The input stands behind a divider, so that it may begin with a
minus sign. -/
def arguments : List String := "recompute" :: (r.optionArguments ++ ["--", r.input])

def options : List (String × String) :=
  r.computed.map (fun assignment => ("computed", assignmentText assignment)) ++
    r.types.map (fun assignment => ("type", assignmentText assignment)) ++
    r.output.toList.map (fun path => ("output", path)) ++
    if r.strict then [("strict", "")] else []

variable {r}

theorem takes_optionArguments (readable : r.IsReadable) :
    Takes recomputeSpec r.optionArguments .none (Given.none.addAll r.options) := by
  have assignments {long : String} (offers : Offers recomputeSpec long (.list .assignment))
      {given : List Assignment} (all : ∀ assignment ∈ given, IsAssignment assignment) (before : Given) :
      Takes recomputeSpec (given.map fun assignment => optionText (long, assignmentText assignment))
        before (before.addAll (given.map fun assignment => (long, assignmentText assignment))) := by
    have allowed : ∀ value ∈ given.map assignmentText, Accepts.assignment.allows value = true := by
      rw [List.forall_mem_map]
      intro assignment member
      rw [Accepts.allows, assignment?_assignmentText (all assignment member), Option.isSome_some]
    have taken := takes_list offers allowed before
    simpa only [List.map_map, Function.comp_def] using taken
  have offersComputed : Offers recomputeSpec "computed" (.list .assignment) :=
    ⟨by decide, _, rfl, rfl, rfl⟩
  have offersType : Offers recomputeSpec "type" (.list .assignment) := ⟨by decide, _, rfl, rfl, rfl⟩
  have offersOutput : Offers recomputeSpec "output" (.single .path) := ⟨by decide, _, rfl, rfl, rfl⟩
  have offersStrict : Offers recomputeSpec "strict" .flag := ⟨by decide, _, rfl, rfl, rfl⟩
  have output {before : Given} (fresh : before.has "output" = false) :
      Takes recomputeSpec (r.output.toList.map fun path => optionText ("output", path)) before
        (before.addAll (r.output.toList.map fun path => ("output", path))) := by
    cases asked : r.output with
    | none => exact .nil
    | some path =>
      have named : path ≠ "" := by
        rintro rfl
        exact readable.output asked
      exact takes_option offersOutput rfl (by simpa [Accepts.allows] using named) (.inr fresh)
  have strict {before : Given} (fresh : before.has "strict" = false) :
      Takes recomputeSpec (if r.strict then ["--strict"] else []) before
        (before.addAll (if r.strict then [("strict", "")] else [])) := by
    cases r.strict with
    | false => exact .nil
    | true => exact takes_flag offersStrict fresh (by decide)
  rw [options, Given.addAll_append, Given.addAll_append, Given.addAll_append]
  have computed := assignments offersComputed readable.computed .none
  have types := assignments offersType readable.types
    (Given.none.addAll (r.computed.map fun assignment => ("computed", assignmentText assignment)))
  refine ((computed.append types).append (output ?_)).append (strict ?_)
  · simp [Given.has_addAll, Given.has_none]
  · simp [Given.has_addAll, Given.has_none]

theorem readGiven_arguments (readable : r.IsReadable) :
    readGiven recomputeSpec r.arguments.tail = .ok ⟨some r.input, r.options⟩ := by
  have allowed : Accepts.path.allows r.input = true := by simpa [Accepts.allows] using readable.input
  have last : readArguments recomputeSpec 2 (Given.none.addAll r.options) ["--", r.input] =
      .ok ⟨some r.input, r.options⟩ := by
    have divides : Shape.of "--" = .divider := by decide
    rw [readArguments, divides]
    simp only [recomputeSpec, Given.addArguments, Given.addArgument, Given.addAll, Given.none, allowed]
    rfl
  have taken := takes_optionArguments readable 2 ["--", r.input]
  have counted : (r.optionArguments ++ ["--", r.input]).length = r.optionArguments.length + 2 :=
    List.length_append
  rw [readGiven, arguments, List.tail_cons, counted, taken, last]
  rfl

theorem values_map {α : Type} (long name : String) (text : α → String) (xs : List α) :
    ((xs.map fun x => (name, text x)).filter (·.1 = long)).map (·.2) =
      if name = long then xs.map text else [] := by
  by_cases same : name = long
  · rw [if_pos same, List.filter_eq_self.mpr (by simp [same]), List.map_map]
    rfl
  · rw [if_neg same, List.filter_eq_nil_iff.mpr (by simp [same]), List.map_nil]

theorem values_strict (long : String) (differs : long ≠ "strict") :
    ((if r.strict then [("strict", "")] else []).filter (·.1 = long)).map (·.2) = [] := by
  cases r.strict with
  | false => rfl
  | true => simp [Ne.symm differs]

theorem filterMap_assignment? {given : List Assignment}
    (all : ∀ assignment ∈ given, IsAssignment assignment) :
    (given.map assignmentText).filterMap assignment? = given := by
  induction given with
  | nil => rfl
  | cons assignment given ih =>
    rw [List.forall_mem_cons] at all
    rw [List.map_cons, List.filterMap_cons_some (assignment?_assignmentText all.1), ih all.2]

theorem read_arguments (readable : r.IsReadable) :
    Request.read r.arguments = .run (.recompute r) := by
  have plain : Shape.of "recompute" = .plain := by decide
  have command : commandOf? "recompute" = some (recomputeSpec, fun g => .recompute
      ⟨g.argument.getD "", g.assignments "computed", g.assignments "type",
        (g.values "output").head?, g.has "strict"⟩) := rfl
  have read {g : Given} (given : readGiven recomputeSpec r.arguments.tail = .ok g) :
      Request.read r.arguments =
        .run (.recompute ⟨g.argument.getD "", g.assignments "computed", g.assignments "type",
          (g.values "output").head?, g.has "strict"⟩) := by
    rw [arguments, List.tail_cons] at given
    rw [arguments, Request.read, plain]
    dsimp only
    rw [if_neg (by decide), command]
    dsimp only
    rw [given]
  have values (long : String) (differs : long ≠ "strict") :
      Given.values ⟨some r.input, r.options⟩ long =
        (if "computed" = long then r.computed.map assignmentText else []) ++
          (if "type" = long then r.types.map assignmentText else []) ++
          (if "output" = long then r.output.toList else []) := by
    have outputs := values_map long "output" (fun path => path) r.output.toList
    rw [List.map_id'] at outputs
    simp only [Given.values, options, List.filter_append, List.map_append, values_map, outputs,
      values_strict long differs, List.append_nil]
  have computed : Given.assignments ⟨some r.input, r.options⟩ "computed" = r.computed := by
    rw [Given.assignments, values _ (by decide)]
    simpa using filterMap_assignment? readable.computed
  have types : Given.assignments ⟨some r.input, r.options⟩ "type" = r.types := by
    rw [Given.assignments, values _ (by decide)]
    simpa using filterMap_assignment? readable.types
  have output : (Given.values ⟨some r.input, r.options⟩ "output").head? = r.output := by
    rw [values _ (by decide)]
    cases r.output <;> simp
  have strict : Given.has ⟨some r.input, r.options⟩ "strict" = r.strict := by
    cases isStrict : r.strict <;> simp [Given.has, options, isStrict]
  rw [read (readGiven_arguments readable)]
  simp only [strict, output, computed, types, Option.getD_some]

end RecomputeRequest

end ComputedColumns.CommandLine
