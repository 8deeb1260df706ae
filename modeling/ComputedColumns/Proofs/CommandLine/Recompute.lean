import ComputedColumns.Proofs.CommandLine.Folder
import ComputedColumns.Proofs.CommandLine.Request
import ComputedColumns.Proofs.CommandLine.ResultTable

namespace ComputedColumns.CommandLine

variable {types : TypedNames} {header : List String} {rows : List (List String)}

/-- The names of types stand for these types, column by column. -/
def AreTypes (given : List Assignment) (types : TypedNames) : Prop :=
  given.map (fun (name, typeName) => (name, ColumnType.ofName? typeName)) =
    types.map fun (name, type) => (name, some type)

theorem declaredTypes_eq_ok_iff {given : List Assignment} :
    declaredTypes given = .ok types ↔ AreTypes given types := by
  unfold AreTypes
  induction given generalizing types with
  | nil =>
    rw [declaredTypes, List.map_nil, eq_comm (b := types.map _), List.map_eq_nil_iff]
    constructor
    · intro read
      exact (Except.ok.inj read).symm
    · rintro rfl
      rfl
  | cons assignment given ih =>
    rw [declaredTypes, List.map_cons, eq_comm (b := types.map _), List.map_eq_cons_iff]
    cases known : ColumnType.ofName? assignment.2 with
    | none => simp [ColumnType.read, known]
    | some type =>
      simp only [ColumnType.read, known, map_eq_ok, ih]
      constructor
      · rintro ⟨others, all, rfl⟩
        exact ⟨_, others, rfl, rfl, all.symm⟩
      · rintro ⟨⟨name, type'⟩, others, rfl, same, all⟩
        cases same
        exact ⟨others, all.symm, rfl⟩

theorem AreTypes.exists_type {given : List Assignment} (all : AreTypes given types)
    {assignment : Assignment} (member : assignment ∈ given) :
    ∃ type, (assignment.1, type) ∈ types ∧ ColumnType.ofName? assignment.2 = some type := by
  have listed : (assignment.1, ColumnType.ofName? assignment.2) ∈
      types.map fun (name, type) => (name, some type) := by
    rw [← all]
    exact List.mem_map_of_mem member
  obtain ⟨⟨name, type⟩, among, same⟩ := List.mem_map.mp listed
  obtain ⟨rfl, known⟩ := Prod.mk.inj same
  exact ⟨type, among, known.symm⟩

theorem AreTypes.exists_given {given : List Assignment} (all : AreTypes given types)
    {entry : String × ColumnType} (member : entry ∈ types) :
    ∃ assignment ∈ given, assignment.1 = entry.1 := by
  have listed : (entry.1, some entry.2) ∈
      given.map fun (name, typeName) => (name, ColumnType.ofName? typeName) := by
    rw [all]
    exact List.mem_map_of_mem member
  obtain ⟨assignment, among, same⟩ := List.mem_map.mp listed
  exact ⟨assignment, among, (Prod.mk.inj same).1⟩

theorem exists_areTypes {given : List Assignment}
    (known : ∀ assignment ∈ given, ColumnType.ofName? assignment.2 ≠ none) :
    ∃ types, AreTypes given types := by
  refine ⟨given.map fun (name, typeName) => (name, (ColumnType.ofName? typeName).getD .text), ?_⟩
  rw [AreTypes, List.map_map]
  apply List.map_congr_left
  intro assignment member
  obtain ⟨type, same⟩ := Option.ne_none_iff_exists'.mp (known assignment member)
  simp [same]

theorem checkTypedNames_eq_ok_iff {t : Table} :
    checkTypedNames t types = .ok () ↔ ∀ entry ∈ types, ∃ c ∈ t.columns, c.name = entry.1 := by
  induction types with
  | nil => simp [checkTypedNames]
  | cons entry types ih =>
    rw [checkTypedNames, List.forall_mem_cons]
    cases found : t.columnIndex? entry.1 with
    | none =>
      have missing : ¬ ∃ c ∈ t.columns, c.name = entry.1 := by
        simpa [Table.columnIndex?] using found
      simp [Table.findColumn, found, missing]
    | some index =>
      have present : ∃ c ∈ t.columns, c.name = entry.1 := by
        have isSome : (t.columnIndex? entry.1).isSome = true := by rw [found, Option.isSome_some]
        simpa [Table.columnIndex?] using isSome
      simp only [Table.findColumn, found, present, true_and, ih]

theorem sourceTable_eq_ok_iff {t : Table} :
    sourceTable types header = .ok t ↔
      (∀ entry ∈ types, entry.1 ∈ header) ∧
        t = ⟨"", header.map fun name => .source name (typeOf types name)⟩ := by
  unfold sourceTable
  dsimp only
  rw [bind_eq_ok]
  constructor
  · rintro ⟨_, known, last⟩
    refine ⟨?_, (Except.ok.inj last).symm⟩
    intro entry member
    obtain ⟨c, among, named⟩ := checkTypedNames_eq_ok_iff.mp known entry member
    obtain ⟨name, listed, rfl⟩ := List.mem_map.mp among
    rwa [← named]
  · rintro ⟨known, rfl⟩
    refine ⟨(), checkTypedNames_eq_ok_iff.mpr ?_, rfl⟩
    intro entry member
    exact ⟨_, List.mem_map_of_mem (known entry member), rfl⟩

theorem sheetRecords_eq_ok_iff {sheet : Csv.Sheet} {records : List Record} :
    sheetRecords sheet = .ok records ↔ ∃ rows, sheet.body = .ok rows ∧ records = rows.map cellsOf := by
  unfold sheetRecords
  cases sheet.body with
  | error e => simp
  | ok rows =>
    simp only [Except.ok.injEq, exists_eq_left', eq_comm (a := records)]
    rfl

theorem recomputeSheet_eq_ok_iff {r : RecomputeRequest} {sheet : Csv.Sheet}
    (even : ∀ rows, sheet.body = .ok rows → ∀ row ∈ rows, row.length = sheet.header.length)
    {result : Recomputed} :
    recomputeSheet r types sheet = .ok result ↔
      (∀ entry ∈ types, entry.1 ∈ sheet.header) ∧ ∃ rows, sheet.body = .ok rows ∧
        (r.strict = true → ¬ HasMarker types r.computed sheet.header rows) ∧
        result = resultOf r.strict types r.computed sheet.header rows := by
  unfold recomputeSheet
  rw [bind_eq_ok]
  constructor
  · rintro ⟨sources, checked, rest⟩
    obtain ⟨known, rfl⟩ := sourceTable_eq_ok_iff.mp checked
    obtain ⟨records, read, rest⟩ := bind_eq_ok.mp rest
    obtain ⟨rows, body, rfl⟩ := sheetRecords_eq_ok_iff.mp read
    rw [foldl_sources] at rest
    dsimp only at rest
    split at rest
    · rename_i stats ended
      have passes := Table.passes_of_recomputeAll ended
      refine ⟨known, rows, body, (passes_iff (even rows body)).mp passes, ?_⟩
      rw [Table.recomputeAll_passes passes] at ended rest
      cases ended
      cases rest
      rfl
    · cases rest
  · rintro ⟨known, rows, body, unmarked, rfl⟩
    have passes := (passes_iff (even rows body)).mpr unmarked
    refine ⟨_, sourceTable_eq_ok_iff.mpr ⟨known, rfl⟩, ?_⟩
    refine bind_eq_ok.mpr ⟨_, sheetRecords_eq_ok_iff.mpr ⟨rows, body, rfl⟩, ?_⟩
    rw [foldl_sources]
    dsimp only
    rw [Table.recomputeAll_passes passes]
    rfl

/-- What can be read of a file is a sheet. -/
def Holds (files : Files) (path : String) (sheet : Csv.Sheet) : Prop :=
  ∃ content, files.read path = .ok content ∧ Csv.read content.text content.problem = .ok sheet

theorem readSheet_eq_ok_iff {files : Files} {input : String} {sheet : Csv.Sheet} :
    readSheet files input = .ok sheet ↔ Holds files input sheet := by
  unfold readSheet Holds
  cases files.read input with
  | error e => simp
  | ok content =>
    simp only [Except.ok.injEq, exists_eq_left']
    cases Csv.read content.text content.problem <;> simp

theorem Holds.unique {files : Files} {path : String} {sheet other : Csv.Sheet}
    (holds : Holds files path sheet) (again : Holds files path other) : sheet = other := by
  rw [← readSheet_eq_ok_iff] at holds again
  exact Except.ok.inj (holds.symm.trans again)

theorem Holds.even {files : Files} {path : String} (holds : Holds files path ⟨header, .ok rows⟩) :
    ∀ row ∈ rows, row.length = header.length := by
  obtain ⟨_, _, read⟩ := holds
  exact Csv.width_of_read read

/-- What a request has to meet before anything is computed. -/
structure Ready (r : RecomputeRequest) (files : Files) (types : TypedNames) (header : List String)
    (rows : List (List String)) : Prop where
  computes : r.computed ≠ []
  declared : AreTypes r.types types
  known : ∀ entry ∈ types, entry.1 ∈ header
  input : Holds files r.input ⟨header, .ok rows⟩

theorem recomputed_eq_ok_iff {r : RecomputeRequest} {files : Files} {result : Recomputed} :
    recomputed r files = .ok result ↔
      ∃ types header rows, Ready r files types header rows ∧
        (r.strict = true → ¬ HasMarker types r.computed header rows) ∧
        result = resultOf r.strict types r.computed header rows := by
  unfold recomputed
  by_cases nothing : r.computed = []
  · constructor
    · intro done
      simp [nothing] at done
      cases done
    · rintro ⟨_, _, _, ready, -⟩
      exact absurd nothing ready.computes
  · rw [if_neg (by simpa using nothing)]
    constructor
    · intro done
      obtain ⟨types, declared, rest⟩ := bind_eq_ok.mp done
      obtain ⟨⟨header, body⟩, read, rest⟩ := bind_eq_ok.mp rest
      have holds := readSheet_eq_ok_iff.mp read
      have even : ∀ rows, body = .ok rows → ∀ row ∈ rows, row.length = header.length := by
        rintro rows rfl
        exact holds.even
      obtain ⟨known, rows, rfl, unmarked, same⟩ := (recomputeSheet_eq_ok_iff even).mp rest
      exact ⟨types, header, rows, ⟨nothing, declaredTypes_eq_ok_iff.mp declared, known, holds⟩,
        unmarked, same⟩
    · rintro ⟨types, header, rows, ready, unmarked, same⟩
      have even : ∀ rows', (⟨header, .ok rows⟩ : Csv.Sheet).body = .ok rows' →
          ∀ row ∈ rows', row.length = header.length := by
        rintro _ ⟨⟩
        exact ready.input.even
      refine bind_eq_ok.mpr ⟨types, declaredTypes_eq_ok_iff.mpr ready.declared, ?_⟩
      refine bind_eq_ok.mpr ⟨_, readSheet_eq_ok_iff.mpr ready.input, ?_⟩
      exact (recomputeSheet_eq_ok_iff even).mpr ⟨ready.known, rows, rfl, unmarked, same⟩

/-- What ends a run before it writes. -/
inductive Fault (r : RecomputeRequest) (files : Files) : Prop where
  | nothingToCompute (none : r.computed = [])
  | unknownType (assignment : Assignment) (given : assignment ∈ r.types)
    (unknown : ColumnType.ofName? assignment.2 = none)
  | unopened (e : FileError) (failed : files.read r.input = .error e)
  | unreadableHeader (content : Content) (opened : files.read r.input = .ok content) (problem : String)
    (failed : Csv.read content.text content.problem = .error problem)
  | missingColumn (sheet : Csv.Sheet) (holds : Holds files r.input sheet) (assignment : Assignment)
    (given : assignment ∈ r.types) (missing : assignment.1 ∉ sheet.header)
  | unevenRow (sheet : Csv.Sheet) (holds : Holds files r.input sheet) (e : Csv.WidthError)
    (failed : sheet.body = .error (.uneven e))
  | unreadableRow (sheet : Csv.Sheet) (holds : Holds files r.input sheet) (number : Nat)
    (problem : String) (failed : sheet.body = .error (.unreadable number problem))
  | marker (types : TypedNames) (header : List String) (rows : List (List String))
    (ready : Ready r files types header rows) (strict : r.strict = true)
    (marked : HasMarker types r.computed header rows)
  | blocked (path : String) (asked : r.output = some path) (e : FileError)
    (obstacle : files.obstacle path = some e)

section Run

variable {r : RecomputeRequest} {files : Files}

theorem Ready.unique {types' : TypedNames} {header' : List String} {rows' : List (List String)}
    (ready : Ready r files types header rows) (again : Ready r files types' header' rows') :
    types = types' ∧ header = header' ∧ rows = rows' := by
  have sameTypes : types = types' := by
    have read := declaredTypes_eq_ok_iff.mpr ready.declared
    rw [declaredTypes_eq_ok_iff.mpr again.declared] at read
    exact (Except.ok.inj read).symm
  obtain ⟨sameHeader, sameBody⟩ := Csv.Sheet.mk.inj (ready.input.unique again.input)
  exact ⟨sameTypes, sameHeader, Except.ok.inj sameBody⟩

theorem holds_of_no_fault (fine : ¬ Fault r files) :
    ∃ header rows, Holds files r.input ⟨header, .ok rows⟩ := by
  cases opened : files.read r.input with
  | error e => exact absurd (.unopened e opened) fine
  | ok content =>
    cases read : Csv.read content.text content.problem with
    | error problem => exact absurd (.unreadableHeader content opened problem read) fine
    | ok sheet =>
      have holds : Holds files r.input sheet := ⟨content, opened, read⟩
      obtain ⟨header, body⟩ := sheet
      rcases body with (e | ⟨number, problem⟩) | rows
      · exact absurd (.unevenRow _ holds e rfl) fine
      · exact absurd (.unreadableRow _ holds number problem rfl) fine
      · exact ⟨header, rows, holds⟩

theorem ready_of_no_fault (fine : ¬ Fault r files) :
    ∃ types header rows, Ready r files types header rows ∧
      (r.strict = true → ¬ HasMarker types r.computed header rows) ∧
      ∀ path, r.output = some path → files.obstacle path = none := by
  have computes : r.computed ≠ [] := fun none => fine (.nothingToCompute none)
  obtain ⟨types, declared⟩ : ∃ types, AreTypes r.types types :=
    exists_areTypes fun assignment given unknown => fine (.unknownType assignment given unknown)
  obtain ⟨header, rows, holds⟩ := holds_of_no_fault fine
  have known : ∀ entry ∈ types, entry.1 ∈ header := by
    intro entry member
    obtain ⟨assignment, given, named⟩ := declared.exists_given member
    by_contra missing
    rw [← named] at missing
    exact fine (.missingColumn _ holds assignment given missing)
  have ready : Ready r files types header rows := ⟨computes, declared, known, holds⟩
  refine ⟨types, header, rows, ready, ?_, ?_⟩
  · intro strict marked
    exact fine (.marker types header rows ready strict marked)
  · intro path asked
    cases obstacle : files.obstacle path with
    | none => rfl
    | some e => exact absurd (.blocked path asked e obstacle) fine

theorem obstacle_of_fault (fault : Fault r files) (ready : Ready r files types header rows)
    (unmarked : r.strict = true → ¬ HasMarker types r.computed header rows) :
    ∃ path e, r.output = some path ∧ files.obstacle path = some e := by
  have same {sheet : Csv.Sheet} (holds : Holds files r.input sheet) : sheet = ⟨header, .ok rows⟩ :=
    holds.unique ready.input
  -- All other faults contradict that the request is ready.
  cases fault with
  | nothingToCompute none => exact absurd none ready.computes
  | unknownType assignment given unknown =>
    obtain ⟨type, _, known⟩ := ready.declared.exists_type given
    rw [unknown] at known
    cases known
  | unopened e failed =>
    obtain ⟨content, opened, _⟩ := ready.input
    cases failed.symm.trans opened
  | unreadableHeader content opened problem failed =>
    obtain ⟨content', opened', read⟩ := ready.input
    cases opened.symm.trans opened'
    cases failed.symm.trans read
  | missingColumn sheet holds assignment given missing =>
    obtain rfl := same holds
    obtain ⟨type, among, _⟩ := ready.declared.exists_type given
    exact absurd (ready.known _ among) missing
  | unevenRow sheet holds e failed | unreadableRow sheet holds number problem failed =>
    obtain rfl := same holds
    cases failed
  | marker types' header' rows' ready' strict marked =>
    obtain ⟨rfl, rfl, rfl⟩ := ready.unique ready'
    exact absurd marked (unmarked strict)
  | blocked path asked e obstacle => exact ⟨path, e, asked, obstacle⟩

theorem recompute_of_fault (fault : Fault r files) :
    ∃ f progress, recompute r files = Failure.report f progress := by
  unfold recompute
  cases done : recomputed r files with
  | error f => exact ⟨f, "", rfl⟩
  | ok result =>
    obtain ⟨types, header, rows, ready, unmarked, _⟩ := recomputed_eq_ok_iff.mp done
    obtain ⟨path, e, asked, obstacle⟩ := obstacle_of_fault fault ready unmarked
    simp only [asked, obstacle]
    exact ⟨_, _, rfl⟩

/-- The text is where the request asks for it, printed or in the output file, and all other files are as
they were. -/
def Delivered (folder : Folder) (report : Report) (text : String) : Option String → Prop
  | none => report.stdout = text ∧ report.written = none
  | some path => report.stdout = "" ∧ report.written = some (path, text) ∧
      (folder.target path.toList ≠ .ok .outside → (folder.after report).text? path = some text) ∧
      ∀ other,
        Folder.placeOf? (folder.target other.toList) ≠ Folder.placeOf? (folder.target path.toList) →
        (folder.after report).text? other = folder.text? other

theorem failureCode_eq_zero_iff {failed : Bool} : Report.failureCode failed = 0 ↔ failed = false := by
  cases failed <;> simp [Report.failureCode]

theorem recompute_of_ready {folder : Folder} (same : files.obstacle = folder.obstacle)
    (ready : Ready r files types header rows)
    (unmarked : r.strict = true → ¬ HasMarker types r.computed header rows)
    (creatable : ∀ path, r.output = some path → folder.obstacle path = none) :
    Delivered folder (recompute r files) (Csv.write (resultRows types r.computed header rows)) r.output ∧
      ((recompute r files).exit = 0 ↔ ¬ HasMarker types r.computed header rows) := by
  have done := recomputed_eq_ok_iff.mpr ⟨types, header, rows, ready, unmarked, rfl⟩
  have text : (resultOf r.strict types r.computed header rows).csv =
      Csv.write (resultRows types r.computed header rows) := csv_resultOf ready.input.even
  have exit : Report.failureCode
      (0 < (resultOf r.strict types r.computed header rows).stats.errors) = 0 ↔
        ¬ HasMarker types r.computed header rows := by
    rw [failureCode_eq_zero_iff, decide_eq_false_iff_not, Nat.not_lt, Nat.le_zero]
    exact errors_resultOf ready.input.even
  rw [recompute, done]
  cases asked : r.output with
  | none => exact ⟨⟨text, rfl⟩, exit⟩
  | some path =>
    have free := creatable path asked
    simp only [same, free, text]
    refine ⟨⟨rfl, rfl, ?_, ?_⟩, exit⟩
    · intro inside
      rcases Folder.place_of_no_obstacle free with ⟨place, leads⟩ | outside
      · exact Folder.text?_write leads _
      · exact absurd outside inside
    · intro other elsewhere
      exact Folder.text?_write_of_ne elsewhere _

/-- Every request that can be written as arguments can be asked for, and however a request is asked for,
its run either has a fault and leaves every file as it was, or it delivers the header and the rows of its
input with the computed columns behind them. What is read from files may break off anywhere. -/
theorem recompute_keeps_rows (r : RecomputeRequest) (read : String → Except FileError Content)
    (folder : Folder) :
    (r.IsReadable → Request.read r.arguments = .run (.recompute r)) ∧
    ∀ arguments, Request.read arguments = .run (.recompute r) →
      let files : Files := ⟨read, folder.obstacle⟩
      let report := run arguments files
      (∀ types header rows, Ready r files types header rows →
        (r.strict = true → ¬ HasMarker types r.computed header rows) →
        (∀ path, r.output = some path → folder.obstacle path = none) →
        ∃ text, Delivered folder report text r.output ∧
          text = Csv.write (resultRows types r.computed header rows) ∧
          Csv.fieldsOf text = resultRows types r.computed header rows ∧
          (text.toList.head? ≠ some '\uFEFF' → Csv.read text none =
            .ok ⟨header ++ r.computed.map (·.1),
              .ok (rows.map fun row => row ++ computedCells types r.computed header row)⟩) ∧
          (report.exit = 0 ↔ ¬ HasMarker types r.computed header rows)) ∧
      (Fault r files →
        report.exit = 1 ∧ report.stdout = "" ∧ report.written = none ∧ folder.after report = folder) ∧
      (¬ Fault r files → ∃ types header rows, Ready r files types header rows ∧
        (r.strict = true → ¬ HasMarker types r.computed header rows) ∧
        ∀ path, r.output = some path → folder.obstacle path = none) := by
  refine ⟨RecomputeRequest.read_arguments, ?_⟩
  intro arguments asked files
  have same : run arguments files = recompute r files := by
    rw [run, asked]
    rfl
  dsimp only
  rw [same]
  refine ⟨?_, ?_, ready_of_no_fault⟩
  · intro types header rows ready unmarked creatable
    obtain ⟨delivered, exit⟩ := recompute_of_ready rfl ready unmarked creatable
    exact ⟨_, delivered, rfl, fieldsOf_resultRows ready.computes,
      read_resultRows ready.computes ready.input.even, exit⟩
  · intro fault
    obtain ⟨f, progress, failed⟩ := recompute_of_fault fault
    rw [failed]
    exact ⟨rfl, rfl, rfl, rfl⟩

def shop : Folder := ⟨[("in.csv", "item,price\n\"pen, blue\",2\ncap,0\n")]⟩

def shares : RecomputeRequest :=
  ⟨"in.csv", [("share", "=10/{price}")], [("price", "number")], some "out.csv", false⟩

theorem ready_shares : Ready shares shop.toFiles [("price", .number)] ["item", "price"]
    [["pen, blue", "2"], ["cap", "0"]] where
  computes := by decide
  declared := by
    rw [AreTypes]
    decide +kernel
  known := by decide
  input := ⟨_, by rfl, by rfl⟩

theorem isReadable_shares : shares.IsReadable where
  computed := by
    rintro _ (_ | ⟨_, ⟨⟩⟩)
    exact ⟨by decide, by decide, by decide⟩
  types := by
    rintro _ (_ | ⟨_, ⟨⟩⟩)
    exact ⟨by decide, by decide, by decide⟩
  input := by decide
  output := by decide

/-- A file that is no text from the second cell under the header on. -/
def torn (_ : String) : Except FileError Content :=
  .ok ⟨"item,price\ncap,", some "invalid UTF-8 in field 1 near byte index 0"⟩

theorem recompute_keeps_rows_shop :
    Request.read shares.arguments = .run (.recompute shares) ∧
      (∃ text, Delivered shop (run shares.arguments shop.toFiles) text shares.output ∧
        Csv.fieldsOf text = [["item", "price", "share"], ["pen, blue", "2", "5"],
          ["cap", "0", "#ERROR: Division by zero"]]) ∧
      (run shares.arguments shop.toFiles).exit ≠ 0 ∧
      (run shares.arguments (Folder.toFiles ⟨[]⟩)).written = none ∧
      (run shares.arguments ⟨torn, shop.obstacle⟩).written = none := by
  obtain ⟨reads, keeps⟩ := recompute_keeps_rows shares shop.read shop
  have asked := reads isReadable_shares
  obtain ⟨done, -, -⟩ := keeps shares.arguments asked
  obtain ⟨-, failed, -⟩ :=
    (recompute_keeps_rows shares (Folder.read ⟨[]⟩) ⟨[]⟩).2 shares.arguments asked
  obtain ⟨-, broken, -⟩ := (recompute_keeps_rows shares torn shop).2 shares.arguments asked
  have free : ∀ path, shares.output = some path → shop.obstacle path = none := by
    rintro _ ⟨⟩
    decide +kernel
  obtain ⟨text, delivered, -, fields, -, exit⟩ := done _ _ _ ready_shares nofun free
  have marked : HasMarker [("price", .number)] shares.computed ["item", "price"]
      [["pen, blue", "2"], ["cap", "0"]] := by
    refine ⟨["cap", "0"], by simp, "#ERROR: Division by zero", ?_, ?_⟩
    · decide +kernel
    · decide +kernel
  obtain ⟨-, -, unopened, -⟩ := failed (.unopened .notFound rfl)
  obtain ⟨-, -, unread, -⟩ := broken
    (.unreadableRow ⟨["item", "price"], _⟩ ⟨_, rfl, rfl⟩ 1 "invalid UTF-8 in field 1 near byte index 0" rfl)
  refine ⟨asked, ⟨text, delivered, ?_⟩, fun zero => exit.mp zero marked, unopened, unread⟩
  rw [fields]
  decide +kernel

end Run

end ComputedColumns.CommandLine
