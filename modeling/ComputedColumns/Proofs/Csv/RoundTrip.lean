import ComputedColumns.Csv.Reader
import ComputedColumns.Csv.Writer
import ComputedColumns.Proofs.Outcome

namespace ComputedColumns.Csv

def Position.along (p : Position) (cs : List Char) : Position := cs.foldl Position.past p

theorem Position.along_append (p : Position) (cs ds : List Char) :
    p.along (cs ++ ds) = (p.along cs).along ds := List.foldl_append

namespace Draft

def keepAll (d : Draft) (cs : List Char) : Draft := { d with field := cs.reverse ++ d.field }

theorem keepAll_cons (d : Draft) (c : Char) (cs : List Char) :
    d.keepAll (c :: cs) = (d.keep c).keepAll cs := by
  simp only [keepAll, keep, List.reverse_cons, List.append_assoc, List.singleton_append]

def addField (d : Draft) (field : String) : Draft := { d with fields := field :: d.fields }

theorem endField_keepAll {d : Draft} (blank : d.field = []) (field : String) :
    (d.keepAll field.toList).endField = d.addField field := by
  simp only [endField, keepAll, addField, blank, List.append_nil, List.reverse_reverse,
    String.ofList_toList]

end Draft

def isSpecial (c : Char) : Bool := c = ',' || c = '"' || c = '\r' || c = '\n'

theorem unquotedMove_of_not_special {c : Char} (ordinary : isSpecial c = false) :
    unquotedMove c = .keep .bare := by
  simp only [isSpecial, Bool.or_eq_false_iff, decide_eq_false_iff_not] at ordinary
  obtain ⟨⟨⟨comma, quote⟩, ret⟩, feed⟩ := ordinary
  simp [unquotedMove, endsLine, comma, ret, feed]

variable {cut : Bool}

inductive State.Starts : State → Prop where
  | between : Starts .between
  | fieldStart : Starts .fieldStart

inductive State.Ends : State → Prop where
  | fieldStart : Ends .fieldStart
  | bare : Ends .bare
  | quoteSeen : Ends .quoteSeen

theorem move_of_not_special {state : State} (starts : state.Starts) {c : Char}
    (ordinary : isSpecial c = false) : move state c = .keep .bare := by
  have kept := unquotedMove_of_not_special ordinary
  simp only [isSpecial, Bool.or_eq_false_iff, decide_eq_false_iff_not] at ordinary
  obtain ⟨⟨⟨comma, quote⟩, ret⟩, feed⟩ := ordinary
  cases starts with
  | between => simp [move, endsLine, quote, ret, feed, kept]
  | fieldStart => simp [move, quote, kept]

theorem rowsFrom_bare {cs : List Char} (ordinary : cs.any isSpecial = false) (p : Position) (d : Draft)
    (rest : List Char) :
    rowsFrom cut .bare p d (cs ++ rest) = rowsFrom cut .bare (p.along cs) (d.keepAll cs) rest := by
  induction cs generalizing p d with
  | nil => rfl
  | cons c cs ih =>
    rw [List.any_cons, Bool.or_eq_false_iff] at ordinary
    have kept : move .bare c = .keep .bare := unquotedMove_of_not_special ordinary.1
    rw [List.cons_append, rowsFrom, kept, Draft.keepAll_cons]
    exact ih ordinary.2 (p.past c) (d.keep c)

def doubled (c : Char) : List Char := if c = '"' then ['"', '"'] else [c]

theorem rowsFrom_quoted (cs : List Char) (p : Position) (d : Draft) (rest : List Char) :
    rowsFrom cut .quoted p d (cs.flatMap doubled ++ rest) =
      rowsFrom cut .quoted (p.along (cs.flatMap doubled)) (d.keepAll cs) rest := by
  induction cs generalizing p d with
  | nil => rfl
  | cons c cs ih =>
    rw [List.flatMap_cons, List.append_assoc, Position.along_append, Draft.keepAll_cons, ← ih]
    by_cases quote : c = '"'
    · subst quote
      rfl
    · have kept : move .quoted c = .keep .quoted := by simp [move, quote]
      rw [doubled, if_neg quote, List.singleton_append, rowsFrom, kept]
      rfl

/-- The text of a field is read as the field. An empty text leaves the reader where it was. -/
theorem rowsFrom_field {state : State} (starts : state.Starts) (field : String) (p : Position)
    (d : Draft) :
    ∃ next, (fieldText field = [] ∧ next = state ∨ next.Ends) ∧ ∀ rest,
      rowsFrom cut state p d (fieldText field ++ rest) =
        rowsFrom cut next (p.along (fieldText field)) (d.keepAll field.toList) rest := by
  unfold fieldText
  cases quotes : needsQuotes field.toList with
  | false =>
    simp only [Bool.false_eq_true, if_false]
    cases chars : field.toList with
    | nil => exact ⟨state, .inl ⟨rfl, rfl⟩, fun rest => rfl⟩
    | cons c cs =>
      have ordinary : isSpecial c = false ∧ cs.any isSpecial = false := by
        rw [chars] at quotes
        exact Bool.or_eq_false_iff.mp quotes
      refine ⟨.bare, .inr .bare, ?_⟩
      intro rest
      rw [List.cons_append, rowsFrom, move_of_not_special starts ordinary.1, Draft.keepAll_cons]
      exact rowsFrom_bare ordinary.2 (p.past c) (d.keep c) rest
  | true =>
    -- Behind the closing quote the reader waits whether it was the first of two.
    refine ⟨.quoteSeen, .inr .quoteSeen, ?_⟩
    intro rest
    have opened : move state '"' = .drop .quoted := by cases starts <;> rfl
    have closed : move .quoted '"' = .drop .quoteSeen := rfl
    have whole : quote field.toList = '"' :: (field.toList.flatMap doubled ++ ['"']) := rfl
    rw [if_pos rfl, whole, List.cons_append, List.append_assoc, List.singleton_append, rowsFrom, opened]
    dsimp only
    rw [rowsFrom_quoted, rowsFrom, closed]
    have passed : p.along ('"' :: (field.toList.flatMap doubled ++ ['"'])) =
        ((p.past '"').along (field.toList.flatMap doubled)).past '"' :=
      (p.past '"').along_append (field.toList.flatMap doubled) ['"']
    rw [passed]

theorem rowsFrom_comma {state : State} (starts : state.Starts) (field : String) (p : Position)
    {d : Draft} (blank : d.field = []) (rest : List Char) :
    rowsFrom cut state p d (fieldText field ++ ',' :: rest) =
      rowsFrom cut .fieldStart (p.along (fieldText field ++ [','])) (d.addField field) rest := by
  obtain ⟨next, ends, read⟩ := rowsFrom_field starts field p d
  have ended : move next ',' = .endField := by
    rcases ends with ⟨_, rfl⟩ | ends
    · cases starts <;> rfl
    · cases ends <;> rfl
  rw [read, rowsFrom, ended, Position.along_append, Draft.endField_keepAll blank]
  rfl

theorem rowsFrom_feed {state : State} (starts : state.Starts) {field : String}
    (visible : state = .fieldStart ∨ fieldText field ≠ []) (p : Position) {d : Draft}
    (blank : d.field = []) (rest : List Char) :
    rowsFrom cut state p d (fieldText field ++ '\n' :: rest) =
      ⟨(field :: d.fields).reverse, d.position⟩ ::
        rowsFrom cut .between (p.along (fieldText field ++ ['\n']))
          (.fresh (p.along (fieldText field ++ ['\n']))) rest := by
  obtain ⟨next, ends, read⟩ := rowsFrom_field starts field p d
  have ended : move next '\n' = .endRow := by
    rcases ends with ⟨empty, rfl⟩ | ends
    · rcases visible with rfl | visible
      · rfl
      · exact absurd empty visible
    · cases ends <;> rfl
  have row : (d.keepAll field.toList).row = ⟨(field :: d.fields).reverse, d.position⟩ := by
    rw [Draft.row, Draft.endField_keepAll blank]
    rfl
  rw [read, rowsFrom, ended, row, Position.along_append]
  rfl

theorem rowsFrom_fields {state : State} (starts : state.Starts) (field : String) (fields : List String)
    (visible : state = .fieldStart ∨ [','].intercalate ((field :: fields).map fieldText) ≠ [])
    (p : Position) {d : Draft} (blank : d.field = []) (rest : List Char) :
    ∃ q, rowsFrom cut state p d ([','].intercalate ((field :: fields).map fieldText) ++ '\n' :: rest) =
      ⟨d.fields.reverse ++ field :: fields, d.position⟩ :: rowsFrom cut .between q (.fresh q) rest := by
  induction fields generalizing state field p d with
  | nil =>
    simp only [List.map_cons, List.map_nil, List.intercalate_singleton] at visible ⊢
    refine ⟨p.along (fieldText field ++ ['\n']), ?_⟩
    rw [rowsFrom_feed starts visible p blank, List.reverse_cons]
  | cons next fields ih =>
    obtain ⟨q, read⟩ := ih .fieldStart next (.inl rfl) (p.along (fieldText field ++ [',']))
      (d := d.addField field) blank
    have split : [','].intercalate ((field :: next :: fields).map fieldText) =
        fieldText field ++ ',' :: [','].intercalate ((next :: fields).map fieldText) := by
      simp only [List.map_cons, List.intercalate_cons_cons, List.singleton_append, List.append_assoc]
    refine ⟨q, ?_⟩
    rw [split, List.append_assoc, List.cons_append, rowsFrom_comma starts field p blank, read]
    simp only [Draft.addField, List.reverse_cons, List.append_assoc, List.singleton_append]

theorem rowsFrom_line {fields : List String} (wide : fields ≠ []) (p : Position) (rest : List Char) :
    ∃ q, rowsFrom cut .between p (.fresh p) (lineText fields ++ rest) =
      ⟨fields, p⟩ :: rowsFrom cut .between q (.fresh q) rest := by
  obtain ⟨field, others, rfl⟩ := List.exists_cons_of_ne_nil wide
  rw [lineText]
  by_cases visible : [','].intercalate ((field :: others).map fieldText) = []
  · -- Only one field without characters leaves nothing to see.
    cases others with
    | cons next others =>
      rw [List.map_cons, List.map_cons, List.intercalate_cons_cons] at visible
      simp at visible
    | nil =>
      have blank : fieldText field = [] := by
        rwa [List.map_cons, List.map_nil, List.intercalate_singleton] at visible
      have nothing : field = "" := by
        unfold fieldText at blank
        split at blank
        · cases blank
        · exact String.toList_eq_nil_iff.mp blank
      subst nothing
      exact ⟨_, rfl⟩
  · have shown : ¬ ([','].intercalate ((field :: others).map fieldText)).isEmpty = true := by
      rwa [List.isEmpty_iff]
    obtain ⟨q, read⟩ := rowsFrom_fields .between field others (.inr visible) p (d := .fresh p) rfl rest
    refine ⟨q, ?_⟩
    rw [if_neg shown, List.append_assoc, List.singleton_append, read]
    rfl

/-- The fields of the rows of a text, in which a byte order mark is text like any other. -/
def fieldsOf (text : String) : List (List String) :=
  (rowsFrom false .between .start (.fresh .start) text.toList).map (·.fields)

theorem fields_rowsFrom_write {rows : List (List String)} (wide : ∀ fields ∈ rows, fields ≠ [])
    (p : Position) :
    (rowsFrom cut .between p (.fresh p) (rows.flatMap lineText)).map (·.fields) = rows := by
  induction rows generalizing p with
  | nil => rfl
  | cons fields rows ih =>
    obtain ⟨q, read⟩ := rowsFrom_line (wide fields List.mem_cons_self) p (rows.flatMap lineText)
    have others := ih (fun fields member => wide fields (List.mem_cons_of_mem _ member)) q
    rw [List.flatMap_cons, read, List.map_cons, others]

theorem fieldsOf_write {rows : List (List String)} (wide : ∀ fields ∈ rows, fields ≠ []) :
    fieldsOf (write rows) = rows := by
  rw [fieldsOf, write, String.toList_ofList]
  exact fields_rowsFrom_write wide .start

example : fieldsOf (write [["name", "note"], ["a,b", "she said \"no\"\n"], ["", ""]]) =
    [["name", "note"], ["a,b", "she said \"no\"\n"], ["", ""]] := by decide +kernel

theorem bodyFrom_eq_ok_iff {width number : Nat} {problem : Option String} {rs : List Row}
    {rows : List (List String)} :
    bodyFrom width problem number rs = .ok rows ↔
      problem = none ∧ rs.map (·.fields) = rows ∧ ∀ row ∈ rows, row.length = width := by
  induction rs generalizing number rows with
  | nil =>
    cases problem with
    | some problem => simp [bodyFrom]
    | none =>
      constructor
      · intro read
        cases read
        exact ⟨rfl, rfl, by simp⟩
      · rintro ⟨-, rfl, -⟩
        rfl
  | cons r rs ih =>
    rw [bodyFrom]
    by_cases even : r.fields.length = width
    · rw [if_pos even, map_eq_ok]
      constructor
      · rintro ⟨others, read, rfl⟩
        obtain ⟨ends, rfl, all⟩ := ih.mp read
        exact ⟨ends, rfl, List.forall_mem_cons.mpr ⟨even, all⟩⟩
      · rintro ⟨ends, rfl, all⟩
        exact ⟨_, ih.mpr ⟨ends, rfl, (List.forall_mem_cons.mp all).2⟩, rfl⟩
    · rw [if_neg even]
      constructor
      · intro read
        cases read
      · rintro ⟨-, rfl, all⟩
        exact absurd (all r.fields List.mem_cons_self) even

theorem width_of_read {text : String} {problem : Option String} {header : List String}
    {rows : List (List String)} (read : Csv.read text problem = .ok ⟨header, .ok rows⟩) :
    ∀ row ∈ rows, row.length = header.length := by
  unfold Csv.read at read
  split at read
  · cases read
    simp
  · cases read
  · obtain ⟨rfl, body⟩ := Sheet.mk.inj (Except.ok.inj read)
    exact (bodyFrom_eq_ok_iff.mp body).2.2

theorem rows_of_no_mark {cs : List Char} (unmarked : cs.head? ≠ some '\uFEFF') :
    rows cut cs = rowsFrom cut .between .start (.fresh .start) cs := by
  unfold rows
  split
  · exact absurd rfl unmarked
  · rfl

/-- A sheet that is written is read back, unless a byte order mark begins it. -/
theorem read_write {header : List String} {rows : List (List String)} (wide : header ≠ [])
    (even : ∀ row ∈ rows, row.length = header.length)
    (unmarked : (write (header :: rows)).toList.head? ≠ some '\uFEFF') :
    Csv.read (write (header :: rows)) none = .ok ⟨header, .ok rows⟩ := by
  have all : ∀ fields ∈ header :: rows, fields ≠ [] := by
    intro fields member
    rcases List.mem_cons.mp member with rfl | member
    · exact wide
    · apply List.ne_nil_of_length_pos
      rw [even fields member]
      exact List.length_pos_iff.mpr wide
  have fields := fieldsOf_write all
  rw [fieldsOf, List.map_eq_cons_iff] at fields
  obtain ⟨first, others, found, rfl, body⟩ := fields
  unfold Csv.read
  rw [Option.isSome_none, rows_of_no_mark unmarked, found]
  dsimp only
  rw [bodyFrom_eq_ok_iff.mpr ⟨rfl, body, even⟩]

end ComputedColumns.Csv
