import ComputedColumns.Formula.Environment
import ComputedColumns.Proofs.Text.Numeral
import Mathlib.Data.List.Induction

namespace ComputedColumns

namespace Reference

open Text

theorem toList_indexText (i : Nat) : (indexText i).toList = '[' :: (digits i ++ [']']) := by
  simp [indexText, String.toList_append]

theorem indexText_split (i : Nat) (cs : List Char) :
    ((cs ++ '[' :: (digits i ++ [']'])).reverse.drop 1).takeWhile isDigit = (digits i).reverse ∧
      ((cs ++ '[' :: (digits i ++ [']'])).reverse.drop 1).dropWhile isDigit =
        '[' :: cs.reverse := by
  have all : ∀ d ∈ (digits i).reverse, isDigit d = true := fun d member =>
    isDigit_of_mem_digits (List.mem_reverse.mp member)
  have turned : (cs ++ '[' :: (digits i ++ [']'])).reverse.drop 1 =
      (digits i).reverse ++ '[' :: cs.reverse := by simp
  have opening : ∀ c rest, '[' :: cs.reverse = c :: rest → isDigit c = false := by
    rintro c rest same
    cases same
    rfl
  rw [turned]
  exact takeWhile_run all opening

/-- A number in brackets, written as an index is, ends the name. -/
def EndsInIndex (name : String) : Prop := ∃ n i, name = n ++ indexText i

theorem append_indexText_inj {m n : String} {i j : Nat}
    (same : m ++ indexText i = n ++ indexText j) : m = n ∧ i = j := by
  have chars := congrArg String.toList same
  rw [String.toList_append, String.toList_append, toList_indexText, toList_indexText] at chars
  have first := indexText_split i m.toList
  rw [chars] at first
  have second := indexText_split j n.toList
  have indices : digits i = digits j := List.reverse_inj.mp (first.1.symm.trans second.1)
  have names : '[' :: m.toList.reverse = '[' :: n.toList.reverse := first.2.symm.trans second.2
  exact ⟨String.toList_inj.mp (List.reverse_inj.mp (List.cons.inj names).2), digits_injective indices⟩

theorem eq_of_key_eq {r s t : Reference} (first : s.key = r.key) (second : t.key = r.key)
    (other : s ≠ r) (another : t ≠ r) : s = t := by
  obtain ⟨n, i⟩ := r
  obtain ⟨m, j⟩ := s
  obtain ⟨l, k⟩ := t
  cases i with
  | none =>
    obtain ⟨j, rfl⟩ : ∃ p, j = some p := by
      cases j with
      | none => exact absurd (congrArg (Reference.mk · none) first) other
      | some j => exact ⟨j, rfl⟩
    obtain ⟨k, rfl⟩ : ∃ p, k = some p := by
      cases k with
      | none => exact absurd (congrArg (Reference.mk · none) second) another
      | some k => exact ⟨k, rfl⟩
    obtain ⟨rfl, rfl⟩ := append_indexText_inj (first.trans second.symm)
    rfl
  | some i =>
    obtain rfl : j = none := by
      cases j with
      | none => rfl
      | some j =>
        obtain ⟨rfl, rfl⟩ := append_indexText_inj first
        exact absurd rfl other
    obtain rfl : k = none := by
      cases k with
      | none => rfl
      | some k =>
        obtain ⟨rfl, rfl⟩ := append_indexText_inj second
        exact absurd rfl another
    exact congrArg (Reference.mk · none) (first.trans second.symm)

end Reference

namespace Environment

theorem lookup_put (key k : String) (v : Value) (entries : List (String × Value)) :
    (put key v entries).lookup k = if k = key then some v else entries.lookup k := by
  induction entries with
  | nil =>
    by_cases same : k = key
    · simp [put, same]
    · have differs : (k == key) = false := beq_false_of_ne same
      simp [put, List.lookup_cons, same, differs]
  | cons entry rest ih =>
    obtain ⟨l, w⟩ := entry
    by_cases held : l = key
    · obtain rfl := held
      rw [put, if_pos rfl]
      by_cases same : k = l
      · simp [same]
      · have differs : (k == l) = false := beq_false_of_ne same
        simp only [List.lookup_cons, differs, if_neg same]
    · rw [put, if_neg held]
      by_cases asked : k = l
      · obtain rfl := asked
        simp [held]
      · have differs : (k == l) = false := beq_false_of_ne asked
        simp only [List.lookup_cons, differs, ih]

theorem get?_insert (env : Environment) (key k : String) (v : Value) :
    (env.insert key v).get? k = if k = key then some v else env.get? k :=
  lookup_put key k v env.entries

/-- The column a reference means, as its position and its value: among the columns of its name the one
that its index counts to, without an index the first. -/
def meant? (columns : List (String × Value)) (r : Reference) : Option (Nat × Value) :=
  ((columns.zipIdx.filter (·.1.1 = r.name)).map fun (column, position) => (position, column.2))[
    r.index.getD 0]?

/-- Another reference with the key of `r` means a column of the value `w`, and `r` means none or one in
front of that. -/
def Shadowed (columns : List (String × Value)) (r : Reference) (w : Value) : Prop :=
  ∃ s q, s ≠ r ∧ Reference.key s = r.key ∧ meant? columns s = some (q, w) ∧
    ∀ p v, meant? columns r = some (p, v) → p < q

theorem publish_append (env : Environment) (earlier : List String)
    (columns rest : List (String × Value)) :
    publish env earlier (columns ++ rest) =
      publish (publish env earlier columns) ((columns.map Prod.fst).reverse ++ earlier) rest := by
  induction columns generalizing env earlier with
  | nil => rfl
  | cons column columns ih =>
    obtain ⟨name, v⟩ := column
    rw [List.cons_append, publish, publish, ih, List.map_cons, List.reverse_cons, List.append_assoc,
      List.singleton_append]

theorem get?_ofColumns_concat (columns : List (String × Value)) (name : String) (v : Value)
    (key : String) :
    (ofColumns (columns ++ [(name, v)])).get? key =
      if key = name ++ Reference.indexText ((columns.map Prod.fst).count name) ∨
          (columns.map Prod.fst).count name = 0 ∧ key = name
      then some v else (ofColumns columns).get? key := by
  have index : (((columns.map Prod.fst).reverse ++ []).count name) = (columns.map Prod.fst).count name := by
    rw [List.append_nil, List.count_reverse]
  rw [ofColumns, publish_append, publish, publish, index, get?_insert, Reference.key]
  by_cases first : (columns.map Prod.fst).count name = 0
  · rw [if_pos first, get?_insert]
    by_cases indexed : key = name ++ Reference.indexText ((columns.map Prod.fst).count name)
    · rw [if_pos indexed, if_pos (.inl indexed)]
    · rw [if_neg indexed]
      simp only [indexed, false_or, eq_true first, true_and]
      rfl
  · rw [if_neg first]
    simp only [first, false_and, or_false]
    rfl

theorem length_named (columns : List (String × Value)) (name : String) :
    (columns.zipIdx.filter (·.1.1 = name)).length = (columns.map Prod.fst).count name := by
  have firsts : columns.map Prod.fst = columns.zipIdx.map (·.1.1) := by
    have same : columns.zipIdx.map Prod.fst = columns := List.zipIdx_map_fst 0 columns
    conv => lhs; rw [← same, List.map_map]
    rfl
  rw [firsts, List.count, List.countP_map, ← List.countP_eq_length_filter]
  rfl

theorem meant?_concat (columns : List (String × Value)) (name : String) (v : Value)
    (r : Reference) :
    meant? (columns ++ [(name, v)]) r =
      if r.name = name ∧ r.index.getD 0 = (columns.map Prod.fst).count name
      then some (columns.length, v) else meant? columns r := by
  have behind : (columns ++ [(name, v)]).zipIdx = columns.zipIdx ++ [((name, v), columns.length)] := by
    simp [List.zipIdx_append]
  unfold meant?
  rw [behind, List.filter_append, List.map_append]
  by_cases named : r.name = name
  · have count := length_named columns name
    have last : [((name, v), columns.length)].filter (·.1.1 = r.name) =
        [((name, v), columns.length)] := by simp [named]
    rw [last, named]
    rcases Nat.lt_trichotomy (r.index.getD 0) ((columns.map Prod.fst).count name) with
      before | counted | behind
    · have other : ¬ r.index.getD 0 = (columns.map Prod.fst).count name := by omega
      rw [List.getElem?_append_left (by rw [List.length_map, count]; exact before)]
      simp [other]
    · rw [List.getElem?_append_right (by rw [List.length_map, count]; omega)]
      simp [counted, count]
    · have other : ¬ r.index.getD 0 = (columns.map Prod.fst).count name := by omega
      have outside : ∀ entries : List (Nat × Value),
          entries.length ≤ r.index.getD 0 → entries[r.index.getD 0]? = none :=
        fun entries short => List.getElem?_eq_none short
      rw [outside _ (by simp [count]; omega), outside _ (by simp [count]; omega)]
      simp [other]
  · have other : ¬ name = r.name := fun same => named same.symm
    simp [named, other]

theorem position_lt {columns : List (String × Value)} {r : Reference} {p : Nat} {v : Value}
    (meant : meant? columns r = some (p, v)) : p < columns.length := by
  have member := List.mem_of_getElem? meant
  obtain ⟨⟨column, q⟩, kept, same⟩ := List.mem_map.mp member
  obtain ⟨rfl, -⟩ := Prod.mk.inj same
  have entry := List.snd_lt_of_mem_zipIdx ((List.mem_filter.mp kept).1)
  simpa using entry

theorem mem_of_meant? {columns : List (String × Value)} {r : Reference} {p : Nat} {v : Value}
    (meant : meant? columns r = some (p, v)) : (r.name, v) ∈ columns := by
  have member := List.mem_of_getElem? meant
  obtain ⟨⟨⟨name, w⟩, q⟩, kept, same⟩ := List.mem_map.mp member
  obtain ⟨listed, named⟩ := List.mem_filter.mp kept
  obtain ⟨-, rfl⟩ := Prod.mk.inj same
  have inside := List.mem_map_of_mem (f := Prod.fst) listed
  rw [List.zipIdx_map_fst] at inside
  rwa [← of_decide_eq_true named]

theorem published_iff {name key : String} {count : Nat} :
    (key = name ++ Reference.indexText count ∨ count = 0 ∧ key = name) ↔
      ∃ s : Reference, s.key = key ∧ s.name = name ∧ s.index.getD 0 = count := by
  constructor
  · rintro (rfl | ⟨rfl, rfl⟩)
    · exact ⟨⟨name, some count⟩, rfl, rfl, rfl⟩
    · exact ⟨⟨key, none⟩, rfl, rfl, rfl⟩
  · rintro ⟨⟨n, i⟩, rfl, rfl, rfl⟩
    cases i with
    | none => exact .inr ⟨rfl, rfl⟩
    | some i => exact .inl rfl

/-- Under a key stands the value of the last column that a reference with this key means. -/
theorem get?_ofColumns_eq_some_iff (columns : List (String × Value)) (key : String) (v : Value) :
    (ofColumns columns).get? key = some v ↔
      ∃ s p, Reference.key s = key ∧ meant? columns s = some (p, v) ∧
        ∀ t q w, Reference.key t = key → meant? columns t = some (q, w) → q ≤ p := by
  -- From the end: the last column takes its keys over and leaves all others as they were.
  induction columns using List.reverseRecOn with
  | nil =>
    constructor
    · intro found
      cases found
    · rintro ⟨s, p, -, meant, -⟩
      exact absurd (position_lt meant) (Nat.not_lt_zero p)
  | append_singleton columns column ih =>
    obtain ⟨name, w⟩ := column
    rw [get?_ofColumns_concat]
    by_cases published : key = name ++ Reference.indexText ((columns.map Prod.fst).count name) ∨
        (columns.map Prod.fst).count name = 0 ∧ key = name
    · rw [if_pos published]
      obtain ⟨s, keyed, named, counted⟩ := published_iff.mp published
      have last : meant? (columns ++ [(name, w)]) s = some (columns.length, w) := by
        rw [meant?_concat, if_pos ⟨named, counted⟩]
      constructor
      · intro same
        obtain rfl := Option.some.inj same
        refine ⟨s, columns.length, keyed, last, ?_⟩
        intro t q u _ meant
        have inside := position_lt meant
        rw [List.length_append, List.length_singleton] at inside
        omega
      · rintro ⟨t, p, _, meant, latest⟩
        have behind := latest s columns.length w keyed last
        rw [meant?_concat] at meant
        split at meant
        · cases meant
          rfl
        · have inside := position_lt meant
          omega
    · have unchanged : ∀ t : Reference, t.key = key →
          meant? (columns ++ [(name, w)]) t = meant? columns t := by
        intro t keyed
        have other : ¬ (t.name = name ∧ t.index.getD 0 = (columns.map Prod.fst).count name) :=
          fun means => published (published_iff.mpr ⟨t, keyed, means⟩)
        rw [meant?_concat, if_neg other]
      rw [if_neg published, ih]
      constructor
      · rintro ⟨s, p, keyed, meant, latest⟩
        refine ⟨s, p, keyed, (unchanged s keyed).trans meant, ?_⟩
        intro t q u same means
        exact latest t q u same ((unchanged t same).symm.trans means)
      · rintro ⟨s, p, keyed, meant, latest⟩
        refine ⟨s, p, keyed, (unchanged s keyed).symm.trans meant, ?_⟩
        intro t q u same means
        exact latest t q u same ((unchanged t same).trans means)

theorem meant?_value (columns : List (String × Value)) (r : Reference) :
    (meant? columns r).map (·.2) =
      ((columns.filter (·.1 = r.name))[r.index.getD 0]?).map (·.2) := by
  have same : columns.zipIdx.map Prod.fst = columns := List.zipIdx_map_fst 0 columns
  have kept : columns.filter (·.1 = r.name) =
      (columns.zipIdx.filter (·.1.1 = r.name)).map Prod.fst := by
    conv => lhs; rw [← same, List.filter_map]
    rfl
  rw [kept, meant?, List.getElem?_map, List.getElem?_map, Option.map_map, Option.map_map]
  rfl

theorem lookup_mem (columns : List (String × Value)) (r : Reference) :
    (ofColumns columns).lookup r = .nil ∨ ∃ c ∈ columns, (ofColumns columns).lookup r = c.2 := by
  unfold lookup
  cases held : (ofColumns columns).get? r.key with
  | none => exact .inl rfl
  | some v =>
    obtain ⟨s, p, -, meant, -⟩ := (get?_ofColumns_eq_some_iff columns r.key v).mp held
    exact .inr ⟨_, mem_of_meant? meant, rfl⟩

theorem lookup_of_shadowed {columns : List (String × Value)} {r : Reference} {w : Value}
    (shadowed : Shadowed columns r w) : (ofColumns columns).lookup r = w := by
  obtain ⟨s, q, other, keyed, meant, behind⟩ := shadowed
  have held : (ofColumns columns).get? r.key = some w := by
    rw [get?_ofColumns_eq_some_iff]
    refine ⟨s, q, keyed, meant, ?_⟩
    intro t u x same means
    -- Only `r` and `s` have this key.
    by_cases own : t = r
    · subst own
      exact Nat.le_of_lt (behind u x means)
    · obtain rfl := Reference.eq_of_key_eq same keyed own other
      rw [meant] at means
      cases means
      exact Nat.le_refl _
  rw [lookup, held, Option.getD_some]

theorem lookup_of_not_shadowed {columns : List (String × Value)} {r : Reference}
    (clear : ∀ w, ¬ Shadowed columns r w) :
    (ofColumns columns).lookup r = ((meant? columns r).map (·.2)).getD .nil := by
  cases own : meant? columns r with
  | none =>
    have absent : (ofColumns columns).get? r.key = none := by
      rw [Option.eq_none_iff_forall_ne_some]
      intro w held
      obtain ⟨s, q, keyed, meant, -⟩ := (get?_ofColumns_eq_some_iff columns r.key w).mp held
      have other : s ≠ r := by
        rintro rfl
        rw [own] at meant
        cases meant
      refine clear w ⟨s, q, other, keyed, meant, ?_⟩
      intro p v means
      rw [own] at means
      cases means
    rw [lookup, absent]
    rfl
  | some found =>
    obtain ⟨p, v⟩ := found
    have held : (ofColumns columns).get? r.key = some v := by
      rw [get?_ofColumns_eq_some_iff]
      refine ⟨r, p, rfl, own, ?_⟩
      intro t q w keyed meant
      -- A column further behind under this key would shadow `r`.
      rcases Nat.lt_or_ge p q with later | before
      · have other : t ≠ r := by
          rintro rfl
          rw [own] at meant
          cases meant
          omega
        refine absurd ⟨t, q, other, keyed, meant, ?_⟩ (clear w)
        intro p' v' means
        rw [own] at means
        cases means
        exact later
      · exact before
    rw [lookup, held]
    rfl

theorem eq_of_meant {columns : List (String × Value)} {r s : Reference} {p : Nat} {v : Value}
    (columnsBare : ∀ c ∈ columns, ¬ Reference.EndsInIndex c.1)
    (bare : ¬ Reference.EndsInIndex r.name) (keyed : s.key = r.key)
    (meant : meant? columns s = some (p, v)) : s = r := by
  obtain ⟨n, i⟩ := s
  obtain ⟨m, j⟩ := r
  cases i with
  | none =>
    cases j with
    | none => exact congrArg (Reference.mk · none) keyed
    | some j =>
      have named : n = m ++ Reference.indexText j := keyed
      exact absurd ⟨m, j, named⟩ (columnsBare _ (mem_of_meant? meant))
  | some i =>
    cases j with
    | none => exact absurd ⟨n, i, keyed.symm⟩ bare
    | some j =>
      obtain ⟨rfl, rfl⟩ := Reference.append_indexText_inj keyed
      rfl

theorem get?_ofColumns_of_bare {columns : List (String × Value)} {r : Reference}
    (columnsBare : ∀ c ∈ columns, ¬ Reference.EndsInIndex c.1)
    (bare : ¬ Reference.EndsInIndex r.name) :
    (ofColumns columns).get? r.key = (meant? columns r).map (·.2) := by
  apply Option.ext
  intro v
  rw [get?_ofColumns_eq_some_iff, Option.map_eq_some_iff]
  constructor
  · rintro ⟨s, p, keyed, meant, -⟩
    obtain rfl := eq_of_meant columnsBare bare keyed meant
    exact ⟨(p, v), meant, rfl⟩
  · rintro ⟨⟨p, w⟩, meant, rfl⟩
    refine ⟨r, p, rfl, meant, ?_⟩
    intro s q u keyed means
    obtain rfl := eq_of_meant columnsBare bare keyed means
    rw [meant] at means
    cases means
    exact Nat.le_refl _

theorem meant?_eq_none_iff (columns : List (String × Value)) (r : Reference) :
    meant? columns r = none ↔ (columns.map Prod.fst).count r.name ≤ r.index.getD 0 := by
  rw [meant?, List.getElem?_eq_none_iff, List.length_map, length_named]

/-- A bare reference has the value of the first column of its name and an indexed one that of the column
of its name that the index counts to, nil if there is none, unless it is shadowed: then it has the value
of the column that shadows it. -/
theorem lookup_ofColumns (columns : List (String × Value)) (r : Reference) :
    ((∀ w, ¬ Shadowed columns r w) →
      (ofColumns columns).lookup r =
        (((columns.filter (·.1 = r.name))[r.index.getD 0]?).map (·.2)).getD .nil) ∧
    ∀ w, Shadowed columns r w → (ofColumns columns).lookup r = w := by
  constructor
  · intro clear
    rw [lookup_of_not_shadowed clear, meant?_value]
  · intro w shadowed
    exact lookup_of_shadowed shadowed

/-- The bare name of the second column is the key of the first. -/
def bracketed : List (String × Value) := [("A", .number (.int 1)), ("A[0]", .number (.int 2))]

theorem lookup_ofColumns_bracketed :
    Shadowed bracketed ⟨"A", some 0⟩ (.number (.int 2)) ∧
      (∀ w, ¬ Shadowed bracketed ⟨"A[0]", none⟩ w) ∧
      (ofColumns bracketed).lookup ⟨"A", some 0⟩ = .number (.int 2) ∧
      (ofColumns bracketed).lookup ⟨"A[0]", none⟩ = .number (.int 2) := by
  have first : meant? bracketed ⟨"A", some 0⟩ = some (0, .number (.int 1)) := by decide +kernel
  have second : meant? bracketed ⟨"A[0]", none⟩ = some (1, .number (.int 2)) := by decide +kernel
  have alike : Reference.key ⟨"A", some 0⟩ = Reference.key ⟨"A[0]", none⟩ := by decide +kernel
  have shadowed : Shadowed bracketed ⟨"A", some 0⟩ (.number (.int 2)) := by
    refine ⟨⟨"A[0]", none⟩, 1, by decide, alike.symm, second, ?_⟩
    intro p v means
    rw [first] at means
    cases means
    exact Nat.zero_lt_one
  have clear : ∀ w, ¬ Shadowed bracketed ⟨"A[0]", none⟩ w := by
    rintro w ⟨s, q, other, keyed, meant, behind⟩
    obtain rfl := Reference.eq_of_key_eq keyed alike other (by decide)
    rw [first] at meant
    cases meant
    exact absurd (behind 1 _ second) (Nat.not_lt_zero 1)
  have value : (((bracketed.filter (·.1 = "A[0]"))[0]?).map (·.2)).getD .nil =
      .number (.int 2) := by decide +kernel
  exact ⟨shadowed, clear, (lookup_ofColumns bracketed _).2 _ shadowed,
    ((lookup_ofColumns bracketed _).1 clear).trans value⟩

theorem lookup_bracketed :
    (((bracketed.filter (·.1 = "A"))[0]?).map (·.2)).getD .nil = .number (.int 1) ∧
      (ofColumns bracketed).lookup ⟨"A", some 0⟩ = .number (.int 2) := by
  decide +kernel

end Environment

end ComputedColumns
