import ComputedColumns.Text.Blank

namespace ComputedColumns.Text

/-- The last blank of a run becomes a space and the others go. -/
def squeeze : List Char → List Char
  | [] => []
  | c :: cs =>
    if isBlank c then if cs.head?.any isBlank then squeeze cs else ' ' :: squeeze cs
    else c :: squeeze cs

theorem words_blank {c : Char} (blank : isBlank c = true) (cs : List Char) :
    words (c :: cs) = words cs := by
  rw [words.eq_def]
  exact if_pos blank

theorem words_visible {c d : Char} (visible : isBlank c = false) (cs : List Char) :
    words (c :: d :: cs) =
      if isBlank d then [c] :: words (d :: cs) else consHead c (words (d :: cs)) := by
  rw [words.eq_def]
  simp [visible]

theorem words_singleton {c : Char} (visible : isBlank c = false) : words [c] = [[c]] := by
  rw [words.eq_def]
  simp [visible]

theorem words_cases (cs : List Char) :
    words cs = [] ∨ ∃ c piece rest, words cs = (c :: piece) :: rest := by
  induction cs with
  | nil => exact .inl rfl
  | cons c cs ih =>
    cases blank : isBlank c with
    | true => rwa [words_blank blank]
    | false =>
      right
      cases cs with
      | nil => exact ⟨c, [], [], words_singleton blank⟩
      | cons d cs =>
        rw [words_visible blank]
        rcases ih with none | ⟨e, piece, rest, some⟩
        · split <;> simp [none, consHead]
        · split <;> simp [some, consHead]

theorem collapse_blank {c : Char} (blank : isBlank c = true) (cs : List Char) :
    collapse (c :: cs) = collapse cs := by
  rw [collapse, words_blank blank, collapse]

theorem collapse_trimStart (cs : List Char) : collapse (trimStart cs) = collapse cs := by
  induction cs with
  | nil => rfl
  | cons c cs ih =>
    cases blank : isBlank c with
    | true => rw [trimStart, List.dropWhile_cons_of_pos blank, collapse_blank blank, ← ih, trimStart]
    | false => rw [trimStart, List.dropWhile_cons_of_neg (by simp [blank])]

theorem collapse_visible {c : Char} (visible : isBlank c = false) (cs : List Char) :
    collapse (c :: cs) =
      c :: if collapse cs ≠ [] ∧ cs.head?.any isBlank then ' ' :: collapse cs else collapse cs := by
  cases cs with
  | nil => rw [collapse, words_singleton visible]; rfl
  | cons d cs =>
    rw [collapse, words_visible visible, collapse]
    rcases words_cases (d :: cs) with none | ⟨e, piece, rest, some⟩
    · cases next : isBlank d <;> simp [none, consHead]
    · cases next : isBlank d <;> cases rest <;> simp [some, consHead, next]

theorem trimEnd_cons (c : Char) (cs : List Char) :
    trimEnd (c :: cs) = if trimEnd cs = [] ∧ isBlank c then [] else c :: trimEnd cs := by
  unfold trimEnd
  rw [List.reverse_cons, List.dropWhile_append]
  cases left : cs.reverse.dropWhile isBlank with
  | nil => cases blank : isBlank c <;> simp [blank]
  | cons d ds => simp

theorem trimEnd_squeeze (cs : List Char) :
    trimEnd (squeeze cs) =
      if collapse cs ≠ [] ∧ cs.head?.any isBlank then ' ' :: collapse cs else collapse cs := by
  -- The space of a leading run is left, unless nothing follows it.
  induction cs with
  | nil => rfl
  | cons c cs ih =>
    cases blank : isBlank c with
    | false =>
      rw [squeeze, if_neg (by simp [blank]), trimEnd_cons, ih, collapse_visible blank]
      simp [blank]
    | true =>
      rw [squeeze, if_pos blank, collapse_blank blank]
      cases next : cs.head?.any isBlank with
      | true => simpa [next, blank] using ih
      | false =>
        rw [next] at ih
        have space : isBlank ' ' = true := rfl
        rw [if_neg Bool.false_ne_true, trimEnd_cons, ih]
        by_cases none : collapse cs = [] <;> simp [none, blank, space]

theorem trimStart_squeeze (cs : List Char) : trimStart (squeeze cs) = squeeze (trimStart cs) := by
  have space : isBlank ' ' = true := rfl
  induction cs with
  | nil => rfl
  | cons c cs ih =>
    cases blank : isBlank c with
    | false =>
      have first : ¬ isBlank c = true := by simp [blank]
      rw [squeeze, if_neg first, trimStart, trimStart, List.dropWhile_cons_of_neg first,
        List.dropWhile_cons_of_neg first, squeeze, if_neg first]
    | true =>
      rw [squeeze, if_pos blank]
      have after : trimStart (c :: cs) = trimStart cs := List.dropWhile_cons_of_pos blank
      rw [after, ← ih]
      split
      · rfl
      · exact List.dropWhile_cons_of_pos space

theorem trim_of_visible {cs : List Char} (visible : ∀ c ∈ cs, isBlank c = false) : trim cs = cs := by
  have kept : ∀ ds : List Char, (∀ d ∈ ds, isBlank d = false) → ds.dropWhile isBlank = ds := by
    intro ds all
    cases ds with
    | nil => rfl
    | cons d ds =>
      have first := all d List.mem_cons_self
      exact List.dropWhile_cons_of_neg (by simp [first])
  have turned : ∀ c ∈ cs.reverse, isBlank c = false :=
    fun c member => visible c (List.mem_reverse.mp member)
  rw [trim, trimStart, kept cs visible, trimEnd, kept cs.reverse turned, List.reverse_reverse]

theorem collapse_eq (cs : List Char) : collapse cs = trim (squeeze cs) := by
  have begins : (trimStart cs).head?.any isBlank = false := by
    have first := List.head?_dropWhile_not isBlank cs
    rw [trimStart]
    cases found : (cs.dropWhile isBlank).head? with
    | none => rfl
    | some c => simpa [found] using first
  rw [trim, trimStart_squeeze, trimEnd_squeeze, begins, collapse_trimStart]
  simp

end ComputedColumns.Text
