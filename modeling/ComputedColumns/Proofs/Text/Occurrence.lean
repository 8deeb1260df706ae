import ComputedColumns.Text.Occurrence

namespace ComputedColumns.Text

theorem prefix_intercalate (sep piece : List Char) (pieces : List (List Char)) :
    piece <+: sep.intercalate (piece :: pieces) := by
  cases pieces with
  | nil => simp
  | cons next rest =>
    rw [List.intercalate_cons_cons, List.append_assoc]
    exact List.prefix_append _ _

theorem consHead_cons (c : Char) (piece : List Char) (rest : List (List Char)) :
    consHead c (piece :: rest) = (c :: piece) :: rest := rfl

theorem intercalate_consHead {pieces : List (List Char)} (present : pieces ≠ []) (sep : List Char)
    (c : Char) : sep.intercalate (consHead c pieces) = c :: sep.intercalate pieces := by
  obtain ⟨piece, rest, rfl⟩ := List.exists_cons_of_ne_nil present
  rw [consHead_cons]
  cases rest with
  | nil => simp only [List.intercalate_singleton]
  | cons next rest => simp only [List.intercalate_cons_cons, List.cons_append]

theorem joinFirst_eq {pieces : List (List Char)} (present : pieces ≠ []) (old new : List Char)
    (limit : Nat) :
    joinFirst old new limit pieces =
      new.intercalate (pieces.take (min limit (pieces.length - 1)) ++
        [old.intercalate (pieces.drop (min limit (pieces.length - 1)))]) := by
  induction pieces generalizing limit with
  | nil => exact absurd rfl present
  | cons piece rest ih =>
    cases rest with
    | nil => simp [joinFirst]
    | cons next rest =>
      have more : next :: rest ≠ [] := List.cons_ne_nil next rest
      cases limit with
      | zero =>
        have others := ih more 0
        simp only [Nat.zero_min, List.take_zero, List.drop_zero, List.nil_append,
          List.intercalate_singleton] at others ⊢
        rw [joinFirst, others, List.intercalate_cons_cons]
        exact more
      | succ limit =>
        have filled : min (limit + 1) ((piece :: next :: rest).length - 1) =
            min limit ((next :: rest).length - 1) + 1 := by
          simp only [List.length_cons]
          omega
        rw [filled, List.take_succ_cons, List.drop_succ_cons, List.cons_append,
          List.intercalate_cons_of_ne_nil (by simp), joinFirst, ih more]
        exact more

theorem piecesFrom_skip (d : List Char) (n : Nat) (cs : List Char) :
    piecesFrom d n cs = piecesFrom d 0 (cs.drop n) := by
  induction n generalizing cs with
  | zero => rfl
  | succ n ih =>
    cases cs with
    | nil => rfl
    | cons c cs => rw [piecesFrom, ih, List.drop_succ_cons]

theorem contains_iff (needle text : List Char) : contains needle text = true ↔ needle <:+: text := by
  induction text with
  | nil => simp [contains]
  | cons c cs ih => rw [contains, Bool.or_eq_true, List.isPrefixOf_iff_prefix, ih, List.infix_cons_iff]

section

variable {d : List Char} (present : d ≠ [])
include present

theorem pieces_eq (text : List Char) : pieces d text = piecesFrom d 0 text := by
  have filled : ¬ d.isEmpty = true := by simpa using present
  rw [pieces, if_neg filled]

theorem pieces_nil : pieces d [] = [[]] := by
  rw [pieces_eq present, piecesFrom]

theorem pieces_hit (cs : List Char) : pieces d (d ++ cs) = [] :: pieces d cs := by
  obtain ⟨c, tail, rfl⟩ := List.exists_cons_of_ne_nil present
  have begins : (c :: tail).isPrefixOf (c :: (tail ++ cs)) = true :=
    List.isPrefixOf_iff_prefix.mpr (List.prefix_append (c :: tail) cs)
  have behind : (tail ++ cs).drop ((c :: tail).length - 1) = cs := by simp
  rw [pieces_eq present, pieces_eq present, List.cons_append, piecesFrom, if_pos begins,
    piecesFrom_skip, behind]

theorem pieces_skip {c : Char} {cs : List Char} (other : ¬ d <+: c :: cs) :
    pieces d (c :: cs) = consHead c (pieces d cs) := by
  rw [pieces_eq present, pieces_eq present, piecesFrom,
    if_neg (mt List.isPrefixOf_iff_prefix.mp other)]

theorem cut_induction {motive : List Char → Prop} (text : List Char) (nil : motive [])
    (hit : ∀ cs, motive cs → motive (d ++ cs))
    (skip : ∀ c cs, ¬ d <+: c :: cs → motive cs → motive (c :: cs)) : motive text := by
  -- By the length, as an occurrence is passed over as a whole.
  induction length : text.length using Nat.strongRecOn generalizing text with
  | ind n ih =>
    subst length
    cases text with
    | nil => exact nil
    | cons c cs =>
      by_cases begins : d <+: c :: cs
      · obtain ⟨rest, whole⟩ := begins
        have shorter : rest.length < (c :: cs).length := by
          have filled := List.length_pos_iff.mpr present
          rw [← whole, List.length_append]
          omega
        rw [← whole]
        exact hit rest (ih _ shorter rest rfl)
      · exact skip c cs begins (ih _ (Nat.lt_succ_self _) cs rfl)

theorem pieces_ne_nil (text : List Char) : pieces d text ≠ [] := by
  induction text using cut_induction present with
  | nil => simp [pieces_nil present]
  | hit cs ih => simp [pieces_hit present]
  | skip c cs other ih =>
    obtain ⟨piece, rest, same⟩ := List.exists_cons_of_ne_nil ih
    simp [pieces_skip present other, same, consHead]

theorem intercalate_pieces (text : List Char) : d.intercalate (pieces d text) = text := by
  induction text using cut_induction present with
  | nil => rw [pieces_nil present, List.intercalate_singleton]
  | hit cs ih =>
    rw [pieces_hit present, List.intercalate_cons_of_ne_nil (pieces_ne_nil present cs), ih,
      List.nil_append]
  | skip c cs other ih =>
    rw [pieces_skip present other, intercalate_consHead (pieces_ne_nil present cs), ih]

theorem not_infix_of_mem_pieces {text piece : List Char} (member : piece ∈ pieces d text) :
    ¬ d <:+: piece := by
  have notEmpty : ¬ d <:+: [] := by simpa using present
  induction text using cut_induction present generalizing piece with
  | nil =>
    rw [pieces_nil present, List.mem_singleton] at member
    rwa [member]
  | hit cs ih =>
    rw [pieces_hit present] at member
    rcases List.mem_cons.mp member with rfl | member
    · exact notEmpty
    · exact ih member
  | skip c cs other ih =>
    obtain ⟨first, rest, same⟩ := List.exists_cons_of_ne_nil (pieces_ne_nil present cs)
    rw [pieces_skip present other, same, consHead_cons] at member
    rw [same] at ih
    rcases List.mem_cons.mp member with rfl | member
    · -- The first piece begins the rest of the text, so it cannot complete an occurrence.
      have begins : first <+: cs := by
        have whole := prefix_intercalate d first rest
        rwa [← same, intercalate_pieces present] at whole
      rw [List.infix_cons_iff]
      rintro (here | later)
      · exact other (here.trans (List.cons_prefix_cons.mpr ⟨rfl, begins⟩))
      · exact ih List.mem_cons_self later
    · exact ih (List.mem_cons_of_mem _ member)

theorem two_le_length_pieces_iff (text : List Char) :
    2 ≤ (pieces d text).length ↔ d <:+: text := by
  have whole := intercalate_pieces present text
  have apart : ∀ piece ∈ pieces d text, ¬ d <:+: piece := fun _ => not_infix_of_mem_pieces present
  obtain ⟨first, rest, same⟩ := List.exists_cons_of_ne_nil (pieces_ne_nil present text)
  rw [same] at whole apart ⊢
  cases rest with
  | nil =>
    rw [List.intercalate_singleton] at whole
    have absent := apart first List.mem_cons_self
    rw [whole] at absent
    simp [absent]
  | cons next rest =>
    rw [List.intercalate_cons_cons] at whole
    have occurs : d <:+: text := ⟨first, d.intercalate (next :: rest), whole⟩
    simp [occurs]

end

end ComputedColumns.Text
