import ComputedColumns.Formula.Lexer

namespace ComputedColumns.Lexer

open Text

theorem tokensOf_eq (cs : List Char) :
    tokensOf cs =
      match trimStart cs with
      | [] => .ok []
      | c :: rest =>
        match scan c rest with
        | .error e => .error e
        | .ok (t, rest) => (tokensOf rest).map (t :: ·) := by
  rw [tokensOf]
  split
  · rename_i skipped
    rw [skipped]
  · rename_i c rest skipped
    rw [skipped]
    dsimp only
    split
    · rename_i scanned
      rw [scanned]
    · rename_i scanned
      rw [scanned]

theorem tokensOf_nil : tokensOf [] = .ok [] := by
  rw [tokensOf_eq]
  rfl

theorem tokensOf_blank {c : Char} (blank : isBlank c = true) (cs : List Char) :
    tokensOf (c :: cs) = tokensOf cs := by
  rw [tokensOf_eq (c :: cs), tokensOf_eq cs, trimStart, List.dropWhile_cons_of_pos blank]
  rfl

theorem tokensOf_scan {c : Char} {cs rest : List Char} {t : Token} (visible : isBlank c = false)
    (scanned : scan c cs = .ok (t, rest)) :
    tokensOf (c :: cs) = (tokensOf rest).map (t :: ·) := by
  rw [tokensOf_eq (c :: cs), trimStart, List.dropWhile_cons_of_neg (by simp [visible])]
  simp only [scanned]

/-- Tokens that some text stands for, whatever follows it. -/
def Writable (ts : List Token) : Prop :=
  ∃ cs, ∀ rest, tokensOf (cs ++ rest) = (tokensOf rest).map (ts ++ ·)

theorem Writable.append {ts us : List Token} (first : Writable ts) (second : Writable us) :
    Writable (ts ++ us) := by
  obtain ⟨cs, first⟩ := first
  obtain ⟨ds, second⟩ := second
  refine ⟨cs ++ ds, ?_⟩
  intro rest
  rw [List.append_assoc, first, second]
  cases tokensOf rest with
  | error e => rfl
  | ok vs => simp [Except.map]

theorem Writable.token (t : Token) (c : Char) (cs : List Char) (visible : isBlank c = false)
    (scanned : ∀ rest, scan c (cs ++ ' ' :: rest) = .ok (t, ' ' :: rest)) : Writable [t] := by
  refine ⟨c :: (cs ++ [' ']), ?_⟩
  intro rest
  have split : c :: (cs ++ [' ']) ++ rest = c :: (cs ++ ' ' :: rest) := by simp
  rw [split, tokensOf_scan visible (scanned rest), tokensOf_blank rfl]
  rfl

end ComputedColumns.Lexer
