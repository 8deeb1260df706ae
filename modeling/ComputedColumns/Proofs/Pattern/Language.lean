import ComputedColumns.Proofs.Pattern.Matching
import Mathlib.Computability.Language

namespace ComputedColumns

namespace Regex

/-- The texts that an expression spells, each step one character that passes its test. -/
def language : Regex (Char → Bool) → Language Char
  | empty => 1
  | step test => {cs | ∃ c, test c = true ∧ cs = [c]}
  | seq r s => r.language * s.language
  | alt r s => r.language + s.language
  | times r least most =>
    {cs | ∃ more, (∀ limit, most = some limit → more ≤ limit - least) ∧
      cs ∈ r.language ^ (least + more)}
  | group r => r.language

/-- One position leads to another just where a word of the language stands between them. -/
def Spans (cs : List Char) (l : Language Char) (leads : Nat → Nat → Prop) : Prop :=
  ∀ i j, leads i j ↔ ∃ word rest, cs.drop i = word ++ rest ∧ word ∈ l ∧ j = i + word.length

variable {cs : List Char}

theorem spans_one : Spans cs 1 (· = ·) := by
  intro i j
  constructor
  · rintro rfl
    exact ⟨[], cs.drop i, rfl, Language.nil_mem_one, rfl⟩
  · rintro ⟨word, rest, -, none, rfl⟩
    rw [(Language.mem_one word).mp none]
    rfl

theorem spans_step (test : Char → Bool) :
    Spans cs (Regex.step test).language
      (fun i j => ∃ c, cs[i]? = some c ∧ test c = true ∧ j = i + 1) := by
  intro i j
  dsimp only
  rw [← List.head?_drop]
  constructor
  · rintro ⟨c, first, passes, rfl⟩
    obtain ⟨rest, split⟩ := List.head?_eq_some_iff.mp first
    exact ⟨[c], rest, split, ⟨c, passes, rfl⟩, rfl⟩
  · rintro ⟨word, rest, split, ⟨c, passes, rfl⟩, rfl⟩
    exact ⟨c, by rw [split]; rfl, passes, rfl⟩

theorem Spans.mul {l m : Language Char} {first second : Nat → Nat → Prop} (left : Spans cs l first)
    (right : Spans cs m second) : Spans cs (l * m) (fun i j => ∃ k, first i k ∧ second k j) := by
  intro i j
  constructor
  · rintro ⟨k, toMiddle, toEnd⟩
    obtain ⟨word, rest, split, member, rfl⟩ := (left i k).mp toMiddle
    obtain ⟨word', rest', split', member', rfl⟩ := (right _ j).mp toEnd
    rw [← List.drop_drop, split, List.drop_left] at split'
    refine ⟨word ++ word', rest', ?_, Language.append_mem_mul member member', ?_⟩
    · rw [split, split', List.append_assoc]
    · rw [List.length_append, Nat.add_assoc]
  · rintro ⟨_, rest, split, member, rfl⟩
    obtain ⟨word, inFirst, word', inSecond, rfl⟩ := Language.mem_mul.mp member
    rw [List.append_assoc] at split
    refine ⟨i + word.length, (left i _).mpr ⟨word, _, split, inFirst, rfl⟩, ?_⟩
    refine (right _ _).mpr ⟨word', rest, ?_, inSecond, ?_⟩
    · rw [← List.drop_drop, split, List.drop_left]
    · rw [List.length_append, Nat.add_assoc]

theorem Spans.pow {l : Language Char} {round : Nat → Nat → Prop} (once : Spans cs l round) (n : Nat) :
    Spans cs (l ^ n) (Rounds round n) := by
  induction n with
  | zero => exact spans_one
  | succ n ih =>
    rw [pow_succ']
    exact once.mul ih

theorem spans_language (r : Regex (Char → Bool)) :
    Spans cs r.language
      (r.Leads fun test i j => ∃ c, cs[i]? = some c ∧ test c = true ∧ j = i + 1) := by
  induction r with
  | empty => exact spans_one
  | step test => exact spans_step test
  | seq r s first second => exact first.mul second
  | alt r s first second =>
    intro i j
    rw [Leads, first i j, second i j]
    constructor
    · rintro (⟨word, rest, split, member, length⟩ | ⟨word, rest, split, member, length⟩)
      · exact ⟨word, rest, split, .inl member, length⟩
      · exact ⟨word, rest, split, .inr member, length⟩
    · rintro ⟨word, rest, split, member | member, length⟩
      · exact .inl ⟨word, rest, split, member, length⟩
      · exact .inr ⟨word, rest, split, member, length⟩
  | times r least most body =>
    intro i j
    constructor
    · rintro ⟨more, within, rounds⟩
      obtain ⟨word, rest, split, member, length⟩ := (body.pow (least + more) i j).mp rounds
      exact ⟨word, rest, split, ⟨more, within, member⟩, length⟩
    · rintro ⟨word, rest, split, ⟨more, within, member⟩, length⟩
      exact ⟨more, within, (body.pow (least + more) i j).mpr ⟨word, rest, split, member, length⟩⟩
  | group r body => exact body

theorem accepts_iff_mem_language (r : Regex (Char → Bool)) (cs : List Char) :
    r.accepts Step.char cs = true ↔ cs ∈ r.language := by
  rw [accepts_iff (Step.char_images cs), spans_language r 0 cs.length]
  constructor
  · rintro ⟨word, rest, split, member, length⟩
    have none : rest = [] := by
      have total := congrArg List.length split
      rw [List.drop_zero, List.length_append] at total
      exact List.eq_nil_of_length_eq_zero (by omega)
    rw [none, List.append_nil, List.drop_zero] at split
    rwa [split]
  · intro member
    exact ⟨cs, [], by rw [List.drop_zero, List.append_nil], member, (Nat.zero_add _).symm⟩

theorem mem_language_seq {r s : Regex (Char → Bool)} :
    cs ∈ (seq r s).language ↔ ∃ word rest, cs = word ++ rest ∧ word ∈ r.language ∧ rest ∈ s.language := by
  constructor
  · intro member
    obtain ⟨word, first, rest, second, rfl⟩ := Language.mem_mul.mp member
    exact ⟨word, rest, rfl, first, second⟩
  · rintro ⟨word, rest, rfl, first, second⟩
    exact Language.append_mem_mul first second

theorem mem_language_step_seq {test : Char → Bool} {s : Regex (Char → Bool)} :
    cs ∈ (seq (step test) s).language ↔ ∃ c rest, cs = c :: rest ∧ test c = true ∧ rest ∈ s.language := by
  rw [mem_language_seq]
  constructor
  · rintro ⟨_, rest, rfl, ⟨c, passes, rfl⟩, member⟩
    exact ⟨c, rest, rfl, passes, member⟩
  · rintro ⟨c, rest, rfl, passes, member⟩
    exact ⟨[c], rest, rfl, ⟨c, passes, rfl⟩, member⟩

theorem mem_language_optional {r : Regex (Char → Bool)} :
    cs ∈ (optional r).language ↔ cs = [] ∨ cs ∈ r.language := by
  constructor
  · rintro ⟨more, within, member⟩
    have few : more = 0 ∨ more = 1 := by
      have most := within 1 rfl
      omega
    rcases few with rfl | rfl
    · exact .inl ((Language.mem_one cs).mp member)
    · rw [Nat.zero_add, pow_one] at member
      exact .inr member
  · rintro (none | member)
    · exact ⟨0, fun _ _ => Nat.zero_le _, (Language.mem_one cs).mpr none⟩
    · refine ⟨1, ?_, ?_⟩
      · rintro limit ⟨⟩
        exact Nat.le_refl 1
      · rwa [Nat.zero_add, pow_one]

theorem mem_language_optional_seq {r s : Regex (Char → Bool)} :
    cs ∈ (seq (optional r) s).language ↔ cs ∈ s.language ∨ cs ∈ (seq r s).language := by
  simp only [mem_language_seq, mem_language_optional]
  constructor
  · rintro ⟨word, rest, rfl, rfl | first, second⟩
    · exact .inl second
    · exact .inr ⟨word, rest, rfl, first, second⟩
  · rintro (second | ⟨word, rest, rfl, first, second⟩)
    · exact ⟨[], cs, rfl, .inl rfl, second⟩
    · exact ⟨word, rest, rfl, .inr first, second⟩

theorem mem_step_pow {test : Char → Bool} {n : Nat} :
    cs ∈ (step test).language ^ n ↔ cs.length = n ∧ ∀ c ∈ cs, test c = true := by
  induction n generalizing cs with
  | zero =>
    rw [pow_zero, Language.mem_one]
    constructor
    · rintro rfl
      exact ⟨rfl, List.forall_mem_nil _⟩
    · exact fun both => List.eq_nil_of_length_eq_zero both.1
  | succ n ih =>
    rw [pow_succ', Language.mem_mul]
    constructor
    · rintro ⟨_, ⟨c, passes, rfl⟩, rest, member, rfl⟩
      obtain ⟨length, all⟩ := ih.mp member
      exact ⟨congrArg (· + 1) length, List.forall_mem_cons.mpr ⟨passes, all⟩⟩
    · rintro ⟨length, all⟩
      obtain ⟨c, rest, rfl⟩ := List.exists_cons_of_length_eq_add_one length
      obtain ⟨passes, all⟩ := List.forall_mem_cons.mp all
      exact ⟨[c], ⟨c, passes, rfl⟩, rest, ih.mpr ⟨Nat.succ.inj length, all⟩, rfl⟩

theorem mem_language_many {test : Char → Bool} :
    cs ∈ (many (step test)).language ↔ ∀ c ∈ cs, test c = true := by
  constructor
  · rintro ⟨more, -, member⟩
    exact (mem_step_pow.mp member).2
  · intro all
    exact ⟨cs.length, nofun, mem_step_pow.mpr ⟨(Nat.zero_add _).symm, all⟩⟩

theorem mem_language_many1 {test : Char → Bool} :
    cs ∈ (many1 (step test)).language ↔ cs ≠ [] ∧ ∀ c ∈ cs, test c = true := by
  constructor
  · rintro ⟨more, -, member⟩
    obtain ⟨length, all⟩ := mem_step_pow.mp member
    refine ⟨?_, all⟩
    rintro rfl
    rw [List.length_nil] at length
    omega
  · rintro ⟨present, all⟩
    have some := List.length_pos_iff.mpr present
    exact ⟨cs.length - 1, nofun, mem_step_pow.mpr ⟨by omega, all⟩⟩

theorem mem_language_many1_seq {test : Char → Bool} {s : Regex (Char → Bool)} :
    cs ∈ (seq (many1 (step test)) s).language ↔
      ∃ word rest, cs = word ++ rest ∧ (word ≠ [] ∧ ∀ c ∈ word, test c = true) ∧ rest ∈ s.language := by
  simp only [mem_language_seq, mem_language_many1]

end Regex

end ComputedColumns
