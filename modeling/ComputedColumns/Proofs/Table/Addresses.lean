import ComputedColumns.Proofs.Pattern.Language
import ComputedColumns.Table.Validation

namespace ComputedColumns

open Text Regex

/-- Exactly one at sign, with something before it; behind it a point with something on both sides. -/
structure IsMailAddress (cs : List Char) : Prop where
  visible : ∀ c ∈ cs, isBlank c = false
  once : cs.count '@' = 1
  parts : ∃ name host domain, cs = name ++ '@' :: (host ++ '.' :: domain) ∧
    name ≠ [] ∧ host ≠ [] ∧ domain ≠ []

def foldLetter (c : Char) : Char := if c = 'ſ' then 's' else c.toLower

/-- One of the two schemes, in any case. -/
def IsScheme (word : List Char) : Prop :=
  word.map foldLetter = "http".toList ∨ word.map foldLetter = "https".toList

/-- A scheme, and behind it a character that can begin a host. -/
structure IsWebAddress (cs : List Char) : Prop where
  visible : ∀ c ∈ cs, isBlank c = false
  parts : ∃ scheme first rest, cs = scheme ++ ':' :: '/' :: '/' :: first :: rest ∧ IsScheme scheme ∧
    first ∉ ['/', '$', '.', '?', '#']

theorem toNat_toLower (c : Char) :
    c.toLower.toNat = if 65 ≤ c.toNat ∧ c.toNat ≤ 90 then c.toNat + 32 else c.toNat := by
  have capital : c.val ≥ 'A'.val ∧ c.val ≤ 'Z'.val ↔ 65 ≤ c.toNat ∧ c.toNat ≤ 90 := Iff.rfl
  unfold Char.toLower
  split
  · rename_i isCapital
    have bounds := capital.mp isCapital
    have sum : (c.val + 32).toNat = (c.toNat + 32) % 2 ^ 32 := UInt32.toNat_add c.val 32
    rw [if_pos bounds]
    exact sum.trans (Nat.mod_eq_of_lt (by omega))
  · rename_i isOther
    rw [if_neg fun bounds => isOther (capital.mpr bounds)]

theorem toNat_toUpper (c : Char) :
    c.toUpper.toNat = if 97 ≤ c.toNat ∧ c.toNat ≤ 122 then c.toNat - 32 else c.toNat := by
  have small : 'a'.val ≤ c.val ∧ c.val ≤ 'z'.val ↔ 97 ≤ c.toNat ∧ c.toNat ≤ 122 := Iff.rfl
  unfold Char.toUpper
  split
  · rename_i isSmall
    have bounds := small.mp isSmall
    have sum : (c.val + 4294967264).toNat = (c.toNat + 4294967264) % 2 ^ 32 :=
      UInt32.toNat_add c.val 4294967264
    have wrapped : (c.toNat + 4294967264) % 2 ^ 32 = c.toNat - 32 := by omega
    rw [if_pos bounds]
    exact sum.trans wrapped
  · rename_i isOther
    rw [if_neg fun bounds => isOther (small.mpr bounds)]

theorem toLower_eq_iff {c lower : Char} (small : 97 ≤ lower.toNat ∧ lower.toNat ≤ 122) :
    c.toLower = lower ↔ c = lower ∨ c = lower.toUpper := by
  rw [← Char.toNat_inj, ← Char.toNat_inj, ← Char.toNat_inj, toNat_toLower, toNat_toUpper, if_pos small]
  split <;> omega

namespace CharTest

theorem isVisible_iff {c : Char} : isVisible c = true ↔ isBlank c = false := by
  rw [isVisible, Bool.not_eq_true']

theorem only_iff {c d : Char} : only c d = true ↔ d = c := beq_iff_eq

theorem letter_iff {lower c : Char} (small : 97 ≤ lower.toNat ∧ lower.toNat ≤ 122) :
    letter lower c = true ↔ foldLetter c = lower := by
  simp only [letter, Bool.or_eq_true, Bool.and_eq_true, beq_iff_eq, ← toLower_eq_iff small, foldLetter]
  by_cases long : c = 'ſ'
  · have kept : c.toLower ≠ lower := by
      rw [long]
      rintro rfl
      exact absurd small.2 (by decide)
    rw [if_pos long, or_iff_right kept, and_iff_left long, eq_comm]
  · rw [if_neg long, or_iff_left fun both => long both.2]

end CharTest

open CharTest

theorem count_at_eq_one_iff {before behind : List Char} :
    (before ++ '@' :: behind).count '@' = 1 ↔ '@' ∉ before ∧ '@' ∉ behind := by
  rw [List.count_append, List.count_cons_self, ← List.count_eq_zero, ← List.count_eq_zero]
  omega

def InName (cs : List Char) : Prop := ∀ c ∈ cs, isBlank c = false ∧ c ≠ '@'

theorem inName_iff {cs : List Char} :
    InName cs ↔ (∀ c ∈ cs, isBlank c = false) ∧ '@' ∉ cs := by
  constructor
  · intro inside
    exact ⟨fun c member => (inside c member).1, fun member => (inside '@' member).2 rfl⟩
  · rintro ⟨visible, notAt⟩ c member
    exact ⟨visible c member, fun isAt => notAt (isAt ▸ member)⟩

theorem isMailAddress_iff (cs : List Char) : isMailAddress cs = true ↔ IsMailAddress cs := by
  have nameTest (c : Char) : (isVisible c && c != '@') = true ↔ isBlank c = false ∧ c ≠ '@' := by
    rw [Bool.and_eq_true, isVisible_iff, bne_iff_ne]
  rw [isMailAddress, accepts_iff_mem_language]
  simp only [mailShape, concat, mem_language_many1_seq, mem_language_step_seq, mem_language_many1,
    only_iff, nameTest]
  constructor
  · rintro ⟨name, _, rfl, ⟨named, inName⟩, _, _, rfl, rfl, host, _, rfl, ⟨hosted, inHost⟩, _, domain, rfl,
      rfl, present, inDomain⟩
    obtain ⟨visibleName, nameAt⟩ := inName_iff.mp inName
    obtain ⟨visibleHost, hostAt⟩ := inName_iff.mp inHost
    obtain ⟨visibleDomain, domainAt⟩ := inName_iff.mp inDomain
    refine ⟨?_, count_at_eq_one_iff.mpr ⟨nameAt, ?_⟩, name, host, domain, rfl, named, hosted, present⟩
    · simp only [List.mem_append, List.mem_cons]
      rintro c (inside | rfl | inside | rfl | inside)
      · exact visibleName c inside
      · decide
      · exact visibleHost c inside
      · decide
      · exact visibleDomain c inside
    · simp [hostAt, domainAt]
  · rintro ⟨visible, once, name, host, domain, rfl, named, hosted, present⟩
    obtain ⟨nameAt, behind⟩ := count_at_eq_one_iff.mp once
    simp only [List.mem_append, List.mem_cons, not_or] at visible behind
    refine ⟨name, _, rfl, ⟨named, inName_iff.mpr ⟨?_, nameAt⟩⟩, '@', _, rfl, rfl, host, _, rfl,
      ⟨hosted, inName_iff.mpr ⟨?_, behind.1⟩⟩, '.', domain, rfl, rfl, present,
      inName_iff.mpr ⟨?_, behind.2.2⟩⟩
    · exact fun c inside => visible c (.inl inside)
    · exact fun c inside => visible c (.inr (.inr (.inl inside)))
    · exact fun c inside => visible c (.inr (.inr (.inr (.inr inside))))

def spelled (lowers : List Char) (s : Regex (Char → Bool)) : Regex (Char → Bool) :=
  lowers.foldr (fun lower r => seq (step (letter lower)) r) s

theorem mem_spelled_iff {s : Regex (Char → Bool)} {lowers cs : List Char}
    (small : ∀ lower ∈ lowers, 97 ≤ lower.toNat ∧ lower.toNat ≤ 122) :
    cs ∈ (spelled lowers s).language ↔
      ∃ word rest, cs = word ++ rest ∧ word.map foldLetter = lowers ∧ rest ∈ s.language := by
  induction lowers generalizing cs with
  | nil =>
    constructor
    · exact fun member => ⟨[], cs, rfl, rfl, member⟩
    · rintro ⟨word, rest, rfl, none, member⟩
      rw [List.map_eq_nil_iff.mp none]
      exact member
  | cons lower lowers ih =>
    obtain ⟨first, others⟩ := List.forall_mem_cons.mp small
    have unfolded : spelled (lower :: lowers) s = seq (step (letter lower)) (spelled lowers s) := rfl
    rw [unfolded, mem_language_step_seq]
    constructor
    · rintro ⟨c, _, rfl, isLetter, member⟩
      obtain ⟨word, rest, rfl, folded, member⟩ := (ih others).mp member
      refine ⟨c :: word, rest, rfl, ?_, member⟩
      rw [List.map_cons, (letter_iff first).mp isLetter, folded]
    · rintro ⟨word, rest, rfl, folded, member⟩
      obtain ⟨c, word, rfl, isLetter, folded⟩ := List.map_eq_cons_iff.mp folded
      exact ⟨c, word ++ rest, rfl, (letter_iff first).mpr isLetter,
        (ih others).mpr ⟨word, rest, rfl, folded, member⟩⟩

def hostPart : Regex (Char → Bool) :=
  concat [step (only ':'), step (only '/'), step (only '/'),
    step fun c => isVisible c && !notInHost.contains c, many (step isVisible)]

theorem mem_hostPart_iff {cs : List Char} :
    cs ∈ hostPart.language ↔
      ∃ first rest, cs = ':' :: '/' :: '/' :: first :: rest ∧ first ∉ notInHost ∧
        ∀ c ∈ first :: rest, isBlank c = false := by
  have firstTest (c : Char) : (isVisible c && !notInHost.contains c) = true ↔
      isBlank c = false ∧ c ∉ notInHost := by
    rw [Bool.and_eq_true, isVisible_iff, Bool.not_eq_true', List.contains_eq_mem, decide_eq_false_iff_not]
  simp only [hostPart, concat, mem_language_step_seq, mem_language_many, only_iff, firstTest,
    isVisible_iff]
  constructor
  · rintro ⟨_, _, rfl, rfl, _, _, rfl, rfl, _, _, rfl, rfl, first, rest, rfl, ⟨seen, host⟩, visible⟩
    exact ⟨first, rest, rfl, host, List.forall_mem_cons.mpr ⟨seen, visible⟩⟩
  · rintro ⟨first, rest, rfl, host, visible⟩
    obtain ⟨seen, visible⟩ := List.forall_mem_cons.mp visible
    exact ⟨_, _, rfl, rfl, _, _, rfl, rfl, _, _, rfl, rfl, first, rest, rfl, ⟨seen, host⟩, visible⟩

theorem mem_webShape_iff {cs : List Char} :
    cs ∈ webShape.language ↔
      ∃ word rest, cs = word ++ rest ∧ IsScheme word ∧ rest ∈ hostPart.language := by
  have plain : ∀ lower ∈ "http".toList, 97 ≤ lower.toNat ∧ lower.toNat ≤ 122 := by simp
  have secure : ∀ lower ∈ "https".toList, 97 ≤ lower.toNat ∧ lower.toNat ≤ 122 := by simp
  have shape : webShape = spelled "http".toList (seq (optional (step (letter 's'))) hostPart) := rfl
  have letters : spelled "http".toList (seq (step (letter 's')) hostPart) =
      spelled "https".toList hostPart := rfl
  have either : cs ∈ webShape.language ↔ cs ∈ (spelled "http".toList hostPart).language ∨
      cs ∈ (spelled "https".toList hostPart).language := by
    rw [shape, ← letters, mem_spelled_iff plain, mem_spelled_iff plain, mem_spelled_iff plain]
    simp only [mem_language_optional_seq, and_or_left, exists_or]
  rw [either, mem_spelled_iff plain, mem_spelled_iff secure]
  simp only [IsScheme, or_and_right, and_or_left, exists_or]

theorem isBlank_of_foldLetter {c : Char} (small : 97 ≤ (foldLetter c).toNat ∧ (foldLetter c).toNat ≤ 122) :
    isBlank c = false := by
  unfold foldLetter at small
  split at small
  next long => rw [long]; rfl
  next =>
    rw [toNat_toLower] at small
    have inside : 65 ≤ c.toNat ∧ c.toNat ≤ 122 := by
      split at small <;> omega
    simp only [isBlank, Bool.or_eq_false_iff, Bool.and_eq_false_iff, beq_eq_false_iff_ne,
      decide_eq_false_iff_not]
    omega

theorem IsScheme.visible {word : List Char} (scheme : IsScheme word) :
    ∀ c ∈ word, isBlank c = false := by
  have small : ∀ lower ∈ word.map foldLetter, 97 ≤ lower.toNat ∧ lower.toNat ≤ 122 := by
    rcases scheme with plain | secure
    · rw [plain]
      simp
    · rw [secure]
      simp
  exact fun c member => isBlank_of_foldLetter (small _ (List.mem_map_of_mem member))

theorem isWebAddress_iff (cs : List Char) : isWebAddress cs = true ↔ IsWebAddress cs := by
  rw [isWebAddress, accepts_iff_mem_language, mem_webShape_iff]
  simp only [mem_hostPart_iff]
  constructor
  · rintro ⟨word, _, rfl, scheme, first, rest, rfl, host, visible⟩
    refine ⟨?_, word, first, rest, rfl, scheme, host⟩
    simp only [List.mem_append, List.mem_cons]
    rintro c (inScheme | rfl | rfl | rfl | behind)
    · exact scheme.visible c inScheme
    · decide
    · decide
    · decide
    · exact visible c (List.mem_cons.mpr behind)
  · rintro ⟨visible, word, first, rest, rfl, scheme, host⟩
    refine ⟨word, _, rfl, scheme, first, rest, rfl, host, ?_⟩
    intro c member
    exact visible c (by simp [List.mem_cons.mp member])

namespace ValueFormat

/-- A text that is not empty passes as an address just when it has the form of one. The limits on patterns
do not matter. -/
theorem address_accepted_iff (engine : Pattern.Engine) (options : ValidationOptions) {value : String}
    (nonempty : value ≠ "") :
    (email.checkWithin engine options value = .ok () ↔ IsMailAddress value.toList) ∧
      (url.checkWithin engine options value = .ok () ↔ IsWebAddress value.toList) := by
  constructor
  · rw [← isMailAddress_iff, checkWithin, if_neg nonempty]
    cases isMailAddress value.toList <;> simp
  · rw [← isWebAddress_iff, checkWithin, if_neg nonempty]
    cases isWebAddress value.toList <;> simp

/-- Points may end the domain and follow each other there, and a long s may end the scheme. A second at sign
and a slash in place of the host do not pass. -/
theorem address_accepted_iff_odd :
    IsMailAddress "a.b@..c..".toList ∧ ¬ IsMailAddress "a@b@c.d".toList ∧
      IsWebAddress "HTTPſ://ü".toList ∧ ¬ IsWebAddress "http:///a".toList := by
  have shapes := fun (value : String) (nonempty : value ≠ "") =>
    address_accepted_iff .byFootprint ⟨0, 0, 0⟩ nonempty
  have accepted : email.checkWithin .byFootprint ⟨0, 0, 0⟩ "a.b@..c.." = .ok () := by decide +kernel
  have refused : ¬ email.checkWithin .byFootprint ⟨0, 0, 0⟩ "a@b@c.d" = .ok () := by decide +kernel
  have reached : url.checkWithin .byFootprint ⟨0, 0, 0⟩ "HTTPſ://ü" = .ok () := by decide +kernel
  have hostless : ¬ url.checkWithin .byFootprint ⟨0, 0, 0⟩ "http:///a" = .ok () := by decide +kernel
  exact ⟨(shapes _ (by decide)).1.mp accepted, fun mail => refused ((shapes _ (by decide)).1.mpr mail),
    (shapes _ (by decide)).2.mp reached, fun web => hostless ((shapes _ (by decide)).2.mpr web)⟩

end ValueFormat

end ComputedColumns
