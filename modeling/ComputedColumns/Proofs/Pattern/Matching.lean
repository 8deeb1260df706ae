import ComputedColumns.Pattern.Compiled
import Mathlib.Data.Finset.Card
import Mathlib.Data.Nat.Bitwise

namespace ComputedColumns

namespace Regex

def Rounds (round : Nat → Nat → Prop) : Nat → Nat → Nat → Prop
  | 0, i, j => i = j
  | n + 1, i, j => ∃ k, round i k ∧ Rounds round n k j

/-- There is a match from one position to another, given where the steps lead. A repetition goes as many
rounds as it must, and then more of them as far as it may. -/
def Leads {σ : Type} (step : σ → Nat → Nat → Prop) : Regex σ → Nat → Nat → Prop
  | empty, i, j => i = j
  | .step s, i, j => step s i j
  | seq r s, i, j => ∃ k, r.Leads step i k ∧ s.Leads step k j
  | alt r s, i, j => r.Leads step i j ∨ s.Leads step i j
  | times r least most, i, j =>
    ∃ more, (∀ limit, most = some limit → more ≤ limit - least) ∧
      Rounds (r.Leads step) (least + more) i j
  | group r, i, j => r.Leads step i j

/-- On sets of positions below a bound, a function gives the ends of what starts in the set. -/
structure Images (size : Nat) (image : Nat → Nat) (round : Nat → Nat → Prop) : Prop where
  lt {starts : Nat} (bound : starts < 2 ^ size) : image starts < 2 ^ size
  testBit {starts : Nat} (bound : starts < 2 ^ size) (j : Nat) :
    (image starts).testBit j = true ↔ ∃ i, starts.testBit i = true ∧ round i j

section Repetition

variable {size : Nat} {image : Nat → Nat} {round : Nat → Nat → Prop}

theorem rounds_add (m n i j : Nat) :
    Rounds round (m + n) i j ↔ ∃ k, Rounds round m i k ∧ Rounds round n k j := by
  induction m generalizing i with
  | zero => simp [Rounds]
  | succ m ih =>
    rw [Nat.add_right_comm, Rounds]
    simp only [ih, Rounds]
    constructor
    · rintro ⟨k, first, l, rest, last⟩
      exact ⟨l, ⟨k, first, rest⟩, last⟩
    · rintro ⟨l, ⟨k, first, rest⟩, last⟩
      exact ⟨k, first, l, rest, last⟩

theorem Images.repeated (images : Images size image round) (n : Nat) :
    Images size (Regex.repeated image n) (Rounds round n) := by
  induction n with
  | zero =>
    refine ⟨fun bound => bound, fun bound j => ?_⟩
    simp [Regex.repeated, Rounds]
  | succ n ih =>
    refine ⟨fun bound => ih.lt (images.lt bound), fun bound j => ?_⟩
    rw [Regex.repeated, ih.testBit (images.lt bound)]
    simp only [images.testBit bound, Rounds]
    constructor
    · rintro ⟨k, ⟨i, start, first⟩, rest⟩
      exact ⟨i, start, k, first, rest⟩
    · rintro ⟨i, start, k, first, rest⟩
      exact ⟨k, ⟨i, start, first⟩, rest⟩

theorem Images.grown_lt (images : Images size image round) {starts : Nat} (bound : starts < 2 ^ size) :
    starts ||| image starts < 2 ^ size :=
  Nat.or_lt_two_pow bound (images.lt bound)

theorem Images.spread_lt (images : Images size image round) (limit : Nat) {starts : Nat}
    (bound : starts < 2 ^ size) : spread image limit starts < 2 ^ size := by
  induction limit generalizing starts with
  | zero => exact bound
  | succ limit ih =>
    rw [spread]
    split
    · exact bound
    · exact ih (images.grown_lt bound)

theorem Images.stays (images : Images size image round) {starts : Nat} (bound : starts < 2 ^ size)
    (full : starts ||| image starts = starts) {n i j : Nat} (start : starts.testBit i = true)
    (rounds : Rounds round n i j) : starts.testBit j = true := by
  induction n generalizing i with
  | zero =>
    obtain rfl := rounds
    exact start
  | succ n ih =>
    obtain ⟨k, first, rest⟩ := rounds
    have reached : (image starts).testBit k = true := (images.testBit bound k).mpr ⟨i, start, first⟩
    refine ih ?_ rest
    rw [← full, Nat.testBit_or, reached, Bool.or_true]

theorem Images.spread_testBit (images : Images size image round) (limit : Nat) {starts : Nat}
    (bound : starts < 2 ^ size) (j : Nat) :
    (spread image limit starts).testBit j = true ↔
      ∃ n ≤ limit, ∃ i, starts.testBit i = true ∧ Rounds round n i j := by
  induction limit generalizing starts with
  | zero => simp [spread, Rounds]
  | succ limit ih =>
    rw [spread]
    split
    next full =>
      constructor
      · intro member
        exact ⟨0, Nat.zero_le _, j, member, rfl⟩
      · rintro ⟨n, -, i, start, rounds⟩
        -- The set no longer grows, so no number of rounds leads out of it.
        exact images.stays bound full start rounds
    next =>
      rw [ih (images.grown_lt bound)]
      simp only [Nat.testBit_or, Bool.or_eq_true, images.testBit bound]
      constructor
      · rintro ⟨n, less, k, start | ⟨i, start, first⟩, rounds⟩
        · exact ⟨n, Nat.le_succ_of_le less, k, start, rounds⟩
        · exact ⟨n + 1, Nat.succ_le_succ less, i, start, k, first, rounds⟩
      · rintro ⟨n, less, i, start, rounds⟩
        cases n with
        | zero => exact ⟨0, Nat.zero_le _, i, .inl start, rounds⟩
        | succ n =>
          obtain ⟨k, first, rest⟩ := rounds
          exact ⟨n, Nat.le_of_succ_le_succ less, k, .inr ⟨i, start, first⟩, rest⟩

def members (size set : Nat) : Finset Nat := (Finset.range size).filter fun i => set.testBit i = true

theorem mem_members {set i : Nat} (bound : set < 2 ^ size) :
    i ∈ members size set ↔ set.testBit i = true := by
  rw [members, Finset.mem_filter, Finset.mem_range]
  constructor
  · exact fun member => member.2
  · intro member
    refine ⟨?_, member⟩
    by_contra beyond
    have less : set < 2 ^ i := Nat.lt_of_lt_of_le bound (Nat.pow_le_pow_right (by omega) (by omega))
    rw [Nat.testBit_lt_two_pow less] at member
    cases member

theorem eq_of_members {a b : Nat} (ha : a < 2 ^ size) (hb : b < 2 ^ size)
    (same : members size a = members size b) : a = b := by
  apply Nat.eq_of_testBit_eq
  intro i
  rw [Bool.eq_iff_iff, ← mem_members ha, ← mem_members hb, same]

theorem members_subset_grown (images : Images size image round) {starts : Nat}
    (bound : starts < 2 ^ size) :
    members size starts ⊆ members size (starts ||| image starts) := by
  intro i member
  rw [mem_members (images.grown_lt bound), Nat.testBit_or, (mem_members bound).mp member, Bool.true_or]

theorem Images.spread_full (images : Images size image round) {limit starts : Nat}
    (bound : starts < 2 ^ size) (enough : size ≤ limit + (members size starts).card) :
    spread image limit starts ||| image (spread image limit starts) = spread image limit starts := by
  induction limit generalizing starts with
  | zero =>
    have most : (members size (starts ||| image starts)).card ≤ size := by
      have subset : members size (starts ||| image starts) ⊆ Finset.range size := Finset.filter_subset _ _
      simpa using Finset.card_le_card subset
    have same := Finset.eq_of_subset_of_card_le (members_subset_grown images bound) (by omega)
    exact (eq_of_members bound (images.grown_lt bound) same).symm
  | succ limit ih =>
    rw [spread]
    split
    next full => exact full
    next grows =>
      have strict : members size starts ⊂ members size (starts ||| image starts) := by
        refine (members_subset_grown images bound).ssubset_of_ne fun same => grows ?_
        exact (eq_of_members bound (images.grown_lt bound) same).symm
      have more := Finset.card_lt_card strict
      exact ih (images.grown_lt bound) (by omega)

theorem Images.times (images : Images size image round) (least : Nat) (most : Option Nat) :
    Images size
      (fun starts => spread image (most.elim size (· - least)) (Regex.repeated image least starts))
      (fun i j => ∃ more, (∀ limit, most = some limit → more ≤ limit - least) ∧
        Rounds round (least + more) i j) := by
  have must := images.repeated least
  refine ⟨fun bound => images.spread_lt _ (must.lt bound), fun {starts} bound j => ?_⟩
  constructor
  · intro member
    obtain ⟨more, less, k, start, rest⟩ := (images.spread_testBit _ (must.lt bound) j).mp member
    obtain ⟨i, start, first⟩ := (must.testBit bound k).mp start
    refine ⟨i, start, more, ?_, (rounds_add least more i j).mpr ⟨k, first, rest⟩⟩
    rintro limit rfl
    exact less
  · rintro ⟨i, start, more, less, rounds⟩
    obtain ⟨k, first, rest⟩ := (rounds_add least more i j).mp rounds
    have reached := (must.testBit bound k).mpr ⟨i, start, first⟩
    cases most with
    | some limit =>
      exact (images.spread_testBit _ (must.lt bound) j).mpr ⟨more, less limit rfl, k, reached, rest⟩
    | none =>
      have full := images.spread_full (must.lt bound) (Nat.le_add_right size _)
      refine images.stays (images.spread_lt _ (must.lt bound)) full ?_ rest
      exact (images.spread_testBit _ (must.lt bound) k).mpr ⟨0, Nat.zero_le _, k, reached, rfl⟩

end Repetition

theorem ends_images {σ : Type} {size : Nat} {text : σ → Step} {step : σ → Nat → Nat → Prop}
    (steps : ∀ s, Images size (text s).after (step s)) (r : Regex σ) :
    Images size ((r.map text).ends size) (r.Leads step) := by
  induction r with
  | empty =>
    refine ⟨fun bound => bound, fun bound j => ?_⟩
    simp [Regex.map, ends, Leads]
  | step s => exact steps s
  | seq r s first second =>
    refine ⟨fun bound => second.lt (first.lt bound), fun bound j => ?_⟩
    simp only [Regex.map, ends, Leads, second.testBit (first.lt bound), first.testBit bound]
    constructor
    · rintro ⟨k, ⟨i, start, left⟩, right⟩
      exact ⟨i, start, k, left, right⟩
    · rintro ⟨i, start, k, left, right⟩
      exact ⟨k, ⟨i, start, left⟩, right⟩
  | alt r s first second =>
    refine ⟨fun bound => Nat.or_lt_two_pow (first.lt bound) (second.lt bound), fun bound j => ?_⟩
    simp only [Regex.map, ends, Leads, Nat.testBit_or, Bool.or_eq_true, first.testBit bound,
      second.testBit bound]
    constructor
    · rintro (⟨i, start, left⟩ | ⟨i, start, right⟩)
      · exact ⟨i, start, .inl left⟩
      · exact ⟨i, start, .inr right⟩
    · rintro ⟨i, start, left | right⟩
      · exact .inl ⟨i, start, left⟩
      · exact .inr ⟨i, start, right⟩
  | times r least most body => exact body.times least most
  | group r body => exact body

theorem accepts_iff {σ : Type} {text : σ → List Char → Step} {step : σ → Nat → Nat → Prop}
    {cs : List Char} (steps : ∀ s, Images (cs.length + 1) (text s cs).after (step s)) (r : Regex σ) :
    r.accepts text cs = true ↔ r.Leads step 0 cs.length := by
  have bound : 1 < 2 ^ (cs.length + 1) := Nat.one_lt_two_pow (by omega)
  rw [accepts, (ends_images steps r).testBit bound]
  constructor
  · rintro ⟨i, start, leads⟩
    obtain rfl := Nat.testBit_one_eq_true_iff_self_eq_zero.mp start
    exact leads
  · intro leads
    exact ⟨0, rfl, leads⟩

end Regex

namespace Step

theorem maskOf_cons (bit : Bool) (bits : List Bool) :
    maskOf (bit :: bits) = 2 * maskOf bits + bit.toNat := rfl

theorem testBit_maskOf (bits : List Bool) (i : Nat) : (maskOf bits).testBit i = bits.getD i false := by
  induction bits generalizing i with
  | nil => simp [maskOf]
  | cons bit bits ih =>
    rw [maskOf_cons]
    cases i with
    | zero => cases bit <;> simp
    | succ i =>
      rw [Nat.testBit_succ, List.getD_cons_succ, ← ih i]
      have least := Bool.toNat_le bit
      congr 1
      omega

theorem maskOf_lt (bits : List Bool) : maskOf bits < 2 ^ bits.length := by
  induction bits with
  | nil => exact Nat.one_pos
  | cons bit bits ih =>
    rw [maskOf_cons, List.length_cons, Nat.pow_succ]
    have least := Bool.toNat_le bit
    omega

def before (cs : List Char) : Nat → Option Char
  | 0 => none
  | i + 1 => cs[i]?

theorem getElem?_sides (first : Option Char) (cs : List Char) (i : Nat) :
    (sides first cs)[i]? =
      if i ≤ cs.length then some (match i with | 0 => first | i + 1 => cs[i]?, cs[i]?) else none := by
  induction cs generalizing first i with
  | nil => cases i <;> simp [sides]
  | cons c cs ih =>
    cases i with
    | zero => simp [sides]
    | succ i =>
      rw [sides, List.getElem?_cons_succ, ih]
      cases i <;> simp

theorem testBit_char (test : Char → Bool) (cs : List Char) (i : Nat) :
    (char test cs).mask.testBit i = true ↔ ∃ c, cs[i]? = some c ∧ test c = true := by
  rw [char, testBit_maskOf, List.getD_eq_getElem?_getD, List.getElem?_map]
  cases cs[i]? <;> simp

theorem char_images (cs : List Char) (test : Char → Bool) :
    Regex.Images (cs.length + 1) (char test cs).after
      (fun i j => ∃ c, cs[i]? = some c ∧ test c = true ∧ j = i + 1) := by
  have mask : (char test cs).mask < 2 ^ cs.length := by
    have less := maskOf_lt (cs.map test)
    rwa [List.length_map] at less
  have after (starts : Nat) : (char test cs).after starts = (starts &&& (char test cs).mask) <<< 1 := rfl
  refine ⟨fun {starts} bound => ?_, fun {starts} bound j => ?_⟩
  · have taken := Nat.and_lt_two_pow starts mask
    rw [after, Nat.shiftLeft_eq, Nat.pow_succ]
    omega
  · rw [after, Nat.testBit_shiftLeft, Nat.testBit_and]
    simp only [Bool.and_eq_true, decide_eq_true_eq, testBit_char]
    constructor
    · rintro ⟨positive, start, c, found, holds⟩
      exact ⟨j - 1, start, c, found, holds, by omega⟩
    · rintro ⟨i, start, c, found, holds, rfl⟩
      exact ⟨Nat.le_add_left 1 i, start, c, found, holds⟩

end Step

namespace Pattern

/-- A set passes one of its characters; a condition stays where it holds. -/
def Atom.Leads (cs : List Char) (atom : Atom) (i j : Nat) : Prop :=
  match atom with
  | one set => ∃ c, cs[i]? = some c ∧ set.holds c.toNat = true ∧ j = i + 1
  | look condition => i ≤ cs.length ∧ condition.holdsBetween (Step.before cs i) cs[i]? = true ∧ j = i

theorem testBit_between (test : Option Char → Option Char → Bool) (cs : List Char) (i : Nat) :
    (Step.between test cs).mask.testBit i = true ↔
      i ≤ cs.length ∧ test (Step.before cs i) cs[i]? = true := by
  rw [Step.between, Step.testBit_maskOf, List.getD_eq_getElem?_getD, List.getElem?_map,
    Step.getElem?_sides]
  by_cases inside : i ≤ cs.length
  · cases i <;> simp [inside, Step.before]
  · simp [inside]

theorem Atom.images (cs : List Char) (atom : Atom) :
    Regex.Images (cs.length + 1) (Atom.step atom cs).after (atom.Leads cs) := by
  cases atom with
  | one set => exact Step.char_images cs (set.holds ·.toNat)
  | look condition =>
    have after (starts : Nat) : (Atom.step (.look condition) cs).after starts =
        starts &&& (Step.between (condition.holdsBetween · ·) cs).mask := rfl
    refine ⟨fun {starts} bound => ?_, fun {starts} bound j => ?_⟩
    · rw [after]
      exact Nat.lt_of_le_of_lt Nat.and_le_left bound
    · rw [after, Nat.testBit_and]
      simp only [Bool.and_eq_true, testBit_between, Atom.Leads]
      constructor
      · rintro ⟨start, inside, holds⟩
        exact ⟨j, start, inside, holds, rfl⟩
      · rintro ⟨i, start, inside, holds, rfl⟩
        exact ⟨start, inside, holds⟩

/-- A match of an expression that begins with the first character of a text and ends with the last. -/
def MatchesWhole (r : Regex Atom) (cs : List Char) : Prop := r.Leads (Atom.Leads cs) 0 cs.length

theorem accepts_iff_matchesWhole (r : Regex Atom) (cs : List Char) :
    r.accepts Atom.step cs = true ↔ MatchesWhole r cs :=
  Regex.accepts_iff (Atom.images cs) r

end Pattern

end ComputedColumns
