import ComputedColumns.Proofs.Binary64.Nearest
import ComputedColumns.Proofs.Binary64.Reader

namespace ComputedColumns.Binary64

open Text

variable {e : Fin 2047} {f : Fin 4503599627370496}

theorem unit_pos : 0 < unit := by
  unfold unit pow2
  generalize 1074 = n
  exact Nat.two_pow_pos n

theorem fives_pos : 0 < fives := by
  unfold fives
  generalize 1074 = n
  exact Nat.pow_pos (Nat.succ_pos 4)

theorem unit_mul_fives {p q : Nat} (whole : p + q = 1074) : unit * fives = 10 ^ p * 10 ^ q := by
  unfold unit fives
  rw [← whole, ← Nat.pow_add]
  exact (Nat.mul_pow 2 5 (p + q)).symm

theorem pow_ten_pos (n : Nat) : 0 < 10 ^ n := Nat.pow_pos (by decide)

theorem pow_ten_mul (n : Nat) : 10 ^ n * (unit * fives) = 10 ^ (n + 1074) := by
  obtain ⟨scale, whole⟩ : ∃ k, k + 0 = 1074 := ⟨1074, rfl⟩
  rw [unit_mul_fives whole, ← whole, Nat.pow_zero, Nat.mul_one, Nat.add_zero, Nat.pow_add]

theorem significand_pos (positive : 0 < magnitude e f) : 0 < significand e f := by
  rw [magnitude_eq] at positive
  exact Nat.pos_of_mul_pos_right positive

theorem spacingBelow_le_magnitude (positive : 0 < magnitude e f) :
    spacingBelow e f ≤ 2 * magnitude e f := by
  have narrow := spacingBelow_le e f
  have least : 1 * spacing e ≤ magnitude e f := by
    rw [magnitude_eq]
    exact Nat.mul_le_mul_right _ (significand_pos positive)
  omega

theorem InBasin.scale {num den num' den' : Nat} (inside : InBasin e f num den) (positive : 0 < den)
    (positive' : 0 < den') (same : num' * den = num * den') : InBasin e f num' den' := by
  refine ⟨?_, ?_, fun odd => ⟨?_, ?_⟩⟩
  · apply Nat.le_of_mul_le_mul_right _ positive
    linarith [Nat.mul_le_mul_right den' inside.low]
  · apply Nat.le_of_mul_le_mul_right _ positive
    linarith [Nat.mul_le_mul_right den' inside.high]
  · apply Nat.lt_of_mul_lt_mul_right (a := den)
    linarith [Nat.mul_lt_mul_of_pos_right (inside.odd odd).1 positive']
  · apply Nat.lt_of_mul_lt_mul_right (a := den)
    linarith [Nat.mul_lt_mul_of_pos_right (inside.odd odd).2 positive']

theorem holds_iff (positive : 0 < magnitude e f) (x : Nat) :
    (basin e f).holds x = true ↔ InBasin e f x fives := by
  have narrow := spacingBelow_le_magnitude positive
  have low : (basin e f).low + spacingBelow e f * fives = 4 * (magnitude e f * fives) := by
    have cut : (basin e f).low = (4 * magnitude e f - spacingBelow e f) * fives := rfl
    rw [cut, ← Nat.add_mul, Nat.sub_add_cancel (by omega), Nat.mul_assoc]
  have high : (basin e f).high = 4 * (magnitude e f * fives) + 2 * spacing e * fives := by
    have sum : (basin e f).high = (4 * magnitude e f + 2 * spacing e) * fives := rfl
    rw [sum, Nat.add_mul, Nat.mul_assoc]
  have closed : (basin e f).closed = (f.val % 2 == 0) := rfl
  unfold Basin.holds
  rw [closed]
  rcases Nat.mod_two_eq_zero_or_one f.val with even | odd
  · rw [even, if_pos (beq_self_eq_true 0), Bool.and_eq_true, decide_eq_true_iff, decide_eq_true_iff]
    constructor
    · rintro ⟨above, below⟩
      exact ⟨by omega, by omega, by omega⟩
    · rintro ⟨above, below, -⟩
      exact ⟨by omega, by omega⟩
  · rw [odd, if_neg (by decide), Bool.and_eq_true, decide_eq_true_iff, decide_eq_true_iff]
    constructor
    · rintro ⟨above, below⟩
      exact ⟨by omega, by omega, fun _ => by omega⟩
    · rintro ⟨-, -, strict⟩
      have strict := strict odd
      exact ⟨by omega, by omega⟩

theorem fives_le_of_inBasin {x : Nat} (positive : 0 < magnitude e f) (inside : InBasin e f x fives) :
    fives ≤ 2 * x := by
  have narrow := Nat.mul_le_mul_right fives (spacingBelow_le_magnitude positive)
  have least := Nat.mul_le_mul_right fives (Nat.succ_le_of_lt positive)
  have low := inside.low
  rw [Nat.mul_assoc] at narrow
  omega

theorem le_of_inBasin {x : Nat} (inside : InBasin e f x fives) :
    x ≤ pow2 1024 * (unit * fives) := by
  have wide (a b : Nat) (large : e.val - 1 ≤ a + b) : spacing e ≤ pow2 a * pow2 b := by
    rw [spacing_eq, ← pow2_add, pow2_eq]
    exact Nat.pow_le_pow_right (by decide) large
  have spaced : spacing e ≤ pow2 971 * unit := by
    rw [unit]
    exact wide 971 1074 (by omega)
  have leading : (significand e f + 1) * (spacing e * fives) ≤ 2 ^ 53 * (pow2 971 * unit * fives) :=
    Nat.mul_le_mul (significand_lt e f) (Nat.mul_le_mul_right fives spaced)
  have whole : pow2 1024 = 2 ^ 53 * pow2 971 := by
    rw [← pow2_eq, ← pow2_add]
  have high := inside.high
  rw [magnitude_eq] at high
  rw [whole]
  linarith [Nat.zero_le (spacing e * fives)]

theorem lt_places {c p n : Nat} (large : 10 ^ n ≤ c * 10 ^ p) : n < (digits c).length + p := by
  have bound := Nat.mul_lt_mul_of_pos_right (lt_pow_length_digits c) (pow_ten_pos p)
  rw [← Nat.pow_add] at bound
  exact (Nat.pow_lt_pow_iff_right (by decide)).mp (Nat.lt_of_le_of_lt large bound)

theorem places_le {c p n : Nat} (positive : 0 < c) (small : c * 10 ^ p < 10 ^ n) :
    (digits c).length + p ≤ n := by
  have start := Nat.mul_le_mul_right (10 ^ p) (pow_length_digits_le positive)
  rw [← Nat.pow_add] at start
  have less := (Nat.pow_lt_pow_iff_right (by decide)).mp (Nat.lt_of_le_of_lt start small)
  omega

theorem places_of_inBasin {c p : Nat} (positive : 0 < magnitude e f)
    (inside : InBasin e f (c * 10 ^ p) fives) :
    0 < c ∧ 743 < (digits c).length + p ∧ (digits c).length + p ≤ 1383 := by
  have low := fives_le_of_inBasin positive inside
  have high := le_of_inBasin inside
  have present : 0 < c := by
    rcases Nat.eq_zero_or_pos c with rfl | present
    · have more := fives_pos
      omega
    · exact present
  -- The powers are too large to be evaluated, so their exponents go by names.
  obtain ⟨least, same, smallest⟩ : ∃ n, n = 743 ∧ 2 * 10 ^ n < fives := ⟨743, rfl, by decide +kernel⟩
  obtain ⟨most, same', largest⟩ : ∃ n, n = 309 ∧ pow2 1024 < 10 ^ n := ⟨309, rfl, by decide +kernel⟩
  have above : 10 ^ least ≤ c * 10 ^ p := by omega
  have below : c * 10 ^ p < 10 ^ (most + 1074) := by
    rw [← pow_ten_mul]
    exact Nat.lt_of_le_of_lt high
      (Nat.mul_lt_mul_of_pos_right largest (Nat.mul_pos unit_pos fives_pos))
  have first := lt_places above
  have last := places_le present below
  omega

theorem exists_shift {p : Nat} (whole : 0 ≤ (p : Int) - 1074) :
    ∃ k, p = k + 1074 ∧ ((p : Int) - 1074).toNat = k :=
  ⟨p - 1074, by omega, by omega⟩

theorem whole_of_inBasin {c k : Nat} (inside : InBasin e f (c * 10 ^ (k + 1074)) fives) :
    InBasin e f (c * 10 ^ k * unit) 1 := by
  apply inside.scale fives_pos Nat.one_pos
  rw [← pow_ten_mul]
  ring

/-- The reader rounds every decimal of a basin to the number of the basin. -/
theorem ofScientific_of_inBasin (s : Bool) {c p : Nat} (positive : 0 < magnitude e f)
    (inside : InBasin e f (c * 10 ^ p) fives) : ofScientific s c (p - 1074) = finite s e f := by
  obtain ⟨present, low, high⟩ := places_of_inBasin positive inside
  unfold ofScientific
  dsimp only
  rw [if_neg (Nat.ne_of_gt present), if_neg (by omega), if_neg (by omega)]
  split
  · rename_i large
    obtain ⟨k, rfl, exponent⟩ := exists_shift large
    rw [exponent]
    exact nearest_of_inBasin s Nat.one_pos (whole_of_inBasin inside)
  · rename_i small
    have whole : p + ((p : Int) - 1074).natAbs = 1074 := by omega
    rw [Nat.pow_eq]
    apply nearest_of_inBasin s (pow_ten_pos _)
    apply inside.scale fives_pos (pow_ten_pos _)
    rw [Nat.mul_assoc, unit_mul_fives whole, Nat.mul_assoc]

theorem ofScientific_whole (s : Bool) {n : Nat} (positive : 0 < magnitude e f)
    (inside : InBasin e f (n * unit) 1) : ofScientific s n 0 = finite s e f := by
  obtain ⟨p, point⟩ : ∃ p, p + 0 = 1074 := ⟨1074, rfl⟩
  have decimal : InBasin e f (n * 10 ^ p) fives := by
    apply inside.scale Nat.one_pos fives_pos
    rw [Nat.mul_assoc n unit, unit_mul_fives point]
    ring
  have exponent : (0 : Int) = p - 1074 := by omega
  rw [exponent, ofScientific_of_inBasin s positive decimal]

theorem spacingBelow_pos (e : Fin 2047) (f : Fin 4503599627370496) : 0 < spacingBelow e f := by
  have positive := spacing_pos e
  unfold spacingBelow
  split <;> omega

theorem inBasin_self (e : Fin 2047) (f : Fin 4503599627370496) :
    InBasin e f (magnitude e f * fives) fives := by
  have below := Nat.mul_pos (spacingBelow_pos e f) fives_pos
  have above := Nat.mul_pos (Nat.mul_pos Nat.two_pos (spacing_pos e)) fives_pos
  exact ⟨by omega, by omega, fun _ => ⟨by omega, by omega⟩⟩

theorem holds_of_nearestOnGrid {b : Basin} {exact grid x : Nat}
    (found : nearestOnGrid b exact grid = some x) : b.holds x = true ∧ grid ∣ x := by
  unfold nearestOnGrid at found
  dsimp only at found
  have lower : grid ∣ exact / grid * grid := Nat.dvd_mul_left _ _
  have upper : grid ∣ exact / grid * grid + grid := Nat.dvd_add lower (Nat.dvd_refl _)
  split at found
  · rename_i first second
    cases found
    split
    · exact ⟨second, upper⟩
    · exact ⟨first, lower⟩
  · rename_i first second
    cases found
    exact ⟨first, lower⟩
  · rename_i first second
    cases found
    exact ⟨second, upper⟩
  · cases found

theorem holds_of_nearestOnGrid_eq_none {b : Basin} {exact grid : Nat}
    (missing : nearestOnGrid b exact grid = none) :
    ¬ b.holds (exact / grid * grid) = true ∧ ¬ b.holds (exact / grid * grid + grid) = true := by
  unfold nearestOnGrid at missing
  dsimp only at missing
  split at missing
  · cases missing
  · cases missing
  · cases missing
  · rename_i first second
    rw [first, second]
    exact ⟨Bool.false_ne_true, Bool.false_ne_true⟩

/-- A grid of which no neighbour of the number lies in its basin is wider than the basin. -/
theorem width_le_of_outside {lower upper : Nat} (before : lower ≤ magnitude e f * fives)
    (after : magnitude e f * fives ≤ upper) (outside : ¬ InBasin e f lower fives)
    (outside' : ¬ InBasin e f upper fives) :
    4 * lower + (spacingBelow e f + 2 * spacing e) * fives ≤ 4 * upper := by
  have below := Nat.mul_pos (spacingBelow_pos e f) fives_pos
  have above := Nat.mul_pos (Nat.mul_pos Nat.two_pos (spacing_pos e)) fives_pos
  have low : 4 * lower + spacingBelow e f * fives ≤ 4 * (magnitude e f * fives) := by
    by_contra near
    exact outside ⟨by omega, by omega, fun _ => ⟨by omega, by omega⟩⟩
  have high : 4 * (magnitude e f * fives) + 2 * spacing e * fives ≤ 4 * upper := by
    by_contra near
    exact outside' ⟨by omega, by omega, fun _ => ⟨by omega, by omega⟩⟩
  rw [Nat.add_mul]
  omega

theorem magnitude_lt_width (e : Fin 2047) (f : Fin 4503599627370496) :
    4 * magnitude e f < 10 ^ 16 * (spacingBelow e f + 2 * spacing e) := by
  have positive := spacing_pos e
  rw [magnitude_eq]
  unfold spacingBelow
  split
  · rename_i power
    have leading : significand e f = 2 ^ 52 := by
      rw [significand, if_neg (by omega), power.1, Nat.add_zero]
    rw [leading]
    omega
  · have bound := Nat.mul_lt_mul_of_pos_right (significand_lt e f) positive
    omega

theorem neighbours {grid : Nat} (positive : 0 < grid) (exact : Nat) :
    exact / grid * grid ≤ exact ∧ exact ≤ exact / grid * grid + grid :=
  ⟨Nat.div_mul_le_self exact grid, Nat.le_of_lt (Nat.lt_div_mul_add positive)⟩

theorem length_exact (positive : 0 < magnitude e f) :
    743 < (digits (magnitude e f * fives)).length := by
  have self : InBasin e f (magnitude e f * fives * 10 ^ 0) fives := by
    rw [Nat.pow_zero, Nat.mul_one]
    exact inBasin_self e f
  obtain ⟨-, long, -⟩ := places_of_inBasin positive self
  rwa [Nat.add_zero] at long

theorem nearestOnGrid_seventeen (positive : 0 < magnitude e f) :
    nearestOnGrid (basin e f) (magnitude e f * fives)
      (10 ^ ((digits (magnitude e f * fives)).length - 17)) ≠ none := by
  intro missing
  obtain ⟨first, second⟩ := holds_of_nearestOnGrid_eq_none missing
  rw [holds_iff positive] at first second
  have long := length_exact positive
  have start := pow_length_digits_le (Nat.mul_pos positive fives_pos)
  generalize (digits (magnitude e f * fives)).length = length at *
  obtain ⟨places, rfl⟩ : ∃ places, length = places + 17 := ⟨length - 17, by omega⟩
  have sixteen : places + 17 - 1 = 16 + places := by omega
  rw [sixteen, Nat.pow_add] at start
  rw [Nat.add_sub_cancel] at first second
  obtain ⟨before, after⟩ := neighbours (pow_ten_pos places) (magnitude e f * fives)
  have narrow := width_le_of_outside before after first second
  have wide := Nat.mul_lt_mul_of_pos_right (magnitude_lt_width e f) fives_pos
  rw [Nat.mul_assoc, Nat.mul_assoc] at wide
  omega

/-- The decimal is a point of the basin and takes up at most seventeen places of the exact value. -/
structure Fits (e : Fin 2047) (f : Fin 4503599627370496) (c p : Nat) : Prop where
  inside : InBasin e f (c * 10 ^ p) fives
  places : (digits (magnitude e f * fives)).length ≤ p + 17

theorem findSome?_range {α : Type} {n : Nat} {g : Nat → Option α} {found : α}
    (hit : (List.range n).findSome? g = some found) :
    ∃ i < n, g i = some found ∧ ∀ j < i, g j = none := by
  induction n with
  | zero => cases hit
  | succ n ih =>
    rw [List.range_succ, List.findSome?_append] at hit
    cases earlier : (List.range n).findSome? g with
    | some y =>
      rw [earlier, Option.some_or] at hit
      obtain ⟨i, few, first⟩ := ih (earlier.trans hit)
      exact ⟨i, Nat.lt_succ_of_lt few, first⟩
    | none =>
      rw [earlier, Option.none_or, List.findSome?_singleton] at hit
      have missed := List.findSome?_eq_none_iff.mp earlier
      exact ⟨n, Nat.lt_succ_self n, hit, fun j less => missed j (List.mem_range.mpr less)⟩

/-- The coarsest grid with a point in the basin gives the shortest decimal. A last zero goes into the power
of ten. -/
theorem shortest_found (positive : 0 < magnitude e f) :
    ∃ i < 17, ∃ c p : Nat, shortest e f = ⟨c, p - 1074⟩ ∧
      (digits (magnitude e f * fives)).length - (i + 1) ≤ p ∧
      nearestOnGrid (basin e f) (magnitude e f * fives)
        (10 ^ ((digits (magnitude e f * fives)).length - (i + 1))) = some (c * 10 ^ p) ∧
      ∀ j < i, nearestOnGrid (basin e f) (magnitude e f * fives)
        (10 ^ ((digits (magnitude e f * fives)).length - (j + 1))) = none := by
  have long := length_exact positive
  unfold shortest
  dsimp only
  cases found : List.findSome? _ (List.range 17) with
  | none =>
    -- Seventeen digits are always enough.
    have missing := List.findSome?_eq_none_iff.mp found 16 (by decide)
    exact absurd (Option.map_eq_none_iff.mp missing) (nearestOnGrid_seventeen positive)
  | some decimal =>
    obtain ⟨i, few, hit, missed⟩ := findSome?_range found
    obtain ⟨x, point, rfl⟩ := Option.map_eq_some_iff.mp hit
    have earlier (j : Nat) (less : j < i) := Option.map_eq_none_iff.mp (missed j less)
    have divides := (holds_of_nearestOnGrid point).2
    simp only [Nat.pow_eq] at point earlier divides
    rw [Option.getD_some]
    simp only [Nat.pow_eq]
    refine ⟨i, few, ?_⟩
    obtain ⟨p, places⟩ : ∃ p, p = (digits (magnitude e f * fives)).length - (i + 1) := ⟨_, rfl⟩
    have exponent : ((digits (magnitude e f * fives)).length : Int) - (i + 1) - 1074 = p - 1074 := by omega
    rw [exponent]
    rw [← places] at point divides ⊢
    obtain ⟨c, rfl⟩ := divides
    rw [Nat.mul_div_cancel_left c (pow_ten_pos p)]
    split
    · rename_i zero
      obtain ⟨d, rfl⟩ := Nat.dvd_of_mod_eq_zero zero
      refine ⟨d, p + 1, ?_, Nat.le_succ p, ?_, earlier⟩
      · rw [Nat.mul_div_cancel_left d (by decide), Nat.cast_succ]
        congr 1
        omega
      · rw [point, Nat.pow_succ]
        congr 1
        ring
    · exact ⟨c, p, rfl, Nat.le_refl p, by rw [point, Nat.mul_comm], earlier⟩

theorem shortest_eq (positive : 0 < magnitude e f) :
    ∃ c p : Nat, shortest e f = ⟨c, p - 1074⟩ ∧ Fits e f c p := by
  obtain ⟨i, few, c, p, decimal, places, point, -⟩ := shortest_found positive
  refine ⟨c, p, decimal, ?_, by omega⟩
  exact (holds_iff positive _).mp (holds_of_nearestOnGrid point).1

theorem nearestOnGrid_self {b : Basin} {exact grid : Nat} (wide : 0 < grid) (onGrid : grid ∣ exact)
    (inside : b.holds exact = true) : nearestOnGrid b exact grid = some exact := by
  have same : exact / grid * grid = exact := Nat.div_mul_cancel onGrid
  have farther : ¬ exact + grid - exact ≤ exact - exact := by omega
  unfold nearestOnGrid
  dsimp only
  rw [same, inside]
  cases b.holds (exact + grid) with
  | true => exact congrArg some (if_neg farther)
  | false => rfl

/-- What lies on a grid of up to seventeen digits has no more digits than that grid, and is its own shortest
decimal if it has as many. -/
theorem shortest_of_dvd (positive : 0 < magnitude e f) {g : Nat}
    (onGrid : 10 ^ g ∣ magnitude e f * fives)
    (few : (digits (magnitude e f * fives)).length ≤ g + 17) :
    ∃ c p : Nat, shortest e f = ⟨c, p - 1074⟩ ∧ Fits e f c p ∧ g ≤ p ∧
      (p = g → c * 10 ^ p = magnitude e f * fives) := by
  obtain ⟨i, few', c, p, decimal, places, point, missed⟩ := shortest_found positive
  have inside : (basin e f).holds (magnitude e f * fives) = true :=
    (holds_iff positive _).mpr (inBasin_self e f)
  have long : g < (digits (magnitude e f * fives)).length + 0 := by
    apply lt_places
    rw [Nat.pow_zero, Nat.mul_one]
    exact Nat.le_of_dvd (Nat.mul_pos positive fives_pos) onGrid
  generalize length : (digits (magnitude e f * fives)).length = n at *
  have self := nearestOnGrid_self (pow_ten_pos g) onGrid inside
  have coarse : g ≤ n - (i + 1) := by
    by_contra fine
    have missing := missed (n - (g + 1)) (by omega)
    rw [show n - (n - (g + 1) + 1) = g by omega, self] at missing
    cases missing
  refine ⟨c, p, decimal, ⟨(holds_iff positive _).mp (holds_of_nearestOnGrid point).1, by omega⟩,
    coarse.trans places, ?_⟩
  rintro rfl
  have same : n - (i + 1) = p := Nat.le_antisymm places coarse
  rw [same, self] at point
  exact (Option.some.inj point).symm

theorem eq_zero_of_magnitude (empty : magnitude e f = 0) (s : Bool) : finite s e f = zero s := by
  have leading : significand e f = 0 := by
    rw [magnitude_eq] at empty
    exact (Nat.mul_eq_zero.mp empty).resolve_right (Nat.ne_of_gt (spacing_pos e))
  have exponent : e.val = 0 := by
    by_contra positive
    have least := le_significand (f := f) positive
    omega
  rw [significand, if_pos exponent] at leading
  have sameExponent : e = 0 := Fin.ext exponent
  have sameFraction : f = 0 := Fin.ext leading
  rw [sameExponent, sameFraction, zero]

theorem ofScientific_zero (s : Bool) (x : Int) : ofScientific s 0 x = zero s := rfl

theorem readUnsigned_shortest (positive : 0 < magnitude e f) (s : Bool) :
    readUnsigned s (shortest e f).positional = some (finite s e f) := by
  obtain ⟨c, p, decimal, fits⟩ := shortest_eq positive
  rw [decimal, Scientific.positional]
  dsimp only
  split
  · rename_i large
    obtain ⟨k, rfl, exponent⟩ := exists_shift large
    rw [exponent,
      readUnsigned_whole (shifted_ne_nil c k) (fun _ member => isDigit_of_mem_shifted member),
      ofDigits_append_zeros, ofDigits_digits,
      ofScientific_whole s positive (whole_of_inBasin fits.inside)]
  · rename_i small
    have exponent : -((((p : Int) - 1074).natAbs : Nat) : Int) = p - 1074 := by omega
    rw [readUnsigned_withPoint (digits_ne_nil c) (fun _ member => isDigit_of_mem_digits member),
      ofDigits_digits, exponent, ofScientific_of_inBasin s positive fits.inside]

/-- The decimal text of a finite number is read back as the number, with its sign. -/
theorem read_display_finite (s : Bool) (e : Fin 2047) (f : Fin 4503599627370496) :
    read (finite s e f).display = some (finite s e f) := by
  rw [display]
  split
  · rename_i empty
    have single : Positional ['0'] := .whole (List.cons_ne_nil _ _) (List.forall_mem_singleton.mpr rfl)
    rw [read_withSign single, eq_zero_of_magnitude empty]
    rfl
  · rename_i positive
    rw [read_withSign (positional_shortest _), readUnsigned_shortest (Nat.pos_of_ne_zero positive)]

theorem quotientToEven_mul {den : Nat} (positive : 0 < den) (q : Nat) :
    quotientToEven (q * den) den = q :=
  quotientToEven_eq positive (by omega) (by omega) fun _ => ⟨by omega, by omega⟩

theorem read_fixed_one (whole : unit ∣ magnitude e f) (s : Bool) :
    read ((finite s e f).fixed 1) = some (finite s e f) := by
  obtain ⟨n, value⟩ := whole
  have tenfold : magnitude e f * Nat.pow 10 1 = n * 10 * unit := by
    rw [value, Nat.pow_eq]
    ring
  have present := digits_ne_nil (n * 10)
  have all : ∀ d ∈ digits (n * 10), isDigit d = true := fun _ member => isDigit_of_mem_digits member
  rw [fixed, tenfold, quotientToEven_mul unit_pos, read_withSign (positional_withPoint present all 1),
    readUnsigned_withPoint present all, ofDigits_digits]
  rcases Nat.eq_zero_or_pos (magnitude e f) with empty | positive
  · have none : n = 0 := by
      rw [empty] at value
      exact (Nat.mul_eq_zero.mp value.symm).resolve_left (Nat.ne_of_gt unit_pos)
    rw [none, Nat.zero_mul, ofScientific_zero, eq_zero_of_magnitude empty]
  · obtain ⟨p, point⟩ : ∃ p, p + 1 = 1074 := ⟨1073, rfl⟩
    have inside : InBasin e f (n * 10 * 10 ^ p) fives := by
      have same : n * 10 * 10 ^ p = magnitude e f * fives := by
        rw [value, Nat.mul_comm unit, Nat.mul_assoc n unit, unit_mul_fives point]
        ring
      rw [same]
      exact inBasin_self e f
    have exponent : -((1 : Nat) : Int) = p - 1074 := by omega
    rw [exponent, ofScientific_of_inBasin s positive inside]

end ComputedColumns.Binary64
