import Mathlib.Algebra.Order.Field.Rat
import Mathlib.Data.Rat.Cast.Order
import Mathlib.Order.Monotone.Basic
import Mathlib.Tactic.FieldSimp
import Mathlib.Tactic.Linarith
import Mathlib.Tactic.NormNum
import Mathlib.Tactic.Positivity
import Mathlib.Tactic.Push
import QueryCheck.Proofs.ReadBack

/-!
The values of magnitudes, and rounding to the nearest of them. Counted in smallest subnormals
the values rise from one magnitude to the next, by a step that doubles every `2 ^ 52`
magnitudes from the second such row on. The count is the value that the exponent and fraction
bits stand for.
-/
namespace QueryCheck.Binary64

theorem units_eq (magnitude : ℕ) :
    units magnitude = significand magnitude * 2 ^ doublings magnitude := rfl

theorem doublings_eq (magnitude : ℕ) : doublings magnitude = magnitude / 2 ^ 52 - 1 := rfl

theorem significand_eq (magnitude : ℕ) :
    significand magnitude = magnitude - doublings magnitude * 2 ^ 52 := rfl

theorem units_placed {dropped rounded : ℕ} (least : dropped = 0 ∨ 2 ^ 52 ≤ rounded)
    (most : rounded < 2 ^ 53) : units (dropped * 2 ^ 52 + rounded) = rounded * 2 ^ dropped := by
  have same : doublings (dropped * 2 ^ 52 + rounded) = dropped := by
    rw [doublings_eq]
    omega
  rw [units_eq, significand_eq, same, Nat.add_sub_cancel_left]

theorem units_succ (magnitude : ℕ) :
    units (magnitude + 1) = units magnitude + 2 ^ doublings magnitude := by
  have split := doublings_add_significand magnitude
  have less := significand_lt magnitude
  have count := units_eq magnitude
  have least : doublings magnitude = 0 ∨ 2 ^ 52 ≤ significand magnitude := by
    by_cases normal : doublings magnitude = 0
    · exact .inl normal
    · exact .inr (significand_normal normal)
  generalize doublings magnitude = dropped at *
  generalize significand magnitude = rounded at *
  subst split
  rw [count]
  rcases Nat.lt_or_eq_of_le (Nat.succ_le_of_lt less) with inside | carried
  · rw [Nat.add_assoc]
    change units (dropped * 2 ^ 52 + (rounded + 1)) = _
    rw [units_placed (least.imp_right Nat.le_succ_of_le) inside, Nat.succ_mul]
  · -- The row is full: the next significand begins with its least value.
    have next : dropped * Nat.pow 2 52 + rounded + 1 = (dropped + 1) * 2 ^ 52 + 2 ^ 52 := by
      simp only [Nat.pow_eq] at *
      omega
    have full : rounded + 1 = 2 ^ 53 := carried
    rw [next, units_placed (.inr le_rfl) (by decide), ← Nat.succ_mul, Nat.succ_eq_add_one, full,
      pow_succ 2 dropped]
    omega

theorem units_strictMono : StrictMono units := by
  apply strictMono_nat_of_lt_succ
  intro magnitude
  rw [units_succ]
  exact Nat.lt_add_of_pos_right (Nat.two_pow_pos _)

theorem units_carried {dropped rounded : ℕ} (least : dropped = 0 ∨ 2 ^ 52 ≤ rounded)
    (most : rounded ≤ 2 ^ 53) : units (dropped * 2 ^ 52 + rounded) = rounded * 2 ^ dropped := by
  rcases Nat.lt_or_eq_of_le most with inside | rfl
  · exact units_placed least inside
  · have next : dropped * 2 ^ 52 + 2 ^ 53 = (dropped + 1) * 2 ^ 52 + 2 ^ 52 := by omega
    rw [next, units_placed (.inr le_rfl) (by decide), pow_succ 2 dropped]
    omega

theorem units_subnormal {magnitude : ℕ} (few : magnitude ≤ 2 ^ 53) :
    units magnitude = magnitude := by
  simpa using @units_carried 0 magnitude (.inl rfl) few

theorem units_below_or_step (dropped magnitude : ℕ) :
    (0 < dropped ∧ units magnitude < 2 ^ 52 * 2 ^ dropped) ∨
      ∃ steps, units magnitude = steps * 2 ^ dropped := by
  rcases Nat.lt_or_ge (doublings magnitude) dropped with below | above
  · have first : magnitude < dropped * 2 ^ 52 + 2 ^ 52 := by
      rw [doublings_eq] at below
      omega
    have rises := units_strictMono first
    rw [units_placed (.inr le_rfl) (by decide)] at rises
    exact .inl ⟨by omega, rises⟩
  · obtain ⟨more, same⟩ := Nat.exists_eq_add_of_le above
    refine .inr ⟨significand magnitude * 2 ^ more, ?_⟩
    rw [units_eq, same, pow_add, mul_assoc, mul_comm (2 ^ more)]

/-- The absolute value of a finite magnitude: behind the exponent bits the fraction bits, with
a one in front of them unless the exponent bits are all zero. -/
def size (magnitude : ℕ) : ℚ :=
  let exponent : ℕ := magnitude / 2 ^ 52
  let fraction : ℕ := magnitude % 2 ^ 52
  if exponent = 0 then fraction * 2 ^ (-1074 : ℤ)
  else (2 ^ 52 + fraction) * 2 ^ ((exponent : ℤ) - 1075)

theorem size_eq_units (magnitude : ℕ) : size magnitude = units magnitude * 2 ^ (-1074 : ℤ) := by
  have split := Nat.div_add_mod magnitude (2 ^ 52)
  have rest := Nat.mod_lt magnitude (show 0 < 2 ^ 52 by decide)
  unfold size
  dsimp only
  generalize magnitude / 2 ^ 52 = exponent at *
  generalize magnitude % 2 ^ 52 = fraction at *
  subst split
  split
  · rename_i subnormal
    rw [subnormal, Nat.mul_zero, Nat.zero_add, units_subnormal (by omega)]
  · rename_i normal
    obtain ⟨dropped, rfl⟩ := Nat.exists_eq_succ_of_ne_zero normal
    have placed : 2 ^ 52 * dropped.succ + fraction = dropped * 2 ^ 52 + (2 ^ 52 + fraction) := by
      rw [Nat.succ_eq_add_one]
      omega
    rw [placed, units_placed (.inr (Nat.le_add_right _ _)) (by omega)]
    have power : (2 : ℚ) ^ ((dropped.succ : ℤ) - 1075) = 2 ^ dropped * 2 ^ (-1074 : ℤ) := by
      rw [← zpow_natCast, ← zpow_add₀ two_ne_zero]
      congr 1
      push_cast
      ring
    rw [power, ← mul_assoc]
    congr 1
    push_cast
    rfl

/-!
Rounding to the nearest number. The magnitude chosen for a quotient has no other nearer to
it, and is even where another is as near. The bounds between neighbouring magnitudes follow,
with those of zero and of infinity among them.
-/

section Whole

theorem roundHalfEven_between (numerator denominator : ℕ) :
    numerator / denominator ≤ roundHalfEven numerator denominator ∧
      roundHalfEven numerator denominator ≤ numerator / denominator + 1 := by
  simp only [roundHalfEven]
  split
  · omega
  · split <;> omega

-- A natural is within half of the amount, and even when it is just half away.
def Within (amount : ℚ) (whole : ℕ) : Prop :=
  |(whole : ℚ) - amount| < 1 / 2 ∨ |(whole : ℚ) - amount| = 1 / 2 ∧ whole % 2 = 0

theorem quotient_split (numerator : ℕ) {denominator : ℕ} (positive : 0 < denominator) :
    (numerator : ℚ) / denominator =
      (numerator / denominator : ℕ) + ((numerator % denominator : ℕ) : ℚ) / denominator := by
  have proper : (denominator : ℚ) ≠ 0 := Nat.cast_ne_zero.mpr positive.ne'
  rw [div_eq_iff proper, add_mul, div_mul_cancel₀ _ proper, mul_comm _ (denominator : ℚ)]
  exact_mod_cast (Nat.div_add_mod numerator denominator).symm

theorem remainder_bounds (numerator : ℕ) {denominator : ℕ} (positive : 0 < denominator) :
    0 ≤ ((numerator % denominator : ℕ) : ℚ) / denominator ∧
      ((numerator % denominator : ℕ) : ℚ) / denominator < 1 := by
  constructor
  · exact div_nonneg (Nat.cast_nonneg _) (Nat.cast_nonneg _)
  · rw [div_lt_one (Nat.cast_pos.mpr positive)]
    exact_mod_cast Nat.mod_lt numerator positive

theorem roundHalfEven_within (numerator : ℕ) {denominator : ℕ} (positive : 0 < denominator) :
    Within (numerator / denominator) (roundHalfEven numerator denominator) := by
  have proper : (0 : ℚ) < denominator := Nat.cast_pos.mpr positive
  obtain ⟨start, rest⟩ := remainder_bounds numerator positive
  have below : 2 * (numerator % denominator) < denominator ↔
      ((numerator % denominator : ℕ) : ℚ) / denominator < 1 / 2 := by
    rw [div_lt_div_iff₀ proper two_pos, one_mul, mul_comm]
    exact_mod_cast Iff.rfl
  have above : denominator < 2 * (numerator % denominator) ↔
      1 / 2 < ((numerator % denominator : ℕ) : ℚ) / denominator := by
    rw [div_lt_div_iff₀ two_pos proper, one_mul, mul_comm _ (2 : ℚ)]
    exact_mod_cast Iff.rfl
  rw [Within, quotient_split numerator positive]
  simp only [roundHalfEven, below, above]
  generalize ((numerator % denominator : ℕ) : ℚ) / denominator = part at *
  generalize numerator / denominator = quotient at *
  split
  · left
    rw [sub_add_cancel_left, abs_neg, abs_of_nonneg start]
    assumption
  · split
    · left
      push_cast
      rw [add_sub_add_left_eq_sub, abs_of_pos (by linarith)]
      linarith
    · right
      have half : part = 1 / 2 := by linarith
      subst half
      rcases Nat.mod_two_eq_zero_or_one quotient with even | odd
      · rw [even, Nat.add_zero, sub_add_cancel_left, abs_neg]
        exact ⟨abs_of_pos (by norm_num), even⟩
      · rw [odd]
        push_cast
        rw [add_sub_add_left_eq_sub]
        exact ⟨by norm_num, by omega⟩

theorem Within.nearest {amount : ℚ} {whole : ℕ} (within : Within amount whole) (other : ℕ) :
    |(whole : ℚ) - amount| ≤ |(other : ℚ) - amount| ∧
      (other ≠ whole → |(other : ℚ) - amount| = |(whole : ℚ) - amount| → whole % 2 = 0) := by
  by_cases same : other = whole
  · subst same
    exact ⟨le_rfl, fun differs => absurd rfl differs⟩
  · have apart : (1 : ℚ) ≤ |(other : ℚ) - whole| := by
      have whole_apart : (1 : ℤ) ≤ |(other : ℤ) - whole| := by
        apply Int.one_le_abs
        omega
      exact_mod_cast whole_apart
    have triangle := abs_sub_le (other : ℚ) amount whole
    rw [abs_sub_comm amount] at triangle
    rcases within with inside | ⟨half, even⟩
    · exact ⟨by linarith, fun _ equal => by linarith⟩
    · exact ⟨by linarith, fun _ _ => even⟩

end Whole

/-- No other magnitude is nearer to an amount of units, and one that is as near makes this
one even. There is no largest exponent here. -/
structure Nearest (amount : ℚ) (magnitude : ℕ) : Prop where
  nearer : ∀ other, |(units magnitude : ℚ) - amount| ≤ |(units other : ℚ) - amount|
  even : ∀ other ≠ magnitude,
    |(units other : ℚ) - amount| = |(units magnitude : ℚ) - amount| → magnitude % 2 = 0

theorem nearest_of_row {amount : ℚ} {dropped whole : ℕ} (many : dropped = 0 ∨ 2 ^ 52 ≤ whole)
    (few : whole ≤ 2 ^ 53) (reached : dropped = 0 ∨ 2 ^ 52 * 2 ^ dropped ≤ amount)
    (within : Within (amount / 2 ^ dropped) whole) :
    Nearest amount (dropped * 2 ^ 52 + whole) := by
  have step : (0 : ℚ) < 2 ^ dropped := by positivity
  have distance (steps : ℕ) : |(steps : ℚ) * 2 ^ dropped - amount| =
      |(steps : ℚ) - amount / 2 ^ dropped| * 2 ^ dropped := by
    rw [← abs_of_pos step, ← abs_mul, abs_of_pos step, sub_mul, div_mul_cancel₀ _ step.ne']
  have placed : (units (dropped * 2 ^ 52 + whole) : ℚ) = whole * 2 ^ dropped := by
    exact_mod_cast units_carried many few
  -- A magnitude below the row is farther off than the first one of the row.
  have below (other : ℕ) (some : 0 < dropped) (under : units other < 2 ^ 52 * 2 ^ dropped) :
      |(units (dropped * 2 ^ 52 + whole) : ℚ) - amount| < |(units other : ℚ) - amount| := by
    have reached := reached.resolve_left some.ne'
    have first := mul_le_mul_of_nonneg_right (within.nearest (2 ^ 52)).1 step.le
    rw [← distance, ← distance, Nat.cast_pow, Nat.cast_ofNat, ← placed] at first
    have under : (units other : ℚ) < 2 ^ 52 * 2 ^ dropped := by exact_mod_cast under
    rw [abs_of_nonpos (by linarith : (2 : ℚ) ^ 52 * 2 ^ dropped - amount ≤ 0)] at first
    rw [abs_of_neg (by linarith : (units other : ℚ) - amount < 0)]
    linarith
  constructor
  · intro other
    rcases units_below_or_step dropped other with ⟨some, under⟩ | ⟨steps, same⟩
    · exact (below other some under).le
    · rw [placed, same, Nat.cast_mul, Nat.cast_pow, Nat.cast_ofNat, distance, distance]
      exact mul_le_mul_of_nonneg_right (within.nearest steps).1 step.le
  · intro other differs equal
    rcases units_below_or_step dropped other with ⟨some, under⟩ | ⟨steps, same⟩
    · exact absurd equal (below other some under).ne'
    · rw [placed, same, Nat.cast_mul, Nat.cast_pow, Nat.cast_ofNat, distance, distance] at equal
      have even : whole % 2 = 0 := by
        apply (within.nearest steps).2
        · rintro rfl
          apply differs
          apply units_strictMono.injective
          rw [same, units_carried many few]
        · exact mul_right_cancel₀ step.ne' equal
      omega

def unitsInOne : ℕ := Nat.pow 2 1074

theorem unitsInOne_eq : (unitsInOne : ℚ) = 2 ^ ((1074 : ℕ) : ℤ) := by
  delta unitsInOne
  generalize 1074 = bits
  rw [zpow_natCast]
  exact Nat.cast_pow 2 bits

theorem unitsInOne_pos : (0 : ℚ) < unitsInOne := by
  rw [unitsInOne_eq]
  exact zpow_pos two_pos _

theorem units_eq_size (magnitude : ℕ) : (units magnitude : ℚ) = size magnitude * unitsInOne := by
  have inverse : (2 : ℚ) ^ (-1074 : ℤ) * unitsInOne = 1 := by
    rw [unitsInOne_eq, ← zpow_add₀ two_ne_zero]
    rfl
  rw [size_eq_units, mul_assoc, inverse, mul_one]

theorem size_strictMono : StrictMono size := by
  intro low high less
  have rises : (units low : ℚ) < units high := by exact_mod_cast units_strictMono less
  rw [units_eq_size, units_eq_size] at rises
  exact lt_of_mul_lt_mul_right rises unitsInOne_pos.le

-- The magnitude that a count of units, given as a quotient, is rounded to before the largest
-- exponent is looked at.
def rounded (scaled denominator : ℕ) : ℕ :=
  let dropped := Nat.log2 (scaled / denominator) - 52
  dropped * 2 ^ 52 + roundHalfEven scaled (denominator * 2 ^ dropped)

theorem nearest_eq_min (numerator denominator : ℕ) :
    nearest numerator denominator =
      min infinity (rounded (numerator * unitsInOne) denominator) := by
  delta unitsInOne
  rfl

theorem quotient_bits (quotient : ℕ) :
    (quotient.log2 - 52 = 0 ∨ 2 ^ 52 * 2 ^ (quotient.log2 - 52) ≤ quotient) ∧
      quotient < 2 ^ 53 * 2 ^ (quotient.log2 - 52) := by
  rw [← pow_add, ← pow_add]
  constructor
  · rcases Nat.eq_zero_or_pos (quotient.log2 - 52) with none | some
    · exact .inl none
    · right
      rw [Nat.add_sub_cancel' (by omega)]
      apply Nat.log2_self_le
      rintro rfl
      simp at some
  · apply Nat.lt_of_lt_of_le Nat.lt_log2_self
    apply Nat.pow_le_pow_right (by decide)
    omega

theorem rounded_nearest (scaled : ℕ) {denominator : ℕ} (positive : 0 < denominator) :
    Nearest (scaled / denominator) (rounded scaled denominator) := by
  unfold rounded
  dsimp only
  obtain ⟨low, high⟩ := quotient_bits (scaled / denominator)
  generalize (scaled / denominator).log2 - 52 = dropped at *
  have step : 0 < 2 ^ dropped := Nat.two_pow_pos dropped
  obtain ⟨least, most⟩ := roundHalfEven_between scaled (denominator * 2 ^ dropped)
  rw [← Nat.div_div_eq_div_mul] at least most
  apply nearest_of_row
  · apply low.imp_right
    intro bound
    exact ((Nat.le_div_iff_mul_le step).mpr bound).trans least
  · apply most.trans
    exact Nat.succ_le_of_lt (Nat.div_lt_of_lt_mul (by rwa [mul_comm] at high))
  · apply low.imp_right
    intro bound
    rw [le_div_iff₀ (Nat.cast_pos.mpr positive)]
    exact_mod_cast (Nat.le_div_iff_mul_le positive).mp bound
  · have within := roundHalfEven_within scaled (Nat.mul_pos positive step)
    rwa [Nat.cast_mul, Nat.cast_pow, Nat.cast_ofNat, ← div_div] at within

section Bounds

variable {amount : ℚ} {magnitude : ℕ}

theorem nearer_iff {low high : ℚ} (rises : low < high) :
    |low - amount| ≤ |high - amount| ↔ 2 * amount ≤ low + high := by
  have squares : (high - amount) ^ 2 - (low - amount) ^ 2 =
      (high - low) * (low + high - 2 * amount) := by ring
  rw [← sq_le_sq, ← sub_nonneg, squares, mul_nonneg_iff_of_pos_left (sub_pos.mpr rises),
    sub_nonneg]

theorem farther_iff {low high : ℚ} (rises : low < high) :
    |high - amount| ≤ |low - amount| ↔ low + high ≤ 2 * amount := by
  have squares : (low - amount) ^ 2 - (high - amount) ^ 2 =
      (high - low) * (2 * amount - (low + high)) := by ring
  rw [← sq_le_sq, ← sub_nonneg, squares, mul_nonneg_iff_of_pos_left (sub_pos.mpr rises),
    sub_nonneg]

theorem units_lt {low high : ℕ} (less : low < high) : (units low : ℚ) < units high := by
  exact_mod_cast units_strictMono less

/-- The amounts rounded to a magnitude or below it end halfway to the next one; the point
itself belongs to the even one of the two. -/
theorem Nearest.le_iff (near : Nearest amount magnitude) (bound : ℕ) :
    magnitude ≤ bound ↔ 2 * amount < units bound + units (bound + 1) ∨
      2 * amount = units bound + units (bound + 1) ∧ bound % 2 = 0 := by
  have rises := units_lt bound.lt_succ_self
  constructor
  · intro within
    have upper := (nearer_iff (units_lt (Nat.lt_succ_of_le within))).mp (near.nearer _)
    rcases Nat.lt_or_eq_of_le within with below | rfl
    · have lower := units_lt below
      exact .inl (by linarith)
    · apply upper.lt_or_eq.imp_right
      intro middle
      refine ⟨middle, near.even (magnitude + 1) (by omega) (le_antisymm ?_ ?_)⟩
      · exact (farther_iff rises).mpr middle.ge
      · exact (nearer_iff rises).mpr middle.le
  · intro limit
    by_contra! beyond
    have lower := (farther_iff (units_lt beyond)).mp (near.nearer _)
    rcases Nat.lt_or_eq_of_le (Nat.succ_le_of_lt beyond) with above | rfl
    · have upper := units_lt above
      rcases limit with less | ⟨middle, -⟩ <;> linarith
    · rcases limit with less | ⟨middle, even⟩
      · linarith
      · have odd := near.even bound (by omega) (le_antisymm
          ((nearer_iff rises).mpr middle.le) ((farther_iff rises).mpr middle.ge))
        omega

theorem Nearest.mono {more : ℚ} {other : ℕ} (near : Nearest amount magnitude)
    (nearMore : Nearest more other) (ordered : amount ≤ more) : magnitude ≤ other := by
  rw [near.le_iff]
  rcases (nearMore.le_iff other).mp le_rfl with below | ⟨middle, even⟩
  · exact .inl (by linarith)
  · rcases ordered.lt_or_eq with less | rfl
    · exact .inl (by linarith)
    · exact .inr ⟨middle, even⟩

end Bounds

/-- The magnitude of an amount: the nearest one, and infinity where that would be beyond. -/
def RoundedAs (amount : ℚ) (magnitude : ℕ) : Prop :=
  ∃ near, Nearest (amount * unitsInOne) near ∧ magnitude = min infinity near

namespace RoundedAs

variable {amount : ℚ} {magnitude : ℕ}

theorem le_iff (rounds : RoundedAs amount magnitude) {bound : ℕ} (finite : bound < infinity) :
    magnitude ≤ bound ↔ 2 * amount < size bound + size (bound + 1) ∨
      2 * amount = size bound + size (bound + 1) ∧ bound % 2 = 0 := by
  obtain ⟨near, nearest, rfl⟩ := rounds
  have within : min infinity near ≤ bound ↔ near ≤ bound := by omega
  rw [within, nearest.le_iff, units_eq_size, units_eq_size, ← mul_assoc, ← add_mul,
    mul_lt_mul_iff_left₀ unitsInOne_pos, mul_left_inj' unitsInOne_pos.ne']

theorem upper (rounds : RoundedAs amount magnitude) (finite : magnitude < infinity) :
    2 * amount ≤ size magnitude + size (magnitude + 1) := by
  rcases (rounds.le_iff finite).mp le_rfl with below | ⟨middle, -⟩
  · exact below.le
  · exact middle.le

theorem lower (rounds : RoundedAs amount magnitude) {below : ℕ} (finite : below < infinity)
    (less : below < magnitude) : size below + size (below + 1) ≤ 2 * amount := by
  by_contra! beyond
  exact absurd ((rounds.le_iff finite).mpr (.inl beyond)) (Nat.not_le.mpr less)

theorem nearer (rounds : RoundedAs amount magnitude) (finite : magnitude < infinity)
    (other : ℕ) : |size magnitude - amount| ≤ |size other - amount| := by
  obtain ⟨near, nearest, rfl⟩ := rounds
  rw [min_eq_right (by omega)]
  have nearer := nearest.nearer other
  simp only [units_eq_size, ← sub_mul, abs_mul] at nearer
  exact le_of_mul_le_mul_right nearer (abs_pos.mpr unitsInOne_pos.ne')

theorem even (rounds : RoundedAs amount magnitude) (finite : magnitude < infinity) {other : ℕ}
    (differs : other ≠ magnitude) (equal : |size other - amount| = |size magnitude - amount|) :
    magnitude % 2 = 0 := by
  obtain ⟨near, nearest, rfl⟩ := rounds
  have same : min infinity near = near := min_eq_right (by omega)
  rw [same] at differs equal ⊢
  apply nearest.even other differs
  simp only [units_eq_size, ← sub_mul, abs_mul, equal]

theorem mono {more : ℚ} {other : ℕ} (rounds : RoundedAs amount magnitude)
    (roundsMore : RoundedAs more other) (ordered : amount ≤ more) : magnitude ≤ other := by
  obtain ⟨near, nearest, rfl⟩ := rounds
  obtain ⟨nearMore, nearestMore, rfl⟩ := roundsMore
  apply min_le_min_left
  exact nearest.mono nearestMore (mul_le_mul_of_nonneg_right ordered unitsInOne_pos.le)

theorem unique {other : ℕ} (rounds : RoundedAs amount magnitude)
    (roundsOther : RoundedAs amount other) : magnitude = other :=
  le_antisymm (rounds.mono roundsOther le_rfl) (roundsOther.mono rounds le_rfl)

end RoundedAs

theorem rounded_size {magnitude : ℕ} (bounded : magnitude ≤ infinity) :
    RoundedAs (size magnitude) magnitude := by
  refine ⟨magnitude, ?_, (min_eq_right bounded).symm⟩
  rw [← units_eq_size]
  constructor
  · intro other
    rw [sub_self, abs_zero]
    exact abs_nonneg _
  · intro other differs equal
    rw [sub_self, abs_zero, abs_eq_zero, sub_eq_zero] at equal
    exact absurd (units_strictMono.injective (Nat.cast_injective equal)) differs

theorem ten_zpow (exponent : ℤ) : (10 : ℚ) ^ exponent =
    (Nat.pow 10 exponent.toNat : ℕ) / (Nat.pow 10 (-exponent).toNat : ℕ) := by
  have power (count : ℕ) : ((Nat.pow 10 count : ℕ) : ℚ) = 10 ^ count := Nat.cast_pow 10 count
  rw [power, power]
  rcases le_total 0 exponent with whole | fractional
  · obtain ⟨count, rfl⟩ := Int.eq_ofNat_of_zero_le whole
    simp
  · obtain ⟨count, same⟩ := Int.eq_ofNat_of_zero_le (Int.neg_nonneg.mpr fractional)
    have negative : exponent = -(count : ℤ) := by omega
    subst negative
    simp

theorem nearestDecimal_rounded (digits : ℕ) (exponent : ℤ) :
    RoundedAs (digits * 10 ^ exponent) (nearestDecimal digits exponent) := by
  rw [nearestDecimal_eq_nearest, nearest_eq_min, ten_zpow]
  have near := rounded_nearest (digits * Nat.pow 10 exponent.toNat * unitsInOne)
    (show 0 < Nat.pow 10 (-exponent).toNat from Nat.pow_pos (by decide))
  refine ⟨_, ?_, rfl⟩
  rwa [Nat.cast_mul, Nat.cast_mul, mul_div_right_comm, mul_div_assoc] at near

end QueryCheck.Binary64
