import QueryCheck.Proofs.NearestNumber

/-!
The double nearest to a decimal, stated of the values that doubles stand for: infinite from
halfway beyond the largest finite number on, otherwise as near as any finite number, and even
where another is as near.
-/
namespace QueryCheck

def signed (negative : Bool) (amount : ℚ) : ℚ := if negative then -amount else amount

theorem abs_signed_sub (negative : Bool) (left right : ℚ) :
    |signed negative left - signed negative right| = |left - right| := by
  cases negative
  · rfl
  · simp only [signed, if_true, neg_sub_neg]
    exact abs_sub_comm right left

theorem abs_opposite_sub {left right : ℚ} (positive : 0 ≤ left) (positiveRight : 0 ≤ right)
    {negative negativeRight : Bool} (opposite : negative ≠ negativeRight) :
    |signed negative left - signed negativeRight right| = left + right := by
  cases negative
  · have other : negativeRight = true := by simpa using opposite
    rw [other]
    simp only [signed, if_true, sub_neg_eq_add]
    exact abs_of_nonneg (add_nonneg positive positiveRight)
  · have other : negativeRight = false := by simpa using opposite
    rw [other]
    simp only [signed, if_true]
    rw [← neg_add', abs_neg]
    exact abs_of_nonneg (add_nonneg positive positiveRight)

theorem abs_sub_le_signed {left right : ℚ} (positive : 0 ≤ left) (positiveRight : 0 ≤ right)
    (negative negativeRight : Bool) :
    |left - right| ≤ |signed negative left - signed negativeRight right| := by
  by_cases same : negative = negativeRight
  · rw [same, abs_signed_sub]
  · rw [abs_opposite_sub positive positiveRight same, abs_le]
    constructor <;> linarith

namespace Binary64

-- The value of a finite number; both zeros have the value zero.
def value (x : Binary64) : ℚ := signed x.negative (size x.magnitude)

/-- Rounding to nearest, ties to even, of an amount with a sign of its own. The sign is kept
whatever the amount is rounded to, and up to the least normal number the steps are those
of the smallest subnormal. -/
structure RoundsTo (x : Binary64) (negative : Bool) (amount : ℚ) : Prop where
  sign : x.negative = negative
  number : x.isNaN = false
  infinite : x.isInfinite = true ↔ 2 ^ 1024 - 2 ^ 970 ≤ amount
  zero : x.magnitude = 0 ↔ amount ≤ 2 ^ (-1075 : ℤ)
  nearest : x.isFinite = true → ∀ y : Binary64, y.isFinite = true →
    |x.value - signed negative amount| ≤ |y.value - signed negative amount|
  even : x.isFinite = true → ∀ y : Binary64, y.isFinite = true → y.value ≠ x.value →
    |y.value - signed negative amount| = |x.value - signed negative amount| →
      x.magnitude % 2 = 0
  subnormal : amount ≤ 2 ^ (-1022 : ℤ) →
    size x.magnitude = x.magnitude * 2 ^ (-1074 : ℤ) ∧
      |size x.magnitude - amount| ≤ 2 ^ (-1075 : ℤ)

theorem size_nonneg (magnitude : ℕ) : 0 ≤ size magnitude := by
  rw [size_eq_units]
  exact mul_nonneg (Nat.cast_nonneg _) (zpow_nonneg two_pos.le _)

theorem size_zero : size 0 = 0 := by
  rw [size_eq_units]
  exact zero_mul _

theorem size_subnormal {magnitude : ℕ} (few : magnitude ≤ 2 ^ 53) :
    size magnitude = magnitude * 2 ^ (-1074 : ℤ) := by
  rw [size_eq_units, units_subnormal few]

theorem two_zpow_succ {exponent next : ℤ} (doubled : exponent + 1 = next) :
    (2 : ℚ) ^ next = 2 * 2 ^ exponent := by
  rw [← doubled, zpow_add_one₀ two_ne_zero, mul_comm]

theorem size_normal {exponent fraction : ℕ} (normal : exponent ≠ 0) (bits : fraction < 2 ^ 52) :
    size (exponent * 2 ^ 52 + fraction) = (2 ^ 52 + fraction) * 2 ^ ((exponent : ℤ) - 1075) := by
  have place : (exponent * 2 ^ 52 + fraction) / 2 ^ 52 = exponent := by omega
  have rest : (exponent * 2 ^ 52 + fraction) % 2 ^ 52 = fraction := by omega
  unfold size
  rw [place, rest]
  exact if_neg normal

theorem size_succ_subnormal {magnitude : ℕ} (few : magnitude < 2 ^ 53) :
    size (magnitude + 1) = size magnitude + 2 * 2 ^ (-1075 : ℤ) := by
  rw [size_subnormal few, size_subnormal few.le, Nat.cast_succ, add_mul, one_mul]
  congr 1
  exact two_zpow_succ rfl

-- Halfway between the largest finite number and what would be the next one.
theorem size_top : size (infinity - 1) + size infinity = 2 * (2 ^ 1024 - 2 ^ 970) := by
  have largest : size (infinity - 1) = (2 ^ 52 + (2 ^ 52 - 1 : ℕ)) * 2 ^ (971 : ℤ) :=
    @size_normal 2046 (2 ^ 52 - 1) (by decide) (by decide)
  have beyond : size infinity = (2 ^ 52 + (0 : ℕ)) * 2 ^ (972 : ℤ) :=
    @size_normal 2047 0 (by decide) (by decide)
  have high : (2 : ℚ) ^ 1024 = 2 ^ 54 * 2 ^ 970 := pow_add 2 54 970
  have step : (2 : ℚ) ^ (971 : ℤ) = 2 * 2 ^ (970 : ℤ) := two_zpow_succ rfl
  have double : (2 : ℚ) ^ (972 : ℤ) = 2 * 2 ^ (971 : ℤ) := two_zpow_succ rfl
  have whole : (2 : ℚ) ^ (970 : ℤ) = 2 ^ 970 := zpow_natCast 2 970
  rw [largest, beyond, double, step, high, whole]
  generalize (2 : ℚ) ^ 970 = unit
  norm_num
  ring

namespace RoundedAs

variable {amount : ℚ} {magnitude : ℕ}

theorem infinite_iff (rounds : RoundedAs amount magnitude) :
    magnitude = infinity ↔ 2 ^ 1024 - 2 ^ 970 ≤ amount := by
  have bounded : magnitude ≤ infinity := by
    obtain ⟨near, -, rfl⟩ := rounds
    exact min_le_left _ _
  have last : infinity - 1 + 1 = infinity := rfl
  have odd : (infinity - 1) % 2 ≠ 0 := by decide
  have finite := @le_iff _ _ rounds (infinity - 1) (by decide)
  rw [last, size_top] at finite
  have known : magnitude = infinity ↔ ¬ magnitude ≤ infinity - 1 := by omega
  rw [known, finite, not_or, not_lt, mul_le_mul_iff_right₀ two_pos]
  constructor
  · exact fun both => both.1
  · exact fun reached => ⟨reached, fun middle => odd middle.2⟩

theorem zero_iff (rounds : RoundedAs amount magnitude) :
    magnitude = 0 ↔ amount ≤ 2 ^ (-1075 : ℤ) := by
  have none := @le_iff _ _ rounds 0 (by decide)
  rw [size_succ_subnormal (by decide), size_zero, zero_add, zero_add, Nat.le_zero] at none
  rw [none, mul_lt_mul_iff_right₀ two_pos, mul_right_inj' two_ne_zero, le_iff_lt_or_eq]
  simp only [Nat.zero_mod, and_true]

theorem subnormal (rounds : RoundedAs amount magnitude) (positive : 0 ≤ amount)
    (small : amount ≤ 2 ^ (-1022 : ℤ)) :
    size magnitude = magnitude * 2 ^ (-1074 : ℤ) ∧
      |size magnitude - amount| ≤ 2 ^ (-1075 : ℤ) := by
  have normal : size (2 ^ 52) = 2 ^ (-1022 : ℤ) := by
    rw [size_subnormal (by decide), Nat.cast_pow, Nat.cast_ofNat, ← zpow_natCast,
      ← zpow_add₀ two_ne_zero]
    rfl
  have half : (0 : ℚ) < 2 ^ (-1075 : ℤ) := zpow_pos two_pos _
  have few : magnitude ≤ 2 ^ 52 := by
    rw [@le_iff _ _ rounds (2 ^ 52) (by decide), size_succ_subnormal (by decide), normal]
    left
    linarith
  have finite : magnitude < infinity := few.trans_lt (by decide)
  refine ⟨size_subnormal (few.trans (by decide)), abs_le.mpr ⟨?_, ?_⟩⟩
  · have upper := rounds.upper finite
    rw [size_succ_subnormal (few.trans_lt (by decide))] at upper
    linarith
  · cases magnitude with
    | zero =>
        rw [size_zero]
        exact (sub_nonpos.mpr positive).trans half.le
    | succ below =>
        have lower := rounds.lower (Nat.lt_of_succ_lt finite) below.lt_succ_self
        rw [size_succ_subnormal (by omega)] at lower ⊢
        linarith

end RoundedAs

theorem roundsTo_of_rounded {x : Binary64} {amount : ℚ} (positive : 0 ≤ amount)
    (rounds : RoundedAs amount x.magnitude) : x.RoundsTo x.negative amount where
  sign := rfl
  number := by
    obtain ⟨near, -, same⟩ := rounds
    exact decide_eq_false (Nat.not_lt.mpr (same.trans_le (min_le_left _ _)))
  infinite := decide_eq_true_iff.trans rounds.infinite_iff
  zero := rounds.zero_iff
  nearest := by
    intro finite y _
    have nearer := rounds.nearer (of_decide_eq_true finite) y.magnitude
    rw [value, abs_signed_sub]
    exact nearer.trans (abs_sub_le_signed (size_nonneg _) positive _ _)
  even := by
    intro finite y _ differs equal
    have nearer := rounds.nearer (of_decide_eq_true finite) y.magnitude
    have apart := abs_sub_le_signed (size_nonneg y.magnitude) positive y.negative x.negative
    rw [value, value, abs_signed_sub] at equal
    by_cases same : y.magnitude = x.magnitude
    · -- Of the same magnitude they differ in sign, and only zeros are equally near then.
      rw [value, value, same] at differs
      have opposite : y.negative ≠ x.negative := fun alike => differs (by rw [alike])
      rw [same, abs_opposite_sub (size_nonneg _) positive opposite] at equal
      have zero : x.magnitude = 0 := by
        rcases abs_cases (size x.magnitude - amount) with ⟨above, -⟩ | ⟨below, -⟩
        · have none : amount = 0 := by linarith
          exact rounds.zero_iff.mpr (none ▸ zpow_nonneg two_pos.le _)
        · have none : size x.magnitude = size 0 := by
            rw [size_zero]
            linarith
          exact size_strictMono.injective none
      rw [zero]
    · apply rounds.even (of_decide_eq_true finite) same
      exact le_antisymm (apart.trans_eq equal) nearer
  subnormal := rounds.subnormal positive

end Binary64

def Decimal.size (d : Decimal) : ℚ := d.digits * 10 ^ d.exponent

namespace Decimal

theorem size_nonneg (d : Decimal) : 0 ≤ d.size :=
  mul_nonneg (Nat.cast_nonneg _) (zpow_nonneg (by norm_num) _)

theorem toBinary64_roundsTo (d : Decimal) : d.toBinary64.RoundsTo d.negative d.size :=
  Binary64.roundsTo_of_rounded d.size_nonneg (Binary64.nearestDecimal_rounded _ _)

theorem toBinary64_congr {left right : Decimal} (sign : left.negative = right.negative)
    (size : left.size = right.size) : left.toBinary64 = right.toBinary64 := by
  have rounds := Binary64.nearestDecimal_rounded left.digits left.exponent
  have roundsRight := Binary64.nearestDecimal_rounded right.digits right.exponent
  change Binary64.RoundedAs left.size _ at rounds
  rw [size] at rounds
  simp only [toBinary64, sign, rounds.unique roundsRight]

end Decimal

end QueryCheck
