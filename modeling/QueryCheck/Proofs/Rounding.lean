import Mathlib.Tactic.Ring
import QueryCheck.Number

/-!
Rounding sees a quotient and nothing of how it is written: a common factor of numerator
and denominator changes nothing, nor do zeros moved between the digits and the exponent
of a decimal. The shortcuts for huge exponents give what the quotient gives.
-/
namespace QueryCheck.Binary64

theorem roundHalfEven_scale {factor : Nat} (positive : 0 < factor) (numerator denominator : Nat) :
    roundHalfEven (factor * numerator) (factor * denominator) =
      roundHalfEven numerator denominator := by
  have below : 2 * (factor * (numerator % denominator)) < factor * denominator ↔
      2 * (numerator % denominator) < denominator := by
    rw [Nat.mul_left_comm]
    exact Nat.mul_lt_mul_left positive
  have above : factor * denominator < 2 * (factor * (numerator % denominator)) ↔
      denominator < 2 * (numerator % denominator) := by
    rw [Nat.mul_left_comm 2]
    exact Nat.mul_lt_mul_left positive
  simp only [roundHalfEven, Nat.mul_div_mul_left _ _ positive, Nat.mul_mod_mul_left, below, above]

theorem roundHalfEven_exact {denominator : Nat} (positive : 0 < denominator) (whole : Nat) :
    roundHalfEven (whole * denominator) denominator = whole := by
  simp only [roundHalfEven, Nat.mul_div_cancel _ positive, Nat.mul_mod_left, Nat.mul_zero,
    if_pos positive]

theorem roundHalfEven_zero (denominator : Nat) : roundHalfEven 0 denominator = 0 := by
  rw [roundHalfEven, Nat.zero_div, Nat.zero_mod]
  split
  · rfl
  · rw [if_neg (Nat.not_lt_zero _)]

theorem nearest_scale {factor : Nat} (positive : 0 < factor) (numerator denominator : Nat) :
    nearest (factor * numerator) (factor * denominator) = nearest numerator denominator := by
  simp only [nearest, Nat.mul_assoc, Nat.mul_div_mul_left _ _ positive,
    roundHalfEven_scale positive]

theorem nearest_congr {numerator denominator other divisor : Nat} (proper : 0 < denominator)
    (properOther : 0 < divisor) (same : numerator * divisor = other * denominator) :
    nearest numerator denominator = nearest other divisor := by
  rw [← nearest_scale properOther, ← nearest_scale proper other divisor,
    Nat.mul_comm divisor numerator, same, Nat.mul_comm other denominator,
    Nat.mul_comm divisor denominator]

theorem nearest_zero (denominator : Nat) : nearest 0 denominator = 0 := by
  simp only [nearest, Nat.zero_mul, Nat.zero_div, Nat.log2_zero, Nat.zero_sub, Nat.zero_add,
    roundHalfEven_zero, Nat.min_zero]

theorem le_log2 {count value : Nat} (large : Nat.pow 2 count ≤ value) : count ≤ value.log2 :=
  (Nat.le_log2 (Nat.ne_zero_of_lt (Nat.lt_of_lt_of_le (Nat.two_pow_pos count) large))).mpr large

theorem quotient_bound {numerator denominator bound : Nat} (factor : Nat)
    (positive : 0 < denominator) (large : denominator * bound ≤ numerator) :
    bound * factor ≤ numerator * factor / denominator := by
  rw [Nat.le_div_iff_mul_le positive, Nat.mul_right_comm, Nat.mul_comm bound]
  exact Nat.mul_le_mul_right factor large

theorem add_le_log2 {bits more value : Nat} (large : Nat.pow 2 bits * Nat.pow 2 more ≤ value) :
    bits + more ≤ value.log2 :=
  le_log2 (le_of_eq_of_le (Nat.pow_add 2 bits more) large)

theorem nearest_huge {numerator denominator bits : Nat} (positive : 0 < denominator)
    (many : 1025 ≤ bits) (huge : denominator * Nat.pow 2 bits ≤ numerator) :
    nearest numerator denominator = infinity := by
  have dropped : 2047 ≤ Nat.log2 (numerator * Nat.pow 2 1074 / denominator) - 52 := by
    have quotient := quotient_bound (Nat.pow 2 1074) positive huge
    -- The exponent alone counts, not the power.
    generalize smallest : 1074 = scale at *
    have large := add_le_log2 quotient
    omega
  refine Nat.min_eq_left (Nat.le_trans ?_ (Nat.le_add_right _ _))
  exact Nat.mul_le_mul_right _ dropped

theorem nearest_tiny (numerator denominator : Nat)
    (tiny : 2 * (numerator * Nat.pow 2 1074) < denominator) :
    nearest numerator denominator = 0 := by
  have below : numerator * Nat.pow 2 1074 < denominator :=
    Nat.lt_of_le_of_lt (Nat.le_mul_of_pos_left _ (by decide)) tiny
  have whole : denominator * Nat.pow 2 0 = denominator := Nat.mul_one _
  simp only [nearest, Nat.div_eq_of_lt below, Nat.log2_zero, Nat.zero_sub, Nat.zero_mul,
    Nat.zero_add, whole, roundHalfEven, Nat.mod_eq_of_lt below, if_pos tiny, Nat.min_zero]

theorem le_ten_pow {bound least count : Nat} (first : bound ≤ Nat.pow 10 least)
    (more : least ≤ count) : bound ≤ Nat.pow 10 count :=
  Nat.le_trans first (Nat.pow_le_pow_right (by decide) more)

theorem digits_bound (digits extra count : Nat)
    (few : digits.log2 + 1 + (extra + 1) ≤ 3 * count) :
    2 * (digits * Nat.pow 2 extra) < Nat.pow 10 count := by
  have bits : digits < Nat.pow 2 (digits.log2 + 1) := Nat.lt_log2_self
  calc 2 * (digits * Nat.pow 2 extra)
      = digits * Nat.pow 2 (extra + 1) := by
        simp only [Nat.pow_eq]
        ring
    _ < Nat.pow 2 (digits.log2 + 1) * Nat.pow 2 (extra + 1) :=
        Nat.mul_lt_mul_of_pos_right bits (Nat.pow_pos (by decide))
    _ = Nat.pow 2 (digits.log2 + 1 + (extra + 1)) := (Nat.pow_add 2 _ _).symm
    _ ≤ Nat.pow 2 (3 * count) := Nat.pow_le_pow_right (by decide) few
    _ = Nat.pow 8 count := Nat.pow_mul 2 3 count
    _ ≤ Nat.pow 10 count := Nat.pow_le_pow_left (by decide) count

/-- A decimal is rounded as the quotient that it stands for. -/
theorem nearestDecimal_eq_nearest (digits : Nat) (exponent : Int) :
    nearestDecimal digits exponent =
      nearest (digits * Nat.pow 10 exponent.toNat) (Nat.pow 10 (-exponent).toNat) := by
  unfold nearestDecimal
  split
  · rename_i zero
    rw [zero, Nat.zero_mul, nearest_zero]
  · rename_i nonzero
    split
    · rename_i whole
      have unscaled : (-exponent).toNat = 0 := by omega
      rw [unscaled]
      split
      · rename_i huge
        obtain ⟨bits, many, first⟩ : ∃ bits, 1025 ≤ bits ∧ Nat.pow 2 bits ≤ Nat.pow 10 310 :=
          ⟨1025, Nat.le_refl _, by decide +kernel⟩
        have bound := le_ten_pow first (show 310 ≤ exponent.toNat by omega)
        refine (nearest_huge Nat.one_pos many ?_).symm
        rw [Nat.one_mul]
        exact Nat.le_trans bound (Nat.le_mul_of_pos_left _ (Nat.pos_of_ne_zero nonzero))
      · rfl
    · rename_i fractional
      have unscaled : exponent.toNat = 0 := by omega
      have plain : digits * Nat.pow 10 0 = digits := Nat.mul_one digits
      rw [unscaled, plain]
      split
      · rename_i tiny
        refine (nearest_tiny digits _ ?_).symm
        generalize smallest : 1074 = scale
        apply digits_bound
        omega
      · rfl

theorem nearestDecimal_shift (digits zeros : Nat) (exponent : Int) :
    nearestDecimal (digits * Nat.pow 10 zeros) (exponent - zeros) =
      nearestDecimal digits exponent := by
  rw [nearestDecimal_eq_nearest, nearestDecimal_eq_nearest]
  refine nearest_congr (Nat.pow_pos (by decide)) (Nat.pow_pos (by decide)) ?_
  have balance : zeros + (exponent - zeros).toNat + (-exponent).toNat =
      exponent.toNat + (-(exponent - zeros)).toNat := by omega
  generalize (exponent - zeros).toNat = raised at balance ⊢
  generalize (-(exponent - zeros)).toNat = lowered at balance ⊢
  calc digits * Nat.pow 10 zeros * Nat.pow 10 raised * Nat.pow 10 (-exponent).toNat
      = digits * Nat.pow 10 (zeros + raised + (-exponent).toNat) := by
        simp only [Nat.pow_eq]
        ring
    _ = digits * Nat.pow 10 exponent.toNat * Nat.pow 10 lowered := by
        rw [balance]
        simp only [Nat.pow_eq]
        ring

end QueryCheck.Binary64
