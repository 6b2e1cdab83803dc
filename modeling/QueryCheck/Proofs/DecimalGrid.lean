import QueryCheck.Proofs.CorrectRounding

/-!
The choice of digits on one grid, the multiples of a power of ten. What reads back as a number
lies around its exact value without gaps, so one of the two neighbours of that value reads
back if anything on the grid does; the one chosen is as near as any that reads back. The two
rules for ties choose apart in the middle between an even neighbour and the one above it, and
nowhere else.
-/
namespace QueryCheck.DecimalDigits

open Binary64

def size (d : DecimalDigits) : ℚ := d.digits * 10 ^ d.exponent

theorem ten_zpow_pos (exponent : ℤ) : (0 : ℚ) < 10 ^ exponent := zpow_pos (by norm_num) _

section ReadingBack

variable {magnitude : ℕ}

theorem readsBackAs_iff {d : DecimalDigits} :
    d.readsBackAs magnitude = true ↔ RoundedAs d.size magnitude := by
  have rounds := nearestDecimal_rounded d.digits d.exponent
  constructor
  · intro reads
    rwa [of_decide_eq_true reads] at rounds
  · intro other
    exact decide_eq_true (rounds.unique other)

-- What lies between amounts rounded to one number reads back as that number.
theorem readsBackAs_between {d : DecimalDigits} {low high : ℚ} (lowRounds : RoundedAs low magnitude)
    (highRounds : RoundedAs high magnitude) (above : low ≤ d.size) (below : d.size ≤ high) :
    d.readsBackAs magnitude = true := by
  have rounds := nearestDecimal_rounded d.digits d.exponent
  apply decide_eq_true
  exact le_antisymm (rounds.mono highRounds below) (lowRounds.mono rounds above)

theorem size_lt_iff {low high : ℕ} {exponent : ℤ} :
    size ⟨low, exponent⟩ < size ⟨high, exponent⟩ ↔ low < high := by
  rw [size, size, mul_lt_mul_iff_left₀ (ten_zpow_pos exponent)]
  exact Nat.cast_lt

theorem size_le_iff {low high : ℕ} {exponent : ℤ} :
    size ⟨low, exponent⟩ ≤ size ⟨high, exponent⟩ ↔ low ≤ high := by
  rw [size, size, mul_le_mul_iff_left₀ (ten_zpow_pos exponent)]
  exact Nat.cast_le

theorem digits_pos {d : DecimalDigits} (reads : d.readsBackAs magnitude = true)
    (nonzero : magnitude ≠ 0) : 0 < d.digits := by
  apply Nat.pos_of_ne_zero
  intro none
  have same := of_decide_eq_true reads
  rw [none, nearestDecimal, if_pos rfl] at same
  exact nonzero same.symm

end ReadingBack

section Grid

variable (magnitude : ℕ) (exponent : ℤ)

-- How many whole steps of a power of ten there are in the exact value, and the part of a
-- step that is left over.
def steps : ℕ := (quotient magnitude exponent).1 / (quotient magnitude exponent).2

def part : ℚ := ((quotient magnitude exponent).1 % (quotient magnitude exponent).2 : ℕ) /
  ((quotient magnitude exponent).2 : ℕ)

theorem quotient_fst : (quotient magnitude exponent).1 =
    Binary64.units magnitude * Nat.pow 10 (-exponent).toNat := rfl

theorem quotient_snd :
    (quotient magnitude exponent).2 = unitsInOne * Nat.pow 10 exponent.toNat := by
  delta unitsInOne
  rfl

theorem quotient_pos : 0 < (quotient magnitude exponent).2 := by
  rw [quotient_snd]
  exact Nat.mul_pos (Nat.cast_pos.mp unitsInOne_pos) (Nat.pow_pos (by decide))

theorem quotient_size : ((quotient magnitude exponent).1 : ℚ) / (quotient magnitude exponent).2 *
    10 ^ exponent = Binary64.size magnitude := by
  have raised : ((Nat.pow 10 exponent.toNat : ℕ) : ℚ) ≠ 0 :=
    Nat.cast_ne_zero.mpr (Nat.pow_pos (by decide)).ne'
  have lowered : ((Nat.pow 10 (-exponent).toNat : ℕ) : ℚ) ≠ 0 :=
    Nat.cast_ne_zero.mpr (Nat.pow_pos (by decide)).ne'
  rw [quotient_fst, quotient_snd, ten_zpow, Nat.cast_mul, Nat.cast_mul, units_eq_size]
  have proper := unitsInOne_pos.ne'
  field_simp

theorem size_split : Binary64.size magnitude =
    (steps magnitude exponent + part magnitude exponent) * 10 ^ exponent := by
  rw [← quotient_size magnitude exponent, quotient_split _ (quotient_pos magnitude exponent)]
  rfl

variable {magnitude exponent}

theorem steps_size_le :
    size ⟨steps magnitude exponent, exponent⟩ ≤ Binary64.size magnitude := by
  rw [size_split magnitude exponent]
  apply mul_le_mul_of_nonneg_right _ (ten_zpow_pos exponent).le
  exact le_add_of_nonneg_right (remainder_bounds _ (quotient_pos magnitude exponent)).1

theorem lt_succ_steps_size :
    Binary64.size magnitude < size ⟨steps magnitude exponent + 1, exponent⟩ := by
  have less : part magnitude exponent < 1 :=
    (remainder_bounds _ (quotient_pos magnitude exponent)).2
  rw [size_split magnitude exponent, size, Nat.cast_add, Nat.cast_one]
  apply mul_lt_mul_of_pos_right _ (ten_zpow_pos exponent)
  linarith

-- Whether the upper neighbour is to be written when both read back.
def prefers (tie : Tie) (magnitude : ℕ) (exponent : ℤ) : Bool :=
  prefersUpper tie (steps magnitude exponent)
    ((quotient magnitude exponent).1 % (quotient magnitude exponent).2)
    (quotient magnitude exponent).2

theorem prefers_iff (tie : Tie) : prefers tie magnitude exponent = true ↔
    1 / 2 < part magnitude exponent ∨ part magnitude exponent = 1 / 2 ∧
      (tie = .toEven → steps magnitude exponent % 2 = 1) := by
  have proper : (0 : ℚ) < (quotient magnitude exponent).2 :=
    Nat.cast_pos.mpr (quotient_pos magnitude exponent)
  rw [prefers, part, div_lt_div_iff₀ two_pos proper, div_eq_div_iff proper.ne' two_ne_zero]
  generalize steps magnitude exponent = count
  generalize (quotient magnitude exponent).2 = denominator at *
  generalize (quotient magnitude exponent).1 % denominator = remainder
  norm_cast
  unfold prefersUpper
  split
  · simp only [Bool.false_eq_true, false_iff]
    omega
  · split
    · simp only [true_iff]
      omega
    · cases tie <;> simp <;> omega

theorem middle (magnitude : ℕ) (exponent : ℤ) :
    size ⟨steps magnitude exponent, exponent⟩ + size ⟨steps magnitude exponent + 1, exponent⟩ =
      2 * Binary64.size magnitude + (1 - 2 * part magnitude exponent) * 10 ^ exponent := by
  rw [size_split magnitude exponent, size, size, Nat.cast_add, Nat.cast_one]
  ring

theorem middle_le {tie : Tie} (wanted : prefers tie magnitude exponent = true) :
    size ⟨steps magnitude exponent, exponent⟩ + size ⟨steps magnitude exponent + 1, exponent⟩ ≤
      2 * Binary64.size magnitude := by
  have half : 1 / 2 ≤ part magnitude exponent := by
    rcases (prefers_iff tie).mp wanted with more | ⟨same, -⟩
    · exact more.le
    · exact same.ge
  rw [middle, add_le_iff_nonpos_right]
  apply mul_nonpos_of_nonpos_of_nonneg _ (ten_zpow_pos exponent).le
  linarith

theorem le_middle {tie : Tie} (unwanted : prefers tie magnitude exponent = false) :
    2 * Binary64.size magnitude ≤
      size ⟨steps magnitude exponent, exponent⟩ + size ⟨steps magnitude exponent + 1, exponent⟩ := by
  have half : part magnitude exponent ≤ 1 / 2 := by
    by_contra! more
    rw [(prefers_iff tie).mpr (.inl more)] at unwanted
    cases unwanted
  rw [middle, le_add_iff_nonneg_right]
  apply mul_nonneg _ (ten_zpow_pos exponent).le
  linarith

/-- A decimal with even digits and the next one of its grid both read back, and the exact
value lies in the middle between them. -/
structure Tied (magnitude : ℕ) (d : DecimalDigits) : Prop where
  even : d.digits % 2 = 0
  lower : d.readsBackAs magnitude = true
  upper : readsBackAs ⟨d.digits + 1, d.exponent⟩ magnitude = true
  middle : 2 * Binary64.size magnitude = d.size + size ⟨d.digits + 1, d.exponent⟩

theorem Tied.ne_zero {d : DecimalDigits} (tied : Tied magnitude d) : magnitude ≠ 0 := by
  rintro rfl
  have middle := tied.middle
  have lower : 0 ≤ d.size := mul_nonneg (Nat.cast_nonneg _) (ten_zpow_pos _).le
  have upper := (@size_lt_iff d.digits (d.digits + 1) d.exponent).mpr d.digits.lt_succ_self
  rw [size_zero] at middle
  linarith

theorem Tied.digits_eq {digits : ℕ} (tied : Tied magnitude ⟨digits, exponent⟩) :
    digits = steps magnitude exponent := by
  have middle := tied.middle
  have rises := (@size_lt_iff digits (digits + 1) exponent).mpr digits.lt_succ_self
  have least := @steps_size_le magnitude exponent
  have most := @lt_succ_steps_size magnitude exponent
  have below : digits < steps magnitude exponent + 1 := by
    rw [← @size_lt_iff _ _ exponent]
    linarith
  have above : steps magnitude exponent < digits + 1 := by
    rw [← @size_lt_iff _ _ exponent]
    linarith
  omega

theorem Tied.prefers {digits : ℕ} (tied : Tied magnitude ⟨digits, exponent⟩) :
    prefers .up magnitude exponent = true ∧ prefers .toEven magnitude exponent = false := by
  have even := tied.even
  have middle := tied.middle
  rw [tied.digits_eq] at even middle
  rw [DecimalDigits.middle, left_eq_add] at middle
  have half : part magnitude exponent = 1 / 2 := by
    have none := (mul_eq_zero.mp middle).resolve_right (ten_zpow_pos exponent).ne'
    linarith
  constructor
  · exact (prefers_iff .up).mpr (.inr ⟨half, nofun⟩)
  · apply Bool.eq_false_of_not_eq_true
    rw [prefers_iff]
    rintro (more | ⟨-, odd⟩)
    · exact more.ne' half
    · rw [even] at odd
      cases odd rfl

theorem prefers_up_of_toEven (wanted : prefers .toEven magnitude exponent = true) :
    prefers .up magnitude exponent = true := by
  rw [prefers_iff] at wanted ⊢
  exact wanted.imp_right fun half => ⟨half.1, nofun⟩

theorem even_of_not_prefers (wanted : prefers .up magnitude exponent = true)
    (unwanted : prefers .toEven magnitude exponent = false) :
    steps magnitude exponent % 2 = 0 := by
  by_contra odd
  have both : prefers .toEven magnitude exponent = true := by
    rw [prefers_iff] at wanted ⊢
    exact wanted.imp_right fun half => ⟨half.1, fun _ => by omega⟩
  rw [both] at unwanted
  cases unwanted

/-- The choice on one grid between the two neighbours of the exact value. -/
inductive Chosen (tie : Tie) (magnitude : ℕ) (exponent : ℤ) : Option ℕ → Prop where
  | lower : readsBackAs ⟨steps magnitude exponent, exponent⟩ magnitude = true →
      (readsBackAs ⟨steps magnitude exponent + 1, exponent⟩ magnitude = true →
        prefers tie magnitude exponent = false) →
      Chosen tie magnitude exponent (some (steps magnitude exponent))
  | upper : readsBackAs ⟨steps magnitude exponent + 1, exponent⟩ magnitude = true →
      (readsBackAs ⟨steps magnitude exponent, exponent⟩ magnitude = true →
        prefers tie magnitude exponent = true) →
      Chosen tie magnitude exponent (some (steps magnitude exponent + 1))
  | neither : readsBackAs ⟨steps magnitude exponent, exponent⟩ magnitude = false →
      readsBackAs ⟨steps magnitude exponent + 1, exponent⟩ magnitude = false →
      Chosen tie magnitude exponent none

theorem onGrid?_eq (tie : Tie) (magnitude : ℕ) (exponent : ℤ) : onGrid? tie magnitude exponent =
    if low : readsBackAs ⟨steps magnitude exponent, exponent⟩ magnitude then
      if both : readsBackAs ⟨steps magnitude exponent + 1, exponent⟩ magnitude ∧
          prefers tie magnitude exponent then
        some ⟨⟨steps magnitude exponent + 1, exponent⟩, both.1⟩
      else some ⟨⟨steps magnitude exponent, exponent⟩, low⟩
    else if high : readsBackAs ⟨steps magnitude exponent + 1, exponent⟩ magnitude then
      some ⟨⟨steps magnitude exponent + 1, exponent⟩, high⟩
    else none := by
  delta onGrid? prefers steps
  generalize quotient magnitude exponent = parts
  rfl

theorem onGrid?_chosen (tie : Tie) (magnitude : ℕ) (exponent : ℤ) :
    Chosen tie magnitude exponent
      ((onGrid? tie magnitude exponent).map fun found => found.val.digits) ∧
    ∀ found ∈ onGrid? tie magnitude exponent, found.val.exponent = exponent := by
  rw [onGrid?_eq]
  split
  · rename_i low
    split
    · rename_i both
      exact ⟨.upper both.1 fun _ => both.2, by simp⟩
    · rename_i either
      refine ⟨.lower low ?_, by simp⟩
      intro high
      simpa [high] using either
  · rename_i unread
    split
    · rename_i high
      exact ⟨.upper high fun low => absurd low unread, by simp⟩
    · rename_i unreadHigh
      exact ⟨.neither (Bool.eq_false_of_not_eq_true unread)
        (Bool.eq_false_of_not_eq_true unreadHigh), by simp⟩

variable {tie : Tie} {digits : ℕ}

theorem Chosen.reads (chosen : Chosen tie magnitude exponent (some digits)) :
    readsBackAs ⟨digits, exponent⟩ magnitude = true := by
  cases chosen with
  | lower low _ => exact low
  | upper high _ => exact high

theorem Tied.chosen_up (tied : Tied magnitude ⟨digits, exponent⟩) {other : ℕ}
    (chosen : Chosen .up magnitude exponent (some other)) : other = digits + 1 := by
  have upper := tied.upper
  have wanted := tied.prefers.1
  rw [tied.digits_eq] at upper ⊢
  cases chosen with
  | lower _ unwanted =>
      rw [unwanted upper] at wanted
      cases wanted
  | upper _ _ => rfl

theorem Tied.chosen_toEven (tied : Tied magnitude ⟨digits, exponent⟩) {other : ℕ}
    (chosen : Chosen .toEven magnitude exponent (some other)) : other = digits := by
  have lower := tied.lower
  have unwanted := tied.prefers.2
  rw [tied.digits_eq] at lower ⊢
  cases chosen with
  | lower _ _ => rfl
  | upper _ wanted =>
      rw [wanted lower] at unwanted
      cases unwanted

theorem chosen_untied (untied : ∀ digits, ¬ Tied magnitude ⟨digits, exponent⟩) {other : ℕ}
    (up : Chosen .up magnitude exponent (some digits))
    (toEven : Chosen .toEven magnitude exponent (some other)) : digits = other := by
  cases up with
  | lower low unwanted =>
      cases toEven with
      | lower _ _ => rfl
      | upper high wanted =>
          rw [prefers_up_of_toEven (wanted low)] at unwanted
          cases unwanted high
  | upper high wanted =>
      cases toEven with
      | upper _ _ => rfl
      | lower low unwanted =>
          -- One rule goes up where the other does not: the value is in the middle.
          apply absurd _ (untied (steps magnitude exponent))
          refine ⟨even_of_not_prefers (wanted low) (unwanted high), low, high, ?_⟩
          exact le_antisymm (le_middle (unwanted high)) (middle_le (wanted low))

section Finite

variable (finite : magnitude < infinity)
include finite

theorem steps_readBack (reads : readsBackAs ⟨digits, exponent⟩ magnitude = true)
    (below : digits ≤ steps magnitude exponent) :
    readsBackAs ⟨steps magnitude exponent, exponent⟩ magnitude = true :=
  readsBackAs_between (readsBackAs_iff.mp reads) (rounded_size finite.le)
    (size_le_iff.mpr below) steps_size_le

theorem succ_steps_readBack (reads : readsBackAs ⟨digits, exponent⟩ magnitude = true)
    (above : steps magnitude exponent < digits) :
    readsBackAs ⟨steps magnitude exponent + 1, exponent⟩ magnitude = true :=
  readsBackAs_between (rounded_size finite.le) (readsBackAs_iff.mp reads)
    lt_succ_steps_size.le (size_le_iff.mpr above)

theorem Chosen.unread (chosen : Chosen tie magnitude exponent none) (digits : ℕ) :
    readsBackAs ⟨digits, exponent⟩ magnitude = false := by
  cases chosen with
  | neither low high =>
      apply Bool.eq_false_of_not_eq_true
      intro reads
      rcases Nat.lt_or_ge (steps magnitude exponent) digits with above | below
      · rw [succ_steps_readBack finite reads above] at high
        cases high
      · rw [steps_readBack finite reads below] at low
        cases low

/-- No other decimal of the grid that reads back is nearer to the exact value. -/
theorem Chosen.nearest (chosen : Chosen tie magnitude exponent (some digits)) {other : ℕ}
    (reads : readsBackAs ⟨other, exponent⟩ magnitude = true) :
    |size ⟨digits, exponent⟩ - Binary64.size magnitude| ≤
      |size ⟨other, exponent⟩ - Binary64.size magnitude| := by
  have under := @steps_size_le magnitude exponent
  have past := @lt_succ_steps_size magnitude exponent
  rcases lt_trichotomy other digits with below | rfl | above
  · rw [farther_iff (size_lt_iff.mpr below)]
    cases chosen with
    | lower _ _ =>
        have less := (@size_le_iff _ _ exponent).mpr below.le
        linarith
    | upper _ wanted =>
        have less := (@size_le_iff _ _ exponent).mpr (Nat.le_of_lt_succ below)
        have half := middle_le (wanted (steps_readBack finite reads (Nat.le_of_lt_succ below)))
        linarith
  · exact le_rfl
  · rw [nearer_iff (size_lt_iff.mpr above)]
    cases chosen with
    | lower _ unwanted =>
        have less := (@size_le_iff _ _ exponent).mpr (Nat.succ_le_of_lt above)
        have half := le_middle (unwanted (succ_steps_readBack finite reads above))
        linarith
    | upper _ _ =>
        have less := (@size_le_iff _ _ exponent).mpr above.le
        linarith

end Finite

end Grid

end QueryCheck.DecimalDigits
