import Mathlib.Data.Nat.Digits.Lemmas
import QueryCheck.Proofs.DecimalGrid

/-!
The digits chosen for a finite number are the fewest that read back. Nothing that reads back
is as coarse as the first grid searched, and on the last one something does, so the search
ends on the coarsest grid with an answer. In a tie the two rules take the two neighbours
apart; without one they take the same digits.
-/
namespace QueryCheck.DecimalDigits

open Binary64

section Search

theorem firstAnswer?_some {α : Type} {grid? : ℤ → Option α} {count : ℕ} {exponent : ℤ} {found : α}
    (searched : firstAnswer? grid? count exponent = some found) :
    ∃ grid, grid? grid = some found ∧ ∀ before, grid < before → before ≤ exponent →
      grid? before = none := by
  induction count generalizing exponent with
  | zero => cases searched
  | succ count ih =>
      rw [firstAnswer?] at searched
      split at searched
      · rename_i here
        rw [← searched]
        exact ⟨exponent, here, fun before beyond within => absurd within (not_le.mpr beyond)⟩
      · rename_i none
        obtain ⟨grid, answer, empty⟩ := ih searched
        refine ⟨grid, answer, ?_⟩
        intro before beyond within
        rcases within.lt_or_eq with less | rfl
        · exact empty before beyond (by omega)
        · exact none

theorem firstAnswer?_none {α : Type} {grid? : ℤ → Option α} {count : ℕ} {exponent : ℤ}
    (searched : firstAnswer? grid? count exponent = none) :
    ∀ grid, exponent - count < grid → grid ≤ exponent → grid? grid = none := by
  induction count generalizing exponent with
  | zero =>
      intro grid beyond within
      omega
  | succ count ih =>
      rw [firstAnswer?] at searched
      split at searched
      · cases searched
      · rename_i none
        intro grid beyond within
        rcases within.lt_or_eq with less | rfl
        · exact ih searched grid (by omega) (by omega)
        · exact none

end Search

section Reach

def ceiling (bits : ℕ) : ℤ := ((bits : ℤ) - 1072) * 30103 / 100000 + 1

/-- The first grid is as coarse as four times the value, and the last one no coarser than a
quarter of the distance to the next number. -/
def Reaches (bits : ℕ) : Prop :=
  2 ^ bits * Nat.pow 10 (-ceiling bits).toNat ≤ 2 ^ 1072 * Nat.pow 10 (ceiling bits).toNat ∧
    2 ^ 1128 * Nat.pow 10 (ceiling bits - 19).toNat ≤
      2 ^ bits * Nat.pow 10 (-(ceiling bits - 19)).toNat

instance (bits : ℕ) : Decidable (Reaches bits) := inferInstanceAs (Decidable (_ ∧ _))

theorem reaches {bits : ℕ} (few : bits < 2099) : Reaches bits := by
  have all : ∀ bits < 2099, Reaches bits := by decide +kernel
  exact all bits few

theorem two_zpow_le {bits places : ℕ} {exponent : ℤ}
    (most : 2 ^ bits * Nat.pow 10 (-exponent).toNat ≤ 2 ^ places * Nat.pow 10 exponent.toNat) :
    (2 : ℚ) ^ ((bits : ℤ) - places) ≤ 10 ^ exponent := by
  rw [ten_zpow, zpow_sub₀ two_ne_zero, zpow_natCast, zpow_natCast,
    div_le_div_iff₀ (by positivity) (Nat.cast_pos.mpr (Nat.pow_pos (by decide)))]
  rw [mul_comm (2 ^ places : ℕ)] at most
  exact_mod_cast most

theorem le_two_zpow {bits places : ℕ} {exponent : ℤ}
    (least : 2 ^ places * Nat.pow 10 exponent.toNat ≤ 2 ^ bits * Nat.pow 10 (-exponent).toNat) :
    (10 : ℚ) ^ exponent ≤ 2 ^ ((bits : ℤ) - places) := by
  rw [ten_zpow, zpow_sub₀ two_ne_zero, zpow_natCast, zpow_natCast,
    div_le_div_iff₀ (Nat.cast_pos.mpr (Nat.pow_pos (by decide))) (by positivity)]
  rw [mul_comm (2 ^ places : ℕ)] at least
  exact_mod_cast least

variable {magnitude : ℕ}

theorem units_ne_zero (nonzero : magnitude ≠ 0) : units magnitude ≠ 0 := by
  have rises := units_strictMono (Nat.pos_of_ne_zero nonzero)
  exact Nat.ne_zero_of_lt rises

theorem log2_units_lt (finite : magnitude < infinity) : (units magnitude).log2 < 2099 := by
  have bits := log2_units magnitude
  rw [doublings_eq] at bits
  have limit : infinity = 2047 * 2 ^ 52 := rfl
  omega

theorem size_lt_bits (magnitude : ℕ) : Binary64.size magnitude <
    2 ^ (((units magnitude).log2 : ℤ) - 1073) := by
  have bound : (units magnitude : ℚ) < 2 ^ ((units magnitude).log2 + 1) := by
    exact_mod_cast Nat.lt_log2_self
  have unit : (0 : ℚ) < 2 ^ (-1074 : ℤ) := zpow_pos two_pos _
  have power : (2 : ℚ) ^ (((units magnitude).log2 : ℤ) - 1073) =
      2 ^ ((units magnitude).log2 + 1) * 2 ^ (-1074 : ℤ) := by
    rw [← zpow_natCast, ← zpow_add₀ two_ne_zero]
    congr 1
    omega
  rw [size_eq_units, power]
  exact mul_lt_mul_of_pos_right bound unit

theorem size_succ (magnitude : ℕ) : Binary64.size (magnitude + 1) =
    Binary64.size magnitude + 2 ^ ((doublings magnitude : ℤ) - 1074) := by
  rw [size_eq_units, size_eq_units, units_succ, Nat.cast_add, add_mul, sub_eq_add_neg,
    zpow_add₀ two_ne_zero, zpow_natCast, Nat.cast_pow, Nat.cast_ofNat]

theorem size_succ_le (nonzero : magnitude ≠ 0) :
    Binary64.size (magnitude + 1) ≤ 2 * Binary64.size magnitude := by
  have step : 2 ^ doublings magnitude ≤ units magnitude := by
    apply Nat.le_of_dvd (Nat.pos_of_ne_zero (units_ne_zero nonzero))
    exact Nat.dvd_mul_left _ _
  have bound : units (magnitude + 1) ≤ 2 * units magnitude := by
    rw [units_succ]
    omega
  have cast : (units (magnitude + 1) : ℚ) ≤ 2 * units magnitude := by exact_mod_cast bound
  rw [size_eq_units, size_eq_units, ← mul_assoc]
  exact mul_le_mul_of_nonneg_right cast (zpow_nonneg two_pos.le _)

-- Nothing that reads back is as coarse as the first grid searched.
theorem exponent_lt_ceiling (finite : magnitude < infinity) (nonzero : magnitude ≠ 0)
    {d : DecimalDigits} (reads : d.readsBackAs magnitude = true) :
    d.exponent < ceilingExponent magnitude := by
  by_contra! coarse
  have some : (1 : ℚ) ≤ d.digits := by exact_mod_cast digits_pos reads nonzero
  have power : (10 : ℚ) ^ ceilingExponent magnitude ≤ 10 ^ d.exponent :=
    zpow_le_zpow_right₀ (by norm_num) coarse
  have least : (10 : ℚ) ^ d.exponent ≤ d.size :=
    le_mul_of_one_le_left (ten_zpow_pos d.exponent).le some
  have most := (readsBackAs_iff.mp reads).upper finite
  have next := size_succ_le nonzero
  have bits := size_lt_bits magnitude
  have positive := size_nonneg magnitude
  have reach : (2 : ℚ) ^ (((units magnitude).log2 : ℤ) - (1072 : ℕ)) ≤
      10 ^ ceilingExponent magnitude := two_zpow_le (reaches (log2_units_lt finite)).1
  have double : (2 : ℚ) ^ (((units magnitude).log2 : ℤ) - (1072 : ℕ)) =
      2 * 2 ^ (((units magnitude).log2 : ℤ) - 1073) := two_zpow_succ (by omega)
  linarith

-- On the last grid searched the lower neighbour of the exact value reads back.
theorem last_readBack (finite : magnitude < infinity) (nonzero : magnitude ≠ 0) :
    readsBackAs ⟨steps magnitude (ceilingExponent magnitude - 19),
      ceilingExponent magnitude - 19⟩ magnitude = true := by
  obtain ⟨below, rfl⟩ := Nat.exists_eq_succ_of_ne_zero nonzero
  have last : (10 : ℚ) ^ (ceilingExponent below.succ - 19) ≤
      2 ^ (((units below.succ).log2 : ℤ) - (1128 : ℕ)) :=
    le_two_zpow (reaches (log2_units_lt finite)).2
  generalize ceilingExponent below.succ - 19 = exponent at *
  have bits : (units below.succ).log2 ≤ doublings below + 53 := by
    have known := log2_units below.succ
    rw [doublings_eq] at known
    rw [doublings_eq]
    omega
  have quarter : (2 : ℚ) ^ (((units below.succ).log2 : ℤ) - (1128 : ℕ)) ≤
      2 ^ ((doublings below : ℤ) - 1075) :=
    zpow_le_zpow_right₀ (by norm_num) (by omega)
  have half : (2 : ℚ) ^ ((doublings below : ℤ) - 1074) = 2 * 2 ^ ((doublings below : ℤ) - 1075) :=
    two_zpow_succ (by omega)
  have step := size_succ below
  have under := @lt_succ_steps_size below.succ exponent
  rw [size, Nat.cast_succ, add_mul, one_mul] at under
  -- What is chosen is within a quarter of a step of the exact value.
  have rounds := nearestDecimal_rounded (steps below.succ exponent) exponent
  apply decide_eq_true
  apply le_antisymm
  · exact rounds.mono (rounded_size finite.le) steps_size_le
  · apply Nat.succ_le_of_lt
    by_contra! within
    rcases (rounds.le_iff (Nat.lt_of_succ_lt finite)).mp within with less | ⟨same, -⟩ <;>
      linarith

end Reach

section Shortest

variable {magnitude : ℕ} (tie : Tie) (finite : magnitude < infinity) (nonzero : magnitude ≠ 0)
include finite nonzero

theorem shortest_found : ∃ found,
    coarsest? tie magnitude 20 (ceilingExponent magnitude) = some found ∧
      shortest tie magnitude = found.val := by
  cases searched : coarsest? tie magnitude 20 (ceilingExponent magnitude) with
  | some found =>
      refine ⟨found, rfl, ?_⟩
      rw [shortest, if_neg nonzero, searched]
      rfl
  | none =>
      have empty := firstAnswer?_none searched (ceilingExponent magnitude - 19) (by omega) (by omega)
      have chosen := (onGrid?_chosen tie magnitude (ceilingExponent magnitude - 19)).1
      rw [empty] at chosen
      have unread := chosen.unread finite (steps magnitude (ceilingExponent magnitude - 19))
      rw [last_readBack finite nonzero] at unread
      cases unread

/-- The shortest digits are chosen on their grid, and nothing coarser reads back. -/
theorem shortest_chosen :
    Chosen tie magnitude (shortest tie magnitude).exponent (some (shortest tie magnitude).digits) ∧
      ∀ other : DecimalDigits, other.readsBackAs magnitude = true →
        other.exponent ≤ (shortest tie magnitude).exponent := by
  obtain ⟨found, searched, same⟩ := shortest_found tie finite nonzero
  obtain ⟨grid, answer, empty⟩ := firstAnswer?_some searched
  obtain ⟨chosen, here⟩ := onGrid?_chosen tie magnitude grid
  have place := here found answer
  rw [answer, ← place] at chosen
  rw [same]
  refine ⟨chosen, ?_⟩
  intro other reads
  by_contra! coarser
  have within := exponent_lt_ceiling finite nonzero reads
  have none := (onGrid?_chosen tie magnitude other.exponent).1
  rw [empty other.exponent (by omega) within.le] at none
  rw [none.unread finite] at reads
  cases reads

theorem shortest_place :
    (shortest .up magnitude).exponent = (shortest .toEven magnitude).exponent := by
  obtain ⟨up, coarsest⟩ := shortest_chosen .up finite nonzero
  obtain ⟨toEven, coarsestEven⟩ := shortest_chosen .toEven finite nonzero
  exact le_antisymm (coarsestEven _ up.reads) (coarsest _ toEven.reads)

end Shortest

theorem shortest_of_zero (tie : Tie) : shortest tie 0 = ⟨0, 0⟩ := if_pos rfl

section Choice

variable {magnitude : ℕ} (finite : magnitude < infinity)
include finite

theorem shortest_fewest (tie : Tie) {other : DecimalDigits}
    (reads : other.readsBackAs magnitude = true) :
    (Nat.digits 10 (shortest tie magnitude).digits).length ≤
      (Nat.digits 10 other.digits).length := by
  by_cases zero : magnitude = 0
  · subst zero
    exact Nat.zero_le _
  · obtain ⟨chosen, coarsest⟩ := shortest_chosen tie finite zero
    have own := chosen.reads
    generalize shortest tie magnitude = d at *
    obtain ⟨digits, exponent⟩ := d
    have finer := coarsest other reads
    rw [Nat.digits_length_le_iff (by decide)]
    by_contra! more
    have fewer : other.digits < 10 ^ (Nat.digits 10 other.digits).length :=
      Nat.lt_base_pow_length_digits (by decide)
    have some : 0 < (Nat.digits 10 other.digits).length := by
      rw [List.length_pos_iff, Nat.digits_ne_nil_iff_ne_zero]
      exact (digits_pos reads zero).ne'
    generalize (Nat.digits 10 other.digits).length = count at *
    -- A power of ten lies between the two, on a grid coarser than the coarsest.
    have between : readsBackAs ⟨1, exponent + count⟩ magnitude = true := by
      have power : size ⟨1, exponent + count⟩ = (10 ^ count : ℕ) * 10 ^ exponent := by
        rw [size, Nat.cast_one, one_mul, add_comm, zpow_add₀ (by norm_num), zpow_natCast,
          Nat.cast_pow, Nat.cast_ofNat]
      have place : (10 : ℚ) ^ other.exponent ≤ 10 ^ exponent :=
        zpow_le_zpow_right₀ (by norm_num) finer
      apply readsBackAs_between (readsBackAs_iff.mp reads) (readsBackAs_iff.mp own)
      · rw [power]
        exact mul_le_mul (Nat.cast_le.mpr fewer.le) place (ten_zpow_pos _).le (Nat.cast_nonneg _)
      · rw [power]
        exact mul_le_mul_of_nonneg_right (Nat.cast_le.mpr more) (ten_zpow_pos _).le
    have coarser := coarsest _ between
    dsimp only at coarser
    omega

theorem shortest_nearest (tie : Tie) {digits : ℕ}
    (reads : readsBackAs ⟨digits, (shortest tie magnitude).exponent⟩ magnitude = true) :
    |(shortest tie magnitude).size - Binary64.size magnitude| ≤
      |size ⟨digits, (shortest tie magnitude).exponent⟩ - Binary64.size magnitude| := by
  by_cases zero : magnitude = 0
  · subst zero
    have none : (shortest tie 0).size = Binary64.size 0 := by
      rw [shortest_of_zero, size_zero]
      exact zero_mul _
    rw [none, sub_self, abs_zero]
    exact abs_nonneg _
  · exact (shortest_chosen tie finite zero).1.nearest finite reads

theorem shortest_of_tied {digits : ℕ}
    (tied : Tied magnitude ⟨digits, (shortest .toEven magnitude).exponent⟩) :
    shortest .up magnitude = ⟨digits + 1, (shortest .toEven magnitude).exponent⟩ ∧
      shortest .toEven magnitude = ⟨digits, (shortest .toEven magnitude).exponent⟩ := by
  obtain ⟨up, -⟩ := shortest_chosen .up finite tied.ne_zero
  obtain ⟨toEven, -⟩ := shortest_chosen .toEven finite tied.ne_zero
  have place := shortest_place finite tied.ne_zero
  rw [place] at up
  constructor
  · rw [← tied.chosen_up up, ← place]
  · rw [← tied.chosen_toEven toEven]

theorem shortest_of_untied
    (untied : ∀ digits, ¬ Tied magnitude ⟨digits, (shortest .toEven magnitude).exponent⟩) :
    shortest .up magnitude = shortest .toEven magnitude := by
  by_cases zero : magnitude = 0
  · subst zero
    exact (shortest_of_zero .up).trans (shortest_of_zero .toEven).symm
  · obtain ⟨up, -⟩ := shortest_chosen .up finite zero
    obtain ⟨toEven, -⟩ := shortest_chosen .toEven finite zero
    have place := shortest_place finite zero
    rw [place] at up
    have digits := chosen_untied untied up toEven
    generalize shortest .up magnitude = upper at *
    generalize shortest .toEven magnitude = lower at *
    cases upper
    cases lower
    exact congrArg₂ mk digits place

end Choice

end QueryCheck.DecimalDigits
