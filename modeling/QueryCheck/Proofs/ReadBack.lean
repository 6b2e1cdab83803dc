import QueryCheck.Proofs.NumericPattern
import QueryCheck.Proofs.Rounding

/-!
Written numbers read back. The digits chosen for a finite number are rounded to that
number, and whichever way a format writes them, the text is a numeral with just those
digits, up to zeros moved into or out of the exponent.
-/
namespace QueryCheck

namespace Binary64

theorem doublings_le (magnitude : Nat) : doublings magnitude * Nat.pow 2 52 ≤ magnitude := by
  have whole := Nat.div_mul_le_self magnitude (Nat.pow 2 52)
  refine Nat.le_trans (Nat.mul_le_mul_right _ ?_) whole
  exact Nat.sub_le _ 1

theorem doublings_add_significand (magnitude : Nat) :
    doublings magnitude * Nat.pow 2 52 + significand magnitude = magnitude :=
  Nat.add_sub_cancel' (doublings_le magnitude)

theorem significand_lt (magnitude : Nat) : significand magnitude < Nat.pow 2 53 := by
  have split := Nat.div_add_mod magnitude (Nat.pow 2 52)
  have rest := Nat.mod_lt magnitude (show 0 < Nat.pow 2 52 by decide)
  simp only [significand, doublings, Nat.reducePow, Nat.pow_eq] at *
  omega

theorem significand_normal {magnitude : Nat} (normal : doublings magnitude ≠ 0) :
    Nat.pow 2 52 ≤ significand magnitude := by
  have split := Nat.div_add_mod magnitude (Nat.pow 2 52)
  simp only [significand, doublings, Nat.reducePow, Nat.pow_eq] at *
  omega

theorem log2_units (magnitude : Nat) : (units magnitude).log2 - 52 = doublings magnitude := by
  have less := significand_lt magnitude
  by_cases normal : doublings magnitude = 0
  · rw [units, normal, show Nat.pow 2 0 = 1 from rfl, Nat.mul_one]
    by_cases zero : significand magnitude = 0
    · rw [zero, Nat.log2_zero]
    · have bits := (Nat.log2_lt zero).mpr less
      omega
  · have least := significand_normal normal
    have bits : (units magnitude).log2 = 52 + doublings magnitude := by
      have bound : 2 ^ (52 + doublings magnitude) ≤ units magnitude := by
        rw [Nat.pow_add]
        exact Nat.mul_le_mul_right _ least
      have above : units magnitude < 2 ^ (53 + doublings magnitude) := by
        rw [Nat.pow_add]
        exact Nat.mul_lt_mul_of_pos_right less (Nat.two_pow_pos _)
      have nonzero := Nat.ne_zero_of_lt (Nat.lt_of_lt_of_le (Nat.two_pow_pos _) bound)
      rw [Nat.log2_eq_iff nonzero]
      refine ⟨bound, ?_⟩
      rwa [Nat.add_right_comm]
    omega

-- A count of halves of halves, written out in decimal.
theorem nearestDecimal_fives (count halvings : Nat) :
    nearestDecimal (count * Nat.pow 5 halvings) (-halvings) =
      nearest count (Nat.pow 2 halvings) := by
  have whole : (-(halvings : Int)).toNat = 0 := by omega
  have places : (-(-(halvings : Int))).toNat = halvings := by omega
  rw [nearestDecimal_eq_nearest, whole, places]
  refine nearest_congr (Nat.pow_pos (by decide)) (Nat.two_pow_pos halvings) ?_
  have ten : Nat.pow 10 halvings = Nat.pow 5 halvings * Nat.pow 2 halvings :=
    Nat.mul_pow 5 2 halvings
  have one : count * Nat.pow 5 halvings * Nat.pow 10 0 = count * Nat.pow 5 halvings := Nat.mul_one _
  rw [ten, one, Nat.mul_assoc]

theorem nearest_units {magnitude : Nat} (bounded : magnitude ≤ infinity) :
    nearest (units magnitude) (Nat.pow 2 1074) = magnitude := by
  unfold nearest
  dsimp only
  -- Any power cancels that scales both parts of the quotient.
  generalize 1074 = scale
  have positive : 0 < Nat.pow 2 scale := Nat.two_pow_pos scale
  have rounded : roundHalfEven (units magnitude * Nat.pow 2 scale)
      (Nat.pow 2 scale * Nat.pow 2 (doublings magnitude)) = significand magnitude := by
    rw [units, Nat.mul_assoc, Nat.mul_comm (Nat.pow 2 (doublings magnitude))]
    exact roundHalfEven_exact (Nat.mul_pos positive (Nat.two_pow_pos _)) _
  rw [Nat.mul_div_cancel _ positive, log2_units, rounded, doublings_add_significand]
  exact Nat.min_eq_right bounded

end Binary64

namespace DecimalDigits

theorem exact_readsBack {magnitude : Nat} (bounded : magnitude ≤ Binary64.infinity) :
    (exact magnitude).readsBackAs magnitude = true := by
  have places : (-1074 : Int) = -(1074 : Nat) := rfl
  have rounds := Binary64.nearest_units bounded
  rw [readsBackAs, exact, decide_eq_true_iff, places]
  generalize 1074 = scale at *
  rwa [Binary64.nearestDecimal_fives]

theorem shortest_readsBack (tie : Tie) {magnitude : Nat}
    (bounded : magnitude ≤ Binary64.infinity) :
    (shortest tie magnitude).readsBackAs magnitude = true := by
  unfold shortest
  split
  · rename_i zero
    subst zero
    rfl
  · generalize coarsest? tie magnitude 20 (ceilingExponent magnitude) = coarsest
    cases coarsest with
    | none => exact exact_readsBack bounded
    | some found => exact found.property

theorem nearestDecimal_shortest (tie : Tie) {magnitude : Nat}
    (bounded : magnitude ≤ Binary64.infinity) :
    Binary64.nearestDecimal (shortest tie magnitude).digits (shortest tie magnitude).exponent =
      magnitude :=
  of_decide_eq_true (shortest_readsBack tie bounded)

theorem shortest_zero {tie : Tie} {magnitude : Nat} (bounded : magnitude ≤ Binary64.infinity)
    (zero : (shortest tie magnitude).digits = 0) : (shortest tie magnitude).exponent = 0 := by
  have reads := nearestDecimal_shortest tie bounded
  rw [zero, Binary64.nearestDecimal, if_pos rfl] at reads
  subst reads
  rfl

end DecimalDigits

namespace Numeral

theorem value_append (front back : List Char) :
    value (front ++ back) = value front * Nat.pow 10 back.length + value back := by
  calc value (front ++ back) = Nat.ofDigitChars 10 back (value front) := Nat.ofDigitChars_append 0
    _ = 10 ^ back.length * value front + value back := Nat.ofDigitChars_eq_ofDigitChars_zero
    _ = value front * Nat.pow 10 back.length + value back := by
      rw [Nat.mul_comm]
      rfl

theorem value_zeros (count : Nat) : value (NumberFormat.zeros count) = 0 :=
  Nat.ofDigitChars_replicate_zero

theorem zeros_digits (count : Nat) : Digits (NumberFormat.zeros count) := by
  intro c member
  rw [List.eq_of_mem_replicate member]
  rfl

theorem toDecimal_sign (numeral : Numeral) (sign : Option Sign) :
    toDecimal { numeral with sign := sign } =
      { numeral.toDecimal with negative := decide (sign = some .minus) } := rfl

theorem read?_spelling {numeral : Numeral} (valid : numeral.Valid) :
    read? numeral.spelling = some numeral := by
  obtain ⟨found, read, -, whole⟩ := read?_append valid []
  rwa [List.append_nil, whole rfl] at read

theorem toDigits_leading {count : Nat} (nonzero : count ≠ 0) :
    ∀ c ∈ (Nat.toDigits 10 count).head?, c ≠ '0' := by
  induction count using Nat.strongRecOn with
  | ind count ih =>
      rw [Nat.toDigits_eq_if (by decide)]
      split
      · rename_i single
        rintro _ ⟨⟩
        have figure : ∀ digit < 10, digit ≠ 0 → Nat.digitChar digit ≠ '0' := by decide
        exact figure count single nonzero
      · rename_i several
        rw [List.head?_append_of_ne_nil _ Nat.toDigits_ne_nil]
        exact ih (count / 10) (by omega) (by omega)

structure Figures (text : List Char) (count : Nat) : Prop where
  digits : Digits text
  nonempty : text ≠ []
  value : value text = count
  leading : text = ['0'] ∨ ∀ c ∈ text.head?, c ≠ '0'

theorem toDigits_figures (count : Nat) : Figures (Nat.toDigits 10 count) count where
  digits := fun _ member => Nat.isDigit_of_mem_toDigits (by decide) (by decide) member
  nonempty := Nat.toDigits_ne_nil
  value := Nat.ofDigitChars_ten_toDigits
  leading := by
    by_cases zero : count = 0
    · subst zero
      exact .inl rfl
    · exact .inr (toDigits_leading zero)

structure Plain (numeral : Numeral) : Prop where
  valid : numeral.Valid
  sign : numeral.sign ≠ some .plus
  leading : numeral.whole = ['0'] ∨ ∃ c ∈ numeral.whole.head?, c ≠ '0'

/-- The numeral is some digits, a point's place and an exponent written out, perhaps with
zeros moved from the exponent into the digits. -/
structure Writes (numeral : Numeral) (written : DecimalDigits) : Prop where
  plain : numeral.Plain
  unsigned : numeral.sign = none
  value : ∃ zeros : Nat, numeral.toDecimal =
    ⟨false, written.digits * Nat.pow 10 zeros, written.exponent - zeros⟩

theorem writes_parts {whole : List Char} {fraction : Option (List Char)}
    {exponent : Option Exponent} {written : DecimalDigits} (zeros : Nat)
    (wholeDigits : Digits whole)
    (fractionDigits : ∀ present ∈ fraction, Digits present ∧ present ≠ [])
    (leading : whole = ['0'] ∨ ∃ c ∈ whole.head?, c ≠ '0')
    (valid : ∀ present ∈ exponent, present.Valid)
    (digits : Numeral.value (whole ++ fraction.getD []) = written.digits * Nat.pow 10 zeros)
    (place : (exponent.map exponentValue).getD 0 - (fraction.getD []).length =
      written.exponent - zeros) :
    Writes ⟨none, whole, fraction, exponent⟩ written where
  plain := by
    refine ⟨⟨wholeDigits, fractionDigits, .inl ?_, valid⟩, by simp, leading⟩
    rintro rfl
    rcases leading with zero | ⟨c, none, -⟩
    · cases zero
    · cases none
  unsigned := rfl
  value := by
    refine ⟨zeros, ?_⟩
    rw [← digits, ← place]
    rfl

theorem present_digits {digits : List Char} (all : Digits digits) (nonempty : digits ≠ []) :
    ∀ present ∈ some digits, Digits present ∧ present ≠ [] := by
  rintro _ ⟨⟩
  exact ⟨all, nonempty⟩

end Numeral

namespace NumberFormat

open Numeral

section Layouts

variable {text : List Char} {digits : Nat} {exponent : Int}

theorem whole_written (figures : Figures text digits) (proper : digits = 0 → exponent = 0)
    (whole : 0 ≤ exponent) :
    Writes ⟨none, text ++ zeros exponent.toNat, some ['0'], none⟩ ⟨digits, exponent⟩ := by
  refine writes_parts (exponent.toNat + 1) (figures.digits.append (zeros_digits _))
    (present_digits (zeros_digits 1) (by simp)) ?_ (by simp) ?_ ?_
  · rcases figures.leading with zero | leading
    · left
      have none := figures.value
      rw [zero] at none
      rw [zero, proper none.symm]
      rfl
    · right
      obtain ⟨first, rest, rfl⟩ := List.exists_cons_of_ne_nil figures.nonempty
      exact ⟨first, rfl, leading first rfl⟩
  · have last : value ['0'] = 0 := rfl
    rw [Option.getD_some, value_append, value_append, figures.value, value_zeros, last, zeros,
      List.length_replicate, Nat.add_zero, Nat.add_zero, Nat.mul_assoc]
    rfl
  · simp only [Option.map_none, Option.getD_none, Option.getD_some, List.length_singleton]
    omega

theorem inside_written (figures : Figures text digits) (fractional : ¬ 0 ≤ exponent)
    (inside : (-exponent).toNat < text.length) :
    Writes ⟨none, text.take (text.length - (-exponent).toNat),
      some (text.drop (text.length - (-exponent).toNat)), none⟩ ⟨digits, exponent⟩ := by
  have split := List.take_append_drop (text.length - (-exponent).toNat) text
  have all := figures.digits
  have counted := congrArg List.length split
  rw [List.length_append, List.length_take] at counted
  refine writes_parts 0 (fun c member => all c (List.mem_of_mem_take member))
    (present_digits (fun c member => all c (List.mem_of_mem_drop member)) ?_) ?_ (by simp) ?_ ?_
  · apply List.ne_nil_of_length_pos
    omega
  · right
    rcases figures.leading with zero | leading
    · rw [zero] at inside
      simp only [List.length_singleton] at inside
      omega
    · obtain ⟨first, rest, rfl⟩ := List.exists_cons_of_ne_nil figures.nonempty
      refine ⟨first, ?_, leading first rfl⟩
      rw [List.head?_take, if_neg (by omega)]
      rfl
  · rw [Option.getD_some, split, figures.value]
    exact (Nat.mul_one digits).symm
  · simp only [Option.map_none, Option.getD_none, Option.getD_some, List.length_drop]
    omega

theorem outside_written (figures : Figures text digits) (fractional : ¬ 0 ≤ exponent)
    (outside : ¬ (-exponent).toNat < text.length) :
    Writes ⟨none, ['0'], some (zeros ((-exponent).toNat - text.length) ++ text), none⟩
      ⟨digits, exponent⟩ := by
  refine writes_parts 0 (zeros_digits 1)
    (present_digits ((zeros_digits _).append figures.digits)
      (List.append_ne_nil_of_right_ne_nil _ figures.nonempty)) (.inl rfl) (by simp) ?_ ?_
  · have first : value ['0'] = 0 := rfl
    rw [Option.getD_some, value_append, value_append, first, value_zeros, Nat.zero_mul,
      Nat.zero_mul, Nat.zero_add, Nat.zero_add, figures.value]
    exact (Nat.mul_one digits).symm
  · simp only [Option.map_none, Option.getD_none, Option.getD_some, zeros, List.length_append,
      List.length_replicate]
    omega

theorem positional_written (figures : Figures text digits) (proper : digits = 0 → exponent = 0) :
    ∃ numeral : Numeral, numeral.spelling = positional text exponent ∧
      numeral.Writes ⟨digits, exponent⟩ := by
  unfold positional
  split
  · rename_i whole
    exact ⟨_, by simp [spelling, fractionSpelling], whole_written figures proper whole⟩
  · rename_i fractional
    dsimp only
    split
    · rename_i inside
      exact ⟨_, by simp [spelling, fractionSpelling], inside_written figures fractional inside⟩
    · rename_i outside
      exact ⟨_, by simp [spelling, fractionSpelling], outside_written figures fractional outside⟩

theorem exponentText_written (format : NumberFormat) (exponent : Int) :
    ∃ written : Exponent, written.spelling = format.exponentText exponent ∧ written.Valid ∧
      exponentValue written = exponent := by
  have figures := toDigits_figures exponent.natAbs
  by_cases negative : exponent < 0
  · refine ⟨⟨'e', some .minus, Nat.toDigits 10 exponent.natAbs⟩, ?_,
      ⟨.inl rfl, figures.digits, figures.nonempty⟩, ?_⟩
    · simp [Exponent.spelling, exponentText, negative, Sign.spelling]
    · simp only [exponentValue, if_true, figures.value]
      omega
  · refine ⟨⟨'e', if format.plusSign then some .plus else none,
      Nat.toDigits 10 exponent.natAbs⟩, ?_, ⟨.inl rfl, figures.digits, figures.nonempty⟩, ?_⟩
    · cases signed : format.plusSign <;>
        simp [Exponent.spelling, exponentText, negative, signed, Sign.spelling]
    · have unsigned : (if format.plusSign then some Sign.plus else none) ≠ some .minus := by
        split <;> simp
      simp only [exponentValue, if_neg unsigned, figures.value]
      omega

theorem scientific_written (format : NumberFormat) (figures : Figures text digits) :
    ∃ numeral : Numeral,
      numeral.spelling = format.scientific text (exponent + text.length - 1) ∧
      numeral.Writes ⟨digits, exponent⟩ := by
  obtain ⟨written, spelled, valid, same⟩ :=
    format.exponentText_written (exponent + text.length - 1)
  obtain ⟨first, rest, rfl⟩ := List.exists_cons_of_ne_nil figures.nonempty
  obtain ⟨firstDigit, restDigits⟩ := List.forall_mem_cons.mp figures.digits
  have leading : [first] = ['0'] ∨ ∃ c ∈ [first].head?, c ≠ '0' := by
    by_cases zero : first = '0'
    · exact .inl (by rw [zero])
    · exact .inr ⟨first, rfl, zero⟩
  have present : ∀ exponent ∈ some written, exponent.Valid := by
    rintro _ ⟨⟩
    exact valid
  cases rest with
  | nil =>
      cases point : format.wholeFraction with
      | true =>
          refine ⟨⟨none, [first], some ['0'], some written⟩, ?_,
            writes_parts 1 figures.digits (present_digits (zeros_digits 1) (by simp)) leading
              present ?_ ?_⟩
          · simp [spelling, fractionSpelling, scientific, point, spelled]
          · have last : value ['0'] = 0 := rfl
            rw [Option.getD_some, value_append, figures.value, last]
            rfl
          · simp [same]
      | false =>
          refine ⟨⟨none, [first], none, some written⟩, ?_,
            writes_parts 0 figures.digits (by simp) leading present ?_ ?_⟩
          · simp [spelling, fractionSpelling, scientific, point, spelled]
          · rw [Option.getD_none, List.append_nil, figures.value]
            exact (Nat.mul_one digits).symm
          · simp [same]
  | cons second more =>
      refine ⟨⟨none, [first], some (second :: more), some written⟩, ?_,
        writes_parts 0 (List.forall_mem_singleton.mpr firstDigit)
          (present_digits restDigits (by simp)) leading present ?_ ?_⟩
      · simp [spelling, fractionSpelling, scientific, spelled]
      · rw [Option.getD_some, List.singleton_append, figures.value]
        exact (Nat.mul_one digits).symm
      · simp only [Option.map_some, Option.getD_some, same, List.length_cons]
        omega

theorem magnitudeText_written (format : NumberFormat) {magnitude : Nat}
    (bounded : magnitude ≤ Binary64.infinity) :
    ∃ numeral : Numeral, numeral.spelling = format.magnitudeText magnitude ∧
      numeral.Writes (DecimalDigits.shortest format.tie magnitude) := by
  have figures := toDigits_figures (DecimalDigits.shortest format.tie magnitude).digits
  unfold magnitudeText
  dsimp only
  split
  · exact positional_written figures (DecimalDigits.shortest_zero bounded)
  · exact format.scientific_written figures

end Layouts

/-- Every finite number is written as a numeral that reads back as just that number. -/
theorem finiteText_reads (format : NumberFormat) {x : Binary64} (finite : x.isFinite = true) :
    ∃ numeral : Numeral, numeral.spelling = format.finiteText x ∧ numeral.Plain ∧
      numeral.toDecimal.toBinary64 = x := by
  have bounded : x.magnitude ≤ Binary64.infinity := Nat.le_of_lt (of_decide_eq_true finite)
  obtain ⟨numeral, spelled, ⟨valid, -, leading⟩, unsigned, moved, value⟩ :=
    format.magnitudeText_written bounded
  have reads := DecimalDigits.nearestDecimal_shortest format.tie bounded
  rw [← Binary64.nearestDecimal_shift _ moved] at reads
  refine ⟨{ numeral with sign := if x.negative then some .minus else none }, ?_,
    ⟨⟨valid.whole, valid.fraction, valid.nonempty, valid.exponent⟩, ?_, leading⟩, ?_⟩
  · rw [finiteText, ← spelled]
    cases x.negative <;> simp [spelling, unsigned, Sign.spelling]
  · split <;> simp
  · obtain ⟨negative, magnitude, limit⟩ := x
    have signed :
        decide ((if negative then some Sign.minus else none) = some .minus) = negative := by
      cases negative <;> rfl
    rw [toDecimal_sign, value, signed, Decimal.toBinary64]
    simp only [reads]

theorem finiteText_injective (format : NumberFormat) {left right : Binary64}
    (finiteLeft : left.isFinite = true) (finiteRight : right.isFinite = true)
    (same : format.finiteText left = format.finiteText right) : left = right := by
  obtain ⟨numeral, spelled, plain, reads⟩ := format.finiteText_reads finiteLeft
  obtain ⟨other, spelledOther, plainOther, readsOther⟩ := format.finiteText_reads finiteRight
  have read := read?_spelling plain.valid
  rw [spelled, same, ← spelledOther, read?_spelling plainOther.valid] at read
  rw [← reads, ← Option.some.inj read, readsOther]

end NumberFormat

end QueryCheck
