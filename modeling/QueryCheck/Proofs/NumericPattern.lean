import Mathlib.Data.List.Basic
import Mathlib.Data.List.TakeWhile
import QueryCheck.Lexeme

/-!
The numeric pattern, stated part by part, and what reading a numeral has to do with it:
the numeral read is one of the pattern, it stands at the front of the text, and no other
text of the pattern at the front is longer.
-/
namespace QueryCheck

def Digits (text : List Char) : Prop := ∀ c ∈ text, c.isDigit = true

instance (text : List Char) : Decidable (Digits text) :=
  List.decidableBAll (fun c : Char => c.isDigit = true) text

inductive OptionalSign : List Char → Prop where
  | absent : OptionalSign []
  | plus : OptionalSign ['+']
  | minus : OptionalSign ['-']

inductive OptionalPoint : List Char → Prop where
  | absent : OptionalPoint []
  | point : OptionalPoint ['.']

inductive OptionalExponent : List Char → Prop where
  | absent : OptionalExponent []
  | exponent {mark : Char} {sign digits : List Char} :
      mark = 'e' ∨ mark = 'E' → OptionalSign sign → Digits digits → digits ≠ [] →
        OptionalExponent (mark :: sign ++ digits)

/-- A sign or none, any digits, a point or none, at least one digit, and an exponent or
none. -/
inductive NumericPattern : List Char → Prop where
  | numeral {sign whole point digits exponent : List Char} :
      OptionalSign sign → Digits whole → OptionalPoint point → Digits digits → digits ≠ [] →
        OptionalExponent exponent →
          NumericPattern (sign ++ whole ++ point ++ digits ++ exponent)

structure Exponent.Valid (exponent : Exponent) : Prop where
  mark : exponent.mark = 'e' ∨ exponent.mark = 'E'
  digits : Digits exponent.digits
  nonempty : exponent.digits ≠ []

structure Numeral.Valid (numeral : Numeral) : Prop where
  whole : Digits numeral.whole
  fraction : ∀ digits ∈ numeral.fraction, Digits digits ∧ digits ≠ []
  nonempty : numeral.whole ≠ [] ∨ numeral.fraction ≠ none
  exponent : ∀ exponent ∈ numeral.exponent, exponent.Valid

namespace Sign

theorem spelling_read (text : List Char) :
    (read text).1.toList.map spelling ++ (read text).2 = text := by
  cases text with
  | nil => rfl
  | cons c rest =>
      simp only [read, ofChar?]
      by_cases plus : c = '+'
      · simp [plus, spelling]
      · by_cases minus : c = '-' <;> simp [plus, minus, spelling]

theorem read_spelling_append (sign : Option Sign) (rest : List Char)
    (unsigned : ∀ c ∈ rest.head?, c ≠ '+' ∧ c ≠ '-') :
    read (sign.toList.map spelling ++ rest) = (sign, rest) := by
  cases sign with
  | some sign => cases sign <;> rfl
  | none =>
      cases rest with
      | nil => rfl
      | cons c rest =>
          obtain ⟨plus, minus⟩ := unsigned c rfl
          simp [read, ofChar?, plus, minus]

theorem optional_iff {text : List Char} :
    OptionalSign text ↔ ∃ sign : Option Sign, text = sign.toList.map spelling := by
  constructor
  · rintro (_ | _ | _)
    · exact ⟨none, rfl⟩
    · exact ⟨some .plus, rfl⟩
    · exact ⟨some .minus, rfl⟩
  · rintro ⟨_ | ⟨_ | _⟩, rfl⟩
    · exact .absent
    · exact .plus
    · exact .minus

end Sign

theorem Digits.head_ne {text : List Char} (digits : Digits text) {c : Char}
    (other : c.isDigit = false) : ∀ d ∈ text.head?, d ≠ c := by
  rintro d member rfl
  rw [digits d (List.mem_of_mem_head? member)] at other
  cases other

theorem Digits.append {front back : List Char} (frontDigits : Digits front)
    (backDigits : Digits back) : Digits (front ++ back) := by
  intro c member
  rcases List.mem_append.mp member with inFront | inBack
  · exact frontDigits c inFront
  · exact backDigits c inBack

namespace Numeral

theorem digits_valid (text : List Char) : Digits (digits text) :=
  fun _ member => List.mem_takeWhile_imp member

theorem digits_append {front : List Char} (all : Digits front) (rest : List Char) :
    digits (front ++ rest) = front ++ digits rest :=
  List.takeWhile_append_of_pos all

theorem digits_cons_stop {c : Char} (rest : List Char) (other : c.isDigit = false) :
    digits (c :: rest) = [] := by
  simp [digits, other]

theorem digits_append_drop (text : List Char) :
    digits text ++ text.drop (digits text).length = text :=
  List.prefix_iff_eq_append.mp (List.takeWhile_prefix _)

theorem digits_drop (text : List Char) :
    digits (text.drop (digits text).length) = [] := by
  have whole := digits_append (digits_valid text) (text.drop (digits text).length)
  rw [digits_append_drop] at whole
  simpa using whole

theorem fraction?_append {front : List Char} (all : Digits front) (nonempty : front ≠ [])
    {rest : List Char} (stop : digits rest = []) :
    fraction? ('.' :: front ++ rest) = some front := by
  simp [fraction?, digits_append all, stop, nonempty]

theorem fraction?_of_ne {text : List Char} (other : ∀ c ∈ text.head?, c ≠ '.') :
    fraction? text = none := by
  cases text with
  | nil => rfl
  | cons c rest => simp [fraction?, other c rfl]

theorem fraction?_sound {text fraction : List Char} (read : fraction? text = some fraction) :
    Digits fraction ∧ fraction ≠ [] ∧ '.' :: fraction <+: text := by
  cases text with
  | nil => cases read
  | cons c rest =>
      simp only [fraction?, Bool.and_eq_true, decide_eq_true_eq, Option.ite_none_right_eq_some,
        Option.some.injEq, Bool.not_eq_true', List.isEmpty_eq_false_iff] at read
      obtain ⟨⟨rfl, nonempty⟩, rfl⟩ := read
      exact ⟨digits_valid rest, nonempty,
        List.cons_prefix_cons.mpr ⟨rfl, List.takeWhile_prefix _⟩⟩

theorem unsigned_head {front : List Char} (all : Digits front) (nonempty : front ≠ [])
    (rest : List Char) : ∀ c ∈ (front ++ rest).head?, c ≠ '+' ∧ c ≠ '-' := by
  rw [List.head?_append_of_ne_nil _ nonempty]
  intro c member
  exact ⟨all.head_ne (by decide) c member, all.head_ne (by decide) c member⟩

theorem exponent?_append {exponent : Exponent} (valid : exponent.Valid) (rest : List Char) :
    exponent? (exponent.spelling ++ rest) =
      some { exponent with digits := exponent.digits ++ digits rest } := by
  have unsigned := unsigned_head valid.digits valid.nonempty rest
  simp [Exponent.spelling, exponent?, Sign.read_spelling_append _ _ unsigned,
    digits_append valid.digits, valid.nonempty, valid.mark]

theorem exponent?_sound {text : List Char} {exponent : Exponent}
    (read : exponent? text = some exponent) :
    exponent.Valid ∧ exponent.spelling <+: text := by
  cases text with
  | nil => cases read
  | cons c rest =>
      simp only [exponent?, Bool.and_eq_true, Bool.or_eq_true, decide_eq_true_eq,
        Option.ite_none_right_eq_some, Option.some.injEq, Bool.not_eq_true',
        List.isEmpty_eq_false_iff] at read
      obtain ⟨⟨marked, nonempty⟩, rfl⟩ := read
      refine ⟨⟨marked, digits_valid _, nonempty⟩, ?_⟩
      rw [Exponent.spelling, List.cons_append, List.cons_prefix_cons]
      refine ⟨rfl, ?_⟩
      have behind : (Sign.read rest).1.toList.map Sign.spelling ++ digits (Sign.read rest).2 <+:
          (Sign.read rest).1.toList.map Sign.spelling ++ (Sign.read rest).2 :=
        (List.prefix_append_right_inj _).mpr (List.takeWhile_prefix _)
      rwa [Sign.spelling_read] at behind

theorem read?_whole (sign : Option Sign) {whole behind : List Char} (all : Digits whole)
    (nonempty : whole ≠ []) (stop : digits behind = []) :
    read? (sign.toList.map Sign.spelling ++ (whole ++ behind)) =
      some ⟨sign, whole, fraction? behind,
        exponent? (behind.drop (fractionSpelling (fraction? behind)).length)⟩ := by
  have signRead := Sign.read_spelling_append sign _ (unsigned_head all nonempty behind)
  have wholeRead : digits (whole ++ behind) = whole := by
    rw [digits_append all, stop, List.append_nil]
  simp [read?, signRead, wholeRead, nonempty]

theorem read?_fraction (sign : Option Sign) {whole fraction behind : List Char}
    (all : Digits whole) (fractionAll : Digits fraction) (nonempty : fraction ≠ [])
    (stop : digits behind = []) :
    read? (sign.toList.map Sign.spelling ++ (whole ++ '.' :: (fraction ++ behind))) =
      some ⟨sign, whole, some fraction, exponent? behind⟩ := by
  have unsigned : ∀ c ∈ (whole ++ '.' :: (fraction ++ behind)).head?, c ≠ '+' ∧ c ≠ '-' := by
    -- An empty whole part leaves the point in front, and a point is no sign.
    by_cases empty : whole = []
    · simp [empty]
    · exact unsigned_head all empty _
  have wholeRead : digits (whole ++ '.' :: (fraction ++ behind)) = whole := by
    rw [digits_append all, digits_cons_stop _ (by decide), List.append_nil]
  have fractionRead := fraction?_append fractionAll nonempty stop
  rw [List.cons_append] at fractionRead
  simp [read?, Sign.read_spelling_append _ _ unsigned, wholeRead, fractionRead,
    fractionSpelling]

theorem fractionSpelling_front (text : List Char) :
    fractionSpelling (fraction? text) <+: text := by
  cases read : fraction? text with
  | none => exact List.nil_prefix
  | some fraction => exact (fraction?_sound read).2.2

theorem exponentSpelling_front (text : List Char) :
    ((exponent? text).map Exponent.spelling).getD [] <+: text := by
  cases read : exponent? text with
  | none => exact List.nil_prefix
  | some exponent => exact (exponent?_sound read).2

theorem read?_sound {text : List Char} {numeral : Numeral} (read : read? text = some numeral) :
    numeral.Valid ∧ numeral.spelling <+: text := by
  simp only [read?] at read
  split at read
  · cases read
  · rename_i present
    cases read
    refine ⟨⟨digits_valid _, ?_, ?_, fun exponent found => (exponent?_sound found).1⟩, ?_⟩
    · intro fraction found
      exact ⟨(fraction?_sound found).1, (fraction?_sound found).2.1⟩
    · simpa [Decidable.or_iff_not_imp_left] using present
    · obtain ⟨tail, same⟩ := exponentSpelling_front
        (((Sign.read text).2.drop (digits (Sign.read text).2).length).drop
          (fractionSpelling (fraction? ((Sign.read text).2.drop
            (digits (Sign.read text).2).length))).length)
      refine ⟨tail, ?_⟩
      rw [spelling, List.append_assoc, same, List.append_assoc,
        List.prefix_iff_eq_append.mp (fractionSpelling_front _), List.append_assoc,
        digits_append_drop, Sign.spelling_read]

theorem digits_exponent {exponent : Exponent} (valid : exponent.Valid) (rest : List Char) :
    digits (exponent.spelling ++ rest) = [] := by
  apply digits_cons_stop
  rcases valid.mark with mark | mark <;> rw [mark] <;> decide

theorem fraction?_exponent {exponent : Exponent} (valid : exponent.Valid) (rest : List Char) :
    fraction? (exponent.spelling ++ rest) = none := by
  apply fraction?_of_ne
  rintro c ⟨⟩
  rcases valid.mark with mark | mark <;> rw [mark] <;> decide

/-- A numeral at the front of a text is what is read, unless the text goes on with more of
it. -/
theorem read?_append {numeral : Numeral} (valid : numeral.Valid) (rest : List Char) :
    ∃ found, read? (numeral.spelling ++ rest) = some found ∧
      numeral.spelling.length ≤ found.spelling.length ∧ (rest = [] → found = numeral) := by
  obtain ⟨sign, whole, fraction, exponent⟩ := numeral
  obtain ⟨all, fractionValid, nonempty, exponentValid⟩ := valid
  dsimp only at all fractionValid nonempty exponentValid
  -- The last part written is the one that the rest of the text may carry on.
  rcases fraction with _ | fraction <;> rcases exponent with _ | exponent
  case none.none =>
    have wholeNonempty : whole ++ digits rest ≠ [] := by
      simp [show whole ≠ [] by simpa using nonempty]
    have read := read?_whole sign (all.append (digits_valid rest)) wholeNonempty (digits_drop rest)
    rw [List.append_assoc, digits_append_drop] at read
    refine ⟨_, by simpa [spelling, fractionSpelling] using read, ?_, ?_⟩
    · simp [spelling, fractionSpelling]
    · rintro rfl
      simp [digits, fraction?, exponent?]
  case none.some =>
    have wholeNonempty : whole ≠ [] := by simpa using nonempty
    have exponentHolds := exponentValid exponent rfl
    have read := read?_whole sign all wholeNonempty (digits_exponent exponentHolds rest)
    rw [fraction?_exponent exponentHolds, fractionSpelling, List.length_nil, List.drop_zero,
      exponent?_append exponentHolds] at read
    refine ⟨_, by simpa [spelling, fractionSpelling] using read, ?_, ?_⟩
    · simp [spelling, fractionSpelling, Exponent.spelling]
    · rintro rfl
      simp [digits]
  case some.none =>
    obtain ⟨fractionDigits, fractionNonempty⟩ := fractionValid fraction rfl
    have read := read?_fraction sign all (fractionDigits.append (digits_valid rest))
      (by simp [fractionNonempty]) (digits_drop rest)
    rw [List.append_assoc, digits_append_drop] at read
    refine ⟨_, by simpa [spelling, fractionSpelling] using read, ?_, ?_⟩
    · simp [spelling, fractionSpelling]
    · rintro rfl
      simp [digits, exponent?]
  case some.some =>
    obtain ⟨fractionDigits, fractionNonempty⟩ := fractionValid fraction rfl
    have exponentHolds := exponentValid exponent rfl
    have read := read?_fraction sign all fractionDigits fractionNonempty
      (digits_exponent exponentHolds rest)
    rw [exponent?_append exponentHolds] at read
    refine ⟨_, by simpa [spelling, fractionSpelling] using read, ?_, ?_⟩
    · simp [spelling, fractionSpelling, Exponent.spelling]
    · rintro rfl
      simp [digits]

end Numeral

theorem optionalExponent_iff {text : List Char} :
    OptionalExponent text ↔ ∃ exponent : Option Exponent,
      (∀ present ∈ exponent, present.Valid) ∧ text = (exponent.map Exponent.spelling).getD [] := by
  constructor
  · rintro (_ | ⟨marked, signed, digits, nonempty⟩)
    · exact ⟨none, by simp, rfl⟩
    · obtain ⟨sign, rfl⟩ := Sign.optional_iff.mp signed
      refine ⟨some ⟨_, sign, _⟩, ?_, rfl⟩
      rintro _ ⟨⟩
      exact ⟨marked, digits, nonempty⟩
  · rintro ⟨_ | exponent, valid, rfl⟩
    · exact .absent
    · have present := valid exponent rfl
      exact .exponent present.mark (Sign.optional_iff.mpr ⟨_, rfl⟩) present.digits present.nonempty

-- The texts of the numeric pattern are the spellings of valid numerals.
theorem numericPattern_iff {text : List Char} :
    NumericPattern text ↔ ∃ numeral : Numeral, numeral.Valid ∧ numeral.spelling = text := by
  constructor
  · rintro @⟨_, whole, _, digits, _, signed, wholeAll, pointed, digitsAll, nonempty, ended⟩
    obtain ⟨sign, rfl⟩ := Sign.optional_iff.mp signed
    obtain ⟨exponent, valid, rfl⟩ := optionalExponent_iff.mp ended
    cases pointed with
    | absent =>
        -- Without a point the pattern splits the digits as it likes; a numeral does not.
        refine ⟨⟨sign, whole ++ digits, none, exponent⟩,
          ⟨wholeAll.append digitsAll, by simp, ?_, valid⟩, ?_⟩
        · exact .inl (List.append_ne_nil_of_right_ne_nil _ nonempty)
        · simp [Numeral.spelling, Numeral.fractionSpelling]
    | point =>
        refine ⟨⟨sign, whole, some digits, exponent⟩, ⟨wholeAll, ?_, .inr (by simp), valid⟩, ?_⟩
        · rintro _ ⟨⟩
          exact ⟨digitsAll, nonempty⟩
        · simp [Numeral.spelling, Numeral.fractionSpelling]
  · rintro ⟨⟨sign, whole, fraction, exponent⟩, valid, rfl⟩
    have signed := Sign.optional_iff.mpr ⟨sign, rfl⟩
    have exponents := optionalExponent_iff.mpr ⟨exponent, valid.exponent, rfl⟩
    cases fraction with
    | none =>
        have nonempty : whole ≠ [] := by simpa using valid.nonempty
        have noDigits : Digits [] := fun _ member => absurd member List.not_mem_nil
        simpa [Numeral.spelling, Numeral.fractionSpelling] using
          NumericPattern.numeral signed noDigits .absent valid.whole nonempty exponents
    | some fraction =>
        obtain ⟨digits, nonempty⟩ := valid.fraction fraction rfl
        simpa [Numeral.spelling, Numeral.fractionSpelling] using
          NumericPattern.numeral signed valid.whole .point digits nonempty exponents

end QueryCheck
