import QueryCheck.Proofs.CorrectRounding
import QueryCheck.Proofs.Layout

/-!
The value of a number literal, read off its parts: digits, each at the power of ten of its
place, and an exponent that moves them. Every number token carries that value correctly
rounded, so what it carries depends on the value alone and not on how it is written.
-/
namespace QueryCheck

/-- The value of a row of digits: each one times the power of ten of its place. -/
def placeValue : List Char → ℕ
  | [] => 0
  | c :: rest => (c.toNat - '0'.toNat) * 10 ^ rest.length + placeValue rest

inductive SignOf : List Char → Bool → Prop where
  | absent : SignOf [] false
  | plus : SignOf ['+'] false
  | minus : SignOf ['-'] true

inductive PowerOf : List Char → ℤ → Prop where
  | absent : PowerOf [] 0
  | exponent {mark : Char} {sign digits : List Char} {negative : Bool} :
      mark = 'e' ∨ mark = 'E' → SignOf sign negative → Digits digits → digits ≠ [] →
        PowerOf (mark :: sign ++ digits)
          (if negative then -(placeValue digits : ℤ) else placeValue digits)

/-- A number literal, with its sign and its absolute value. -/
inductive Denotes : List Char → Bool → ℚ → Prop where
  | whole {sign digits exponent : List Char} {negative : Bool} {power : ℤ} :
      SignOf sign negative → Digits digits → digits ≠ [] → PowerOf exponent power →
        Denotes (sign ++ digits ++ exponent) negative (placeValue digits * 10 ^ power)
  | fraction {sign whole digits exponent : List Char} {negative : Bool} {power : ℤ} :
      SignOf sign negative → Digits whole → Digits digits → digits ≠ [] →
        PowerOf exponent power →
          Denotes (sign ++ whole ++ '.' :: digits ++ exponent) negative
            (placeValue (whole ++ digits) * 10 ^ (power - digits.length))

section Parts

theorem value_eq_placeValue (digits : List Char) : Numeral.value digits = placeValue digits := by
  induction digits with
  | nil => rfl
  | cons c rest ih =>
      have split := Numeral.value_append [c] rest
      rw [ih] at split
      have first : Numeral.value [c] = c.toNat - '0'.toNat := Nat.zero_add _
      rw [first] at split
      exact split

theorem signOf_iff {text : List Char} {negative : Bool} :
    SignOf text negative ↔ ∃ sign : Option Sign,
      sign.toList.map Sign.spelling = text ∧ decide (sign = some .minus) = negative := by
  constructor
  · rintro (_ | _ | _)
    · exact ⟨none, rfl, rfl⟩
    · exact ⟨some .plus, rfl, rfl⟩
    · exact ⟨some .minus, rfl, rfl⟩
  · rintro ⟨_ | ⟨_ | _⟩, rfl, rfl⟩
    · exact .absent
    · exact .plus
    · exact .minus

theorem powerOf_iff {text : List Char} {power : ℤ} :
    PowerOf text power ↔ ∃ exponent : Option Exponent,
      (∀ present ∈ exponent, present.Valid) ∧
        (exponent.map Exponent.spelling).getD [] = text ∧
          (exponent.map Numeral.exponentValue).getD 0 = power := by
  constructor
  · rintro (_ | ⟨marked, signed, digits, nonempty⟩)
    · exact ⟨none, by simp, rfl, rfl⟩
    · obtain ⟨sign, rfl, rfl⟩ := signOf_iff.mp signed
      refine ⟨some ⟨_, sign, _⟩, ?_, rfl, ?_⟩
      · rintro _ ⟨⟩
        exact ⟨marked, digits, nonempty⟩
      · simp only [Option.map_some, Option.getD_some, Numeral.exponentValue, value_eq_placeValue,
          decide_eq_true_eq]
  · rintro ⟨_ | exponent, valid, rfl, rfl⟩
    · exact .absent
    · have present := valid exponent rfl
      have written := PowerOf.exponent present.mark (signOf_iff.mpr ⟨exponent.sign, rfl, rfl⟩)
        present.digits present.nonempty
      simpa only [Option.map_some, Option.getD_some, Exponent.spelling, Numeral.exponentValue,
        value_eq_placeValue, decide_eq_true_eq] using written

theorem size_whole (sign : Option Sign) (digits : List Char) (exponent : Option Exponent) :
    (Numeral.toDecimal ⟨sign, digits, none, exponent⟩).size =
      placeValue digits * 10 ^ (exponent.map Numeral.exponentValue).getD 0 := by
  simp only [Decimal.size, Numeral.toDecimal, Option.getD_none, List.append_nil,
    List.length_nil, Nat.cast_zero, sub_zero, value_eq_placeValue]

theorem size_fraction (sign : Option Sign) (whole digits : List Char)
    (exponent : Option Exponent) :
    (Numeral.toDecimal ⟨sign, whole, some digits, exponent⟩).size =
      placeValue (whole ++ digits) *
        10 ^ ((exponent.map Numeral.exponentValue).getD 0 - digits.length) := by
  simp only [Decimal.size, Numeral.toDecimal, Option.getD_some, value_eq_placeValue]

-- The literals are the spellings of valid numerals, with the value of their decimal.
theorem denotes_iff {text : List Char} {negative : Bool} {size : ℚ} :
    Denotes text negative size ↔ ∃ numeral : Numeral, numeral.Valid ∧
      numeral.spelling = text ∧ numeral.toDecimal.negative = negative ∧
        numeral.toDecimal.size = size := by
  constructor
  · intro denotes
    cases denotes with
    | @whole _ digits _ _ _ signed all nonempty ended =>
        obtain ⟨sign, rfl, negative⟩ := signOf_iff.mp signed
        obtain ⟨exponent, valid, rfl, rfl⟩ := powerOf_iff.mp ended
        refine ⟨⟨sign, digits, none, exponent⟩, ⟨all, by simp, .inl nonempty, valid⟩, ?_,
          negative, size_whole ..⟩
        simp [Numeral.spelling, Numeral.fractionSpelling]
    | @fraction _ whole digits _ _ _ signed wholeAll all nonempty ended =>
        obtain ⟨sign, rfl, negative⟩ := signOf_iff.mp signed
        obtain ⟨exponent, valid, rfl, rfl⟩ := powerOf_iff.mp ended
        refine ⟨⟨sign, whole, some digits, exponent⟩,
          ⟨wholeAll, Numeral.present_digits all nonempty, .inr (by simp), valid⟩, ?_,
          negative, size_fraction ..⟩
        simp [Numeral.spelling, Numeral.fractionSpelling]
  · rintro ⟨⟨sign, whole, fraction, exponent⟩, valid, rfl, rfl, rfl⟩
    have signed : SignOf _ (decide (sign = some .minus)) := signOf_iff.mpr ⟨sign, rfl, rfl⟩
    have ended := powerOf_iff.mpr ⟨exponent, valid.exponent, rfl, rfl⟩
    cases fraction with
    | none =>
        have nonempty : whole ≠ [] := by simpa using valid.nonempty
        rw [size_whole]
        simpa [Numeral.toDecimal, Numeral.spelling, Numeral.fractionSpelling] using
          Denotes.whole signed valid.whole nonempty ended
    | some digits =>
        obtain ⟨all, nonempty⟩ := valid.fraction digits rfl
        rw [size_fraction]
        simpa [Numeral.toDecimal, Numeral.spelling, Numeral.fractionSpelling] using
          Denotes.fraction signed valid.whole all nonempty ended

theorem numericPattern_iff_denotes {text : List Char} :
    NumericPattern text ↔ ∃ negative size, Denotes text negative size := by
  rw [numericPattern_iff]
  constructor
  · rintro ⟨numeral, valid, spelled⟩
    exact ⟨_, _, denotes_iff.mpr ⟨numeral, valid, spelled, rfl, rfl⟩⟩
  · rintro ⟨negative, size, denotes⟩
    obtain ⟨numeral, valid, spelled, -⟩ := denotes_iff.mp denotes
    exact ⟨numeral, valid, spelled⟩

theorem Denotes.determined {text : List Char} {negative other : Bool} {size amount : ℚ}
    (denotes : Denotes text negative size) (again : Denotes text other amount) :
    negative = other ∧ size = amount := by
  obtain ⟨numeral, valid, rfl, rfl, rfl⟩ := denotes_iff.mp denotes
  obtain ⟨found, validFound, spelled, rfl, rfl⟩ := denotes_iff.mp again
  have same := Numeral.read?_spelling validFound
  rw [spelled, Numeral.read?_spelling valid] at same
  cases same
  exact ⟨rfl, rfl⟩

end Parts

theorem Keyword.kind_ne_number {keyword : Keyword} (member : keyword ∈ all) :
    keyword.kind ≠ .number := by
  have none : all.all (fun keyword => keyword.kind ≠ .number) = true := by decide
  simpa using List.all_eq_true.mp none keyword member

theorem Lexeme.number_decimal {lexeme : List Char} {kind : Kind} {payload : Option Payload}
    (isLexeme : Lexeme lexeme kind payload) (number : kind = .number) :
    ∃ d : Decimal, Denotes lexeme d.negative d.size ∧
      payload = some (.number d.toBinary64) := by
  cases isLexeme with
  | @number numeral _ valid _ =>
      exact ⟨numeral.toDecimal, denotes_iff.mpr ⟨numeral, valid, rfl, rfl, rfl⟩, rfl⟩
  | reserved _ found =>
      exact absurd number (Keyword.kind_ne_number (Keyword.mem_all_of_find? found))
  | _ => cases number

theorem Denotes.lexeme {text : List Char} {negative : Bool} {size : ℚ}
    (denotes : Denotes text negative size) (pointless : text.head? ≠ some '.') :
    ∃ d : Decimal, d.negative = negative ∧ d.size = size ∧
      Lexeme text .number (some (.number d.toBinary64)) := by
  have pattern := numericPattern_iff_denotes.mpr ⟨_, _, denotes⟩
  obtain ⟨numeral, valid, rfl, sign, same⟩ := denotes_iff.mp denotes
  exact ⟨numeral.toDecimal, sign, same, .number pattern valid pointless⟩

/-- Every number token carries the value of its literal, rounded to the nearest double;
every literal alone, or in front of a blank or a quote, is read as such a token; and literals
of one value carry one number. -/
theorem literals_correctly_rounded :
    (∀ (scanner : Scanner) (token : Token), scanner.next.outcome = .ok token →
      token.kind = .number → ∃ negative size x, Denotes scanner.lexeme negative size ∧
        token.payload = some (.number x) ∧ x.RoundsTo negative size) ∧
    (∀ text negative size, Denotes text negative size → text.head? ≠ some '.' →
      ∃ x : Binary64, x.RoundsTo negative size ∧ ∀ blanks rest place,
        (∀ c ∈ blanks, Text.isBlank c = true) → Breaks rest →
          Scanner.next ⟨blanks ++ (text ++ rest), place⟩ =
            ⟨.ok ⟨.number, place.after blanks, some (.number x)⟩,
              ⟨rest, place.after (blanks ++ text)⟩⟩) ∧
    (∀ (scanner other : Scanner) (token found : Token) negative size,
      scanner.next.outcome = .ok token → token.kind = .number →
      other.next.outcome = .ok found → found.kind = .number →
      Denotes scanner.lexeme negative size → Denotes other.lexeme negative size →
        token.payload = found.payload) := by
  have carried (scanner : Scanner) (token : Token) (read : scanner.next.outcome = .ok token)
      (number : token.kind = .number) : ∃ d : Decimal,
        Denotes scanner.lexeme d.negative d.size ∧
          token.payload = some (.number d.toBinary64) := by
    obtain ⟨isLexeme, -, -⟩ := Scanner.lexeme_passes read (by rw [number]; decide)
    exact isLexeme.number_decimal number
  refine ⟨?_, ?_, ?_⟩
  · intro scanner token read number
    obtain ⟨d, denotes, payload⟩ := carried scanner token read number
    exact ⟨_, _, _, denotes, payload, d.toBinary64_roundsTo⟩
  · intro text negative size denotes pointless
    obtain ⟨d, rfl, rfl, isLexeme⟩ := denotes.lexeme pointless
    refine ⟨d.toBinary64, d.toBinary64_roundsTo, ?_⟩
    intro blanks rest place blank breaks
    apply Scanner.next_lexeme place blank isLexeme
    have alone := Reading.ofText_longest (Reading.ofText_lexeme isLexeme)
    exact alone.cut isLexeme (List.prefix_refl _) (List.prefix_refl _) breaks
  · intro scanner other token found negative size read number readOther numberFound denotes again
    obtain ⟨d, own, payload⟩ := carried scanner token read number
    obtain ⟨e, ownOther, payloadOther⟩ := carried other found readOther numberFound
    obtain ⟨sign, same⟩ := own.determined denotes
    obtain ⟨signOther, sameOther⟩ := ownOther.determined again
    rw [payload, payloadOther,
      Decimal.toBinary64_congr (sign.trans signOther.symm) (same.trans sameOther.symm)]

/-- A tenth, written with an exponent and with a point, is one and the same double. -/
theorem tenth_written_twice : ∃ x : Binary64, x.RoundsTo false (1 / 10) ∧
    (Scanner.ofText "1e-1").next.outcome = .ok ⟨.number, .start, some (.number x)⟩ ∧
    (Scanner.ofText "+.10").next.outcome = .ok ⟨.number, .start, some (.number x)⟩ := by
  obtain ⟨carried, alone, same⟩ := literals_correctly_rounded
  have first : Denotes "1e-1".toList false (1 / 10) := by
    have denotes := @Denotes.whole _ ['1'] _ _ _ .absent (by decide) (by decide)
      (@PowerOf.exponent 'e' _ ['1'] _ (.inl rfl) .minus (by decide) (by decide))
    have value : (placeValue ['1'] : ℚ) * 10 ^ (-(placeValue ['1'] : ℤ)) = 1 / 10 := by
      rw [show placeValue ['1'] = 1 from rfl]
      norm_num
    exact value ▸ denotes
  have second : Denotes "+.10".toList false (1 / 10) := by
    have denotes := @Denotes.fraction _ [] ['1', '0'] _ _ _ .plus (by decide) (by decide)
      (by decide) .absent
    have value : (placeValue ['1', '0'] : ℚ) * 10 ^ (0 - (2 : ℕ) : ℤ) = 1 / 10 := by
      rw [show placeValue ['1', '0'] = 10 from rfl]
      norm_num
    exact value ▸ denotes
  obtain ⟨x, -, reads⟩ := alone _ _ _ first (by decide)
  obtain ⟨y, -, readsSecond⟩ := alone _ _ _ second (by decide)
  have read := reads [] [] .start (by simp) (by simp [Breaks])
  have readSecond := readsSecond [] [] .start (by simp) (by simp [Breaks])
  rw [List.append_nil, List.nil_append] at read readSecond
  have own : Denotes (Scanner.ofText "1e-1").lexeme false (1 / 10) := by
    rw [Scanner.lexeme, Scanner.ofText, read]
    exact first
  have ownSecond : Denotes (Scanner.ofText "+.10").lexeme false (1 / 10) := by
    rw [Scanner.lexeme, Scanner.ofText, readSecond]
    exact second
  have outcome := congrArg Scanner.Step.outcome read
  have outcomeSecond := congrArg Scanner.Step.outcome readSecond
  have equal : some (Payload.number x) = some (.number y) :=
    same (.ofText "1e-1") (.ofText "+.10") _ _ _ _ outcome rfl outcomeSecond rfl own ownSecond
  obtain ⟨negative, size, z, denotes, payload, rounds⟩ :=
    carried (.ofText "1e-1") _ outcome rfl
  obtain ⟨rfl, rfl⟩ := own.determined denotes
  cases payload
  refine ⟨x, rounds, outcome, ?_⟩
  rw [equal]
  exact outcomeSecond

end QueryCheck
