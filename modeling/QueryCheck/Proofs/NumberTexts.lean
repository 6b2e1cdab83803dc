import QueryCheck.Proofs.FewestDigits
import QueryCheck.Proofs.LiteralValue

/-!
The texts of finite numbers. Whichever format writes them they are number literals, with the
fewest digits that read back, and scanned alone they give one number token with the number
written. The formats write the same digits, except in a tie between an even decimal and the
one above it.
-/
namespace QueryCheck

section Shapes

inductive OptionalMinus : List Char → Prop where
  | absent : OptionalMinus []
  | minus : OptionalMinus ['-']

-- `[0-9]+\.[0-9]+`
inductive Pointed : List Char → Prop where
  | digits {whole fraction : List Char} :
      Digits whole → whole ≠ [] → Digits fraction → fraction ≠ [] →
        Pointed (whole ++ '.' :: fraction)

/-- Texts of the form `-?[0-9]+\.[0-9]+(e-?[0-9]+)?`. -/
inductive PlainShape : List Char → Prop where
  | positional {sign number : List Char} :
      OptionalMinus sign → Pointed number → PlainShape (sign ++ number)
  | scientific {sign number minus digits : List Char} :
      OptionalMinus sign → Pointed number → OptionalMinus minus → Digits digits →
        digits ≠ [] → PlainShape (sign ++ number ++ 'e' :: minus ++ digits)

/-- Texts of the form `-?[0-9]+\.[0-9]+|-?[0-9]+(\.[0-9]+)?e[-+][0-9]+`. -/
inductive JsonShape : List Char → Prop where
  | positional {sign number : List Char} :
      OptionalMinus sign → Pointed number → JsonShape (sign ++ number)
  | scientific {sign number digits : List Char} {mark : Char} :
      OptionalMinus sign → Pointed number ∨ Digits number ∧ number ≠ [] →
        mark = '-' ∨ mark = '+' → Digits digits → digits ≠ [] →
          JsonShape (sign ++ number ++ 'e' :: mark :: digits)

end Shapes

namespace NumberFormat

open Numeral

variable {figures : List Char}

theorem positional_pointed (all : Digits figures) (nonempty : figures ≠ []) (exponent : ℤ) :
    Pointed (positional figures exponent) := by
  unfold positional
  split
  · exact .digits (all.append (zeros_digits _)) (List.append_ne_nil_of_left_ne_nil nonempty _)
      (zeros_digits 1) (by simp)
  · rename_i fractional
    dsimp only
    split
    · rename_i inside
      apply Pointed.digits
      · exact fun c member => all c (List.mem_of_mem_take member)
      · apply List.ne_nil_of_length_pos
        rw [List.length_take]
        omega
      · exact fun c member => all c (List.mem_of_mem_drop member)
      · apply List.ne_nil_of_length_pos
        rw [List.length_drop]
        omega
    · exact @Pointed.digits ['0'] _ (zeros_digits 1) (by simp) ((zeros_digits _).append all)
        (List.append_ne_nil_of_right_ne_nil _ nonempty)

theorem scientific_split (format : NumberFormat) (all : Digits figures) (nonempty : figures ≠ [])
    (exponent : ℤ) : ∃ number,
      format.scientific figures exponent = number ++ format.exponentText exponent ∧
        (Pointed number ∨ format.wholeFraction = false ∧ Digits number ∧ number ≠ []) := by
  obtain ⟨first, rest, rfl⟩ := List.exists_cons_of_ne_nil nonempty
  obtain ⟨firstDigit, restDigits⟩ := List.forall_mem_cons.mp all
  have single : Digits [first] := List.forall_mem_singleton.mpr firstDigit
  cases rest with
  | nil =>
      cases point : format.wholeFraction with
      | true =>
          refine ⟨[first] ++ '.' :: ['0'], ?_,
            .inl (.digits single (by simp) (zeros_digits 1) (by simp))⟩
          simp [scientific, point]
      | false =>
          refine ⟨[first], ?_, .inr ⟨rfl, single, by simp⟩⟩
          simp [scientific, point]
  | cons second more =>
      refine ⟨[first] ++ '.' :: second :: more, ?_,
        .inl (.digits single (by simp) restDigits (by simp))⟩
      simp [scientific]

theorem magnitudeText_split (format : NumberFormat) (magnitude : ℕ) :
    Pointed (format.magnitudeText magnitude) ∨ ∃ number exponent,
      format.magnitudeText magnitude = number ++ format.exponentText exponent ∧
        (Pointed number ∨ format.wholeFraction = false ∧ Digits number ∧ number ≠ []) := by
  have figures := toDigits_figures (DecimalDigits.shortest format.tie magnitude).digits
  unfold magnitudeText
  dsimp only
  split
  · exact .inl (positional_pointed figures.digits figures.nonempty _)
  · obtain ⟨number, same, form⟩ :=
      scientific_split format figures.digits figures.nonempty
        ((DecimalDigits.shortest format.tie magnitude).exponent +
          (Nat.toDigits 10 (DecimalDigits.shortest format.tie magnitude).digits).length - 1)
    exact .inr ⟨number, _, same, form⟩

theorem plain_shape {sign : List Char} (signed : OptionalMinus sign) (magnitude : ℕ) :
    PlainShape (sign ++ plain.magnitudeText magnitude) := by
  rcases plain.magnitudeText_split magnitude with pointed | ⟨number, exponent, same, form⟩
  · exact .positional signed pointed
  · have pointed := form.resolve_right fun bare => nomatch bare.1
    have power := toDigits_figures exponent.natAbs
    have mark : OptionalMinus (if exponent < 0 then ['-'] else []) := by
      split
      · exact .minus
      · exact .absent
    have shape := PlainShape.scientific signed pointed mark power.digits power.nonempty
    rw [same, exponentText]
    simpa [show plain.plusSign = false from rfl] using shape

theorem json_shape {sign : List Char} (signed : OptionalMinus sign) (magnitude : ℕ) :
    JsonShape (sign ++ json.magnitudeText magnitude) := by
  rcases json.magnitudeText_split magnitude with pointed | ⟨number, exponent, same, form⟩
  · exact .positional signed pointed
  · have power := toDigits_figures exponent.natAbs
    have mark : (if exponent < 0 then '-' else '+') = '-' ∨
        (if exponent < 0 then '-' else '+') = '+' := by
      split
      · exact .inl rfl
      · exact .inr rfl
    have shape := JsonShape.scientific signed (form.imp_right fun bare => bare.2) mark
      power.digits power.nonempty
    rw [same, exponentText]
    by_cases negative : exponent < 0 <;>
      simpa [negative, show json.plusSign = true from rfl] using shape

theorem finiteText_denotes (format : NumberFormat) {x : Binary64} (finite : x.isFinite = true) :
    Denotes (format.finiteText x) x.negative
      (DecimalDigits.shortest format.tie x.magnitude).size := by
  have bounded : x.magnitude ≤ Binary64.infinity := Nat.le_of_lt (of_decide_eq_true finite)
  obtain ⟨numeral, spelled, ⟨valid, -, -⟩, unsigned, moved, value⟩ :=
    format.magnitudeText_written bounded
  apply denotes_iff.mpr
  refine ⟨{ numeral with sign := if x.negative then some .minus else none },
    ⟨valid.whole, valid.fraction, valid.nonempty, valid.exponent⟩, ?_, ?_, ?_⟩
  · rw [finiteText, ← spelled]
    cases x.negative <;> simp [spelling, unsigned, Sign.spelling]
  · rw [toDecimal_sign]
    cases x.negative <;> rfl
  · rw [toDecimal_sign, value, Decimal.size, DecimalDigits.size]
    have power : ((Nat.pow 10 moved : ℕ) : ℚ) = 10 ^ (moved : ℤ) := by
      rw [zpow_natCast]
      exact Nat.cast_pow 10 moved
    rw [Nat.cast_mul, power, mul_assoc, ← zpow_add₀ (by norm_num), add_sub_cancel]

theorem whole_begins {numeral : Numeral} (valid : numeral.Valid) (whole : numeral.whole ≠ []) :
    numeral.spelling.head? ≠ some '.' := by
  obtain ⟨sign, digits, fraction, exponent⟩ := numeral
  obtain ⟨first, rest, rfl⟩ := List.exists_cons_of_ne_nil whole
  have digit := valid.whole first (by simp)
  rcases sign with _ | _ | _
  · rintro ⟨⟩
    cases digit
  · simp [spelling, Sign.spelling]
  · simp [spelling, Sign.spelling]

theorem finiteText_lexeme (format : NumberFormat) {x : Binary64} (finite : x.isFinite = true) :
    Lexeme (format.finiteText x) .number (some (.number x)) := by
  obtain ⟨numeral, spelled, plain, reads⟩ := format.finiteText_reads finite
  rw [← spelled, ← reads]
  apply Lexeme.number (numericPattern_iff.mpr ⟨numeral, plain.valid, rfl⟩) plain.valid
  have whole : numeral.whole ≠ [] := by
    intro empty
    rcases plain.leading with zero | ⟨c, head, -⟩
    · rw [empty] at zero
      cases zero
    · rw [empty] at head
      cases head
  exact whole_begins plain.valid whole

end NumberFormat

theorem Lexeme.scan_alone {text : List Char} {kind : Kind} {payload : Option Payload}
    (isLexeme : Lexeme text kind payload) : Scan.ofText (String.ofList text) =
      ⟨[⟨kind, .start, payload⟩, ⟨.endOfText, Position.start.after text, none⟩], none⟩ := by
  have alone := Reading.ofText_longest (Reading.ofText_lexeme isLexeme)
  have read := @Scanner.next_lexeme [] text [] kind payload .start (by simp) isLexeme
    (by rwa [List.append_nil])
  rw [List.append_nil, List.nil_append] at read
  have ended := @Scanner.next_exhausted ⟨[], Position.start.after text⟩ rfl
  change (Scanner.scan ⟨(String.ofList text).toList, .start⟩) = _
  rw [String.toList_ofList, Scanner.scan_token (congrArg Scanner.Step.outcome read)
    isLexeme.ne_endOfText, read]
  change Scan.mk (_ :: (Scanner.scan ⟨[], Position.start.after text⟩).tokens) _ = _
  rw [Scanner.scan_end (congrArg Scanner.Step.outcome ended) rfl]
  rfl

/-- What is written for a number: digits that the text denotes and that read back, with no
decimal that reads back having fewer, and none in the same place being nearer. -/
structure Binary64.WritesShortest (x : Binary64) (text : String) (d : DecimalDigits) : Prop where
  denotes : Denotes text.toList x.negative d.size
  reads : d.readsBackAs x.magnitude = true
  fewest : ∀ other : DecimalDigits, other.readsBackAs x.magnitude = true →
    (Nat.digits 10 d.digits).length ≤ (Nat.digits 10 other.digits).length
  nearest : ∀ digits, DecimalDigits.readsBackAs ⟨digits, d.exponent⟩ x.magnitude = true →
    |d.size - Binary64.size x.magnitude| ≤
      |DecimalDigits.size ⟨digits, d.exponent⟩ - Binary64.size x.magnitude|

theorem NumberFormat.finiteText_shortest (format : NumberFormat) {x : Binary64}
    (finite : x.isFinite = true) :
    x.WritesShortest (String.ofList (format.finiteText x))
      (DecimalDigits.shortest format.tie x.magnitude) := by
  have limit : x.magnitude < Binary64.infinity := of_decide_eq_true finite
  constructor
  · rw [String.toList_ofList]
    exact format.finiteText_denotes finite
  · exact DecimalDigits.shortest_readsBack _ limit.le
  · intro other reads
    exact DecimalDigits.shortest_fewest limit _ reads
  · intro digits reads
    exact DecimalDigits.shortest_nearest limit _ reads

/-- A finite number's plain text and its JSON text are of their shapes, are scanned as that
number and nothing else, and write the fewest digits that read back. Where two neighbours in
the last place written both read back, the lower one is even and the number lies in the middle
between them, the plain text has the upper one and the JSON text the lower; everywhere else
both have the same. -/
theorem number_texts_read_back (x : Binary64) (finite : x.isFinite = true) :
    PlainShape x.text.toList ∧ JsonShape (Json.number x).toList ∧
    (∀ text ∈ [x.text, Json.number x], Scan.ofText text =
      ⟨[⟨.number, .start, some (.number x)⟩,
        ⟨.endOfText, Position.start.after text.toList, none⟩], none⟩) ∧
    ∃ plain json : DecimalDigits,
      x.WritesShortest x.text plain ∧ x.WritesShortest (Json.number x) json ∧
        (∀ digits, DecimalDigits.Tied x.magnitude ⟨digits, json.exponent⟩ →
          plain = ⟨digits + 1, json.exponent⟩ ∧ json = ⟨digits, json.exponent⟩) ∧
        ((∀ digits, ¬ DecimalDigits.Tied x.magnitude ⟨digits, json.exponent⟩) →
          plain = json) := by
  have limit : x.magnitude < Binary64.infinity := of_decide_eq_true finite
  have plain : x.text = String.ofList (NumberFormat.plain.finiteText x) := by
    have proper : x.isNaN = false := decide_eq_false limit.le.not_gt
    have bounded : x.isInfinite = false := decide_eq_false limit.ne
    simp [Binary64.text, proper, bounded]
  have json : Json.number x = String.ofList (NumberFormat.json.finiteText x) := by
    simp [Json.number, finite]
  have signed : OptionalMinus (if x.negative then ['-'] else []) := by
    split
    · exact .minus
    · exact .absent
  rw [plain, json]
  refine ⟨?_, ?_, ?_, _, _, NumberFormat.plain.finiteText_shortest finite,
    NumberFormat.json.finiteText_shortest finite,
    fun digits tied => DecimalDigits.shortest_of_tied limit tied,
    DecimalDigits.shortest_of_untied limit⟩
  · rw [String.toList_ofList]
    exact NumberFormat.plain_shape signed _
  · rw [String.toList_ofList]
    exact NumberFormat.json_shape signed _
  · intro text member
    simp only [List.mem_cons, List.not_mem_nil, or_false] at member
    rcases member with rfl | rfl
    · rw [(NumberFormat.plain.finiteText_lexeme finite).scan_alone, String.toList_ofList]
    · rw [(NumberFormat.json.finiteText_lexeme finite).scan_alone, String.toList_ofList]

theorem number_texts_of_hundred_thousandth :
    (Binary64.ofBits 0x3ee4f8b588e368f1).isFinite = true ∧
    (Binary64.ofBits 0x3ee4f8b588e368f1).text = "1.0e-5" ∧
    Json.number (.ofBits 0x3ee4f8b588e368f1) = "0.00001" ∧
    (Scan.ofText "1.0e-5").tokens =
      [⟨.number, .start, some (.number (.ofBits 0x3ee4f8b588e368f1))⟩,
        ⟨.endOfText, ⟨0, 6⟩, none⟩] ∧
    (Scan.ofText "0.00001").tokens =
      [⟨.number, .start, some (.number (.ofBits 0x3ee4f8b588e368f1))⟩,
        ⟨.endOfText, ⟨0, 7⟩, none⟩] := by
  have finite : (Binary64.ofBits 0x3ee4f8b588e368f1).isFinite = true := by decide +kernel
  have plain : (Binary64.ofBits 0x3ee4f8b588e368f1).text = "1.0e-5" := by decide +kernel
  have json : Json.number (.ofBits 0x3ee4f8b588e368f1) = "0.00001" := by decide +kernel
  obtain ⟨-, -, scans, -⟩ := number_texts_read_back _ finite
  rw [plain, json] at scans
  refine ⟨finite, plain, json, ?_, ?_⟩
  · rw [scans "1.0e-5" (by simp)]
    rfl
  · rw [scans "0.00001" (by simp)]
    rfl

theorem eighth_tied : DecimalDigits.Tied (Binary64.ofBits 0x42e1392d87040d04).magnitude
    ⟨15149819704944812, -2⟩ := by
  have magnitude : (Binary64.ofBits 0x42e1392d87040d04).magnitude = 0x42e1392d87040d04 := rfl
  constructor
  · rfl
  · decide +kernel
  · decide +kernel
  · rw [magnitude]
    norm_num [Binary64.size, DecimalDigits.size]

/-- An eighth behind fifteen digits lies in the middle between two hundredths, and the two
texts have one each. -/
theorem number_texts_of_eighth :
    (Binary64.ofBits 0x42e1392d87040d04).isFinite = true ∧
    (Binary64.ofBits 0x42e1392d87040d04).text = "151498197049448.13" ∧
    Json.number (.ofBits 0x42e1392d87040d04) = "151498197049448.12" ∧
    DecimalDigits.Tied (Binary64.ofBits 0x42e1392d87040d04).magnitude ⟨15149819704944812, -2⟩ ∧
    ∀ negative size other amount,
      Denotes (Binary64.ofBits 0x42e1392d87040d04).text.toList negative size →
      Denotes (Json.number (.ofBits 0x42e1392d87040d04)).toList other amount →
        size ≠ amount := by
  have finite : (Binary64.ofBits 0x42e1392d87040d04).isFinite = true := by decide +kernel
  have plain : (Binary64.ofBits 0x42e1392d87040d04).text = "151498197049448.13" := by
    decide +kernel
  have json : Json.number (.ofBits 0x42e1392d87040d04) = "151498197049448.12" := by
    decide +kernel
  refine ⟨finite, plain, json, eighth_tied, ?_⟩
  rw [plain, json]
  intro negative size other amount denotes denotesJson
  have upper := @Denotes.fraction _ "151498197049448".toList "13".toList _ _ _ .absent
    (by decide) (by decide) (by decide) .absent
  have lower := @Denotes.fraction _ "151498197049448".toList "12".toList _ _ _ .absent
    (by decide) (by decide) (by decide) .absent
  rw [← (upper.determined denotes).2, ← (lower.determined denotesJson).2]
  intro equal
  have place : (10 : ℚ) ^ (0 - ("12".toList.length : ℤ)) ≠ 0 := zpow_ne_zero _ (by norm_num)
  have same := Nat.cast_injective (mul_right_cancel₀ place equal)
  exact absurd same (by decide +kernel)

end QueryCheck
