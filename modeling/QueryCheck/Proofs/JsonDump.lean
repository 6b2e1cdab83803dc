import QueryCheck.Proofs.Breaks
import QueryCheck.Proofs.Delivery
import QueryCheck.Proofs.Encoding

/-!
A JSON listing determines the tokens it lists. The kind of a token fixes what sort of
payload it carries, and payloads of one sort are written apart, so nothing is lost in the
JSON texts; and since no line feed stands in one of them, the lines can be told apart.
-/
namespace QueryCheck

section Payloads

def Kind.textual : List Kind := [.field, .identifier, .string]

/-- What a token of a kind may carry. -/
inductive Carries : Kind → Option Payload → Prop where
  | nothing {kind : Kind} :
      kind ∉ [.comparison, .direction, .boolean, .number] ++ Kind.textual → Carries kind none
  | comparison (value : Comparison) : Carries .comparison (some (.comparison value))
  | direction {value : Int} :
      value = 1 ∨ value = -1 → Carries .direction (some (.direction value))
  | boolean (value : Bool) : Carries .boolean (some (.boolean value))
  | text {kind : Kind} (value : String) :
      kind ∈ Kind.textual → Carries kind (some (.text value))
  | number {value : Binary64} :
      value.magnitude ≤ Binary64.infinity → Carries .number (some (.number value))

theorem Keyword.carries {keyword : Keyword} (member : keyword ∈ Keyword.all) :
    Carries keyword.kind keyword.payload := by
  have known : ∀ keyword ∈ Keyword.all, Carries keyword.kind keyword.payload := by
    simp only [Keyword.all, List.mem_cons, List.not_mem_nil, or_false, forall_eq_or_imp, forall_eq]
    refine ⟨?_, ?_, ?_, ?_, ?_, ?_, ?_, ?_, ?_, ?_, ?_, ?_, ?_, ?_, ?_, ?_, ?_, ?_,
      .direction (.inl rfl), .direction (.inr rfl), ?_, .boolean true, .boolean false⟩
    all_goals exact .nothing (by decide)
  exact known keyword member

theorem Lexeme.carries {text : List Char} {kind : Kind} {payload : Option Payload}
    (lexeme : Lexeme text kind payload) : Carries kind payload := by
  cases lexeme with
  | leftParen | rightParen | comma | dot | star => exact .nothing (by decide)
  | comparison value => exact .comparison value
  | reserved _ found => exact Keyword.carries (Keyword.mem_all_of_find? found)
  | identifier _ _ => exact .text _ (by decide)
  | field _ _ => exact .text _ (by decide)
  | number _ _ _ => exact .number (Binary64.nearestDecimal_le_infinity _ _)
  | string _ => exact .text _ (by decide)

theorem Scanner.next_carries {scanner : Scanner} {token : Token}
    (read : scanner.next.outcome = .ok token) : Carries token.kind token.payload := by
  rcases next_lexed read with ⟨ends, bare⟩ | ⟨_, lexeme⟩
  · rw [ends, bare]
    exact .nothing (by decide)
  · exact lexeme.carries

theorem Scanner.scan_carries (scanner : Scanner) :
    ∀ token ∈ scanner.scan.tokens, Carries token.kind token.payload :=
  scanner.scan_forall next_carries

end Payloads

namespace Json

theorem quote_injective {left right : String} (same : quote left = quote right) : left = right := by
  have both : (quote left).toList ++ [] = (quote right).toList ++ [] := by rw [same]
  exact String.toList_inj.mp ((quote_string left).determined (quote_string right) both).1

theorem finiteText_unquoted (format : NumberFormat) {x : Binary64} (finite : x.isFinite = true)
    (text : String) : format.finiteText x ≠ (quote text).toList := by
  obtain ⟨numeral, spelled, plain, -⟩ := format.finiteText_reads finite
  have solid := (numericPattern_iff.mpr ⟨numeral, plain.valid, rfl⟩).unbroken
  rw [spelled] at solid
  intro same
  have quoted : Text.isBreak '"' = false := by
    apply solid
    rw [same, quote, String.toList_ofList]
    exact List.mem_cons_self
  exact absurd quoted (by decide)

theorem magnitude_infinite {x : Binary64} (bounded : x.magnitude ≤ Binary64.infinity)
    (infinite : ¬ x.isFinite = true) : x.magnitude = Binary64.infinity :=
  Nat.le_antisymm bounded (Nat.le_of_not_lt fun less => infinite (decide_eq_true less))

theorem text_infinite {x : Binary64} (infinite : x.magnitude = Binary64.infinity) :
    x.text = if x.negative then "-Infinity" else "Infinity" := by
  have proper : x.isNaN = false := by simp [Binary64.isNaN, infinite]
  have whole : x.isInfinite = true := decide_eq_true infinite
  rw [Binary64.text, proper, whole]
  rfl

theorem infinite_injective {left right : Binary64} (infinite : left.magnitude = Binary64.infinity)
    (infiniteRight : right.magnitude = Binary64.infinity) (same : left.text = right.text) :
    left = right := by
  rw [text_infinite infinite, text_infinite infiniteRight] at same
  obtain ⟨negative, magnitude, limit⟩ := left
  obtain ⟨sign, other, bound⟩ := right
  dsimp only at *
  subst infinite infiniteRight
  cases negative <;> cases sign
  · rfl
  · exact absurd same (show "Infinity" ≠ "-Infinity" by decide)
  · exact absurd same (show "-Infinity" ≠ "Infinity" by decide)
  · rfl

theorem number_injective {left right : Binary64}
    (boundedLeft : left.magnitude ≤ Binary64.infinity)
    (boundedRight : right.magnitude ≤ Binary64.infinity) (same : number left = number right) :
    left = right := by
  by_cases finiteLeft : left.isFinite = true
  · rw [number, if_pos finiteLeft] at same
    by_cases finiteRight : right.isFinite = true
    · rw [number, if_pos finiteRight] at same
      exact NumberFormat.json.finiteText_injective finiteLeft finiteRight
        (String.ofList_injective same)
    · rw [number, if_neg finiteRight] at same
      exact absurd (by rw [← same, String.toList_ofList])
        (finiteText_unquoted _ finiteLeft right.text)
  · rw [number, if_neg finiteLeft] at same
    by_cases finiteRight : right.isFinite = true
    · rw [number, if_pos finiteRight] at same
      exact absurd (by rw [same, String.toList_ofList])
        (finiteText_unquoted _ finiteRight left.text)
    · rw [number, if_neg finiteRight] at same
      exact infinite_injective (magnitude_infinite boundedLeft finiteLeft)
        (magnitude_infinite boundedRight finiteRight) (quote_injective same)

theorem mnemonic_injective {left right : Comparison} (same : left.mnemonic = right.mnemonic) :
    left = right := by
  cases left <;> cases right <;> first | rfl | exact absurd same (by decide)

theorem payload_injective {kind : Kind} {left right : Option Payload}
    (carriesLeft : Carries kind left) (carriesRight : Carries kind right)
    (same : payload left = payload right) : left = right := by
  cases carriesLeft with
  | nothing bare =>
      cases carriesRight with
      | nothing _ => rfl
      | comparison | direction | boolean | number => exact absurd (by decide) bare
      | text _ textual => exact absurd (List.mem_append_right _ textual) bare
  | comparison value =>
      cases carriesRight with
      | nothing bare => exact absurd (by decide) bare
      | comparison other => rw [mnemonic_injective (quote_injective same)]
      | text _ textual => exact absurd textual (by decide)
  | direction order =>
      cases carriesRight with
      | nothing bare => exact absurd (by decide) bare
      | direction other =>
          rcases order with rfl | rfl <;> rcases other with rfl | rfl <;>
            first | rfl | exact absurd same (by decide)
      | text _ textual => exact absurd textual (by decide)
  | boolean value =>
      cases carriesRight with
      | nothing bare => exact absurd (by decide) bare
      | boolean other =>
          cases value <;> cases other <;> first | rfl | exact absurd same (by decide)
      | text _ textual => exact absurd textual (by decide)
  | text value textual =>
      cases carriesRight with
      | nothing bare => exact absurd (List.mem_append_right _ textual) bare
      | text other _ => rw [quote_injective same]
      | comparison | direction | boolean | number => exact absurd textual (by decide)
  | number bounded =>
      cases carriesRight with
      | nothing bare => exact absurd (by decide) bare
      | text _ textual => exact absurd textual (by decide)
      | number boundedOther => rw [number_injective bounded boundedOther same]

end Json

section Texts

theorem behind {α : Type} {front rest more : List α} {mark : α}
    (same : front ++ mark :: rest = front ++ mark :: more) : rest = more :=
  (List.cons.inj (List.append_cancel_left same)).2

-- What stands before the first mark of its sort can be told apart from what follows.
theorem separated {α : Type} {p : α → Bool} {front other rest more : List α} {mark : α}
    (plain : ∀ a ∈ front, p a = true) (plainOther : ∀ a ∈ other, p a = true)
    (marked : p mark = false) (same : front ++ mark :: rest = other ++ mark :: more) :
    front = other ∧ rest = more := by
  have unmarked : ¬ p mark = true := by simp [marked]
  have fronts := congrArg (List.takeWhile p) same
  rw [List.takeWhile_append_of_pos plain, List.takeWhile_append_of_pos plainOther,
    List.takeWhile_cons_of_neg unmarked, List.takeWhile_cons_of_neg unmarked, List.append_nil,
    List.append_nil] at fronts
  subst fronts
  exact ⟨rfl, behind same⟩

theorem count_determined {left right : Nat} {rest more : List Char}
    (same : (toString left).toList ++ ',' :: rest = (toString right).toList ++ ',' :: more) :
    left = right ∧ rest = more := by
  have figuresLeft := Numeral.toDigits_figures left
  have figuresRight := Numeral.toDigits_figures right
  rw [Json.toList_count, Json.toList_count] at same
  obtain ⟨figures, behind⟩ := separated figuresLeft.digits figuresRight.digits rfl same
  rw [← figuresLeft.value, figures, figuresRight.value]
  exact ⟨rfl, behind⟩

theorem Kind.code_injective {left right : Kind} (same : left.code = right.code) :
    left = right := by
  have found := ofCode?_code left
  rw [same, ofCode?_code] at found
  exact (Option.some.inj found).symm

/-- Tokens with payloads of their kinds are written apart. -/
theorem Token.json_injective {left right : Token} (carriesLeft : Carries left.kind left.payload)
    (carriesRight : Carries right.kind right.payload) (same : left.json = right.json) :
    left = right := by
  obtain ⟨kind, ⟨line, column⟩, payload⟩ := left
  obtain ⟨otherKind, ⟨otherLine, otherColumn⟩, otherPayload⟩ := right
  have texts := congrArg String.toList same
  rw [toList_json, toList_json] at texts
  have members := (List.cons.inj (List.append_cancel_right texts)).2
  simp only [List.append_assoc, List.cons_append] at members
  obtain ⟨codes, fromColumn⟩ := count_determined (behind members)
  obtain rfl := Kind.code_injective codes
  obtain ⟨columns, fromKind⟩ := count_determined (behind fromColumn)
  obtain ⟨lines, fromPayload⟩ := count_determined (behind (behind (behind fromKind)))
  subst columns lines
  have payloads : payload = otherPayload :=
    Json.payload_injective carriesLeft carriesRight (String.toList_inj.mp (behind fromPayload))
  rw [payloads]

end Texts

section Lines

theorem lines_determined {lines others : List (List UInt8)}
    (apart : ∀ line ∈ lines, Text.lineFeed ∉ line)
    (apartOther : ∀ line ∈ others, Text.lineFeed ∉ line)
    (same : lines.flatMap (· ++ [Text.lineFeed]) = others.flatMap (· ++ [Text.lineFeed])) :
    lines = others := by
  have split := Text.splitOn_lines apart
  rw [same, Text.splitOn_lines apartOther] at split
  exact (List.append_cancel_right split).symm

theorem tokens_determined {tokens others : List Token}
    (carries : ∀ token ∈ tokens, Carries token.kind token.payload)
    (carriesOther : ∀ token ∈ others, Carries token.kind token.payload)
    (same : tokens.map Token.json = others.map Token.json) : tokens = others := by
  induction tokens generalizing others with
  | nil => exact (List.map_eq_nil_iff.mp same.symm).symm
  | cons token rest ih =>
      cases others with
      | nil => cases same
      | cons other more =>
          obtain ⟨carries, later⟩ := List.forall_mem_cons.mp carries
          obtain ⟨carriesOther, laterOther⟩ := List.forall_mem_cons.mp carriesOther
          obtain ⟨texts, rests⟩ := List.cons.inj same
          rw [Token.json_injective carries carriesOther texts, ih later laterOther rests]

def Scan.records (scan : Scan) : List (List UInt8) :=
  (scan.tokens.map Token.json).map Text.utf8

theorem Scan.records_apart (scan : Scan) : ∀ line ∈ scan.records, Text.lineFeed ∉ line := by
  intro line member
  obtain ⟨text, record, rfl⟩ := List.mem_map.mp member
  obtain ⟨token, -, rfl⟩ := List.mem_map.mp record
  exact token.lineFeed_not_mem_json

theorem json_written (files : Files) (file : Option String) (query : String) :
    (listTokens files ⟨some query, file⟩ .json none).written =
      (Scan.ofText query).records.flatMap (· ++ [Text.lineFeed]) := by
  rw [listTokens_unlimited, Scan.records, List.flatMap_map, List.flatMap_map]
  rfl

end Lines

/-- A token that some call on some text gives. -/
def Token.Emitted (token : Token) : Prop :=
  ∃ (text : String) (count : Nat),
    ((Scanner.ofText text).afterCalls count).next.outcome = .ok token

/-- Each line of a JSON listing is one object, tokens that differ are written apart, and
listings are the same exactly when the tokens are. -/
theorem json_listing_determines (files : Files) (file : Option String) :
    (∀ query : String,
      let written := (listTokens files ⟨some query, file⟩ .json none).written
      let lines := (Scan.ofText query).tokens.map Token.json
      written = lines.flatMap (fun line => Text.utf8 line ++ [Text.lineFeed]) ∧
      (∀ line ∈ lines, Json.Object ["code", "column", "kind", "line", "payload"] line.toList ∧
        ∀ c ∈ line.toList, 0x20 ≤ c.toNat) ∧
      written.count Text.lineFeed = (Scan.ofText query).tokens.length) ∧
    (∀ left right : Token, left.Emitted → right.Emitted → left ≠ right → left.json ≠ right.json) ∧
    ∀ left right : String,
      (listTokens files ⟨some left, file⟩ .json none).written =
        (listTokens files ⟨some right, file⟩ .json none).written ↔
      (Scan.ofText left).tokens = (Scan.ofText right).tokens := by
  refine ⟨fun query => ⟨?_, ?_, ?_⟩, ?_, fun left right => ⟨?_, ?_⟩⟩
  · rw [json_written, Scan.records, List.flatMap_map]
  · intro line member
    obtain ⟨token, -, rfl⟩ := List.mem_map.mp member
    exact ⟨token.json_object, token.json_object.printable⟩
  · rw [json_written, Text.count_lines_iff.mpr (Scan.records_apart _), Scan.records, List.length_map,
      List.length_map]
  · rintro left right ⟨_, _, readLeft⟩ ⟨_, _, readRight⟩ differ same
    exact differ (Token.json_injective (Scanner.next_carries readLeft)
      (Scanner.next_carries readRight) same)
  · intro same
    rw [json_written, json_written] at same
    have lines := lines_determined (Scan.records_apart _) (Scan.records_apart _) same
    have texts := List.map_injective_iff.mpr (fun _ _ => Text.utf8_injective) lines
    exact tokens_determined (Scanner.scan_carries (Scanner.ofText left))
      (Scanner.scan_carries (Scanner.ofText right)) texts
  · intro same
    rw [json_written, json_written, Scan.records, Scan.records, same]

/-- The two zeros are told apart, and so are their listings. -/
theorem json_listing_of_zeros :
    let zero : Token := ⟨.number, ⟨0, 0⟩, some (.number (.ofBits 0))⟩
    let negativeZero : Token := ⟨.number, ⟨0, 0⟩, some (.number (.ofBits (Nat.pow 2 63)))⟩
    zero.Emitted ∧ negativeZero.Emitted ∧ zero ≠ negativeZero ∧ zero.json ≠ negativeZero.json ∧
    (listTokens (fun _ => .error .missing) ⟨some "0", none⟩ .json none).written ≠
      (listTokens (fun _ => .error .missing) ⟨some "-0", none⟩ .json none).written := by
  have determines := json_listing_determines (fun _ => .error .missing) none
  have zero : Token.Emitted ⟨.number, ⟨0, 0⟩, some (.number (.ofBits 0))⟩ :=
    ⟨"0", 0, by decide +kernel⟩
  have negativeZero : Token.Emitted ⟨.number, ⟨0, 0⟩, some (.number (.ofBits (Nat.pow 2 63)))⟩ :=
    ⟨"-0", 0, by decide +kernel⟩
  refine ⟨zero, negativeZero, by decide +kernel,
    determines.2.1 _ _ zero negativeZero (by decide +kernel), ?_⟩
  rw [Ne, determines.2.2 "0" "-0"]
  decide +kernel

end QueryCheck
