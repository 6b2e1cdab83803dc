import QueryCheck.Proofs.JsonDump

/-!
The lines of a plain listing. A text that a token carries stands in the line as it is, so a
line feed in it breaks the line in two: a listing has one line for each token exactly when no
text has a line feed, and only string literals can have one. A JSON listing escapes them.
-/
namespace QueryCheck

section Tokens

theorem Json.Printable.unfed {text : List Char} (printable : Json.Printable text) :
    text.count '\n' = 0 :=
  List.count_eq_zero_of_not_mem fun member => absurd (printable '\n' member) (by decide)

theorem Binary64.text_printable (x : Binary64) : Json.Printable x.text.toList := by
  unfold text
  split
  · simp [Json.Printable]
  · rename_i value
    split
    · split <;> simp [Json.Printable]
    · rename_i bounded
      have finite : x.isFinite = true := by
        simp only [isNaN, isInfinite, isFinite, decide_eq_true_eq] at value bounded ⊢
        omega
      obtain ⟨numeral, spelled, plain, -⟩ := NumberFormat.plain.finiteText_reads finite
      rw [String.toList_ofList, ← spelled]
      exact Json.numeral_printable plain.valid

theorem Payload.describe_printable {payload : Payload} (bare : ∀ value, payload ≠ .text value) :
    Json.Printable payload.describe.toList := by
  cases payload with
  | text value => exact absurd rfl (bare value)
  | number value => exact value.text_printable
  | boolean value => cases value <;> simp [describe, Json.Printable]
  | direction value => exact (Json.order_scalar value).printable
  | comparison value => cases value <;> simp [describe, Comparison.mnemonic, Json.Printable]

theorem Kind.label_printable (kind : Kind) : Json.Printable kind.label.toList := by
  cases kind <;> simp [label, Json.Printable]

def Token.lineFeeds (token : Token) : Nat := (token.text?.getD "").toList.count '\n'

theorem Token.front_printable (token : Token) :
    Json.Printable (toString token.place.line ++ ":" ++ toString token.place.column ++ " " ++
      token.kind.tag ++ " " ++ token.kind.label).toList := by
  have line := (Json.count_scalar token.place.line).printable
  have column := (Json.count_scalar token.place.column).printable
  have code := (Json.count_scalar token.kind.code).printable
  simp only [Kind.tag, String.toList_append]
  have space : Json.Printable " ".toList := by simp [Json.Printable]
  have colon : Json.Printable ":".toList := by simp [Json.Printable]
  have mark : Json.Printable "#".toList := by simp [Json.Printable]
  exact (((((line.append colon).append column).append space).append (mark.append code)).append
    space).append token.kind.label_printable

theorem Token.count_plain (token : Token) :
    token.plain.toList.count '\n' = token.lineFeeds := by
  have front := token.front_printable.unfed
  obtain ⟨kind, place, payload⟩ := token
  cases payload with
  | none => exact front
  | some payload =>
      have described : payload.describe.toList.count '\n' =
          lineFeeds ⟨kind, place, some payload⟩ := by
        cases payload with
        | text value => rfl
        | number | boolean | direction | comparison =>
            exact (Payload.describe_printable (by simp)).unfed
      rw [plain, String.toList_append, String.toList_append, List.count_append,
        List.count_append, front, described]
      simp

end Tokens

section Kinds

theorem Unbroken.unfed {text : List Char} (unbroken : Unbroken text) : text.count '\n' = 0 :=
  List.count_eq_zero_of_not_mem fun member => absurd (unbroken '\n' member) (by decide)

-- Words and numbers end at a line feed; only between quotes can a lexeme go on behind it.
theorem Lexeme.unfed {spelling : List Char} {kind : Kind} {payload : Option Payload}
    (lexeme : Lexeme spelling kind payload) (unquoted : kind ≠ .string) (place : Position) :
    Token.lineFeeds ⟨kind, place, payload⟩ = 0 := by
  cases lexeme with
  | leftParen | rightParen | comma | dot | star | comparison _ | number _ _ _ => rfl
  | reserved _ found =>
      have member := Keyword.mem_all_of_find? found
      have known : ∀ keyword ∈ Keyword.all,
          Token.lineFeeds ⟨keyword.kind, place, keyword.payload⟩ = 0 := by
        simp [Keyword.all, Token.lineFeeds, Token.text?]
      exact known _ member
  | identifier isWord _ =>
      show (String.ofList spelling).toList.count '\n' = 0
      rw [String.toList_ofList]
      exact isWord.unbroken.unfed
  | @field first second isFirst isSecond =>
      show (String.ofList (first ++ '.' :: second)).toList.count '\n' = 0
      have dot : Unbroken ['.'] := by decide
      rw [String.toList_ofList]
      exact (isFirst.unbroken.append (dot.append isSecond.unbroken)).unfed
  | string _ => exact absurd rfl unquoted

theorem Scanner.next_unfed {scanner : Scanner} {token : Token}
    (read : scanner.next.outcome = .ok token) (unquoted : token.kind ≠ .string) :
    token.lineFeeds = 0 := by
  rcases next_lexed read with ⟨-, bare⟩ | ⟨_, lexeme⟩
  · simp [Token.lineFeeds, Token.text?, bare]
  · exact lexeme.unfed unquoted token.place

end Kinds

theorem plain_written (files : Files) (file : Option String) (query : String) :
    (listTokens files ⟨some query, file⟩ .plain none).written =
      ((Scan.ofText query).tokens.map (Text.utf8 ·.plain)).flatMap (· ++ [Text.lineFeed]) := by
  rw [listTokens_unlimited, List.flatMap_map]
  rfl

theorem plain_lines_apart {tokens : List Token} :
    (∀ line ∈ tokens.map (Text.utf8 ·.plain), Text.lineFeed ∉ line) ↔
      ∀ token ∈ tokens, token.lineFeeds = 0 := by
  simp only [List.forall_mem_map, ← List.count_eq_zero, Text.count_utf8, Token.count_plain]

theorem plain_lines_feeds (tokens : List Token) :
    (tokens.map (Text.utf8 ·.plain)).flatten.count Text.lineFeed =
      (tokens.map Token.lineFeeds).sum := by
  rw [List.count_flatten, List.map_map]
  congr 2
  funext token
  exact (Text.count_utf8 _).trans token.count_plain

/-- A plain listing has as many lines as tokens, and each line is a token, exactly when no
token carries a line feed; every line feed carried makes one line more, and strings alone can
carry one. -/
theorem plain_listing_lines (files : Files) (file : Option String) (query : String) :
    let tokens := (Scan.ofText query).tokens
    let lines := tokens.map (Text.utf8 ·.plain)
    let written := (listTokens files ⟨some query, file⟩ .plain none).written
    written = lines.flatMap (· ++ [Text.lineFeed]) ∧
    written.count Text.lineFeed = tokens.length + (tokens.map Token.lineFeeds).sum ∧
    (∀ token ∈ tokens, token.kind ≠ .string → token.lineFeeds = 0) ∧
    (written.count Text.lineFeed = tokens.length ↔ ∀ token ∈ tokens, token.lineFeeds = 0) ∧
    (written.splitOn Text.lineFeed = lines ++ [[]] ↔ ∀ token ∈ tokens, token.lineFeeds = 0) := by
  intro tokens lines written
  have shown : written = lines.flatMap (· ++ [Text.lineFeed]) := plain_written files file query
  have counted : lines.length = tokens.length := List.length_map _
  refine ⟨shown, ?_, ?_, ?_, ?_⟩
  · rw [shown, Text.count_lines, counted, plain_lines_feeds]
  · exact Scanner.scan_forall Scanner.next_unfed (Scanner.ofText query)
  · rw [shown, ← counted, Text.count_lines_iff]
    exact plain_lines_apart
  · rw [shown, Text.splitOn_lines_iff]
    exact plain_lines_apart

/-- A string with an escaped line feed is listed on two lines, and the second of them is no
token. -/
theorem plain_listing_broken :
    let query := "\"a\\nb\""
    let tokens := (Scan.ofText query).tokens
    let written := (listTokens (fun _ => .error .missing) ⟨some query, none⟩ .plain none).written
    tokens.length = 2 ∧
    written = Text.utf8 "0:0 #31 string a\nb\n0:6 #0 end of input\n" ∧
    written.count Text.lineFeed = 3 ∧
    written.splitOn Text.lineFeed ≠ tokens.map (Text.utf8 ·.plain) ++ [[]] := by
  decide +kernel

end QueryCheck
