import QueryCheck.Proofs.Agreement
import QueryCheck.Proofs.Places

/-!
Texts written into a query as string literals. Every text has a literal, the literal is
one token wherever it is put behind whole tokens, and what stands around it is scanned as
it is around any other literal. So the content of a literal never changes how a query is
taken.
-/
namespace QueryCheck

namespace Quoted

/-- How a character stands between quotes: the quote and the backslash behind a
backslash, everything else as it is. -/
def spell (c : Char) : List Char := if c = '"' ∨ c = '\\' then ['\\', c] else [c]

def literal (text : String) : String :=
  String.ofList ('"' :: text.toList.flatMap spell ++ ['"'])

theorem spell_body (text : List Char) : QuotedBody (text.flatMap spell) text := by
  induction text with
  | nil => exact .empty
  | cons c rest ih =>
      rw [List.flatMap_cons]
      unfold spell
      split
      · rename_i special
        -- Neither of the two is a character that a backslash turns into another one.
        have itself : unescape c = c := by rcases special with rfl | rfl <;> decide
        have escaped := QuotedBody.escaped c ih
        rw [itself] at escaped
        exact escaped
      · rename_i plain
        rw [not_or] at plain
        exact .plain plain.1 plain.2 ih

end Quoted

namespace Scanner

theorem next_literal {blanks : List Char} (text : String) (rest : List Char) (place : Position)
    (blank : ∀ c ∈ blanks, Text.isBlank c = true) :
    next ⟨blanks ++ ((Quoted.literal text).toList ++ rest), place⟩ =
      ⟨.ok ⟨.string, place.after blanks, some (.text text)⟩,
        ⟨rest, place.after (blanks ++ (Quoted.literal text).toList)⟩⟩ := by
  have quoted := Quoted.spell_body text.toList
  rw [Quoted.literal, String.toList_ofList]
  have read := next_lexeme place blank (.string quoted)
    (Reading.ofText_longest (Reading.ofText_quoted quoted rest))
  rwa [String.ofList_toList] at read

-- The calls on a text with a literal in it: the tokens in front, the literal, and what the text
-- behind gives from some place on.
theorem embedded_outcomes {front : String} (scanned : (Scan.ofText front).error = none) :
    ∃ before ending, ending.kind = .endOfText ∧
      (ofText front).outcomes = before ++ [.ok ending] ∧
      ∀ text back : String, ∃ place,
        (ofText (front ++ Quoted.literal text ++ back)).outcomes =
          before ++ .ok ⟨.string, .behind front.toList, some (.text text)⟩ ::
            outcomes ⟨back.toList, place⟩ := by
  obtain ⟨passed, tokens, last, ending, reads, readEnd, ends⟩ := reads_to_end _ scanned
  have blank := blank_at_end readEnd ends
  refine ⟨tokens.map .ok, ending, ends, ?_, fun text back => ?_⟩
  · rw [reads.outcomes, outcomes_end readEnd ends]
  · have whole : (front ++ Quoted.literal text ++ back).toList =
        passed ++ (last.unread ++ ((Quoted.literal text).toList ++ back.toList)) := by
      have split : front.toList = passed ++ last.unread := reads.passes.unread
      simp [split]
    -- Blanks or the opening quote: a token in front goes into neither.
    have breaks : Breaks (last.unread ++ ((Quoted.literal text).toList ++ back.toList)) :=
      .of_blank blank (by simp [Breaks, Quoted.literal, Text.isBreak])
    have placed : last.cursor.after last.unread = .behind front.toList := by
      rw [reads.passes.cursor, ← Position.after_append, ← reads.passes.unread]
      exact Position.after_start front.toList
    have read := next_literal text back.toList last.cursor blank
    rw [placed] at read
    refine ⟨last.cursor.after (last.unread ++ (Quoted.literal text).toList), ?_⟩
    rw [ofText, whole]
    refine (reads.cut breaks).outcomes.trans ?_
    rw [outcomes_token (by rw [read]) (by simp), read]

end Scanner

/-- A text written as a literal behind whole tokens is one token that carries the text.
Another text in its place changes that payload and later places, and nothing else: no
token in front of it, no kind, payload or fault behind it, and no more of the verdict than
the token found. -/
theorem literal_contained (front back left right : String)
    (scanned : (Scan.ofText front).error = none) :
    (∃ before ending afterLeft afterRight, ending.kind = .endOfText ∧
      (Scanner.ofText front).outcomes = before ++ [.ok ending] ∧
      (Scanner.ofText (front ++ Quoted.literal left ++ back)).outcomes =
        before ++ .ok ⟨.string, .behind front.toList, some (.text left)⟩ :: afterLeft ∧
      (Scanner.ofText (front ++ Quoted.literal right ++ back)).outcomes =
        before ++ .ok ⟨.string, .behind front.toList, some (.text right)⟩ :: afterRight ∧
      List.Forall₂ (Matching Token.Agrees LexicalError.Agrees) afterLeft afterRight) ∧
    Alike (fun found other => found.kind = other.kind) LexicalError.Agrees
      (Query.validate (front ++ Quoted.literal left ++ back))
      (Query.validate (front ++ Quoted.literal right ++ back)) := by
  obtain ⟨before, ending, ends, plain, embedded⟩ := Scanner.embedded_outcomes scanned
  obtain ⟨placeLeft, readLeft⟩ := embedded left back
  obtain ⟨placeRight, readRight⟩ := embedded right back
  have behind : List.Forall₂ (Matching Token.Agrees LexicalError.Agrees)
      (Scanner.outcomes ⟨back.toList, placeLeft⟩) (Scanner.outcomes ⟨back.toList, placeRight⟩) :=
    Scanner.outcomes_agree rfl
  refine ⟨⟨before, ending, _, _, ends, plain, readLeft, readRight, behind⟩, ?_⟩
  apply validate_alike (fun _ _ same => same)
  rw [readLeft, readRight]
  refine List.rel_append (List.forall₂_same.mpr fun outcome _ => ?_) (.cons (.token rfl) ?_)
  · exact .refl (fun found => Eq.refl found.kind) (fun error => Eq.refl error.cause) outcome
  · exact behind.imp fun _ _ matched => matched.weaken fun _ _ agrees => agrees.1

theorem literal_contained_in_comparison :
    (Scan.ofText "SELECT * FROM t WHERE a = ").error = none ∧
    (∃ before ending afterLeft afterRight, ending.kind = .endOfText ∧
      (Scanner.ofText "SELECT * FROM t WHERE a = ").outcomes = before ++ [.ok ending] ∧
      (Scanner.ofText ("SELECT * FROM t WHERE a = " ++ Quoted.literal "\" OR \\" ++
        " AND b < 1")).outcomes =
        before ++ .ok ⟨.string, ⟨0, 26⟩, some (.text "\" OR \\")⟩ :: afterLeft ∧
      (Scanner.ofText ("SELECT * FROM t WHERE a = " ++ Quoted.literal "x\n" ++
        " AND b < 1")).outcomes =
        before ++ .ok ⟨.string, ⟨0, 26⟩, some (.text "x\n")⟩ :: afterRight ∧
      List.Forall₂ (Matching Token.Agrees LexicalError.Agrees) afterLeft afterRight) ∧
    Alike (fun found other => found.kind = other.kind) LexicalError.Agrees
      (Query.validate ("SELECT * FROM t WHERE a = " ++ Quoted.literal "\" OR \\" ++
        " AND b < 1"))
      (Query.validate ("SELECT * FROM t WHERE a = " ++ Quoted.literal "x\n" ++
        " AND b < 1")) := by
  have scanned : (Scan.ofText "SELECT * FROM t WHERE a = ").error = none := by decide +kernel
  exact ⟨scanned, literal_contained _ " AND b < 1" "\" OR \\" "x\n" scanned⟩

/-!
String literals decode exactly. Between quotes every character of a text may be written in
a few ways, and whichever is taken for each of them, the text is read back and reading
stops behind the closing quote. Nothing else is ever read as a string.
-/

/-- Ways to write a text between quotes, one item for each of its characters: the
character itself, the character behind a backslash, or a letter behind a backslash that
stands for a tab, a line feed or a carriage return. -/
inductive Encoding : List Char → List Char → Prop where
  | empty : Encoding [] []
  | raw {c : Char} {body text : List Char} :
      c ≠ '"' → c ≠ '\\' → Encoding body text → Encoding (c :: body) (c :: text)
  | escaped {c : Char} {body text : List Char} :
      c ≠ 't' → c ≠ 'n' → c ≠ 'r' → Encoding body text → Encoding ('\\' :: c :: body) (c :: text)
  | tab {body text : List Char} :
      Encoding body text → Encoding ('\\' :: 't' :: body) ('\t' :: text)
  | lineFeed {body text : List Char} :
      Encoding body text → Encoding ('\\' :: 'n' :: body) ('\n' :: text)
  | carriageReturn {body text : List Char} :
      Encoding body text → Encoding ('\\' :: 'r' :: body) ('\r' :: text)

namespace Quoted

theorem unescape_itself {c : Char} (tab : c ≠ 't') (lineFeed : c ≠ 'n')
    (carriageReturn : c ≠ 'r') : unescape c = c := by
  simp [unescape, tab, lineFeed, carriageReturn]

end Quoted

theorem Encoding.quoted {body text : List Char} (encoding : Encoding body text) :
    QuotedBody body text := by
  induction encoding with
  | empty => exact .empty
  | raw quote backslash _ ih => exact .plain quote backslash ih
  | @escaped c _ _ tab lineFeed carriageReturn _ ih =>
      have escaped := QuotedBody.escaped c ih
      rwa [Quoted.unescape_itself tab lineFeed carriageReturn] at escaped
  | tab _ ih => exact .escaped 't' ih
  | lineFeed _ ih => exact .escaped 'n' ih
  | carriageReturn _ ih => exact .escaped 'r' ih

theorem QuotedBody.encoding {body text : List Char} (quoted : QuotedBody body text) :
    Encoding body text := by
  induction quoted with
  | empty => exact .empty
  | plain quote backslash _ ih => exact .raw quote backslash ih
  | escaped c _ ih =>
      by_cases tab : c = 't'
      · subst tab
        exact .tab ih
      · by_cases lineFeed : c = 'n'
        · subst lineFeed
          exact .lineFeed ih
        · by_cases carriageReturn : c = 'r'
          · subst carriageReturn
            exact .carriageReturn ih
          · rw [Quoted.unescape_itself tab lineFeed carriageReturn]
            exact .escaped tab lineFeed carriageReturn ih

namespace Scanner

theorem next_string {scanner : Scanner} {body text rest : List Char}
    (quoted : QuotedBody body text)
    (unread : scanner.skipBlanks.unread = '"' :: body ++ '"' :: rest) :
    scanner.next =
      ⟨.ok ⟨.string, scanner.skipBlanks.cursor, some (.text (String.ofList text))⟩,
        ⟨rest, scanner.skipBlanks.cursor.after ('"' :: body ++ ['"'])⟩⟩ := by
  have split : scanner.skipBlanks.unread = '"' :: body ++ ['"'] ++ rest := by
    rw [unread, List.append_assoc, List.singleton_append]
  have read := Reading.ofText_quoted quoted rest
  rw [← split] at read
  have left : scanner.skipBlanks.unread.drop ('"' :: body ++ ['"']).length = rest := by
    rw [split]
    exact List.drop_left
  simp only [next, read, consume, left]

theorem string_taken {scanner : Scanner} {token : Token}
    (read : scanner.next.outcome = .ok token) (string : token.kind = .string) :
    ∃ body text, QuotedBody body text ∧ token.payload = some (.text (String.ofList text)) ∧
      scanner.unread = scanner.unread.takeWhile Text.isBlank ++ ('"' :: body ++ ['"']) ++
        scanner.next.after.unread := by
  have proper : token.kind ≠ .endOfText := by
    rw [string]
    decide
  obtain ⟨lexeme, isLexeme, -, taken, -⟩ := next_token read proper
  rw [string] at isLexeme
  obtain ⟨body, text, quoted, rfl⟩ := isLexeme.quoted
  obtain ⟨-, carried⟩ := (Lexeme.string quoted).determined isLexeme
  exact ⟨body, text, quoted, carried, ((skipBlanks_passes scanner).trans taken).unread⟩

/-- An encoding of a text between quotes is read as a string with that text, and reading
stops behind the closing quote. Every string token is read from an encoding of its text.
Escaping the quotes and backslashes of a text is one way to encode it. -/
theorem strings_decode_exactly (scanner : Scanner) :
    (∀ (body : List Char) (text : String) (rest : List Char), Encoding body text.toList →
      scanner.unread.dropWhile Text.isBlank = '"' :: body ++ '"' :: rest →
      scanner.next.outcome = .ok ⟨.string, scanner.skipBlanks.cursor, some (.text text)⟩ ∧
        scanner.next.after.unread = rest) ∧
    (∀ token, scanner.next.outcome = .ok token → token.kind = .string →
      ∃ (text : String) (body : List Char), token.payload = some (.text text) ∧
        Encoding body text.toList ∧
        scanner.unread = scanner.unread.takeWhile Text.isBlank ++ ('"' :: body ++ ['"']) ++
          scanner.next.after.unread) ∧
    ∀ (text : String) (rest : List Char),
      scanner.unread.dropWhile Text.isBlank = (Quoted.literal text).toList ++ rest →
      scanner.next.outcome = .ok ⟨.string, scanner.skipBlanks.cursor, some (.text text)⟩ ∧
        scanner.next.after.unread = rest := by
  rw [← unread_skipBlanks]
  refine ⟨?_, ?_, ?_⟩
  · intro body text rest encoding unread
    rw [next_string encoding.quoted unread, String.ofList_toList]
    exact ⟨rfl, rfl⟩
  · intro token read string
    obtain ⟨body, text, quoted, carried, unread⟩ := string_taken read string
    refine ⟨String.ofList text, body, carried, ?_, unread⟩
    rw [String.toList_ofList]
    exact quoted.encoding
  · intro text rest unread
    rw [Quoted.literal, String.toList_ofList, List.append_assoc, List.singleton_append] at unread
    rw [next_string (Quoted.spell_body text.toList) unread, String.ofList_toList]
    exact ⟨rfl, rfl⟩

theorem strings_decode_escapes :
    let scanner := ofText " \"\\t\\n\\r\\\\\\\"\\q\n\"x"
    let body := ['\\', 't', '\\', 'n', '\\', 'r', '\\', '\\', '\\', '"', '\\', 'q', '\n']
    let token : Token := ⟨.string, ⟨0, 1⟩, some (.text "\t\n\r\\\"q\n")⟩
    Encoding body "\t\n\r\\\"q\n".toList ∧
    scanner.unread.dropWhile Text.isBlank = '"' :: body ++ '"' :: ['x'] ∧
    scanner.next.outcome = .ok token ∧ scanner.next.after.unread = ['x'] ∧
    token.kind = .string ∧
    (∃ (text : String) (written : List Char), token.payload = some (.text text) ∧
      Encoding written text.toList ∧
      scanner.unread = scanner.unread.takeWhile Text.isBlank ++ ('"' :: written ++ ['"']) ++
        scanner.next.after.unread) ∧
    (ofText "\"\\\\\\\"\".").unread.dropWhile Text.isBlank =
      (Quoted.literal "\\\"").toList ++ ['.'] ∧
    (ofText "\"\\\\\\\"\".").next.outcome = .ok ⟨.string, ⟨0, 0⟩, some (.text "\\\"")⟩ ∧
    (ofText "\"\\\\\\\"\".").next.after.unread = ['.'] := by
  intro scanner body token
  obtain ⟨decoded, taken, -⟩ := strings_decode_exactly scanner
  have encoding : Encoding body "\t\n\r\\\"q\n".toList :=
    .tab (.lineFeed (.carriageReturn (.escaped (by decide) (by decide) (by decide)
      (.escaped (by decide) (by decide) (by decide) (.escaped (by decide) (by decide) (by decide)
        (.raw (by decide) (by decide) .empty))))))
  have unread : scanner.unread.dropWhile Text.isBlank = '"' :: body ++ '"' :: ['x'] := by
    decide +kernel
  obtain ⟨read, left⟩ := decoded body _ ['x'] encoding unread
  have literal := (strings_decode_exactly (ofText "\"\\\\\\\"\".")).2.2
  have written : (ofText "\"\\\\\\\"\".").unread.dropWhile Text.isBlank =
      (Quoted.literal "\\\"").toList ++ ['.'] := by
    decide +kernel
  exact ⟨encoding, unread, read, left, rfl, taken token read rfl, written, literal _ _ written⟩

end Scanner

end QueryCheck
