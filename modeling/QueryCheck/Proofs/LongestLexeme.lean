import QueryCheck.Proofs.Lexemes
import QueryCheck.Scanner

/-!
What one call of the scanner does. It passes over the blanks in front and takes the
longest lexeme behind them; when no lexeme stands there it gives the end marker at the
end of the text and a fault anywhere else. No character is passed over unseen.
-/
namespace QueryCheck

/-- A front of a text that no longer front of it, being a lexeme, goes beyond. -/
structure Longest (text lexeme : List Char) : Prop where
  front : lexeme <+: text
  longest : ∀ other kind payload, Lexeme other kind payload → other <+: text →
    other.length ≤ lexeme.length

namespace Reading

theorem ofText_lexeme {text : List Char} {kind : Kind} {payload : Option Payload}
    (lexeme : Lexeme text kind payload) : ofText text = .lexeme kind payload text := by
  have reached := lexeme.reaches []
  rw [List.append_nil] at reached
  generalize ofText text = reading at reached
  cases reached with
  | itself => rfl
  | longer more _ => exact absurd rfl more

theorem ofText_longer {text other : List Char} {kind : Kind} {payload : Option Payload}
    (lexeme : Lexeme other kind payload) (front : other <+: text) :
    ∃ found carried spelling, ofText text = .lexeme found carried spelling ∧
      other.length ≤ spelling.length := by
  obtain ⟨rest, rfl⟩ := front
  have reached := lexeme.reaches rest
  generalize ofText (other ++ rest) = reading at reached
  cases reached with
  | itself => exact ⟨_, _, _, rfl, Nat.le_refl _⟩
  | longer _ long => exact ⟨_, _, _, rfl, long⟩

theorem ofText_longest {text spelling : List Char} {kind : Kind} {payload : Option Payload}
    (read : ofText text = .lexeme kind payload spelling) : Longest text spelling := by
  have faithful := ofText_faithful text
  rw [read] at faithful
  cases faithful with
  | lexeme _ front =>
      refine ⟨front, ?_⟩
      -- Any other lexeme in front is reached by the same reading.
      intro other found carried lexeme prefixed
      obtain ⟨_, _, _, same, long⟩ := ofText_longer lexeme prefixed
      cases read.symm.trans same
      exact long

end Reading

theorem Lexeme.determined {text : List Char} {kind found : Kind}
    {payload carried : Option Payload} (lexeme : Lexeme text kind payload)
    (other : Lexeme text found carried) : found = kind ∧ carried = payload := by
  cases (Reading.ofText_lexeme lexeme).symm.trans (Reading.ofText_lexeme other)
  exact ⟨rfl, rfl⟩

theorem Lexeme.ne_endOfText {text : List Char} {kind : Kind} {payload : Option Payload}
    (lexeme : Lexeme text kind payload) : kind ≠ .endOfText :=
  (Reading.ofText_proper (Reading.ofText_lexeme lexeme)).2.1

theorem Lexeme.ne_nil {text : List Char} {kind : Kind} {payload : Option Payload}
    (lexeme : Lexeme text kind payload) : text ≠ [] :=
  (Reading.ofText_proper (Reading.ofText_lexeme lexeme)).1

namespace Scanner

theorem unread_skipBlanks (scanner : Scanner) :
    scanner.skipBlanks.unread = scanner.unread.dropWhile Text.isBlank := by
  have whole := List.takeWhile_append_dropWhile (p := Text.isBlank) (l := scanner.unread)
  rw [skipBlanks, unread_consume]
  nth_rewrite 2 [← whole]
  exact List.drop_left

inductive Stepped (scanner : Scanner) : Step → Prop where
  | endOfText :
      scanner.skipBlanks.unread = [] →
        Stepped scanner ⟨.ok ⟨.endOfText, scanner.skipBlanks.cursor, none⟩, scanner.skipBlanks⟩
  | lexeme {lexeme : List Char} {kind : Kind} {payload : Option Payload} :
      Lexeme lexeme kind payload → Longest scanner.skipBlanks.unread lexeme →
        Stepped scanner
          ⟨.ok ⟨kind, scanner.skipBlanks.cursor, payload⟩, scanner.skipBlanks.consume lexeme⟩
  | fault {cause : LexicalFault} {consumed : List Char} :
      Faulty scanner.skipBlanks.unread cause consumed →
        (∀ lexeme kind payload, Lexeme lexeme kind payload →
          ¬ lexeme <+: scanner.skipBlanks.unread) →
        Stepped scanner
          ⟨.error ⟨cause, scanner.skipBlanks.cursor⟩, scanner.skipBlanks.consume consumed⟩

theorem next_stepped (scanner : Scanner) : Stepped scanner scanner.next := by
  have faithful := Reading.ofText_faithful scanner.skipBlanks.unread
  simp only [next]
  split
  · rename_i read
    rw [read] at faithful
    cases faithful with
    | endOfText empty => exact .endOfText empty
  · rename_i kind payload spelling read
    rw [read] at faithful
    cases faithful with
    | lexeme lexeme _ => exact .lexeme lexeme (Reading.ofText_longest read)
  · rename_i cause consumed read
    rw [read] at faithful
    cases faithful with
    | fault faulty =>
        refine .fault faulty ?_
        intro lexeme kind payload isLexeme front
        obtain ⟨_, _, _, same, -⟩ := Reading.ofText_longer isLexeme front
        cases read.symm.trans same

theorem unread_consume_front {scanner : Scanner} {front : List Char}
    (prefixed : front <+: scanner.unread) :
    scanner.unread = front ++ (scanner.consume front).unread :=
  (List.prefix_iff_eq_append.mp prefixed).symm

/-- A call gives a token other than the end marker exactly when a lexeme stands behind
the blanks, and then it takes the longest one: the token is what that lexeme stands for,
and the blanks and the lexeme are all that is passed over. -/
theorem longest_lexeme_scanned (scanner : Scanner) :
    ((∃ token, scanner.next.outcome = .ok token ∧ token.kind = .endOfText) ↔
      scanner.unread.dropWhile Text.isBlank = []) ∧
    ((∃ token, scanner.next.outcome = .ok token ∧ token.kind ≠ .endOfText) ↔
      ∃ lexeme kind payload, Lexeme lexeme kind payload ∧
        lexeme <+: scanner.unread.dropWhile Text.isBlank) ∧
    ∀ token, scanner.next.outcome = .ok token → token.kind ≠ .endOfText →
      ∃ lexeme, Longest (scanner.unread.dropWhile Text.isBlank) lexeme ∧
        (∀ kind payload, Lexeme lexeme kind payload ↔
          kind = token.kind ∧ payload = token.payload) ∧
        scanner.unread =
          scanner.unread.takeWhile Text.isBlank ++ lexeme ++ scanner.next.after.unread := by
  have split := List.takeWhile_append_dropWhile (p := Text.isBlank) (l := scanner.unread)
  rw [← unread_skipBlanks] at split ⊢
  have stepped := scanner.next_stepped
  generalize scanner.next = step at stepped
  cases stepped with
  | endOfText empty =>
      refine ⟨by simp [empty], ?_, ?_⟩
      · constructor
        · rintro ⟨_, ⟨⟩, proper⟩
          exact absurd rfl proper
        · rintro ⟨lexeme, kind, payload, isLexeme, front⟩
          rw [empty, List.prefix_nil] at front
          exact absurd front isLexeme.ne_nil
      · rintro _ ⟨⟩ proper
        exact absurd rfl proper
  | @lexeme lexeme kind payload isLexeme longest =>
      have left : scanner.skipBlanks.unread ≠ [] := by
        intro empty
        have front := longest.front
        rw [empty, List.prefix_nil] at front
        exact isLexeme.ne_nil front
      refine ⟨by simp [left, isLexeme.ne_endOfText], ?_, ?_⟩
      · constructor
        · intro _
          exact ⟨lexeme, kind, payload, isLexeme, longest.front⟩
        · intro _
          exact ⟨_, rfl, isLexeme.ne_endOfText⟩
      · rintro _ ⟨⟩ _
        refine ⟨lexeme, longest, fun other carried => ⟨isLexeme.determined, ?_⟩, ?_⟩
        · rintro ⟨rfl, rfl⟩
          exact isLexeme
        · rw [List.append_assoc, ← unread_consume_front longest.front, split]
  | fault faulty missing =>
      have left : scanner.skipBlanks.unread ≠ [] := by
        intro empty
        rw [empty] at faulty
        cases faulty
      refine ⟨by simp [left], ?_, ?_⟩
      · constructor
        · rintro ⟨_, ⟨⟩, _⟩
        · rintro ⟨lexeme, kind, payload, isLexeme, front⟩
          exact absurd front (missing lexeme kind payload isLexeme)
      · rintro _ ⟨⟩

theorem longest_lexeme_of_field :
    (ofText " a.b.c").next.outcome = .ok ⟨.field, ⟨0, 1⟩, some (.text "a.b")⟩ ∧
    Kind.field ≠ .endOfText ∧
    ∃ lexeme, Longest ((ofText " a.b.c").unread.dropWhile Text.isBlank) lexeme ∧
      (∀ kind payload, Lexeme lexeme kind payload ↔
        kind = .field ∧ payload = some (.text "a.b")) ∧
      (ofText " a.b.c").unread = (ofText " a.b.c").unread.takeWhile Text.isBlank ++ lexeme ++
        (ofText " a.b.c").next.after.unread := by
  have read : (ofText " a.b.c").next.outcome = .ok ⟨.field, ⟨0, 1⟩, some (.text "a.b")⟩ := rfl
  exact ⟨read, by decide, (longest_lexeme_scanned (ofText " a.b.c")).2.2 _ read (by decide)⟩

end Scanner

end QueryCheck
