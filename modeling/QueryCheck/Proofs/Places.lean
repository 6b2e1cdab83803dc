import Mathlib.Data.List.DropRight
import QueryCheck.Proofs.Scanning

/-!
Places are exact: the place behind a text is counted in the text itself, and the cursor
of a scanner, the place of a token and the place of a fault are the places behind the
text in front of them, after any calls.
-/
namespace QueryCheck

namespace Position

/-- The line feeds of a text, and its characters behind the last of them. -/
def behind (text : List Char) : Position :=
  ⟨text.count '\n', (text.rtakeWhile (· ≠ '\n')).length⟩

/-- The order in which places are read. -/
def Before (left right : Position) : Prop :=
  left.line < right.line ∨ left.line = right.line ∧ left.column < right.column

theorem after_start (text : List Char) : start.after text = behind text := by
  -- From the right: only the last character decides how the place moves.
  induction text using List.reverseRecOn with
  | nil => rfl
  | append_singleton front c ih =>
      rw [after_append, ih]
      by_cases feed : c = '\n'
      · simp [behind, next, feed]
      · simp [behind, next, feed]

theorem next_before (place : Position) (c : Char) : place.Before (place.next c) := by
  unfold next
  split
  · exact .inl (Nat.lt_succ_self _)
  · exact .inr ⟨rfl, Nat.lt_succ_self _⟩

theorem Before.trans {first second third : Position} (early : first.Before second)
    (late : second.Before third) : first.Before third := by
  unfold Before at *
  omega

theorem after_before (place : Position) {text : List Char} (nonempty : text ≠ []) :
    place.Before (place.after text) := by
  induction text generalizing place with
  | nil => exact absurd rfl nonempty
  | cons c rest ih =>
      by_cases last : rest = []
      · subst rest
        exact place.next_before c
      · exact (place.next_before c).trans (ih (place.next c) last)

end Position

/-- What the outcome of a call says of the text around it: `front` is the text in front of
the first character that the outcome is about, `left` the text that the call leaves. -/
inductive Placed (text front left : List Char) : Except LexicalError Token → Prop where
  | endOfText :
      front = text → left = [] → Placed text front left (.ok ⟨.endOfText, .behind text, none⟩)
  | lexeme {lexeme : List Char} {kind : Kind} {payload : Option Payload} :
      Lexeme lexeme kind payload → text = front ++ lexeme ++ left →
        Placed text front left (.ok ⟨kind, .behind front, payload⟩)
  | illegalCharacter {found : Char} {rest : List Char} :
      text = front ++ found :: rest →
        Placed text front left (.error ⟨.illegalCharacter found, .behind front⟩)
  | unterminatedString {rest : List Char} :
      text = front ++ '"' :: rest →
        Placed text front left (.error ⟨.unterminatedString, .behind front⟩)
  | invalidNumber {sign : Char} {rest : List Char} :
      sign = '+' ∨ sign = '-' → text = front ++ sign :: rest →
        Placed text front left (.error ⟨.invalidNumber, .behind front⟩)

namespace Scanner

theorem next_placed {scanner : Scanner} {text front : List Char}
    (unread : text = front ++ scanner.skipBlanks.unread)
    (cursor : scanner.skipBlanks.cursor = .behind front) :
    Placed text front scanner.next.after.unread scanner.next.outcome := by
  have stepped := scanner.next_stepped
  generalize scanner.next = step at stepped
  cases stepped with
  | endOfText empty =>
      rw [empty, List.append_nil] at unread
      subst text
      rw [cursor]
      exact .endOfText rfl empty
  | lexeme lexeme longest =>
      rw [cursor]
      refine .lexeme lexeme ?_
      rw [List.append_assoc, ← unread_consume_front longest.front, unread]
  | fault faulty _ =>
      rw [cursor]
      generalize scanner.skipBlanks.unread = rest at unread faulty
      cases faulty with
      | illegalCharacter => exact .illegalCharacter unread
      | unterminatedString => exact .unterminatedString unread
      | invalidNumber _ signed => exact .invalidNumber signed unread

theorem next_place {scanner : Scanner} {token : Token}
    (read : scanner.next.outcome = .ok token) : token.place = scanner.skipBlanks.cursor := by
  have stepped := scanner.next_stepped
  generalize scanner.next = step at read stepped
  cases stepped <;> cases read <;> rfl

theorem later_token_before {scanner : Scanner} {earlier later : Nat} {token other : Token}
    (order : earlier < later) (read : (scanner.afterCalls earlier).next.outcome = .ok token)
    (proper : token.kind ≠ .endOfText)
    (readOther : (scanner.afterCalls later).next.outcome = .ok other) :
    token.place.Before other.place := by
  obtain ⟨more, rfl⟩ := Nat.exists_eq_add_of_lt order
  obtain ⟨lexeme, isLexeme, -, taken, -⟩ := next_token read proper
  obtain ⟨between, passed⟩ := scanner.afterCalls_passes (earlier + 1) more
  rw [afterCalls_succ] at passed
  -- From the first character of the one token to the first character of the other.
  have path := (taken.trans passed).trans (skipBlanks_passes _)
  rw [Nat.add_right_comm] at path
  rw [next_place read, next_place readOther, path.cursor]
  exact Position.after_before _ (by simp [isLexeme.ne_nil])

theorem end_sticks {scanner : Scanner} {earlier later : Nat} {token other : Token}
    (order : later ≤ earlier) (read : (scanner.afterCalls earlier).next.outcome = .ok token)
    (readOther : (scanner.afterCalls later).next.outcome = .ok other)
    (ends : other.kind = .endOfText) : token.kind = .endOfText := by
  rcases Nat.eq_or_lt_of_le order with rfl | before
  · cases read.symm.trans readOther
    exact ends
  · obtain ⟨more, rfl⟩ := Nat.exists_eq_add_of_lt before
    have empty : (scanner.afterCalls (later + 1)).unread = [] := by
      rw [afterCalls_succ]
      exact unread_after_end readOther ends
    obtain ⟨between, passed⟩ := scanner.afterCalls_passes (later + 1) more
    rw [Nat.add_right_comm] at passed
    have nothing := passed.unread
    rw [empty] at nothing
    rw [next_exhausted (List.append_eq_nil_iff.mp nothing.symm).2] at read
    cases read
    rfl

theorem skipBlanks_placed (text : String) (count : Nat) :
    ∃ front, text.toList = front ++ ((ofText text).afterCalls count).skipBlanks.unread ∧
      ((ofText text).afterCalls count).skipBlanks.cursor = .behind front := by
  obtain ⟨consumed, passed⟩ := (ofText text).afterCalls_passes 0 count
  rw [Nat.zero_add] at passed
  have skipped := passed.trans (skipBlanks_passes _)
  exact ⟨_, skipped.unread, skipped.cursor.trans (Position.after_start _)⟩

theorem end_placed {text : String} {count : Nat} {token : Token}
    (read : ((ofText text).afterCalls count).next.outcome = .ok token)
    (ends : token.kind = .endOfText) : token = ⟨.endOfText, .behind text.toList, none⟩ := by
  obtain ⟨front, unread, cursor⟩ := skipBlanks_placed text count
  obtain ⟨empty, step⟩ := next_end read ends
  rw [step] at read
  cases read
  rw [empty, List.append_nil] at unread
  rw [cursor, unread]

theorem end_again {text : String} {count : Nat} {token other : Token}
    (read : ((ofText text).afterCalls count).next.outcome = .ok token)
    (ends : token.kind = .endOfText)
    (readAgain : ((ofText text).afterCalls (count + 1)).next.outcome = .ok other) :
    other = token := by
  have endsAgain : other.kind = .endOfText := end_sticks (Nat.le_succ count) readAgain read ends
  rw [end_placed readAgain endsAgain, end_placed read ends]

theorem token_placed {text : String} {count : Nat} {token : Token}
    (read : ((ofText text).afterCalls count).next.outcome = .ok token)
    (proper : token.kind ≠ .endOfText) :
    ∃ front lexeme,
      text.toList = front ++ lexeme ++ ((ofText text).afterCalls (count + 1)).unread ∧
      token.place = .behind front ∧ Lexeme lexeme token.kind token.payload ∧
      Longest (lexeme ++ ((ofText text).afterCalls (count + 1)).unread) lexeme := by
  obtain ⟨front, unread, cursor⟩ := skipBlanks_placed text count
  obtain ⟨lexeme, isLexeme, longest, taken, placed⟩ := next_token read proper
  rw [taken.unread] at unread longest
  rw [afterCalls_succ]
  exact ⟨front, lexeme, by rw [unread, List.append_assoc], placed.trans cursor, isLexeme, longest⟩

/-- After any number of calls the cursor is the place behind the text read so far, and
the next outcome is placed behind that text and the blanks that follow it. Places of
tokens increase from call to call, and that of the end marker is behind them all. -/
theorem places_exact (text : String) :
    (∀ count, ∃ consumed,
      text.toList = consumed ++ ((ofText text).afterCalls count).unread ∧
      ((ofText text).afterCalls count).cursor = .behind consumed ∧
      Placed text.toList
        (consumed ++ ((ofText text).afterCalls count).unread.takeWhile Text.isBlank)
        ((ofText text).afterCalls (count + 1)).unread
        ((ofText text).afterCalls count).next.outcome) ∧
    ∀ earlier later token other,
      ((ofText text).afterCalls earlier).next.outcome = .ok token →
      token.kind ≠ .endOfText →
      ((ofText text).afterCalls later).next.outcome = .ok other →
      earlier < later ∨ other.kind = .endOfText →
      token.place.Before other.place := by
  constructor
  · intro count
    obtain ⟨consumed, passed⟩ := (ofText text).afterCalls_passes 0 count
    rw [Nat.zero_add] at passed
    have skipped := passed.trans (skipBlanks_passes _)
    rw [afterCalls_succ]
    refine ⟨consumed, passed.unread, ?_, next_placed skipped.unread ?_⟩
    · exact passed.cursor.trans (Position.after_start consumed)
    · exact skipped.cursor.trans (Position.after_start _)
  · intro earlier later token other read proper readOther order
    rcases Nat.lt_or_ge earlier later with before | behind
    · exact later_token_before before read proper readOther
    · rcases order with before | ends
      · omega
      · exact absurd (end_sticks behind read readOther ends) proper

theorem places_of_two_lines :
    ((ofText "a\n b").afterCalls 0).next.outcome =
      .ok ⟨.identifier, ⟨0, 0⟩, some (.text "a")⟩ ∧
    Kind.identifier ≠ .endOfText ∧
    ((ofText "a\n b").afterCalls 1).next.outcome =
      .ok ⟨.identifier, ⟨1, 1⟩, some (.text "b")⟩ ∧
    0 < 1 ∧ Position.Before ⟨0, 0⟩ ⟨1, 1⟩ :=
  ⟨rfl, by decide, rfl, by decide,
    (places_exact "a\n b").2 0 1 _ _ rfl (by decide) rfl (.inl (by decide))⟩

end Scanner

end QueryCheck
