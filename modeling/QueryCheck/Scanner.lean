import QueryCheck.Lexeme

/-! Scanning a text token by token. A scanner holds the text not yet read and the place
where it begins. Main statements: a step never lengthens the unread text, and a step
that gives a token other than the end marker shortens it, so scanning to the end
stops. -/
namespace QueryCheck

structure LexicalError where
  cause : LexicalFault
  place : Position
  deriving DecidableEq

def LexicalFault.describe : LexicalFault → String
  | .illegalCharacter found => "Illegal character <" ++ String.singleton found ++ ">"
  | .unterminatedString => "Unterminated string literal"
  | .invalidNumber => "Invalid numeric literal"

def LexicalError.message (error : LexicalError) : String :=
  error.cause.describe ++ " at " ++ error.place.describe

structure Scanner where
  unread : List Char
  cursor : Position
  deriving DecidableEq

namespace Scanner

def ofText (text : String) : Scanner := ⟨text.toList, .start⟩

def consume (scanner : Scanner) (spelling : List Char) : Scanner :=
  ⟨scanner.unread.drop spelling.length, scanner.cursor.after spelling⟩

def skipBlanks (scanner : Scanner) : Scanner :=
  scanner.consume (scanner.unread.takeWhile Text.isBlank)

structure Step where
  outcome : Except LexicalError Token
  after : Scanner

/-- Read the next token. Blanks in front are passed over even when a fault follows; at
the end of the text every call gives the end marker again. -/
def next (scanner : Scanner) : Step :=
  let here := scanner.skipBlanks
  match Reading.ofText here.unread with
  | .endOfText => ⟨.ok ⟨.endOfText, here.cursor, none⟩, here⟩
  | .lexeme kind payload spelling => ⟨.ok ⟨kind, here.cursor, payload⟩, here.consume spelling⟩
  | .fault cause consumed => ⟨.error ⟨cause, here.cursor⟩, here.consume consumed⟩

@[simp]
theorem unread_consume (scanner : Scanner) (spelling : List Char) :
    (scanner.consume spelling).unread = scanner.unread.drop spelling.length := rfl

theorem length_skipBlanks_le (scanner : Scanner) :
    scanner.skipBlanks.unread.length ≤ scanner.unread.length := by
  simp [skipBlanks]

theorem length_next_le (scanner : Scanner) :
    scanner.next.after.unread.length ≤ scanner.unread.length := by
  have skipped := scanner.length_skipBlanks_le
  simp only [next]
  split <;> simp only [unread_consume, List.length_drop] <;> omega

theorem length_next_lt {scanner : Scanner} {token : Token}
    (read : scanner.next.outcome = .ok token) (proper : token.kind ≠ .endOfText) :
    scanner.next.after.unread.length < scanner.unread.length := by
  have skipped := scanner.length_skipBlanks_le
  revert read
  simp only [next]
  split
  · intro read
    injection read with same
    exact absurd (same ▸ rfl) proper
  · rename_i kind payload spelling lexeme
    obtain ⟨unread, -, spelled⟩ := Reading.ofText_proper lexeme
    have := List.length_pos_iff.mpr unread
    have := List.length_pos_iff.mpr spelled
    intro
    simp only [unread_consume, List.length_drop]
    omega
  · intro read
    contradiction

-- Every step up to the first end marker or fault, that one included.
def steps (scanner : Scanner) : List Step :=
  match read : scanner.next.outcome with
  | .error _ => [scanner.next]
  | .ok token =>
      if proper : token.kind = .endOfText then [scanner.next]
      else
        have := length_next_lt read proper
        scanner.next :: steps scanner.next.after
termination_by scanner.unread.length

def calls : Nat → Scanner → List Step
  | 0, _ => []
  | count + 1, scanner => scanner.next :: calls count scanner.next.after

def afterSteps (scanner : Scanner) (steps : List Step) : Scanner :=
  (steps.getLast?.map Step.after).getD scanner

end Scanner

end QueryCheck
