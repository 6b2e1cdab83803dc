import QueryCheck.Proofs.Breaks

/-!
Which texts have a fault where they begin, and what the fault leaves. A text is empty, or a
lexeme stands in front of it, or exactly one of three flaws does: no fourth case is left and
no two of them meet. A fault either stays where it is and is met by every later call, or it
takes all that is left except a last backslash.
-/
namespace QueryCheck

/-- Why no lexeme stands in front of a text: a string that is never closed, a sign and a
point without a digit, or a character that begins no lexeme at all. -/
inductive Flawed : List Char → LexicalFault → Prop where
  | unterminatedString {rest : List Char} :
      (∀ lexeme payload, Lexeme lexeme .string payload → ¬ lexeme <+: '"' :: rest) →
        Flawed ('"' :: rest) .unterminatedString
  | invalidNumber {sign : Char} {rest : List Char} :
      sign = '+' ∨ sign = '-' → (∀ c ∈ rest.head?, c.isDigit = false) →
        Flawed (sign :: '.' :: rest) .invalidNumber
  | illegalCharacter {c : Char} {rest : List Char} :
      c ∉ marks → Text.isWordStart c = false → c.isDigit = false →
        (c = '+' ∨ c = '-' → ∀ d ∈ rest.head?, d.isDigit = false ∧ d ≠ '.') →
          Flawed (c :: rest) (.illegalCharacter c)

def Fronted (text : List Char) : Prop :=
  ∃ lexeme kind payload, Lexeme lexeme kind payload ∧ lexeme <+: text

namespace Fronted

theorem numeral {numeral : Numeral} (valid : numeral.Valid)
    (point : numeral.spelling.head? ≠ some '.') (rest : List Char) :
    Fronted (numeral.spelling ++ rest) :=
  ⟨_, _, _, .number (numericPattern_iff.mpr ⟨numeral, valid, rfl⟩) valid point,
    List.prefix_append _ _⟩

theorem digit {c : Char} (digit : c.isDigit = true) (rest : List Char) : Fronted (c :: rest) := by
  have valid : (⟨none, [c], none, none⟩ : Numeral).Valid :=
    ⟨by simpa [Digits] using digit, by simp, .inl (by simp), by simp⟩
  refine numeral valid ?_ rest
  rintro ⟨⟩
  cases digit

theorem signedDigit (sign : Sign) {c : Char} (digit : c.isDigit = true) (rest : List Char) :
    Fronted (sign.spelling :: c :: rest) := by
  have valid : (⟨some sign, [c], none, none⟩ : Numeral).Valid :=
    ⟨by simpa [Digits] using digit, by simp, .inl (by simp), by simp⟩
  exact numeral valid (by cases sign <;> simp [Numeral.spelling, Sign.spelling]) rest

theorem signedFraction (sign : Sign) {c : Char} (digit : c.isDigit = true) (rest : List Char) :
    Fronted (sign.spelling :: '.' :: c :: rest) := by
  have valid : (⟨some sign, [], some [c], none⟩ : Numeral).Valid :=
    ⟨by simp [Digits], by simpa [Digits] using digit, .inr (by simp), by simp⟩
  exact numeral valid (by cases sign <;> simp [Numeral.spelling, Sign.spelling]) rest

theorem word {c : Char} (starts : Text.isWordStart c = true) (rest : List Char) :
    Fronted (c :: rest) := by
  have isWord : IsWord [c] := ⟨starts, by simp⟩
  cases found : Keyword.find? [c] with
  | none => exact ⟨_, _, _, .identifier isWord found, ⟨rest, rfl⟩⟩
  | some keyword => exact ⟨_, _, _, .reserved isWord found, ⟨rest, rfl⟩⟩

theorem mark {c : Char} (marked : c ∈ marks) (other : c ≠ '"') (rest : List Char) :
    Fronted (c :: rest) := by
  simp only [marks, List.mem_cons, List.not_mem_nil, or_false] at marked
  rcases marked with quote | rfl | rfl | rfl | rfl | rfl | rfl | rfl | rfl
  · exact absurd quote other
  · exact ⟨_, _, _, .leftParen, ⟨rest, rfl⟩⟩
  · exact ⟨_, _, _, .rightParen, ⟨rest, rfl⟩⟩
  · exact ⟨_, _, _, .comma, ⟨rest, rfl⟩⟩
  · exact ⟨_, _, _, .dot, ⟨rest, rfl⟩⟩
  · exact ⟨_, _, _, .star, ⟨rest, rfl⟩⟩
  · exact ⟨_, _, _, .comparison .less, ⟨rest, rfl⟩⟩
  · exact ⟨_, _, _, .comparison .greater, ⟨rest, rfl⟩⟩
  · exact ⟨_, _, _, .comparison .equal, ⟨rest, rfl⟩⟩

end Fronted

section Classes

theorem quote_classified (rest : List Char) :
    Fronted ('"' :: rest) ∨ Flawed ('"' :: rest) .unterminatedString := by
  by_cases closed : ∃ lexeme payload, Lexeme lexeme .string payload ∧ lexeme <+: '"' :: rest
  · obtain ⟨lexeme, payload, isLexeme, front⟩ := closed
    exact .inl ⟨lexeme, _, payload, isLexeme, front⟩
  · refine .inr (.unterminatedString ?_)
    intro lexeme payload isLexeme front
    exact closed ⟨lexeme, payload, isLexeme, front⟩

theorem sign_classified (sign : Sign) (rest : List Char) :
    Fronted (sign.spelling :: rest) ∨ ∃ cause, Flawed (sign.spelling :: rest) cause := by
  have signed : sign.spelling = '+' ∨ sign.spelling = '-' := by cases sign <;> decide
  have illegal (stop : ∀ d ∈ rest.head?, d.isDigit = false ∧ d ≠ '.') :
      Flawed (sign.spelling :: rest) (.illegalCharacter sign.spelling) :=
    .illegalCharacter (by cases sign <;> decide) (by cases sign <;> decide +kernel)
      (by cases sign <;> decide) fun _ => stop
  cases rest with
  | nil => exact .inr ⟨_, illegal (by simp)⟩
  | cons d later =>
      by_cases digit : d.isDigit = true
      · exact .inl (.signedDigit sign digit later)
      · by_cases point : d = '.'
        · subst point
          -- Behind the point one more digit decides.
          cases later with
          | nil => exact .inr ⟨_, .invalidNumber signed (by simp)⟩
          | cons e more =>
              by_cases figure : e.isDigit = true
              · exact .inl (.signedFraction sign figure more)
              · exact .inr ⟨_, .invalidNumber signed (by simpa using figure)⟩
        · exact .inr ⟨_, illegal (by simp [digit, point])⟩

-- There is no text that is neither empty nor begins with a lexeme or with a flaw.
theorem classified (text : List Char) :
    text = [] ∨ Fronted text ∨ ∃ cause, Flawed text cause := by
  cases text with
  | nil => exact .inl rfl
  | cons c rest =>
      right
      by_cases quote : c = '"'
      · subst quote
        exact (quote_classified rest).imp_right fun flawed => ⟨_, flawed⟩
      · by_cases marked : c ∈ marks
        · exact .inl (.mark marked quote rest)
        · by_cases starts : Text.isWordStart c = true
          · exact .inl (.word starts rest)
          · by_cases digit : c.isDigit = true
            · exact .inl (.digit digit rest)
            · by_cases plus : c = '+'
              · subst plus
                exact sign_classified .plus rest
              · by_cases minus : c = '-'
                · subst minus
                  exact sign_classified .minus rest
                · refine .inr ⟨_, .illegalCharacter marked ?_ ?_ ?_⟩
                  · exact Bool.eq_false_iff.mpr starts
                  · exact Bool.eq_false_iff.mpr digit
                  · rintro (isPlus | isMinus)
                    · exact absurd isPlus plus
                    · exact absurd isMinus minus

end Classes

namespace Reading

theorem ofText_open {rest : List Char}
    (opened : ∀ lexeme payload, Lexeme lexeme .string payload → ¬ lexeme <+: '"' :: rest) :
    (Quoted.read rest).closed = false := by
  refine Bool.eq_false_iff.mpr fun closed => ?_
  obtain ⟨body, quoted, spelled⟩ := Quoted.read_body closed
  have front := Quoted.spelling_front rest
  rw [spelled] at front
  exact opened _ _ (.string quoted) (List.cons_prefix_cons.mpr ⟨rfl, front⟩)

theorem read?_pointed (sign : Sign) {rest : List Char}
    (stop : ∀ c ∈ rest.head?, c.isDigit = false) :
    Numeral.read? (sign.spelling :: '.' :: rest) = none := by
  have none : Numeral.digits rest = [] := by
    cases rest with
    | nil => rfl
    | cons c later => exact List.takeWhile_cons_of_neg (by simp [stop c rfl])
  have point : Numeral.digits ('.' :: rest) = [] := List.takeWhile_cons_of_neg (by decide)
  cases sign <;>
    simp [Numeral.read?, Sign.read, Sign.ofChar?, Sign.spelling, point, Numeral.fraction?, none]

theorem ofText_flawed {text : List Char} {cause : LexicalFault} (flawed : Flawed text cause) :
    ∃ consumed, ofText text = .fault cause consumed := by
  cases flawed with
  | @unterminatedString rest opened =>
      refine ⟨'"' :: (Quoted.read rest).spelling, ?_⟩
      simp only [ofText, if_true, ofQuoted, ofText_open opened]
      rfl
  | @invalidNumber sign rest signed stop =>
      have begins : Numeral.begins (sign :: '.' :: rest) = true := by
        rcases signed with rfl | rfl <;> rfl
      have missing : Numeral.read? (sign :: '.' :: rest) = none := by
        rcases signed with rfl | rfl
        · exact read?_pointed .plus stop
        · exact read?_pointed .minus stop
      rw [ofText_numeral begins, numeral, missing]
      exact ⟨_, rfl⟩
  | @illegalCharacter c rest unmarked starts digit stop =>
      have begins : Numeral.begins (c :: rest) = false := by
        refine Bool.eq_false_iff.mpr fun begins => ?_
        have signed := (Numeral.begins_head begins).resolve_left (by simp [digit])
        cases rest with
        | nil => simp [Numeral.begins, digit] at begins
        | cons d later =>
            obtain ⟨undigit, unpoint⟩ := stop signed d rfl
            simp [Numeral.begins, digit, undigit, unpoint] at begins
      rw [ofText_unmarked rest unmarked, starts, begins]
      exact ⟨_, rfl⟩

theorem fault_bare {text consumed : List Char} {cause : LexicalFault}
    (read : ofText text = .fault cause consumed) : ¬ Fronted text := by
  rintro ⟨lexeme, kind, payload, isLexeme, front⟩
  obtain ⟨_, _, _, same, -⟩ := ofText_longer isLexeme front
  cases read.symm.trans same

theorem ofText_fault_iff {text : List Char} {cause : LexicalFault} :
    (∃ consumed, ofText text = .fault cause consumed) ↔ Flawed text cause := by
  constructor
  · rintro ⟨consumed, read⟩
    rcases classified text with rfl | fronted | ⟨other, flawed⟩
    · cases read
    · exact absurd fronted (fault_bare read)
    · -- Two flaws would be read as two faults.
      obtain ⟨_, same⟩ := ofText_flawed flawed
      cases read.symm.trans same
      exact flawed
  · exact ofText_flawed

end Reading

namespace Scanner

theorem next_fault_iff {scanner : Scanner} {cause : LexicalFault} :
    (∃ place, scanner.next.outcome = .error ⟨cause, place⟩) ↔
      Flawed scanner.skipBlanks.unread cause := by
  rw [← Reading.ofText_fault_iff]
  constructor
  · rintro ⟨place, failed⟩
    obtain ⟨consumed, read, -⟩ := next_failed failed
    exact ⟨consumed, read⟩
  · rintro ⟨consumed, read⟩
    simp only [next, read]
    exact ⟨_, rfl⟩

theorem next_kept {scanner : Scanner} {error : LexicalError}
    (failed : scanner.next.outcome = .error error) (closed : error.cause ≠ .unterminatedString) :
    scanner.next = ⟨.error error, scanner.skipBlanks⟩ := by
  have stepped := scanner.next_stepped
  generalize scanner.next = step at failed stepped
  cases stepped with
  | endOfText _ => cases failed
  | lexeme _ _ => cases failed
  | fault faulty _ =>
      cases failed
      generalize scanner.skipBlanks.unread = text at faulty
      cases faulty with
      | illegalCharacter => rfl
      | invalidNumber => rfl
      | unterminatedString => exact absurd rfl closed

theorem next_opened {scanner : Scanner} {error : LexicalError}
    (failed : scanner.next.outcome = .error error) (opened : error.cause = .unterminatedString) :
    ∃ body decoded left, QuotedBody body decoded ∧
      scanner.skipBlanks.unread = '"' :: body ++ left ∧ scanner.next.after.unread = left ∧
      (left = [] ∨ left = ['\\']) := by
  obtain ⟨consumed, read, step, -⟩ := next_failed failed
  rw [opened] at read
  obtain ⟨body, decoded, left, quoted, rfl, split, ended⟩ := Reading.ofText_unterminated read
  refine ⟨body, decoded, left, quoted, split, ?_, ended⟩
  rw [step, unread_consume, split]
  exact List.drop_left

/-- Every further call gives this step. -/
def Settled (scanner : Scanner) (outcome : Except LexicalError Token) : Prop :=
  ∀ count, (scanner.afterCalls count).next = ⟨outcome, scanner⟩

theorem settled_of_next {scanner : Scanner} {outcome : Except LexicalError Token}
    (step : scanner.next = ⟨outcome, scanner⟩) : scanner.Settled outcome := by
  intro count
  have still : scanner.next.after = scanner := by rw [step]
  rw [afterCalls_still still, step]

/-- A call fails exactly where the text behind the blanks is flawed, and with that flaw. A
fault that is no open string leaves the text behind the blanks, and comes again from every
later call; an open string leaves nothing, or a backslash that ends the text, and every later
call gives the end marker or finds that backslash. -/
theorem faults_exact (scanner : Scanner) :
    (∀ cause, (∃ place, scanner.next.outcome = .error ⟨cause, place⟩) ↔
      Flawed (scanner.unread.dropWhile Text.isBlank) cause) ∧
    (∀ error, scanner.next.outcome = .error error → error.cause ≠ .unterminatedString →
      scanner.next.after.unread = scanner.unread.dropWhile Text.isBlank ∧
      scanner.next.after.Settled (.error error)) ∧
    ∀ error, scanner.next.outcome = .error error → error.cause = .unterminatedString →
      ∃ body decoded left, QuotedBody body decoded ∧
        scanner.unread.dropWhile Text.isBlank = '"' :: body ++ left ∧
        scanner.next.after.unread = left ∧
        (left = [] ∧
            scanner.next.after.Settled (.ok ⟨.endOfText, scanner.next.after.cursor, none⟩) ∨
          left = ['\\'] ∧
            scanner.next.after.Settled
              (.error ⟨.illegalCharacter '\\', scanner.next.after.cursor⟩)) := by
  rw [← unread_skipBlanks]
  refine ⟨fun cause => next_fault_iff, ?_, ?_⟩
  · intro error failed closed
    have step := next_kept failed closed
    rw [step]
    exact ⟨rfl, settled_of_next (scanner.next_skipBlanks.trans step)⟩
  · intro error failed opened
    obtain ⟨body, decoded, left, quoted, split, unread, ended⟩ := next_opened failed opened
    refine ⟨body, decoded, left, quoted, split, unread, ?_⟩
    rcases ended with rfl | rfl
    · exact .inl ⟨rfl, settled_of_next (next_exhausted unread)⟩
    · exact .inr ⟨rfl, settled_of_next (next_backslash unread)⟩

/-- A sign and a point stay and fail again; an open string is passed over, up to the backslash
that ends the text, and that backslash is what every later call finds. -/
theorem faults_of_two_texts :
    let pointed := ofText " -.x"
    let opened := ofText "\"a\\"
    (pointed.next.outcome = .error ⟨.invalidNumber, ⟨0, 1⟩⟩ ∧
      Flawed ['-', '.', 'x'] .invalidNumber ∧
      LexicalFault.invalidNumber ≠ .unterminatedString ∧
      pointed.next.after.unread = ['-', '.', 'x'] ∧
      pointed.next.after.Settled (.error ⟨.invalidNumber, ⟨0, 1⟩⟩)) ∧
    opened.next.outcome = .error ⟨.unterminatedString, ⟨0, 0⟩⟩ ∧
      Flawed ['"', 'a', '\\'] .unterminatedString ∧
      opened.next.after.unread = ['\\'] ∧
      opened.next.after.Settled (.error ⟨.illegalCharacter '\\', ⟨0, 2⟩⟩) := by
  intro pointed opened
  have failed : pointed.next.outcome = .error ⟨.invalidNumber, ⟨0, 1⟩⟩ := by rfl
  have failedOpen : opened.next.outcome = .error ⟨.unterminatedString, ⟨0, 0⟩⟩ := by rfl
  obtain ⟨flawed, kept, -⟩ := faults_exact pointed
  obtain ⟨flawedOpen, -, passed⟩ := faults_exact opened
  refine ⟨⟨failed, (flawed _).mp ⟨_, failed⟩, by decide, kept _ failed (by decide)⟩,
    failedOpen, (flawedOpen _).mp ⟨_, failedOpen⟩, rfl, ?_⟩
  obtain ⟨_, _, _, -, -, unread, ⟨rfl, -⟩ | ⟨-, settled⟩⟩ := passed _ failedOpen rfl
  · cases unread
  · exact settled

end Scanner

end QueryCheck
