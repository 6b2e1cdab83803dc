import QueryCheck.Proofs.Scanning

/-!
Where a text may be cut. Blanks and quotes stand in no lexeme but a string, and a string
ends at its own closing quote. So the tokens in front of a cut stay what they were when
the text is cut behind one of them and goes on with a blank, a quote or nothing at all.
-/
namespace QueryCheck

namespace Text

/-- The characters that stand in no lexeme but a string. -/
def isBreak (c : Char) : Bool := isBlank c || c = '"'

theorem isBreak_exact {c : Char} (breaks : isBreak c = true) :
    isWordPart c = false ∧ c.isDigit = false := by
  simp only [isBreak, isBlank, Bool.or_eq_true, decide_eq_true_eq] at breaks
  rcases breaks with ((((rfl | rfl) | rfl) | rfl) | rfl) | rfl <;> decide +kernel

end Text

-- A text that no lexeme in front of it goes into, strings aside.
def Breaks (rest : List Char) : Prop := ∀ c ∈ rest.head?, Text.isBreak c = true

theorem Breaks.of_blank {blanks rest : List Char}
    (blank : ∀ c ∈ blanks, Text.isBlank c = true) (breaks : Breaks rest) :
    Breaks (blanks ++ rest) := by
  cases blanks with
  | nil => exact breaks
  | cons c later =>
      rintro _ ⟨⟩
      simp [Text.isBreak, blank c (by simp)]

def Unbroken (text : List Char) : Prop := ∀ c ∈ text, Text.isBreak c = false

instance (text : List Char) : Decidable (Unbroken text) :=
  decidable_of_iff (text.all (fun c => !Text.isBreak c) = true) (by simp [Unbroken])

theorem Unbroken.append {front back : List Char} (solidFront : Unbroken front)
    (solidBack : Unbroken back) : Unbroken (front ++ back) := by
  intro c member
  rcases List.mem_append.mp member with inFront | inBack
  · exact solidFront c inFront
  · exact solidBack c inBack

theorem IsWord.unbroken {word : List Char} (isWord : IsWord word) : Unbroken word := by
  intro c member
  refine Bool.eq_false_iff.mpr fun breaks => ?_
  have part := isWord.parts c member
  rw [(Text.isBreak_exact breaks).1] at part
  cases part

theorem Digits.unbroken {text : List Char} (digits : Digits text) : Unbroken text := by
  intro c member
  refine Bool.eq_false_iff.mpr fun breaks => ?_
  have digit := digits c member
  rw [(Text.isBreak_exact breaks).2] at digit
  cases digit

theorem OptionalSign.unbroken {text : List Char} (signed : OptionalSign text) :
    Unbroken text := by
  cases signed <;> decide

theorem OptionalPoint.unbroken {text : List Char} (pointed : OptionalPoint text) :
    Unbroken text := by
  cases pointed <;> decide

theorem OptionalExponent.unbroken {text : List Char} (ended : OptionalExponent text) :
    Unbroken text := by
  cases ended with
  | absent => decide
  | @exponent mark sign digits marked signed digital _ =>
      have solidMark : Unbroken [mark] := by
        rcases marked with rfl | rfl <;> decide
      exact (solidMark.append signed.unbroken).append digital.unbroken

theorem NumericPattern.unbroken {text : List Char} (pattern : NumericPattern text) :
    Unbroken text := by
  obtain ⟨signed, whole, pointed, digits, -, ended⟩ := pattern
  exact (((signed.unbroken.append whole.unbroken).append pointed.unbroken).append
    digits.unbroken).append ended.unbroken

-- A lexeme is a string, or no break stands in it.
theorem Lexeme.quoted_or_unbroken {text : List Char} {kind : Kind} {payload : Option Payload}
    (lexeme : Lexeme text kind payload) :
    (∃ body decoded, QuotedBody body decoded ∧ text = '"' :: body ++ ['"']) ∨
      Unbroken text := by
  cases lexeme with
  | string quoted => exact .inl ⟨_, _, quoted, rfl⟩
  | comparison comparison => exact .inr (by cases comparison <;> decide)
  | reserved isWord _ => exact .inr isWord.unbroken
  | identifier isWord _ => exact .inr isWord.unbroken
  | field first second =>
      have dot : Unbroken ['.'] := by decide
      exact .inr (first.unbroken.append (dot.append second.unbroken))
  | number pattern _ _ => exact .inr pattern.unbroken
  | leftParen | rightParen | comma | dot | star => exact .inr (by decide)

theorem Keyword.kind_plain {keyword : Keyword} (member : keyword ∈ all) :
    keyword.kind ≠ .identifier ∧ keyword.kind ≠ .field ∧ keyword.kind ≠ .string := by
  have plain : all.all (fun keyword => keyword.kind ≠ .identifier ∧ keyword.kind ≠ .field ∧
      keyword.kind ≠ .string) = true := by decide
  simpa using List.all_eq_true.mp plain keyword member

theorem Lexeme.string_iff {lexeme : List Char} {kind : Kind} {payload : Option Payload}
    (isLexeme : Lexeme lexeme kind payload) : kind = .string ↔ lexeme.head? = some '"' := by
  constructor
  · rintro string
    cases isLexeme with
    | reserved _ found =>
        exact absurd string (Keyword.kind_plain (Keyword.mem_all_of_find? found)).2.2
    | string _ => rfl
    | _ => cases string
  · intro head
    rcases isLexeme.quoted_or_unbroken with ⟨body, decoded, quoted, rfl⟩ | unbroken
    · exact ((Lexeme.string quoted).determined isLexeme).1
    · exact absurd (unbroken '"' (List.mem_of_mem_head? head)) (by decide)

theorem Lexeme.quoted {lexeme : List Char} {payload : Option Payload}
    (isLexeme : Lexeme lexeme .string payload) :
    ∃ body decoded, QuotedBody body decoded ∧ lexeme = '"' :: body ++ ['"'] := by
  have head := isLexeme.string_iff.mp rfl
  rcases isLexeme.quoted_or_unbroken with quoted | unbroken
  · exact quoted
  · exact absurd (unbroken '"' (List.mem_of_mem_head? head)) (by decide)

theorem quoted_unique {text body other decoded carried : List Char}
    (quoted : QuotedBody body decoded) (otherQuoted : QuotedBody other carried)
    (front : '"' :: body ++ ['"'] <+: text) (otherFront : '"' :: other ++ ['"'] <+: text) :
    '"' :: other ++ ['"'] = '"' :: body ++ ['"'] := by
  obtain ⟨rest, rfl⟩ := front
  obtain ⟨otherRest, same⟩ := otherFront
  have read := Reading.ofText_quoted quoted rest
  rw [← same, Reading.ofText_quoted otherQuoted] at read
  injection read

theorem Lexeme.head_unblank {lexeme : List Char} {kind : Kind} {payload : Option Payload}
    (isLexeme : Lexeme lexeme kind payload) (rest : List Char) :
    ∀ c ∈ (lexeme ++ rest).head?, Text.isBlank c = false := by
  intro c head
  rw [List.head?_append_of_ne_nil _ isLexeme.ne_nil] at head
  rcases isLexeme.quoted_or_unbroken with ⟨body, decoded, -, rfl⟩ | unbroken
  · cases head
    decide
  · have solid := unbroken c (List.mem_of_mem_head? head)
    simp only [Text.isBreak, Bool.or_eq_false_iff] at solid
    exact solid.1

-- What was the longest lexeme in front of a text still is when the text is cut behind it.
theorem Longest.cut {text front lexeme rest : List Char} {kind : Kind}
    {payload : Option Payload} (longest : Longest text lexeme)
    (isLexeme : Lexeme lexeme kind payload) (within : lexeme <+: front) (cut : front <+: text)
    (breaks : Breaks rest) : Longest (front ++ rest) lexeme := by
  have ahead : front <+: front ++ rest := List.prefix_append _ _
  refine ⟨within.trans ahead, ?_⟩
  intro other found carried isOther prefixed
  rcases Nat.le_total other.length front.length with short | long
  · exact longest.longest other found carried isOther
      ((List.prefix_of_prefix_length_le prefixed ahead short).trans cut)
  · -- The other one goes on behind the cut, so if it is longer there is a break in it.
    obtain ⟨tail, rfl⟩ := List.prefix_of_prefix_length_le ahead prefixed long
    cases tail with
    | nil =>
        rw [List.append_nil] at isOther ⊢
        exact longest.longest front found carried isOther cut
    | cons c tail =>
        have broken : Text.isBreak c = true := by
          obtain ⟨more, same⟩ := (List.prefix_append_right_inj front).mp prefixed
          exact breaks c (by rw [← same]; rfl)
        rcases isOther.quoted_or_unbroken with ⟨body, decoded, quoted, spelled⟩ | unbroken
        · rcases isLexeme.quoted_or_unbroken with ⟨inner, text, own, rfl⟩ | unbroken
          · rw [spelled] at prefixed ⊢
            rw [quoted_unique own quoted (within.trans ahead) prefixed]
          · -- A string begins with a quote, and so would the lexeme.
            obtain ⟨first, later, rfl⟩ := List.exists_cons_of_ne_nil isLexeme.ne_nil
            obtain ⟨behind, rfl⟩ := within
            simp only [List.cons_append, List.cons.injEq] at spelled
            obtain ⟨rfl, -⟩ := spelled
            exact absurd (unbroken '"' (by simp)) (by decide)
        · rw [unbroken c (by simp)] at broken
          cases broken

namespace Reading

theorem ofText_of_longest {text lexeme : List Char} {kind : Kind} {payload : Option Payload}
    (isLexeme : Lexeme lexeme kind payload) (longest : Longest text lexeme) :
    ofText text = .lexeme kind payload lexeme := by
  obtain ⟨found, carried, spelling, read, long⟩ := ofText_longer isLexeme longest.front
  have faithful := ofText_faithful text
  rw [read] at faithful ⊢
  cases faithful with
  | lexeme other front =>
      -- Each of the two is as long as the other, and both stand in front of the text.
      have short := longest.longest spelling found carried other front
      have same := (List.prefix_of_prefix_length_le longest.front front long).eq_of_length_le short
      subst same
      obtain ⟨rfl, rfl⟩ := isLexeme.determined other
      rfl

end Reading

namespace Scanner

/-- One call, from the text alone: blanks, the longest lexeme behind them, and the rest. -/
theorem next_lexeme {blanks lexeme rest : List Char} {kind : Kind} {payload : Option Payload}
    (place : Position) (blank : ∀ c ∈ blanks, Text.isBlank c = true)
    (isLexeme : Lexeme lexeme kind payload) (longest : Longest (lexeme ++ rest) lexeme) :
    next ⟨blanks ++ (lexeme ++ rest), place⟩ =
      ⟨.ok ⟨kind, place.after blanks, payload⟩, ⟨rest, place.after (blanks ++ lexeme)⟩⟩ := by
  have front : (blanks ++ (lexeme ++ rest)).takeWhile Text.isBlank = blanks := by
    rw [List.takeWhile_append_of_pos blank]
    have stop := isLexeme.head_unblank rest
    cases whole : lexeme ++ rest with
    | nil => rw [List.takeWhile_nil, List.append_nil]
    | cons c later =>
        rw [whole] at stop
        rw [List.takeWhile_cons_of_neg (by simp [stop c rfl]), List.append_nil]
  simp only [next, skipBlanks, consume, front, List.drop_left,
    Reading.ofText_of_longest isLexeme longest, Position.after_append]

theorem next_cut {scanner : Scanner} {token : Token} {front passed rest : List Char}
    (read : scanner.next.outcome = .ok token) (proper : token.kind ≠ .endOfText)
    (first : Passes scanner front scanner.next.after)
    (behind : passed <+: scanner.next.after.unread) (breaks : Breaks rest) :
    next ⟨front ++ (passed ++ rest), scanner.cursor⟩ =
      ⟨.ok token, ⟨passed ++ rest, scanner.next.after.cursor⟩⟩ := by
  obtain ⟨lexeme, isLexeme, longest, taken, placed⟩ := next_token read proper
  have skipped := skipBlanks_passes scanner
  have blank : ∀ c ∈ scanner.unread.takeWhile Text.isBlank, Text.isBlank c = true :=
    fun _ member => List.mem_takeWhile_imp member
  have spelled : front = scanner.unread.takeWhile Text.isBlank ++ lexeme :=
    List.append_cancel_right (first.unread.symm.trans (skipped.trans taken).unread)
  have within : lexeme ++ passed <+: scanner.skipBlanks.unread := by
    rw [taken.unread]
    exact (List.prefix_append_right_inj lexeme).mpr behind
  have kept : Longest (lexeme ++ (passed ++ rest)) lexeme := by
    rw [← List.append_assoc]
    exact longest.cut isLexeme (List.prefix_append _ _) within breaks
  have again := next_lexeme scanner.cursor blank isLexeme kept
  rwa [← List.append_assoc, ← spelled, ← first.cursor, ← skipped.cursor, ← placed] at again

/-- Proper tokens read one after another, and the text they are read from. -/
inductive Reads : Scanner → List Char → List Token → Scanner → Prop where
  | none (scanner : Scanner) : Reads scanner [] [] scanner
  | more {scanner last : Scanner} {front passed : List Char} {token : Token}
      {rest : List Token} :
      scanner.next.outcome = .ok token → token.kind ≠ .endOfText →
        Passes scanner front scanner.next.after → Reads scanner.next.after passed rest last →
          Reads scanner (front ++ passed) (token :: rest) last

theorem Reads.passes {scanner last : Scanner} {passed : List Char} {tokens : List Token}
    (reads : Reads scanner passed tokens last) : Passes scanner passed last := by
  induction reads with
  | none scanner => exact passes_refl scanner
  | more _ _ first _ ih => exact first.trans ih

-- What was read in front of a cut is read again, whatever breaks the text off there.
theorem Reads.cut {scanner last : Scanner} {passed rest : List Char} {tokens : List Token}
    (reads : Reads scanner passed tokens last) (breaks : Breaks rest) :
    Reads ⟨passed ++ rest, scanner.cursor⟩ passed tokens ⟨rest, last.cursor⟩ := by
  induction reads with
  | none scanner => exact .none _
  | @more scanner last front passed token later read proper first reads ih =>
      have behind : passed <+: scanner.next.after.unread := ⟨_, reads.passes.unread.symm⟩
      have again := next_cut read proper first behind breaks
      rw [← List.append_assoc] at again
      refine .more (by rw [again]) proper ?_ (by rw [again]; exact ih)
      rw [again]
      exact ⟨List.append_assoc _ _ _, first.cursor⟩

theorem Reads.scan {scanner last : Scanner} {passed : List Char} {tokens : List Token}
    (reads : Reads scanner passed tokens last) :
    scanner.scan = { last.scan with tokens := tokens ++ last.scan.tokens } := by
  induction reads with
  | none => rfl
  | more read proper _ _ ih =>
      rw [scan_token read proper, ih]
      rfl

theorem reads_calls {scanner : Scanner} {count : Nat} {tokens : List Token}
    (read : (scanner.calls count).map Step.outcome = tokens.map .ok)
    (proper : ∀ token ∈ tokens, token.kind ≠ .endOfText) :
    ∃ passed, Reads scanner passed tokens (scanner.afterCalls count) := by
  induction count generalizing scanner tokens with
  | zero =>
      rw [List.map_eq_nil_iff.mp read.symm]
      exact ⟨[], .none scanner⟩
  | succ count ih =>
      cases tokens with
      | nil => cases read
      | cons token rest =>
          rw [calls, List.map_cons, List.map_cons, List.cons.injEq] at read
          obtain ⟨first, later⟩ := read
          obtain ⟨properFirst, properLater⟩ := List.forall_mem_cons.mp proper
          obtain ⟨lexeme, -, -, taken, -⟩ := next_token first properFirst
          obtain ⟨passed, reads⟩ := ih later properLater
          rw [afterCalls_first]
          exact ⟨_, .more first properFirst ((skipBlanks_passes scanner).trans taken) reads⟩

end Scanner

end QueryCheck
