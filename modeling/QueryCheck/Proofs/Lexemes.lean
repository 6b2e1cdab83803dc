import QueryCheck.Proofs.NumericPattern

/-!
The lexemes of a query, said without the reader: each with the kind and the payload it
stands for. Main statements: what is read at the front of a text is a lexeme of that
text, and a lexeme at the front of a text is never passed by for a shorter one.
-/
namespace QueryCheck

def IsWord : List Char → Prop
  | [] => False
  | c :: rest => Text.isWordStart c = true ∧ ∀ part ∈ rest, Text.isWordPart part = true

-- What may stand between quotes, and the text it stands for.
inductive QuotedBody : List Char → List Char → Prop where
  | empty : QuotedBody [] []
  | plain {c : Char} {body text : List Char} :
      c ≠ '"' → c ≠ '\\' → QuotedBody body text → QuotedBody (c :: body) (c :: text)
  | escaped (c : Char) {body text : List Char} :
      QuotedBody body text → QuotedBody ('\\' :: c :: body) (Quoted.unescape c :: text)

/-- The lexemes, each with what it stands for. -/
inductive Lexeme : List Char → Kind → Option Payload → Prop where
  | leftParen : Lexeme ['('] .leftParen none
  | rightParen : Lexeme [')'] .rightParen none
  | comma : Lexeme [','] .comma none
  | dot : Lexeme ['.'] .dot none
  | star : Lexeme ['*'] .star none
  | comparison (comparison : Comparison) :
      Lexeme comparison.symbol.toList .comparison (some (.comparison comparison))
  | reserved {word : List Char} {keyword : Keyword} :
      IsWord word → Keyword.find? word = some keyword →
        Lexeme word keyword.kind keyword.payload
  | identifier {word : List Char} :
      IsWord word → Keyword.find? word = none →
        Lexeme word .identifier (some (.text (String.ofList word)))
  | field {first second : List Char} :
      IsWord first → IsWord second →
        Lexeme (first ++ '.' :: second) .field
          (some (.text (String.ofList (first ++ '.' :: second))))
  | number {numeral : Numeral} :
      NumericPattern numeral.spelling → numeral.Valid → numeral.spelling.head? ≠ some '.' →
        Lexeme numeral.spelling .number (some (.number numeral.toDecimal.toBinary64))
  | string {body text : List Char} :
      QuotedBody body text →
        Lexeme ('"' :: body ++ ['"']) .string (some (.text (String.ofList text)))

/-- The faults at the front of a text, and how much is passed over all the same. -/
inductive Faulty : List Char → LexicalFault → List Char → Prop where
  | illegalCharacter (c : Char) (rest : List Char) :
      Faulty (c :: rest) (.illegalCharacter c) []
  | unterminatedString {rest consumed : List Char} :
      consumed <+: rest → Faulty ('"' :: rest) .unterminatedString ('"' :: consumed)
  | invalidNumber {c : Char} (rest : List Char) :
      c = '+' ∨ c = '-' → Faulty (c :: rest) .invalidNumber []

inductive Faithful (text : List Char) : Reading → Prop where
  | endOfText : text = [] → Faithful text .endOfText
  | lexeme {kind : Kind} {payload : Option Payload} {spelling : List Char} :
      Lexeme spelling kind payload → spelling <+: text →
        Faithful text (.lexeme kind payload spelling)
  | fault {cause : LexicalFault} {consumed : List Char} :
      Faulty text cause consumed → Faithful text (.fault cause consumed)

namespace Quoted

theorem read_quote (rest : List Char) : read ('"' :: rest) = ⟨[], ['"'], true⟩ := by
  rw [read.eq_def]
  rfl

theorem read_escape (c : Char) (rest : List Char) :
    read ('\\' :: c :: rest) = (read rest).cons (unescape c) ['\\', c] := by
  rw [read.eq_def]
  rfl

theorem read_plain {c : Char} (rest : List Char) (quote : c ≠ '"') (backslash : c ≠ '\\') :
    read (c :: rest) = (read rest).cons c [c] := by
  rw [read.eq_def]
  simp [quote, backslash]

theorem read_closed {body text : List Char} (quoted : QuotedBody body text)
    (rest : List Char) : read (body ++ '"' :: rest) = ⟨text, body ++ ['"'], true⟩ := by
  induction quoted with
  | empty => exact read_quote rest
  | plain quote backslash _ ih => rw [List.cons_append, read_plain _ quote backslash, ih]; rfl
  | escaped c _ ih => rw [List.cons_append, List.cons_append, read_escape, ih]; rfl

theorem spelling_front (text : List Char) : (read text).spelling <+: text := by
  fun_induction read text with
  | case1 => exact List.nil_prefix
  | case2 => simp
  | case3 => exact List.nil_prefix
  | case4 escaped rest _ ih => simpa [cons, List.cons_prefix_cons] using ih
  | case5 c rest _ _ ih => simpa [cons, List.cons_prefix_cons] using ih

theorem read_body {text : List Char} (closed : (read text).closed = true) :
    ∃ body, QuotedBody body (read text).text ∧ (read text).spelling = body ++ ['"'] := by
  fun_induction read text with
  | case1 => cases closed
  | case2 => exact ⟨[], .empty, rfl⟩
  | case3 => cases closed
  | case4 escaped rest _ ih =>
      obtain ⟨body, quoted, spelled⟩ := ih closed
      exact ⟨_, .escaped escaped quoted, by simp [cons, spelled]⟩
  | case5 c rest quote backslash ih =>
      obtain ⟨body, quoted, spelled⟩ := ih closed
      exact ⟨_, .plain quote backslash quoted, by simp [cons, spelled]⟩

theorem read_open {text : List Char} (opened : (read text).closed = false) :
    ∃ left, QuotedBody (read text).spelling (read text).text ∧
      text = (read text).spelling ++ left ∧ (left = [] ∨ left = ['\\']) := by
  fun_induction read text with
  | case1 => exact ⟨[], .empty, rfl, .inl rfl⟩
  | case2 => cases opened
  | case3 => exact ⟨['\\'], .empty, rfl, .inr rfl⟩
  | case4 escaped rest _ ih =>
      obtain ⟨left, quoted, split, ended⟩ := ih opened
      exact ⟨left, .escaped escaped quoted, congrArg (fun later => '\\' :: escaped :: later) split,
        ended⟩
  | case5 c rest quote backslash ih =>
      obtain ⟨left, quoted, split, ended⟩ := ih opened
      exact ⟨left, .plain quote backslash quoted, congrArg (List.cons c) split, ended⟩

end Quoted

namespace Comparison

theorem mem_longestFirst (comparison : Comparison) : comparison ∈ longestFirst := by
  cases comparison <;> decide

theorem longestFirst_ordered : longestFirst.Pairwise
    fun earlier later => later.symbol.toList.length ≤ earlier.symbol.toList.length := by
  decide

theorem symbol_injective {left right : Comparison} (same : left.symbol = right.symbol) :
    left = right := by
  have found := ofSymbol?_symbol left
  rw [same, ofSymbol?_symbol] at found
  exact (Option.some.inj found).symm

theorem read?_front {text : List Char} {comparison : Comparison}
    (found : read? text = some comparison) : comparison.symbol.toList <+: text := by
  unfold read? at found
  have hit := List.find?_some found
  exact List.isPrefixOf_iff_prefix.mp hit

theorem read?_append (comparison : Comparison) (rest : List Char) :
    ∃ found, read? (comparison.symbol.toList ++ rest) = some found ∧
      comparison.symbol.toList.length ≤ found.symbol.toList.length ∧
      (rest = [] → found = comparison) := by
  have hit : (comparison.symbol.toList.isPrefixOf (comparison.symbol.toList ++ rest)) = true :=
    List.isPrefixOf_iff_prefix.mpr (List.prefix_append _ _)
  cases read : read? (comparison.symbol.toList ++ rest) with
  | none => exact absurd hit (List.find?_eq_none.mp read comparison comparison.mem_longestFirst)
  | some found =>
      -- What is found is this symbol, or one in front of it in the order of lengths.
      obtain ⟨-, before, behind, order, missed⟩ := List.find?_eq_some_iff_append.mp read
      have ordered := longestFirst_ordered
      have member := comparison.mem_longestFirst
      rw [order] at ordered member
      have longest : comparison.symbol.toList.length ≤ found.symbol.toList.length := by
        rcases List.mem_append.mp member with earlier | later
        · simpa [hit] using missed comparison earlier
        · rcases List.mem_cons.mp later with rfl | later
          · exact Nat.le_refl _
          · exact (List.pairwise_cons.mp (List.pairwise_append.mp ordered).2.1).1 _ later
      refine ⟨found, rfl, longest, ?_⟩
      rintro rfl
      have front := read?_front read
      rw [List.append_nil] at front
      exact symbol_injective (String.toList_inj.mp (front.eq_of_length_le longest))

theorem symbol_head (comparison : Comparison) :
    ∃ first ∈ ['<', '>', '='], ∃ later, comparison.symbol.toList = first :: later := by
  cases comparison with
  | equal => exact ⟨'=', by simp, [], rfl⟩
  | notEqual => exact ⟨'<', by simp, ['>'], rfl⟩
  | greater => exact ⟨'>', by simp, [], rfl⟩
  | greaterEqual => exact ⟨'>', by simp, ['='], rfl⟩
  | less => exact ⟨'<', by simp, [], rfl⟩
  | lessEqual => exact ⟨'<', by simp, ['='], rfl⟩

theorem read?_head {c : Char} {rest : List Char} {comparison : Comparison}
    (found : read? (c :: rest) = some comparison) : c ∈ ['<', '>', '='] := by
  obtain ⟨first, special, later, spelled⟩ := comparison.symbol_head
  have front := read?_front found
  rw [spelled, List.cons_prefix_cons] at front
  exact front.1 ▸ special

end Comparison

namespace Text

theorem isAlphabetic_of_lt {c : Char} (low : c.toNat < 0x41) : isAlphabetic c = false := by
  unfold isAlphabetic alphabeticRanges CodeRange.cover
  rw [if_pos low]

theorem isWordStart_of_isDigit {c : Char} (digit : c.isDigit = true) :
    isWordStart c = false := by
  simp only [Char.isDigit, Bool.and_eq_true, decide_eq_true_eq] at digit
  have low : c.toNat < 0x41 := Nat.lt_of_le_of_lt digit.2 (by decide)
  have other : c ≠ '_' := by
    rintro rfl
    exact absurd digit.2 (by decide)
  simp [isWordStart, isAlphabetic_of_lt low, other]

end Text

namespace Numeral

theorem begins_head {c : Char} {rest : List Char} (begins : begins (c :: rest) = true) :
    c.isDigit = true ∨ c = '+' ∨ c = '-' := by
  simp only [Numeral.begins, Bool.or_eq_true, Bool.and_eq_true, decide_eq_true_eq] at begins
  rcases begins with digit | ⟨minus | plus, -⟩
  · exact .inl digit
  · exact .inr (.inr minus)
  · exact .inr (.inl plus)

theorem begins_spelling {numeral : Numeral} (valid : numeral.Valid)
    (point : numeral.spelling.head? ≠ some '.') (rest : List Char) :
    begins (numeral.spelling ++ rest) = true := by
  obtain ⟨sign, whole, fraction, exponent⟩ := numeral
  cases whole with
  | nil =>
      have fractional : fraction ≠ none := by simpa using valid.nonempty
      obtain ⟨digits, rfl⟩ := Option.ne_none_iff_exists'.mp fractional
      rcases sign with _ | _ | _
      · exact absurd rfl point
      · rfl
      · rfl
  | cons d later =>
      have digit : d.isDigit = true := valid.whole d (by simp)
      rcases sign with _ | _ | _ <;> simp [spelling, Sign.spelling, begins, digit]

end Numeral

namespace IsWord

theorem parts {word : List Char} (isWord : IsWord word) :
    ∀ c ∈ word, Text.isWordPart c = true := by
  cases word with
  | nil => cases isWord
  | cons first rest =>
      obtain ⟨starts, continues⟩ := isWord
      intro c member
      rcases List.mem_cons.mp member with rfl | later
      · exact Text.isWordPart_of_isWordStart starts
      · exact continues c later

theorem run {c : Char} (rest : List Char) (starts : Text.isWordStart c = true) :
    IsWord (Word.run (c :: rest)) := by
  rw [Word.run, List.takeWhile_cons_of_pos (Text.isWordPart_of_isWordStart starts)]
  exact ⟨starts, fun _ member => List.mem_takeWhile_imp member⟩

end IsWord

namespace Word

theorem run_append {front : List Char} (parts : ∀ c ∈ front, Text.isWordPart c = true)
    (rest : List Char) : run (front ++ rest) = front ++ run rest :=
  List.takeWhile_append_of_pos parts

theorem run_dot (rest : List Char) : run ('.' :: rest) = [] :=
  List.takeWhile_cons_of_neg (by decide +kernel)

theorem run_append_drop (text : List Char) : run text ++ text.drop (run text).length = text :=
  List.prefix_iff_eq_append.mp (List.takeWhile_prefix _)

theorem member?_append {second : List Char} (isWord : IsWord second) (rest : List Char) :
    member? ('.' :: second ++ rest) = some (second ++ run rest) := by
  cases second with
  | nil => cases isWord
  | cons c later =>
      have whole := run_append isWord.parts rest
      rw [List.cons_append] at whole
      simp [member?, isWord.1, whole]

theorem member?_sound {text second : List Char} (found : member? text = some second) :
    IsWord second ∧ '.' :: second <+: text := by
  unfold member? at found
  split at found
  · simp only [Bool.and_eq_true, decide_eq_true_eq, Option.ite_none_right_eq_some,
      Option.some.injEq] at found
    obtain ⟨⟨rfl, starts⟩, rfl⟩ := found
    exact ⟨.run _ starts, List.cons_prefix_cons.mpr ⟨rfl, List.takeWhile_prefix _⟩⟩
  · cases found

end Word

def marks : List Char := ['"', '(', ')', ',', '.', '*', '<', '>', '=']

theorem marks_exact {c : Char} (marked : c ∈ marks) :
    Text.isWordStart c = false ∧ c.isDigit = false ∧ c ≠ '+' ∧ c ≠ '-' := by
  simp only [marks, List.mem_cons, List.not_mem_nil, or_false] at marked
  rcases marked with rfl | rfl | rfl | rfl | rfl | rfl | rfl | rfl | rfl <;> decide +kernel

namespace Reading

theorem ofText_unmarked {c : Char} (rest : List Char) (unmarked : c ∉ marks) :
    ofText (c :: rest) =
      if Text.isWordStart c then word (c :: rest)
      else if Numeral.begins (c :: rest) then numeral (c :: rest)
      else .fault (.illegalCharacter c) [] := by
  have comparison : Comparison.read? (c :: rest) = none := by
    apply Option.eq_none_iff_forall_ne_some.mpr
    intro found same
    exact unmarked (List.mem_append_right ['"', '(', ')', ',', '.', '*']
      (Comparison.read?_head same))
  simp only [marks, List.mem_cons, List.not_mem_nil, or_false, not_or] at unmarked
  obtain ⟨quote, leftParen, rightParen, comma, dot, star, -⟩ := unmarked
  simp [ofText, quote, Kind.punctuation?, leftParen, rightParen, comma, dot, star, comparison]

theorem ofText_comparison {text : List Char} {comparison : Comparison}
    (found : Comparison.read? text = some comparison) :
    ofText text =
      .lexeme .comparison (some (.comparison comparison)) comparison.symbol.toList := by
  cases text with
  | nil => exact absurd (List.prefix_nil.mp (Comparison.read?_front found)) comparison.symbol_ne_nil
  | cons c rest =>
      have special := Comparison.read?_head found
      simp only [List.mem_cons, List.not_mem_nil, or_false] at special
      simp only [ofText, found]
      rcases special with rfl | rfl | rfl <;> rfl

theorem ofText_word {c : Char} (rest : List Char) (starts : Text.isWordStart c = true) :
    ofText (c :: rest) = word (c :: rest) := by
  have unmarked : c ∉ marks := fun marked => by simp [(marks_exact marked).1] at starts
  rw [ofText_unmarked rest unmarked, if_pos starts]

theorem ofText_numeral {text : List Char} (begins : Numeral.begins text = true) :
    ofText text = numeral text := by
  cases text with
  | nil => cases begins
  | cons c rest =>
      have starts := Numeral.begins_head begins
      have unmarked : c ∉ marks := by
        intro marked
        obtain ⟨-, digit, plus, minus⟩ := marks_exact marked
        rcases starts with isDigit | isPlus | isMinus
        · exact absurd isDigit (by simp [digit])
        · exact plus isPlus
        · exact minus isMinus
      have noWord : Text.isWordStart c = false := by
        rcases starts with isDigit | rfl | rfl
        · exact Text.isWordStart_of_isDigit isDigit
        · decide +kernel
        · decide +kernel
      simp [ofText_unmarked rest unmarked, noWord, begins]

theorem ofText_quoted {body text : List Char} (quoted : QuotedBody body text)
    (rest : List Char) : ofText ('"' :: body ++ ['"'] ++ rest) =
      .lexeme .string (some (.text (String.ofList text))) ('"' :: body ++ ['"']) := by
  have read := Quoted.read_closed quoted rest
  simp [ofText, ofQuoted, read]

theorem ofQuoted_faithful (rest : List Char) :
    Faithful ('"' :: rest) (ofQuoted (Quoted.read rest)) := by
  have front := Quoted.spelling_front rest
  unfold ofQuoted
  split
  · rename_i closed
    obtain ⟨body, quoted, spelled⟩ := Quoted.read_body closed
    refine .lexeme ?_ (List.cons_prefix_cons.mpr ⟨rfl, front⟩)
    rw [spelled]
    exact .string quoted
  · exact .fault (.unterminatedString front)

theorem ofWord_faithful {text word : List Char} (isWord : IsWord word)
    (front : word <+: text) : Faithful text (ofWord word) := by
  unfold ofWord
  split
  · rename_i keyword found
    exact .lexeme (.reserved isWord found) front
  · rename_i missing
    exact .lexeme (.identifier isWord missing) front

theorem word_faithful {c : Char} (rest : List Char) (starts : Text.isWordStart c = true) :
    Faithful (c :: rest) (word (c :: rest)) := by
  have first := IsWord.run rest starts
  simp only [word]
  split
  · rename_i second found
    obtain ⟨isWord, behind⟩ := Word.member?_sound found
    refine .lexeme (.field first isWord) ?_
    have whole := (List.prefix_append_right_inj (Word.run (c :: rest))).mpr behind
    rwa [Word.run_append_drop] at whole
  · exact ofWord_faithful first (List.takeWhile_prefix _)

theorem numeral_faithful {c : Char} {rest : List Char}
    (begins : Numeral.begins (c :: rest) = true) :
    Faithful (c :: rest) (numeral (c :: rest)) := by
  have starts := Numeral.begins_head begins
  unfold numeral
  split
  · rename_i numeral found
    obtain ⟨valid, front⟩ := Numeral.read?_sound found
    refine .lexeme (.number (numericPattern_iff.mpr ⟨numeral, valid, rfl⟩) valid ?_) front
    obtain ⟨tail, same⟩ := front
    have head := congrArg List.head? same
    rw [List.head?_append_of_ne_nil _ (Numeral.spelling_ne_nil found), List.head?_cons] at head
    rw [head]
    rintro ⟨⟩
    rcases starts with digit | plus | minus <;> contradiction
  · rename_i missing
    refine .fault (.invalidNumber rest (starts.resolve_left ?_))
    intro digit
    -- One digit is a numeral already.
    have single : (⟨none, [c], none, none⟩ : Numeral).Valid :=
      ⟨by simpa [Digits] using digit, by simp, .inl (by simp), by simp⟩
    obtain ⟨found, read, -⟩ := Numeral.read?_append single rest
    cases missing.symm.trans read

theorem comparison_faithful {text : List Char} (comparison : Comparison)
    (front : comparison.symbol.toList <+: text) : Faithful text (ofText text) := by
  obtain ⟨rest, rfl⟩ := front
  obtain ⟨found, read, -⟩ := Comparison.read?_append comparison rest
  rw [ofText_comparison read]
  exact .lexeme (.comparison found) (Comparison.read?_front read)

theorem marked_faithful {c : Char} (rest : List Char) (marked : c ∈ marks) :
    Faithful (c :: rest) (ofText (c :: rest)) := by
  simp only [marks, List.mem_cons, List.not_mem_nil, or_false] at marked
  rcases marked with rfl | rfl | rfl | rfl | rfl | rfl | rfl | rfl | rfl
  · exact ofQuoted_faithful rest
  · exact .lexeme .leftParen ⟨rest, rfl⟩
  · exact .lexeme .rightParen ⟨rest, rfl⟩
  · exact .lexeme .comma ⟨rest, rfl⟩
  · exact .lexeme .dot ⟨rest, rfl⟩
  · exact .lexeme .star ⟨rest, rfl⟩
  · exact comparison_faithful .less ⟨rest, rfl⟩
  · exact comparison_faithful .greater ⟨rest, rfl⟩
  · exact comparison_faithful .equal ⟨rest, rfl⟩

/-- Whatever is read at the front of a text says what stands there. -/
theorem ofText_faithful (text : List Char) : Faithful text (ofText text) := by
  cases text with
  | nil => exact .endOfText rfl
  | cons c rest =>
      by_cases marked : c ∈ marks
      · exact marked_faithful rest marked
      · rw [ofText_unmarked rest marked]
        split
        · rename_i starts
          exact word_faithful rest starts
        · split
          · rename_i begins
            exact numeral_faithful begins
          · exact .fault (.illegalCharacter c rest)

theorem ofText_unterminated {text consumed : List Char}
    (read : ofText text = .fault .unterminatedString consumed) :
    ∃ body decoded left, QuotedBody body decoded ∧ consumed = '"' :: body ∧
      text = consumed ++ left ∧ (left = [] ∨ left = ['\\']) := by
  have faithful := ofText_faithful text
  rw [read] at faithful
  cases faithful with
  | fault faulty =>
      cases faulty with
      | @unterminatedString rest _ _ =>
          simp only [ofText, if_true, ofQuoted] at read
          split at read
          · cases read
          · rename_i opened
            cases read
            obtain ⟨left, quoted, split, ended⟩ := Quoted.read_open (Bool.eq_false_iff.mpr opened)
            exact ⟨_, _, left, quoted, rfl, congrArg (List.cons '"') split, ended⟩

theorem ofText_fault {text consumed : List Char} {cause : LexicalFault}
    (read : ofText text = .fault cause consumed) :
    consumed = [] ∨ text.drop consumed.length = [] ∨ text.drop consumed.length = ['\\'] := by
  have faithful := ofText_faithful text
  rw [read] at faithful
  cases faithful with
  | fault faulty =>
      cases faulty with
      | illegalCharacter => exact .inl rfl
      | invalidNumber => exact .inl rfl
      | unterminatedString =>
          obtain ⟨_, _, left, -, -, split, ended⟩ := ofText_unterminated read
          rw [split, List.drop_left]
          exact .inr ended

end Reading

/-- A reading that gives a lexeme at the front of a text, or a longer one that the rest of
the text makes of it. -/
inductive Reaches (text rest : List Char) (kind : Kind) (payload : Option Payload) :
    Reading → Prop where
  | itself : Reaches text rest kind payload (.lexeme kind payload text)
  | longer {other : Kind} {carried : Option Payload} {spelling : List Char} :
      rest ≠ [] → text.length ≤ spelling.length →
        Reaches text rest kind payload (.lexeme other carried spelling)

theorem ofWord_spelling (word : List Char) :
    ∃ kind payload, Reading.ofWord word = .lexeme kind payload word := by
  unfold Reading.ofWord
  split
  · exact ⟨_, _, rfl⟩
  · exact ⟨_, _, rfl⟩

theorem ofText_isWord {front : List Char} (isWord : IsWord front) (rest : List Char) :
    Reading.ofText (front ++ rest) = Reading.word (front ++ rest) := by
  cases front with
  | nil => cases isWord
  | cons c later => exact Reading.ofText_word _ isWord.1

theorem word_reaches {word : List Char} {kind : Kind} {payload : Option Payload}
    (rest : List Char) (isWord : IsWord word)
    (alone : Reading.ofWord word = .lexeme kind payload word) :
    Reaches word rest kind payload (Reading.ofText (word ++ rest)) := by
  rw [ofText_isWord isWord]
  simp only [Reading.word, Word.run_append isWord.parts]
  -- Only characters of the rest can carry the word on or make a field of it.
  by_cases empty : rest = []
  · subst rest
    simp only [Word.run, List.takeWhile_nil, List.append_nil, List.drop_length, Word.member?,
      alone]
    exact .itself
  · split
    · exact .longer empty (by simp)
    · obtain ⟨other, carried, spelled⟩ := ofWord_spelling (word ++ Word.run rest)
      rw [spelled]
      exact .longer empty (by simp)

theorem field_reaches {first second : List Char} (rest : List Char) (isFirst : IsWord first)
    (isSecond : IsWord second) :
    Reaches (first ++ '.' :: second) rest .field
      (some (.text (String.ofList (first ++ '.' :: second))))
      (Reading.ofText (first ++ '.' :: second ++ rest)) := by
  have whole := Word.run_append isFirst.parts ('.' :: second ++ rest)
  rw [List.cons_append, Word.run_dot, List.append_nil] at whole
  have behind := Word.member?_append isSecond rest
  rw [List.append_assoc, ofText_isWord isFirst]
  simp only [Reading.word, List.cons_append, whole, List.drop_left]
  rw [← List.cons_append, behind]
  by_cases empty : rest = []
  · subst rest
    simp only [Word.run, List.takeWhile_nil, List.append_nil]
    exact .itself
  · exact .longer empty (by simp)

theorem number_reaches {numeral : Numeral} (rest : List Char) (valid : numeral.Valid)
    (point : numeral.spelling.head? ≠ some '.') :
    Reaches numeral.spelling rest .number (some (.number numeral.toDecimal.toBinary64))
      (Reading.ofText (numeral.spelling ++ rest)) := by
  rw [Reading.ofText_numeral (Numeral.begins_spelling valid point rest)]
  obtain ⟨found, read, longest, same⟩ := Numeral.read?_append valid rest
  simp only [Reading.numeral, read]
  by_cases empty : rest = []
  · cases same empty
    exact .itself
  · exact .longer empty longest

theorem string_reaches {body text : List Char} (rest : List Char)
    (quoted : QuotedBody body text) :
    Reaches ('"' :: body ++ ['"']) rest .string (some (.text (String.ofList text)))
      (Reading.ofText ('"' :: body ++ ['"'] ++ rest)) := by
  rw [Reading.ofText_quoted quoted]
  exact .itself

theorem Lexeme.reaches {text : List Char} {kind : Kind} {payload : Option Payload}
    (lexeme : Lexeme text kind payload) (rest : List Char) :
    Reaches text rest kind payload (Reading.ofText (text ++ rest)) := by
  cases lexeme with
  | leftParen => exact .itself
  | rightParen => exact .itself
  | comma => exact .itself
  | dot => exact .itself
  | star => exact .itself
  | comparison comparison =>
      obtain ⟨found, read, longest, same⟩ := Comparison.read?_append comparison rest
      rw [Reading.ofText_comparison read]
      by_cases empty : rest = []
      · cases same empty
        exact .itself
      · exact .longer empty longest
  | reserved isWord found => exact word_reaches rest isWord (by simp [Reading.ofWord, found])
  | identifier isWord missing => exact word_reaches rest isWord (by simp [Reading.ofWord, missing])
  | field first second => exact field_reaches rest first second
  | number _ valid point => exact number_reaches rest valid point
  | string quoted => exact string_reaches rest quoted

end QueryCheck
