import QueryCheck.Proofs.Layout
import QueryCheck.Proofs.LetterCase
import QueryCheck.Proofs.Places

/-!
The case of letters does not matter outside string literals. Two texts that differ in
nothing else are read lexeme by lexeme side by side: each call passes over as much of the
one as of the other, and gives tokens of the same kind at the same place.
-/
namespace QueryCheck

open Text

/-- What may stand in place of a character: inside a string literal the character itself,
outside the same up to the case of an ASCII letter. -/
def MayReplace (marked : Char × Bool) (d : Char) : Prop :=
  if marked.2 then d = marked.1 else SameLetter marked.1 d

instance (marked : Char × Bool) (d : Char) : Decidable (MayReplace marked d) :=
  inferInstanceAs (Decidable (if marked.2 then d = marked.1 else marked.1.toUpper = d.toUpper))

theorem MayReplace.sameLetter {marked : Char × Bool} {d : Char} (replaces : MayReplace marked d) :
    SameLetter marked.1 d := by
  unfold MayReplace at replaces
  split at replaces
  · rw [replaces]
    exact sameLetter_refl _
  · exact replaces

theorem Position.behind_after (front back : List Char) :
    (behind front).after back = behind (front ++ back) := by
  rw [← after_start, ← after_start, after_append]

theorem Position.after_recased {left right : List Char} (place : Position)
    (recased : Recased left right) : place.after right = place.after left := by
  induction recased generalizing place with
  | nil => rfl
  | @cons c d _ _ same _ ih =>
      have step : place.next d = place.next c := by
        rcases same.eq_or_letters with rfl | ⟨letter, other⟩
        · rfl
        · have apart : ∀ letter : Char, letter.isAlpha = true → letter ≠ '\n' := by
            rintro _ feed rfl
            cases feed
          rw [Position.next, Position.next, if_neg (apart c letter), if_neg (apart d other)]
      rw [Position.after_cons, Position.after_cons, step, ih]

namespace Scanner

/-- The unread characters, each with whether it stands in a string literal, as far as they
can be scanned. -/
def quotation (scanner : Scanner) : List (Char × Bool) :=
  match read : scanner.next.outcome with
  | .error _ => scanner.unread.map (·, false)
  | .ok token =>
      if proper : token.kind = .endOfText then scanner.unread.map (·, false)
      else
        have := length_next_lt read proper
        (scanner.unread.takeWhile isBlank).map (·, false) ++
          scanner.lexeme.map (·, decide (token.kind = .string)) ++ quotation scanner.next.after
termination_by scanner.unread.length

theorem quotation_fault {scanner : Scanner} {error : LexicalError}
    (failed : scanner.next.outcome = .error error) :
    scanner.quotation = scanner.unread.map (·, false) := by
  rw [quotation]
  split
  · rfl
  · rename_i same
    cases failed.symm.trans same

theorem quotation_end {scanner : Scanner} {token : Token}
    (read : scanner.next.outcome = .ok token) (ends : token.kind = .endOfText) :
    scanner.quotation = scanner.unread.map (·, false) := by
  rw [quotation]
  split
  · rfl
  · rename_i same
    cases read.symm.trans same
    rw [dif_pos ends]

theorem quotation_token {scanner : Scanner} {token : Token}
    (read : scanner.next.outcome = .ok token) (proper : token.kind ≠ .endOfText) :
    scanner.quotation =
      (scanner.unread.takeWhile isBlank).map (·, false) ++
        (scanner.lexeme.map (·, decide (token.kind = .string)) ++
          scanner.next.after.quotation) := by
  rw [quotation]
  split
  · rename_i same
    cases read.symm.trans same
  · rename_i same
    cases read.symm.trans same
    rw [dif_neg proper, List.append_assoc]

theorem unread_lexeme {scanner : Scanner} {token : Token}
    (read : scanner.next.outcome = .ok token) (proper : token.kind ≠ .endOfText) :
    scanner.unread = scanner.unread.takeWhile isBlank ++
      (scanner.lexeme ++ scanner.next.after.unread) := by
  obtain ⟨-, -, taken⟩ := lexeme_passes read proper
  rw [← taken.unread]
  exact (skipBlanks_passes scanner).unread

theorem quotation_unread (scanner : Scanner) :
    scanner.quotation.map Prod.fst = scanner.unread := by
  induction scanner using steps.induct with
  | case1 scanner error failed =>
      rw [quotation_fault failed, List.map_map]
      exact List.map_id _
  | case2 scanner token read ends =>
      rw [quotation_end read ends, List.map_map]
      exact List.map_id _
  | case3 scanner token read proper _ ih =>
      rw [quotation_token read proper, List.map_append, List.map_append, ih, List.map_map,
        List.map_map]
      exact (congrArg₂ (· ++ ·) (List.map_id _) (congrArg (· ++ _) (List.map_id _))).trans
        (unread_lexeme read proper).symm

theorem quotation_recased {scanner : Scanner} {text : List Char}
    (replaced : List.Forall₂ MayReplace scanner.quotation text) :
    Recased scanner.unread text := by
  rw [← quotation_unread scanner, Recased, List.forall₂_map_left_iff]
  exact List.Forall₂.imp (fun _ _ => MayReplace.sameLetter) replaced

theorem blank_unlettered {text : List Char} (blank : ∀ c ∈ text, isBlank c = true) :
    ∀ c ∈ text, c.isAlpha = false := by
  intro c member
  have space := blank c member
  simp only [isBlank, Bool.or_eq_true, decide_eq_true_eq] at space
  rcases space with (((rfl | rfl) | rfl) | rfl) | rfl <;> rfl

end Scanner

theorem replaced_literal {lexeme spelling : List Char}
    (replaced : List.Forall₂ MayReplace (lexeme.map (·, true)) spelling) : spelling = lexeme := by
  rw [List.forall₂_map_left_iff] at replaced
  symm
  rw [← List.forall₂_eq_eq_eq]
  exact List.Forall₂.imp (fun _ _ same => Eq.symm same) replaced

-- What replaces a lexeme is a lexeme of the same kind.
theorem Lexeme.replaced {lexeme spelling : List Char} {kind : Kind} {payload : Option Payload}
    (isLexeme : Lexeme lexeme kind payload)
    (replaced : List.Forall₂ MayReplace (lexeme.map (·, decide (kind = .string))) spelling) :
    Recased lexeme spelling ∧ (kind = .string → spelling = lexeme) ∧
      ∃ carried, Lexeme spelling kind carried ∧ Respelled lexeme spelling kind payload carried := by
  have recased := replaced
  rw [List.forall₂_map_left_iff] at recased
  have recased : Recased lexeme spelling :=
    List.Forall₂.imp (fun _ _ => MayReplace.sameLetter) recased
  by_cases string : kind = .string
  · rw [decide_eq_true string] at replaced
    have kept := replaced_literal replaced
    refine ⟨recased, fun _ => kept, payload, kept ▸ isLexeme, .same ?_ ?_⟩
    · simp [string]
    · simp [string]
  · exact ⟨recased, fun literal => absurd literal string, isLexeme.recased string recased⟩

/-- Tokens of two texts that differ in the case of letters: the same but for names, and
those are as each text has them, at the same index. -/
inductive Token.Recased (query other : List Char) : Token → Token → Prop where
  | same {token : Token} :
      token.kind ≠ .identifier → token.kind ≠ .field → Recased query other token token
  | name {kind : Kind} {front lexeme rest frontOther spelling restOther : List Char} :
      kind = .identifier ∨ kind = .field →
        query = front ++ lexeme ++ rest → other = frontOther ++ spelling ++ restOther →
        frontOther.length = front.length → Text.Recased lexeme spelling →
        Recased query other ⟨kind, .behind front, some (.text (String.ofList lexeme))⟩
          ⟨kind, .behind front, some (.text (String.ofList spelling))⟩

theorem Token.Recased.kind_eq {query other : List Char} {left right : Token}
    (recased : Recased query other left right) : left.kind = right.kind := by
  cases recased <;> rfl

theorem Respelled.recased
    {query other front lexeme rest frontOther spelling restOther : List Char}
    {kind : Kind} {payload carried : Option Payload}
    (respelled : Respelled lexeme spelling kind payload carried)
    (whole : query = front ++ lexeme ++ rest)
    (wholeOther : other = frontOther ++ spelling ++ restOther)
    (count : frontOther.length = front.length) (recased : Recased lexeme spelling) :
    Token.Recased query other ⟨kind, .behind front, payload⟩ ⟨kind, .behind front, carried⟩ := by
  cases respelled with
  | name named => exact .name named whole wholeOther count recased
  | same unnamed undotted => exact .same unnamed undotted

namespace Scanner

theorem next_recased {scanner other : Scanner} {token : Token}
    (read : scanner.next.outcome = .ok token) (proper : token.kind ≠ .endOfText)
    (replaced : List.Forall₂ MayReplace scanner.quotation other.unread) :
    ∃ spelling rest carried,
      other.unread = scanner.unread.takeWhile isBlank ++ (spelling ++ rest) ∧
      Recased scanner.lexeme spelling ∧
      Respelled scanner.lexeme spelling token.kind token.payload carried ∧
      List.Forall₂ MayReplace scanner.next.after.quotation rest ∧
      other.next =
        ⟨.ok ⟨token.kind, other.cursor.after (scanner.unread.takeWhile isBlank), carried⟩,
          ⟨rest, other.cursor.after (scanner.unread.takeWhile isBlank ++ scanner.lexeme)⟩⟩ := by
  obtain ⟨isLexeme, longest, taken⟩ := lexeme_passes read proper
  rw [taken.unread] at longest
  have blank : ∀ c ∈ scanner.unread.takeWhile isBlank, isBlank c = true :=
    fun _ member => List.mem_takeWhile_imp member
  rw [quotation_token read proper] at replaced
  obtain ⟨front, back, whole, frontReplaced, backReplaced⟩ := related_append replaced
  obtain ⟨spelling, rest, rfl, lexemeReplaced, restReplaced⟩ := related_append backReplaced
  rw [List.forall₂_map_left_iff] at frontReplaced
  have same : front = scanner.unread.takeWhile isBlank :=
    Recased.eq (List.Forall₂.imp (fun _ _ => MayReplace.sameLetter) frontReplaced)
      (blank_unlettered blank)
  obtain ⟨recased, literal, carried, isSpelling, carries⟩ := isLexeme.replaced lexemeReplaced
  have again := next_lexeme other.cursor blank isSpelling
    (longest.recased isLexeme recased (quotation_recased restReplaced) literal)
  rw [same] at whole
  refine ⟨spelling, rest, carried, whole, recased, carries, restReplaced, ?_⟩
  rw [← whole, Position.after_append, Position.after_recased _ recased,
    ← Position.after_append] at again
  exact again

/-- Scanners that have come equally far in two texts that differ in the case of letters. -/
structure Abreast (query text : List Char) (scanner other : Scanner) : Prop where
  replaced : List.Forall₂ MayReplace scanner.quotation other.unread
  cursor : other.cursor = scanner.cursor
  passed : ∃ front frontOther, query = front ++ scanner.unread ∧
    text = frontOther ++ other.unread ∧ frontOther.length = front.length ∧
    scanner.cursor = .behind front

theorem Abreast.end_eq {query text : List Char} {scanner other : Scanner} {token : Token}
    (abreast : Abreast query text scanner other) (read : scanner.next.outcome = .ok token)
    (ends : token.kind = .endOfText) : other = scanner := by
  have unread := (quotation_recased abreast.replaced).eq
    (blank_unlettered (blank_at_end read ends))
  have cursor := abreast.cursor
  cases other
  cases scanner
  dsimp only at unread cursor
  rw [unread, cursor]

theorem Abreast.next {query text : List Char} {scanner other : Scanner} {token : Token}
    (abreast : Abreast query text scanner other) (read : scanner.next.outcome = .ok token)
    (proper : token.kind ≠ .endOfText) :
    ∃ again, other.next.outcome = .ok again ∧ Token.Recased query text token again ∧
      Abreast query text scanner.next.after other.next.after := by
  obtain ⟨replaced, cursorOther, front, frontOther, whole, wholeOther, count, cursor⟩ := abreast
  obtain ⟨spelling, rest, carried, unread, recased, carries, later, again⟩ :=
    next_recased read proper replaced
  obtain ⟨-, -, taken⟩ := lexeme_passes read proper
  have skipped := skipBlanks_passes scanner
  have path := (skipped.trans taken).cursor
  have place : token.place = .behind (front ++ scanner.unread.takeWhile isBlank) := by
    rw [next_place read, skipped.cursor, cursor, Position.behind_after]
  rw [unread_lexeme read proper] at whole
  rw [unread] at wholeOther
  rw [cursorOther] at again
  rw [again]
  generalize scanner.unread.takeWhile isBlank = blanks at *
  refine ⟨_, rfl, ?_, later, path.symm, front ++ (blanks ++ scanner.lexeme),
    frontOther ++ (blanks ++ spelling), ?_, ?_, ?_, ?_⟩
  · -- A name begins at the same index of both texts.
    have tokens := @Respelled.recased query text (front ++ blanks) scanner.lexeme
      scanner.next.after.unread (frontOther ++ blanks) spelling rest _ _ _ carries
      (by simp [whole]) (by simp [wholeOther]) (by simp [count]) recased
    rw [cursor, Position.behind_after]
    cases token
    cases place
    exact tokens
  · rw [whole, List.append_assoc, List.append_assoc]
  · rw [wholeOther, List.append_assoc, List.append_assoc]
  · simp only [List.length_append, count, List.Forall₂.length_eq recased]
  · rw [path, cursor, Position.behind_after]

theorem Abreast.outcomes {query text : List Char} {scanner other : Scanner}
    (abreast : Abreast query text scanner other) (scanned : scanner.scan.error = none) :
    List.Forall₂ (Matching (Token.Recased query text) fun _ _ => False)
      scanner.outcomes other.outcomes := by
  induction scanner using steps.induct generalizing other with
  | case1 scanner error failed =>
      rw [scan_fault failed] at scanned
      cases scanned
  | case2 scanner token read ends =>
      rw [abreast.end_eq read ends, outcomes_end read ends]
      exact .cons (.token (.same (by simp [ends]) (by simp [ends]))) .nil
  | case3 scanner token read proper _ ih =>
      rw [scan_token read proper] at scanned
      obtain ⟨again, readAgain, recased, later⟩ := abreast.next read proper
      rw [outcomes_token read proper, outcomes_token readAgain (recased.kind_eq ▸ proper)]
      exact .cons (.token recased) (ih later scanned)

end Scanner

/-- A query whose letters outside string literals are in other cases has the same tokens,
but for the names it spells otherwise, and is accepted or refused as the query itself is. -/
theorem letter_case_immaterial {query other : String} (scanned : (Scan.ofText query).error = none)
    (replaced : List.Forall₂ MayReplace (Scanner.ofText query).quotation other.toList) :
    (Scan.ofText other).error = none ∧
      List.Forall₂ (Token.Recased query.toList other.toList) (Scan.ofText query).tokens
        (Scan.ofText other).tokens ∧
      Alike (Token.Recased query.toList other.toList) (fun _ _ => False)
        (Query.validate query) (Query.validate other) := by
  have abreast : Scanner.Abreast query.toList other.toList (.ofText query) (.ofText other) :=
    ⟨replaced, rfl, [], [], rfl, rfl, rfl, rfl⟩
  have matching := abreast.outcomes scanned
  obtain ⟨related, ended⟩ := scan_related matching
  refine ⟨?_, related, validate_alike (fun _ _ recased => recased.kind_eq) matching⟩
  rw [scanned] at ended
  generalize (Scan.ofText other).error = error at ended
  cases ended
  rfl

theorem letter_case_of_comparison :
    let query := "select a from T where 1e2 = \"e\""
    let other := "SELECT A From t WHERE 1E2 = \"e\""
    (Scan.ofText query).error = none ∧
    List.Forall₂ MayReplace (Scanner.ofText query).quotation other.toList ∧
    (Scan.ofText other).error = none ∧
    List.Forall₂ (Token.Recased query.toList other.toList) (Scan.ofText query).tokens
      (Scan.ofText other).tokens ∧
    Query.validate query = .ok () ∧
    Alike (Token.Recased query.toList other.toList) (fun _ _ => False)
      (Query.validate query) (Query.validate other) := by
  intro query other
  have scanned : (Scan.ofText query).error = none := by decide +kernel
  have replaced : List.Forall₂ MayReplace (Scanner.ofText query).quotation other.toList := by
    decide +kernel
  obtain ⟨scannedOther, related, alike⟩ := letter_case_immaterial scanned replaced
  exact ⟨scanned, replaced, scannedOther, related, by decide +kernel, alike⟩

end QueryCheck
