import QueryCheck.Proofs.Agreement

/-!
The layout of a query. Its lexemes can be set apart by any blanks, also where they touched
before: each of them is read again as it was, so the tokens are the same but for their
places, and so is the verdict.
-/
namespace QueryCheck

/-- Lexemes with blanks around them: `front` before the first, and a gap behind each. -/
def layOut (front : List Char) (lexemes gaps : List (List Char)) : List Char :=
  front ++ (List.zipWith (· ++ ·) lexemes gaps).flatten

theorem layOut_cons (front lexeme gap : List Char) (lexemes gaps : List (List Char)) :
    layOut front (lexeme :: lexemes) (gap :: gaps) =
      front ++ (lexeme ++ layOut gap lexemes gaps) := by
  simp [layOut]

theorem layOut_breaks {gap : List Char} {lexemes gaps : List (List Char)}
    (blank : ∀ c ∈ gap, Text.isBlank c = true) (apart : gap ≠ [] ∨ gaps = []) :
    Breaks (layOut gap lexemes gaps) := by
  cases gap with
  | nil =>
      rw [apart.resolve_left (fun differs => differs rfl)]
      simp [layOut, Breaks]
  | cons c later =>
      rintro _ ⟨⟩
      simp [Text.isBreak, blank c (by simp)]

namespace Scanner

def lexeme (scanner : Scanner) : List Char :=
  scanner.skipBlanks.unread.take
    (scanner.skipBlanks.unread.length - scanner.next.after.unread.length)

/-- The lexemes of the tokens in front of the first end marker or fault. -/
def lexemes (scanner : Scanner) : List (List Char) :=
  match read : scanner.next.outcome with
  | .error _ => []
  | .ok token =>
      if proper : token.kind = .endOfText then []
      else
        have := length_next_lt read proper
        scanner.lexeme :: lexemes scanner.next.after
termination_by scanner.unread.length

theorem lexemes_end {scanner : Scanner} {token : Token}
    (read : scanner.next.outcome = .ok token) (ends : token.kind = .endOfText) :
    scanner.lexemes = [] := by
  rw [lexemes]
  split
  · rfl
  · rename_i same
    cases read.symm.trans same
    rw [dif_pos ends]

theorem lexemes_token {scanner : Scanner} {token : Token}
    (read : scanner.next.outcome = .ok token) (proper : token.kind ≠ .endOfText) :
    scanner.lexemes = scanner.lexeme :: scanner.next.after.lexemes := by
  rw [lexemes]
  split
  · rename_i same
    cases read.symm.trans same
  · rename_i same
    cases read.symm.trans same
    rw [dif_neg proper]

theorem lexeme_passes {scanner : Scanner} {token : Token}
    (read : scanner.next.outcome = .ok token) (proper : token.kind ≠ .endOfText) :
    Lexeme scanner.lexeme token.kind token.payload ∧
      Longest scanner.skipBlanks.unread scanner.lexeme ∧
      Passes scanner.skipBlanks scanner.lexeme scanner.next.after := by
  obtain ⟨lexeme, isLexeme, longest, taken, -⟩ := next_token read proper
  have same : scanner.lexeme = lexeme := by
    rw [Scanner.lexeme, taken.unread, List.length_append, Nat.add_sub_cancel, List.take_left]
  rw [same]
  exact ⟨isLexeme, longest, taken⟩

-- A text that scans to its end is its lexemes and the blanks around them.
theorem unread_laid_out (scanner : Scanner) (scanned : scanner.scan.error = none) :
    ∃ front gaps, gaps.length = scanner.lexemes.length ∧
      (∀ gap ∈ front :: gaps, ∀ c ∈ gap, Text.isBlank c = true) ∧
      scanner.unread = layOut front scanner.lexemes gaps := by
  induction scanner using steps.induct with
  | case1 scanner error failed =>
      rw [scan_fault failed] at scanned
      cases scanned
  | case2 scanner token read ends =>
      refine ⟨scanner.unread, [], ?_, ?_, ?_⟩
      · rw [lexemes_end read ends]
      · simpa using blank_at_end read ends
      · simp [layOut]
  | case3 scanner token read proper _ ih =>
      rw [scan_token read proper] at scanned
      obtain ⟨front, gaps, count, blank, laid⟩ := ih scanned
      obtain ⟨-, -, taken⟩ := lexeme_passes read proper
      refine ⟨scanner.unread.takeWhile Text.isBlank, front :: gaps, ?_, ?_, ?_⟩
      · rw [lexemes_token read proper, List.length_cons, List.length_cons, count]
      · exact List.forall_mem_cons.mpr ⟨fun _ member => List.mem_takeWhile_imp member, blank⟩
      · rw [lexemes_token read proper, layOut_cons, ← laid, ← taken.unread]
        exact (skipBlanks_passes scanner).unread

theorem next_laid_out {scanner other : Scanner} {token : Token} {front gap : List Char}
    {gaps : List (List Char)} (read : scanner.next.outcome = .ok token)
    (proper : token.kind ≠ .endOfText) (blank : ∀ c ∈ front, Text.isBlank c = true)
    (breaks : Breaks (layOut gap scanner.next.after.lexemes gaps))
    (laid : other.unread = layOut front scanner.lexemes (gap :: gaps)) :
    other.next = ⟨.ok ⟨token.kind, other.cursor.after front, token.payload⟩,
      ⟨layOut gap scanner.next.after.lexemes gaps,
        other.cursor.after (front ++ scanner.lexeme)⟩⟩ := by
  obtain ⟨isLexeme, longest, -⟩ := lexeme_passes read proper
  have same := next_lexeme other.cursor blank isLexeme
    (longest.cut isLexeme (List.prefix_refl _) longest.front breaks)
  rw [lexemes_token read proper, layOut_cons] at laid
  rwa [← laid] at same

theorem laid_out_outcomes {scanner other : Scanner} {front : List Char}
    {gaps : List (List Char)} (scanned : scanner.scan.error = none)
    (blank : ∀ c ∈ front, Text.isBlank c = true)
    (blankGaps : ∀ gap ∈ gaps, ∀ c ∈ gap, Text.isBlank c = true)
    (count : gaps.length = scanner.lexemes.length) (apart : ∀ gap ∈ gaps.dropLast, gap ≠ [])
    (laid : other.unread = layOut front scanner.lexemes gaps) :
    List.Forall₂ (Matching Token.Agrees fun _ _ => False) scanner.outcomes other.outcomes := by
  induction scanner using steps.induct generalizing other front gaps with
  | case1 scanner error failed =>
      rw [scan_fault failed] at scanned
      cases scanned
  | case2 scanner token read ends =>
      -- No lexeme is left, so no gap is either.
      rw [lexemes_end read ends] at count laid
      cases List.eq_nil_of_length_eq_zero count
      have blankOther : ∀ c ∈ other.unread, Text.isBlank c = true := by
        rw [laid]
        simpa [layOut] using blank
      have readOther := next_blank blankOther
      have same := (next_end read ends).2
      rw [same] at read
      cases read
      rw [outcomes_end (by rw [same]) rfl, outcomes_end readOther rfl]
      exact .cons (.token ⟨rfl, rfl⟩) .nil
  | case3 scanner token read proper _ ih =>
      rw [lexemes_token read proper] at count
      rw [scan_token read proper] at scanned
      cases gaps with
      | nil => cases count
      | cons gap later =>
          obtain ⟨blankGap, blankLater⟩ := List.forall_mem_cons.mp blankGaps
          have breaks : Breaks (layOut gap scanner.next.after.lexemes later) := by
            refine layOut_breaks blankGap ?_
            cases later with
            | nil => exact .inr rfl
            | cons => exact .inl (apart gap (by simp))
          have apartLater : ∀ gap ∈ later.dropLast, gap ≠ [] := by
            intro space member
            cases later with
            | nil => cases member
            | cons => exact apart space (List.mem_cons_of_mem gap member)
          have step := next_laid_out read proper blank breaks laid
          have readOther := congrArg Step.outcome step
          rw [outcomes_token read proper, outcomes_token readOther proper, step]
          exact .cons (.token ⟨rfl, rfl⟩)
            (ih scanned blankGap blankLater (Nat.succ.inj count) apartLater rfl)

end Scanner

/-- The lexemes of a query in any other layout are the same tokens, and the query they
make is accepted or refused as the query itself is. -/
theorem layout_immaterial {query other : String} {front : List Char} {gaps : List (List Char)}
    (scanned : (Scan.ofText query).error = none)
    (blank : ∀ gap ∈ front :: gaps, ∀ c ∈ gap, Text.isBlank c = true)
    (count : gaps.length = (Scanner.ofText query).lexemes.length)
    (apart : ∀ gap ∈ gaps.dropLast, gap ≠ [])
    (laid : other.toList = layOut front (Scanner.ofText query).lexemes gaps) :
    (Scan.ofText other).error = none ∧
      List.Forall₂ Token.Agrees (Scan.ofText query).tokens (Scan.ofText other).tokens ∧
      Alike Token.Agrees (fun _ _ => False) (Query.validate query) (Query.validate other) := by
  obtain ⟨blankFront, blankGaps⟩ := List.forall_mem_cons.mp blank
  have matching : List.Forall₂ (Matching Token.Agrees fun _ _ => False)
      (Scanner.ofText query).outcomes (Scanner.ofText other).outcomes :=
    Scanner.laid_out_outcomes scanned blankFront blankGaps count apart laid
  obtain ⟨related, ended⟩ := scan_related matching
  refine ⟨?_, related, validate_alike (fun _ _ agrees => agrees.1) matching⟩
  rw [scanned] at ended
  generalize (Scan.ofText other).error = error at ended
  cases ended
  rfl

theorem layout_of_touching_tokens :
    (Scan.ofText "18years.a.b>=-1").error = none ∧
    (Scanner.ofText "18years.a.b>=-1").lexemes =
      ["18", "years.a", ".", "b", ">=", "-1"].map String.toList ∧
    (Scan.ofText " 18\tyears.a\r.\nb\x0c>= -1").error = none ∧
    List.Forall₂ Token.Agrees (Scan.ofText "18years.a.b>=-1").tokens
      (Scan.ofText " 18\tyears.a\r.\nb\x0c>= -1").tokens ∧
    Alike Token.Agrees (fun _ _ => False) (Query.validate "18years.a.b>=-1")
      (Query.validate " 18\tyears.a\r.\nb\x0c>= -1") := by
  have scanned : (Scan.ofText "18years.a.b>=-1").error = none := by decide +kernel
  have lexemes : (Scanner.ofText "18years.a.b>=-1").lexemes =
      ["18", "years.a", ".", "b", ">=", "-1"].map String.toList := by decide +kernel
  have laid : " 18\tyears.a\r.\nb\x0c>= -1".toList =
      layOut [' '] (Scanner.ofText "18years.a.b>=-1").lexemes
        [['\t'], ['\r'], ['\n'], ['\x0c'], [' '], []] := by
    rw [lexemes]
    decide
  exact ⟨scanned, lexemes,
    layout_immaterial scanned (by simp [Text.isBlank]) (by rw [lexemes]; rfl) (by simp) laid⟩

end QueryCheck
