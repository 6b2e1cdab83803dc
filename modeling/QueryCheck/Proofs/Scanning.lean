import QueryCheck.Dump
import QueryCheck.Proofs.LongestLexeme

/-!
Scanning on and on: what one call adds to the tokens of a text, up to the end marker or
the first fault, and what comes behind them. The end marker comes again once the text is
used up, and a fault that leaves something unread comes again too.
-/
namespace QueryCheck.Scanner

theorem steps_fault {scanner : Scanner} {error : LexicalError}
    (failed : scanner.next.outcome = .error error) : scanner.steps = [scanner.next] := by
  rw [steps]
  split
  · rfl
  · rename_i same
    cases failed.symm.trans same

theorem steps_end {scanner : Scanner} {token : Token}
    (read : scanner.next.outcome = .ok token) (ends : token.kind = .endOfText) :
    scanner.steps = [scanner.next] := by
  rw [steps]
  split
  · rfl
  · rename_i same
    cases read.symm.trans same
    rw [dif_pos ends]

theorem steps_token {scanner : Scanner} {token : Token}
    (read : scanner.next.outcome = .ok token) (proper : token.kind ≠ .endOfText) :
    scanner.steps = scanner.next :: scanner.next.after.steps := by
  rw [steps]
  split
  · rename_i same
    cases read.symm.trans same
  · rename_i same
    cases read.symm.trans same
    rw [dif_neg proper]

def scan (scanner : Scanner) : Scan := .ofSteps scanner.steps

theorem scan_fault {scanner : Scanner} {error : LexicalError}
    (failed : scanner.next.outcome = .error error) : scanner.scan = ⟨[], some error⟩ := by
  rw [scan, steps_fault failed, Scan.ofSteps, failed]

theorem scan_end {scanner : Scanner} {token : Token}
    (read : scanner.next.outcome = .ok token) (ends : token.kind = .endOfText) :
    scanner.scan = ⟨[token], none⟩ := by
  rw [scan, steps_end read ends, Scan.ofSteps, read]
  rfl

theorem scan_token {scanner : Scanner} {token : Token}
    (read : scanner.next.outcome = .ok token) (proper : token.kind ≠ .endOfText) :
    scanner.scan =
      { scanner.next.after.scan with tokens := token :: scanner.next.after.scan.tokens } := by
  rw [scan, steps_token read proper, Scan.ofSteps, read]
  rfl

theorem scan_forall {holds : Token → Prop}
    (given : ∀ {scanner : Scanner} {token : Token},
      scanner.next.outcome = .ok token → holds token) (scanner : Scanner) :
    ∀ token ∈ scanner.scan.tokens, holds token := by
  induction scanner using steps.induct with
  | case1 scanner error failed =>
      rw [scan_fault failed]
      exact fun _ member => absurd member List.not_mem_nil
  | case2 scanner token read ends =>
      rw [scan_end read ends]
      exact List.forall_mem_singleton.mpr (given read)
  | case3 scanner token read proper _ ih =>
      rw [scan_token read proper]
      exact List.forall_mem_cons.mpr ⟨given read, ih⟩

-- A scan meets no fault just when it comes to the end marker.
theorem scan_ends (scanner : Scanner) :
    scanner.scan.error = none ↔ ∃ token ∈ scanner.scan.tokens, token.kind = .endOfText := by
  induction scanner using steps.induct with
  | case1 scanner error failed => simp [scan_fault failed]
  | case2 scanner token read ends => simp [scan_end read ends, ends]
  | case3 scanner token read proper _ ih =>
      simp only [scan_token read proper, List.exists_mem_cons_iff, proper, false_or]
      exact ih

theorem next_exhausted {scanner : Scanner} (empty : scanner.unread = []) :
    scanner.next = ⟨.ok ⟨.endOfText, scanner.cursor, none⟩, scanner⟩ := by
  have still : scanner.skipBlanks = scanner := by
    cases scanner
    cases empty
    rfl
  simp only [next, still, empty, Reading.ofText]

theorem next_end {scanner : Scanner} {token : Token}
    (read : scanner.next.outcome = .ok token) (ends : token.kind = .endOfText) :
    scanner.skipBlanks.unread = [] ∧
      scanner.next =
        ⟨.ok ⟨.endOfText, scanner.skipBlanks.cursor, none⟩, scanner.skipBlanks⟩ := by
  have stepped := scanner.next_stepped
  generalize scanner.next = step at read stepped
  cases stepped with
  | endOfText empty => exact ⟨empty, rfl⟩
  | lexeme lexeme _ =>
      cases read
      exact absurd ends lexeme.ne_endOfText
  | fault _ _ => cases read

theorem unread_after_end {scanner : Scanner} {token : Token}
    (read : scanner.next.outcome = .ok token) (ends : token.kind = .endOfText) :
    scanner.next.after.unread = [] := by
  obtain ⟨empty, step⟩ := next_end read ends
  rw [step, empty]

theorem blank_at_end {scanner : Scanner} {token : Token}
    (read : scanner.next.outcome = .ok token) (ends : token.kind = .endOfText) :
    ∀ c ∈ scanner.unread, Text.isBlank c = true := by
  have empty := (next_end read ends).1
  rw [unread_skipBlanks] at empty
  exact List.dropWhile_eq_nil_iff.mp empty

theorem next_blank {scanner : Scanner} (blank : ∀ c ∈ scanner.unread, Text.isBlank c = true) :
    scanner.next.outcome = .ok ⟨.endOfText, scanner.skipBlanks.cursor, none⟩ := by
  have empty : scanner.skipBlanks.unread = [] := by
    rw [unread_skipBlanks]
    exact List.dropWhile_eq_nil_iff.mpr blank
  simp only [next, empty, Reading.ofText]

theorem next_skipBlanks (scanner : Scanner) : scanner.skipBlanks.next = scanner.next := by
  have still : scanner.skipBlanks.skipBlanks = scanner.skipBlanks := by
    have none : scanner.skipBlanks.unread.takeWhile Text.isBlank = [] := by
      rw [unread_skipBlanks, List.takeWhile_eq_nil_iff]
      exact List.dropWhile_get_zero_not _ _
    rw [skipBlanks, none]
    rfl
  rw [next, still, next]

theorem next_backslash {scanner : Scanner} (backslash : scanner.unread = ['\\']) :
    scanner.next = ⟨.error ⟨.illegalCharacter '\\', scanner.cursor⟩, scanner⟩ := by
  cases scanner
  cases backslash
  rfl

theorem next_failed {scanner : Scanner} {error : LexicalError}
    (failed : scanner.next.outcome = .error error) :
    ∃ consumed, Reading.ofText scanner.skipBlanks.unread = .fault error.cause consumed ∧
      scanner.next = ⟨.error error, scanner.skipBlanks.consume consumed⟩ ∧
      error.place = scanner.skipBlanks.cursor := by
  simp only [next] at failed ⊢
  split at failed
  · cases failed
  · cases failed
  · rename_i cause consumed read
    cases failed
    exact ⟨consumed, read, rfl, rfl⟩

theorem next_fault {scanner : Scanner} {error : LexicalError}
    (failed : scanner.next.outcome = .error error) :
    scanner.next.after.unread = [] ∨
      ∃ again, scanner.next.after.next = ⟨.error again, scanner.next.after⟩ := by
  obtain ⟨consumed, read, step, -⟩ := next_failed failed
  have same := scanner.next_skipBlanks.trans step
  rw [step]
  rcases Reading.ofText_fault read with rfl | used | backslash
  · exact .inr ⟨error, same⟩
  · exact .inl used
  · exact .inr ⟨_, next_backslash backslash⟩

/-- The later scanner stands where the earlier one would after passing over `consumed`. -/
structure Passes (scanner : Scanner) (consumed : List Char) (later : Scanner) : Prop where
  unread : scanner.unread = consumed ++ later.unread
  cursor : later.cursor = scanner.cursor.after consumed

theorem passes_refl (scanner : Scanner) : Passes scanner [] scanner := ⟨rfl, rfl⟩

theorem Passes.trans {first second third : Scanner} {front back : List Char}
    (early : Passes first front second) (late : Passes second back third) :
    Passes first (front ++ back) third := by
  constructor
  · rw [early.unread, late.unread, List.append_assoc]
  · rw [late.cursor, early.cursor, Position.after_append]

theorem consume_passes {scanner : Scanner} {front : List Char}
    (prefixed : front <+: scanner.unread) : Passes scanner front (scanner.consume front) :=
  ⟨unread_consume_front prefixed, rfl⟩

theorem skipBlanks_passes (scanner : Scanner) :
    Passes scanner (scanner.unread.takeWhile Text.isBlank) scanner.skipBlanks :=
  consume_passes (List.takeWhile_prefix _)

theorem faulty_front {text consumed : List Char} {cause : LexicalFault}
    (faulty : Faulty text cause consumed) : consumed <+: text := by
  cases faulty with
  | illegalCharacter => exact List.nil_prefix
  | unterminatedString front => exact List.cons_prefix_cons.mpr ⟨rfl, front⟩
  | invalidNumber => exact List.nil_prefix

theorem next_passes (scanner : Scanner) :
    ∃ consumed, Passes scanner.skipBlanks consumed scanner.next.after := by
  have stepped := scanner.next_stepped
  generalize scanner.next = step at stepped
  cases stepped with
  | endOfText empty => exact ⟨[], passes_refl _⟩
  | lexeme _ longest => exact ⟨_, consume_passes longest.front⟩
  | fault faulty _ => exact ⟨_, consume_passes (faulty_front faulty)⟩

-- What a call that gives a proper token read it from.
theorem next_token {scanner : Scanner} {token : Token}
    (read : scanner.next.outcome = .ok token) (proper : token.kind ≠ .endOfText) :
    ∃ lexeme, Lexeme lexeme token.kind token.payload ∧
      Longest scanner.skipBlanks.unread lexeme ∧
      Passes scanner.skipBlanks lexeme scanner.next.after ∧
      token.place = scanner.skipBlanks.cursor := by
  have stepped := scanner.next_stepped
  generalize scanner.next = step at read stepped
  cases stepped with
  | endOfText _ =>
      cases read
      exact absurd rfl proper
  | lexeme isLexeme longest =>
      cases read
      exact ⟨_, isLexeme, longest, consume_passes longest.front, rfl⟩
  | fault _ _ => cases read

theorem next_lexed {scanner : Scanner} {token : Token}
    (read : scanner.next.outcome = .ok token) :
    (token.kind = .endOfText ∧ token.payload = none) ∨
      ∃ lexeme, Lexeme lexeme token.kind token.payload := by
  by_cases ends : token.kind = .endOfText
  · obtain ⟨-, step⟩ := next_end read ends
    rw [step] at read
    cases read
    exact .inl ⟨rfl, rfl⟩
  · obtain ⟨lexeme, isLexeme, -⟩ := next_token read ends
    exact .inr ⟨lexeme, isLexeme⟩

def afterCalls (scanner : Scanner) (count : Nat) : Scanner :=
  scanner.afterSteps (scanner.calls count)

theorem afterSteps_cons (scanner : Scanner) (step : Step) (rest : List Step) :
    scanner.afterSteps (step :: rest) = step.after.afterSteps rest := by
  simp only [afterSteps, List.getLast?_cons]
  cases rest.getLast? <;> rfl

theorem afterCalls_first (scanner : Scanner) (count : Nat) :
    scanner.afterCalls (count + 1) = scanner.next.after.afterCalls count :=
  afterSteps_cons scanner scanner.next _

theorem afterCalls_succ (scanner : Scanner) (count : Nat) :
    scanner.afterCalls (count + 1) = (scanner.afterCalls count).next.after := by
  induction count generalizing scanner with
  | zero => rfl
  | succ count ih => rw [afterCalls_first, ih, ← afterCalls_first]

theorem afterCalls_still {scanner : Scanner} (still : scanner.next.after = scanner) (count : Nat) :
    scanner.afterCalls count = scanner := by
  induction count with
  | zero => rfl
  | succ count ih => rw [afterCalls_first, still, ih]

theorem calls_succ (scanner : Scanner) (count : Nat) :
    scanner.calls (count + 1) = scanner.calls count ++ [(scanner.afterCalls count).next] := by
  induction count generalizing scanner with
  | zero => rfl
  | succ count ih => rw [calls, ih, ← afterCalls_first, calls, List.cons_append]

theorem afterCalls_add (scanner : Scanner) (count more : Nat) :
    scanner.afterCalls (count + more) = (scanner.afterCalls count).afterCalls more := by
  induction more with
  | zero => rfl
  | succ more ih => rw [← Nat.add_assoc, afterCalls_succ, ih, ← afterCalls_succ]

theorem afterCalls_passes (scanner : Scanner) (count more : Nat) :
    ∃ consumed, Passes (scanner.afterCalls count) consumed (scanner.afterCalls (count + more)) := by
  induction more with
  | zero => exact ⟨[], passes_refl _⟩
  | succ more ih =>
      -- The next call passes over blanks, and then over what it takes.
      obtain ⟨consumed, early⟩ := ih
      obtain ⟨spelling, late⟩ := (scanner.afterCalls (count + more)).next_passes
      rw [← Nat.add_assoc, afterCalls_succ]
      exact ⟨_, early.trans ((skipBlanks_passes _).trans late)⟩

end QueryCheck.Scanner
