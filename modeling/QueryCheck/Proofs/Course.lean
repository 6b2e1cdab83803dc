import QueryCheck.Proofs.Agreement
import QueryCheck.Proofs.Places

/-!
How far a check reads. A run takes the lookahead, reads the next token and reports it, and
so on until a token is refused, a call fails or the end marker is taken; it never reads
behind the token it stops at. So the text behind a refused token has no part in the
refusal.
-/
namespace QueryCheck

namespace Validator

/-- What a run reports of the tokens it reads. -/
def reports (tokens : List Token) : List Event :=
  tokens.flatMap fun token => [.scanned token, .lookahead token]

/-- A run that takes one lookahead after another, and the tokens it reads meanwhile. -/
inductive Advances : Stage → Validator → List Token → Stage → Validator → Prop where
  | none (stage : Stage) (validator : Validator) : Advances stage validator [] stage validator
  | more {stage next last : Stage} {validator final : Validator} {token : Token}
      {rest : List Token} :
      stage.move validator.lookahead.kind = .proceed next →
        validator.scanner.next.outcome = .ok token →
        Advances next ⟨validator.scanner.next.after, token⟩ rest last final →
          Advances stage validator (token :: rest) last final

inductive Halts (stage : Stage) (validator : Validator) : Run → Prop where
  | refused {expected : Expectation} :
      stage.move validator.lookahead.kind = .refuse expected →
        Halts stage validator
          ⟨.error (.unexpected expected validator.lookahead), validator, reports []⟩
  | failed {error : LexicalError} :
      (∀ expected, stage.move validator.lookahead.kind ≠ .refuse expected) →
        validator.scanner.next.outcome = .error error →
        Halts stage validator
          ⟨.error (.lexical error), ⟨validator.scanner.next.after, validator.lookahead⟩, reports []⟩
  | finished {token : Token} :
      stage.move validator.lookahead.kind = .finish →
        validator.scanner.next.outcome = .ok token →
        Halts stage validator ⟨.ok (), ⟨validator.scanner.next.after, token⟩, reports [token]⟩

/-- All that a run can do: it advances for a while, and halts. -/
theorem runFrom_course (stage : Stage) (validator : Validator) :
    ∃ tokens last final run, Advances stage validator tokens last final ∧
      Halts last final run ∧
      runFrom stage validator = { run with events := reports tokens ++ run.events } := by
  fun_induction runFrom stage validator with
  | case1 stage validator expected refused =>
      exact ⟨[], stage, validator, _, .none stage validator, .refused refused, rfl⟩
  | case2 stage validator finished error failed =>
      exact ⟨[], stage, validator, _, .none stage validator,
        .failed (by simp [finished]) failed, rfl⟩
  | case3 stage validator finished token read =>
      exact ⟨[], stage, validator, _, .none stage validator, .finished finished read, rfl⟩
  | case4 stage validator next moved error failed =>
      exact ⟨[], stage, validator, _, .none stage validator, .failed (by simp [moved]) failed, rfl⟩
  | case5 stage validator next moved token read smaller rest ih =>
      obtain ⟨tokens, last, final, run, advances, halts, same⟩ := ih
      refine ⟨token :: tokens, last, final, run, .more moved read advances, halts, ?_⟩
      have whole : rest = { run with events := reports tokens ++ run.events } := same
      rw [whole]
      rfl

theorem validate_course (validator : Validator) :
    ∃ tokens last final run, Advances .query validator tokens last final ∧ Halts last final run ∧
      validator.validate = { run with
        events := reports tokens ++ run.events ++ [verdict run.outcome] } := by
  obtain ⟨tokens, last, final, run, advances, halts, course⟩ := runFrom_course .query validator
  refine ⟨tokens, last, final, run, advances, halts, ?_⟩
  rw [validate, course]

section Advance

variable {stage last : Stage} {validator final : Validator} {tokens : List Token}

theorem Advances.called (advances : Advances stage validator tokens last final)
    {scanner : Scanner} (started : start scanner = .ok validator) :
    (scanner.calls (tokens.length + 1)).map Scanner.Step.outcome =
      (validator.lookahead :: tokens).map .ok := by
  induction advances generalizing scanner with
  | none =>
      rw [List.length_nil, Scanner.calls, List.map_cons, (start_ok_iff.mp started).1]
      rfl
  | more _ read _ ih =>
      obtain ⟨first, after⟩ := start_ok_iff.mp started
      rw [Scanner.calls, List.map_cons, List.map_cons, first, ← after, List.length_cons,
        ih (start_ok read)]

theorem Advances.started (advances : Advances stage validator tokens last final)
    {scanner : Scanner} (started : start scanner = .ok validator) :
    start (scanner.afterCalls tokens.length) = .ok final := by
  induction advances generalizing scanner with
  | none => exact started
  | @more _ _ _ validator _ _ _ _ read _ ih =>
      rw [List.length_cons, Scanner.afterCalls_first, ← (start_ok_iff.mp started).2]
      exact ih (start_ok read)

theorem Advances.taken (advances : Advances stage validator tokens last final) :
    ∃ front, validator.lookahead :: tokens = front ++ [final.lookahead] ∧
      (∀ token ∈ front, token.kind ≠ .endOfText) ∧
      validator.scan =
        { final.scan with tokens := front ++ final.scan.tokens } := by
  induction advances with
  | none => exact ⟨[], rfl, by simp, rfl⟩
  | @more stage next last validator final token rest moved read _ ih =>
      obtain ⟨front, split, proper, scanned⟩ := ih
      have taken := Stage.ne_endOfText_of_proceed moved
      refine ⟨validator.lookahead :: front, ?_, ?_, ?_⟩
      · rw [split, List.cons_append]
      · exact List.forall_mem_cons.mpr ⟨taken, proper⟩
      · rw [scan_proper taken, ← next_scan read, scanned]
        rfl

-- A refusal is the verdict whatever comes behind the refused token.
theorem Advances.verdict (advances : Advances stage validator tokens last final)
    {expected : Expectation} (refused : last.move final.lookahead.kind = .refuse expected)
    (rest : List Token) (ending : Option LexicalError) :
    Verdict stage (validator.lookahead :: tokens ++ rest) ending
      (.error (.unexpected expected final.lookahead)) := by
  induction advances with
  | none => exact .refused rest ending refused
  | more moved _ _ ih => exact .proceeded moved (ih refused)

end Advance

end Validator

open Grammar Validator

-- A refusal stays the same when the text is cut behind the refused token, whatever breaks it
-- off there.
theorem refused_again {query : String} {validator final : Validator} {tokens : List Token}
    {last : Stage} {expected : Expectation} {part rest : List Char}
    (started : start (Scanner.ofText query) = .ok validator)
    (advances : Advances .query validator tokens last final)
    (refused : last.move final.lookahead.kind = .refuse expected)
    (proper : final.lookahead.kind ≠ .endOfText)
    (cut : query.toList = part ++ final.scanner.unread) (breaks : Breaks rest) :
    Query.validate (String.ofList (part ++ rest)) =
      .error (.unexpected expected final.lookahead) := by
  obtain ⟨-, later⟩ := start_ok_iff.mp (advances.started started)
  obtain ⟨front, split, properFront, -⟩ := advances.taken
  have properAll : ∀ token ∈ validator.lookahead :: tokens, token.kind ≠ .endOfText := by
    rw [split]
    exact List.forall_mem_append.mpr ⟨properFront, List.forall_mem_singleton.mpr proper⟩
  obtain ⟨passed, reads⟩ := Scanner.reads_calls (advances.called started) properAll
  rw [Scanner.afterCalls_succ, ← later] at reads
  obtain rfl : passed = part := List.append_cancel_right (reads.passes.unread.symm.trans cut)
  -- The cut text gives the same tokens again, and they alone bring about the refusal.
  have again := (reads.cut breaks).scan
  have whole : Scan.ofText (String.ofList (passed ++ rest)) =
      Scanner.scan ⟨passed ++ rest, (Scanner.ofText query).cursor⟩ := by
    rw [Scan.ofText, Scanner.ofText, String.toList_ofList]
    rfl
  have verdict := validate_verdict (String.ofList (passed ++ rest))
  rw [whole, again] at verdict
  exact verdict.determined (advances.verdict refused _ _)

/-- What a check has read when it gives its outcome, and what it leaves unread. -/
inductive Stopped (query : String) (read : List Token) (left : Scanner) :
    Except QueryError Unit → Prop where
  | accepted {front : List Token} {ending : Token} :
      read = front ++ [ending, ending] → ending.kind = .endOfText →
        (∀ token ∈ front, token.kind ≠ .endOfText) → Stopped query read left (.ok ())
  | refusedEnd {expected : Expectation} :
      read.getLast? = some ⟨.endOfText, .behind query.toList, none⟩ → left.unread = [] →
        Stopped query read left
          (.error (.unexpected expected ⟨.endOfText, .behind query.toList, none⟩))
  | refused {expected : Expectation} {found : Token} {front lexeme : List Char} :
      read.getLast? = some found → query.toList = front ++ lexeme ++ left.unread →
        found.place = .behind front → Lexeme lexeme found.kind found.payload →
        Longest (lexeme ++ left.unread) lexeme →
        Stopped query read left (.error (.unexpected expected found))
  | faulted {error : LexicalError} :
      ((Scanner.ofText query).afterCalls read.length).next.outcome = .error error →
        left = ((Scanner.ofText query).afterCalls read.length).next.after →
        Stopped query read left (.error (.lexical error))

theorem refusal_stops {query : String} {count : Nat} {tokens : List Token} {found : Token}
    (expected : Expectation)
    (read : ((Scanner.ofText query).afterCalls count).next.outcome = .ok found)
    (last : tokens.getLast? = some found) :
    Stopped query tokens ((Scanner.ofText query).afterCalls (count + 1))
      (.error (.unexpected expected found)) := by
  by_cases ends : found.kind = .endOfText
  · rw [Scanner.end_placed read ends] at last ⊢
    refine .refusedEnd last ?_
    rw [Scanner.afterCalls_succ, Scanner.unread_after_end read ends]
  · obtain ⟨front, lexeme, whole, placed, isLexeme, longest⟩ := Scanner.token_placed read ends
    exact .refused last whole placed isLexeme longest

theorem check_stops {query : String} {validator : Validator}
    (started : start (Scanner.ofText query) = .ok validator) :
    ∃ later : List Token,
      ((Scanner.ofText query).calls (later.length + 1)).map Scanner.Step.outcome =
        (validator.lookahead :: later).map .ok ∧
      validator.validate.events = reports later ++ [verdict validator.validate.outcome] ∧
      Stopped query (validator.lookahead :: later) validator.validate.validator.scanner
        validator.validate.outcome := by
  obtain ⟨tokens, last, final, run, advances, halts, course⟩ := validator.validate_course
  obtain ⟨read, behind⟩ := start_ok_iff.mp (advances.started started)
  obtain ⟨front, split, proper, -⟩ := advances.taken
  rw [← Scanner.afterCalls_succ] at behind
  have called := advances.called started
  rw [course]
  cases halts with
  | refused _ =>
      refine ⟨tokens, called, by simp [reports], ?_⟩
      rw [behind]
      refine refusal_stops _ read ?_
      rw [split, List.getLast?_append, List.getLast?_singleton, Option.some_or]
  | failed _ failed =>
      refine ⟨tokens, called, by simp [reports], ?_⟩
      rw [behind] at failed ⊢
      exact .faulted failed rfl
  | @finished token finished readAgain =>
      -- The end marker is taken too, and comes again.
      have ends := (finish_exact finished).2
      rw [behind] at readAgain
      obtain rfl := Scanner.end_again read ends readAgain
      refine ⟨tokens ++ [final.lookahead], ?_, by simp [reports], .accepted ?_ ends proper⟩
      · rw [List.length_append, List.length_singleton, Scanner.calls_succ, List.map_append, called,
          List.map_singleton, readAgain, ← List.cons_append, List.map_append, List.map_singleton]
      · rw [← List.cons_append, split, List.append_assoc]
        rfl

/-- A check reports each token as it reads it, and reads none behind the one that decides:
behind a refused token nothing is read, behind a lexical error no call is made, and behind
the end marker only the end marker. So whatever follows a refused token, behind a blank,
the refusal stays the same. -/
theorem no_reading_ahead (query : String) :
    (∀ error, start (Scanner.ofText query) = .error error → (Query.trace query).events = []) ∧
    ∀ validator, start (Scanner.ofText query) = .ok validator →
      (∃ later : List Token,
        ((Scanner.ofText query).calls (later.length + 1)).map Scanner.Step.outcome =
          (validator.lookahead :: later).map .ok ∧
        (Query.trace query).events = .scanned validator.lookahead ::
          reports later ++ [verdict (Query.validate query)] ∧
        Stopped query (validator.lookahead :: later) validator.validate.validator.scanner
          (Query.validate query)) ∧
      ∀ part rest expected found,
        query.toList = part ++ validator.validate.validator.scanner.unread →
        Query.validate query = .error (.unexpected expected found) → found.kind ≠ .endOfText →
        (∀ c ∈ rest.head?, Text.isBlank c = true) →
        Query.validate (String.ofList (part ++ rest)) = .error (.unexpected expected found) := by
  constructor
  · intro error failed
    rw [Query.trace, failed]
  · intro validator started
    have traced : Query.trace query =
        ⟨validator.validate.outcome, .scanned validator.lookahead :: validator.validate.events⟩ := by
      rw [Query.trace, started]
    rw [Query.validate, traced]
    constructor
    · obtain ⟨later, called, events, stopped⟩ := check_stops started
      refine ⟨later, called, ?_, stopped⟩
      rw [events, List.cons_append]
    · intro part rest expected found cut refused proper blank
      obtain ⟨tokens, last, final, run, advances, halts, course⟩ := validator.validate_course
      rw [course] at cut refused
      cases halts with
      | refused moved =>
          cases refused
          refine refused_again started advances moved proper cut fun c head => ?_
          simp [Text.isBreak, blank c head]
      | failed _ _ => cases refused
      | finished _ _ => cases refused

/-- The open string behind the refused `FROM` is never read. -/
theorem refused_before_open_string :
    start (Scanner.ofText "SELECT a, FROM t") =
      .ok ⟨⟨" a, FROM t".toList, ⟨0, 6⟩⟩, ⟨.selectKeyword, ⟨0, 0⟩, none⟩⟩ ∧
    Query.validate "SELECT a, FROM t" =
      .error (.unexpected .columnAfterComma ⟨.fromKeyword, ⟨0, 10⟩, none⟩) ∧
    (∃ later : List Token,
      ((Scanner.ofText "SELECT a, FROM t").calls (later.length + 1)).map Scanner.Step.outcome =
        .ok ⟨.selectKeyword, ⟨0, 0⟩, none⟩ :: later.map .ok ∧
      (Query.trace "SELECT a, FROM t").events =
        .scanned ⟨.selectKeyword, ⟨0, 0⟩, none⟩ :: reports later ++
          [.rejected (.unexpected .columnAfterComma ⟨.fromKeyword, ⟨0, 10⟩, none⟩)]) ∧
    Kind.fromKeyword ≠ .endOfText ∧
    Query.validate (String.ofList ("SELECT a, FROM".toList ++ [' ', '"'])) =
      .error (.unexpected .columnAfterComma ⟨.fromKeyword, ⟨0, 10⟩, none⟩) ∧
    start (Scanner.ofText " $") = .error ⟨.illegalCharacter '$', ⟨0, 1⟩⟩ ∧
    (Query.trace " $").events = [] := by
  have started : start (Scanner.ofText "SELECT a, FROM t") =
      .ok ⟨⟨" a, FROM t".toList, ⟨0, 6⟩⟩, ⟨.selectKeyword, ⟨0, 0⟩, none⟩⟩ := by decide +kernel
  have refused : Query.validate "SELECT a, FROM t" =
      .error (.unexpected .columnAfterComma ⟨.fromKeyword, ⟨0, 10⟩, none⟩) := by decide +kernel
  have failed : start (Scanner.ofText " $") = .error ⟨.illegalCharacter '$', ⟨0, 1⟩⟩ := by
    decide +kernel
  obtain ⟨⟨later, called, events, -⟩, again⟩ :=
    (no_reading_ahead "SELECT a, FROM t").2 _ started
  rw [refused] at events
  exact ⟨started, refused, ⟨later, called, events⟩, by decide,
    again "SELECT a, FROM".toList [' ', '"'] _ _ (by decide +kernel) refused (by decide)
      (by simp [Text.isBlank]),
    failed, (no_reading_ahead " $").1 _ failed⟩

end QueryCheck
