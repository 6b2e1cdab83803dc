import Mathlib.Data.List.Forall2
import Mathlib.Data.Option.Defs
import QueryCheck.Proofs.Acceptance
import QueryCheck.Proofs.Breaks

/-!
Two texts side by side. The verdict on a query sees no more of its tokens than their
kinds, so texts whose calls agree one by one get verdicts that agree as far as the
tokens do. What is read depends on the unread text alone, and the place where it begins
shows in nothing but places.
-/
namespace QueryCheck

section Agreement

inductive Matching (same : Token → Token → Prop) (sameFault : LexicalError → LexicalError → Prop) :
    Except LexicalError Token → Except LexicalError Token → Prop where
  | token {left right : Token} :
      same left right → Matching same sameFault (.ok left) (.ok right)
  | fault {left right : LexicalError} :
      sameFault left right → Matching same sameFault (.error left) (.error right)

/-- Outcomes of two checks that expected the same and found related tokens or faults. -/
inductive Alike (same : Token → Token → Prop) (sameFault : LexicalError → LexicalError → Prop) :
    Except QueryError Unit → Except QueryError Unit → Prop where
  | accepted : Alike same sameFault (.ok ()) (.ok ())
  | refused (expected : Expectation) {left right : Token} :
      same left right → Alike same sameFault
        (.error (.unexpected expected left)) (.error (.unexpected expected right))
  | faulted {left right : LexicalError} :
      sameFault left right →
        Alike same sameFault (.error (.lexical left)) (.error (.lexical right))

variable {same : Token → Token → Prop} {sameFault : LexicalError → LexicalError → Prop}

theorem Matching.refl (token : ∀ token, same token token) (fault : ∀ error, sameFault error error)
    (outcome : Except LexicalError Token) : Matching same sameFault outcome outcome := by
  cases outcome with
  | ok found => exact .token (token found)
  | error error => exact .fault (fault error)

theorem Matching.weaken {weaker : Token → Token → Prop} {left right : Except LexicalError Token}
    (matched : Matching same sameFault left right)
    (implies : ∀ left right, same left right → weaker left right) :
    Matching weaker sameFault left right := by
  cases matched with
  | token related => exact .token (implies _ _ related)
  | fault related => exact .fault related

theorem Matching.of_token {token : Token} {outcome : Except LexicalError Token}
    (matched : Matching same sameFault (.ok token) outcome) :
    ∃ other, outcome = .ok other ∧ same token other := by
  cases matched with
  | token related => exact ⟨_, rfl, related⟩

theorem Matching.of_fault {error : LexicalError} {outcome : Except LexicalError Token}
    (matched : Matching same sameFault (.error error) outcome) :
    ∃ other, outcome = .error other ∧ sameFault error other := by
  cases matched with
  | fault related => exact ⟨_, rfl, related⟩

theorem ofSteps_related {steps others : List Scanner.Step}
    (matching : List.Forall₂ (fun step other => Matching same sameFault step.outcome other.outcome)
      steps others) :
    List.Forall₂ same (Scan.ofSteps steps).tokens (Scan.ofSteps others).tokens ∧
      Option.Rel sameFault (Scan.ofSteps steps).error (Scan.ofSteps others).error := by
  induction matching with
  | nil => exact ⟨.nil, .none⟩
  | @cons step other rest later matched _ ih =>
      simp only [Scan.ofSteps]
      generalize step.outcome = left at matched
      generalize other.outcome = right at matched
      cases matched with
      | token related => exact ⟨.cons related ih.1, ih.2⟩
      | fault related => exact ⟨.nil, .some related⟩

theorem Verdict.alike (kinds : ∀ left right, same left right → left.kind = right.kind)
    {stage : Stage} {tokens others : List Token} {ending otherEnding : Option LexicalError}
    {outcome other : Except QueryError Unit} (verdict : Verdict stage tokens ending outcome)
    (otherVerdict : Verdict stage others otherEnding other)
    (related : List.Forall₂ same tokens others) (ended : Option.Rel sameFault ending otherEnding) :
    Alike same sameFault outcome other := by
  -- The same stage meets tokens of the same kind, so both verdicts come by the same rule.
  induction verdict generalizing others with
  | accepted finished =>
      cases related with
      | cons head tail =>
          cases tail
          rw [kinds _ _ head] at finished
          cases otherVerdict with
          | accepted _ => exact .accepted
          | refused _ _ refused => cases finished.symm.trans refused
          | proceeded moved _ => cases finished.symm.trans moved
  | refused rest ending refused =>
      cases related with
      | cons head tail =>
          rw [kinds _ _ head] at refused
          cases otherVerdict with
          | accepted finished => cases refused.symm.trans finished
          | refused _ _ otherRefused =>
              cases refused.symm.trans otherRefused
              exact .refused _ head
          | proceeded moved _ => cases refused.symm.trans moved
  | faulted stage error =>
      cases related
      cases ended with
      | some fault =>
          cases otherVerdict
          exact .faulted fault
  | proceeded moved _ ih =>
      cases related with
      | cons head tail =>
          rw [kinds _ _ head] at moved
          cases otherVerdict with
          | accepted finished => cases moved.symm.trans finished
          | refused _ _ refused => cases moved.symm.trans refused
          | proceeded otherMoved later =>
              cases moved.symm.trans otherMoved
              exact ih later tail ended

theorem Verdict.determined {stage : Stage} {tokens : List Token} {ending : Option LexicalError}
    {outcome other : Except QueryError Unit} (verdict : Verdict stage tokens ending outcome)
    (otherVerdict : Verdict stage tokens ending other) : outcome = other := by
  have ended : Option.Rel Eq ending ending := by cases ending <;> constructor; rfl
  have alike := verdict.alike (fun _ _ same => congrArg Token.kind same) otherVerdict
    (List.forall₂_same.mpr fun _ _ => rfl) ended
  cases alike with
  | accepted => rfl
  | refused expected same => rw [same]
  | faulted same => rw [same]

end Agreement

namespace Scanner

def outcomes (scanner : Scanner) : List (Except LexicalError Token) :=
  scanner.steps.map Step.outcome

theorem outcomes_fault {scanner : Scanner} {error : LexicalError}
    (failed : scanner.next.outcome = .error error) : scanner.outcomes = [.error error] := by
  rw [outcomes, steps_fault failed, List.map_singleton, failed]

theorem outcomes_end {scanner : Scanner} {token : Token}
    (read : scanner.next.outcome = .ok token) (ends : token.kind = .endOfText) :
    scanner.outcomes = [.ok token] := by
  rw [outcomes, steps_end read ends, List.map_singleton, read]

theorem outcomes_token {scanner : Scanner} {token : Token}
    (read : scanner.next.outcome = .ok token) (proper : token.kind ≠ .endOfText) :
    scanner.outcomes = .ok token :: scanner.next.after.outcomes := by
  rw [outcomes, steps_token read proper, List.map_cons, read]
  rfl

theorem Reads.outcomes {scanner last : Scanner} {passed : List Char} {tokens : List Token}
    (reads : Reads scanner passed tokens last) :
    scanner.outcomes = tokens.map .ok ++ last.outcomes := by
  induction reads with
  | none => rfl
  | more read proper _ _ ih => rw [outcomes_token read proper, ih, List.map_cons, List.cons_append]

-- A text that scans to its end is proper tokens and then blanks.
theorem reads_to_end (scanner : Scanner) (scanned : scanner.scan.error = none) :
    ∃ passed tokens last ending, Reads scanner passed tokens last ∧
      last.next.outcome = .ok ending ∧ ending.kind = .endOfText := by
  induction scanner using steps.induct with
  | case1 scanner error failed =>
      rw [scan_fault failed] at scanned
      cases scanned
  | case2 scanner token read ends => exact ⟨[], [], scanner, token, .none scanner, read, ends⟩
  | case3 scanner token read proper _ ih =>
      rw [scan_token read proper] at scanned
      obtain ⟨passed, tokens, last, ending, reads, readEnd, ends⟩ := ih scanned
      obtain ⟨lexeme, _, _, taken, _⟩ := next_token read proper
      exact ⟨_, _, last, ending, .more read proper ((skipBlanks_passes _).trans taken) reads,
        readEnd, ends⟩

end Scanner

section Agreement

variable {same : Token → Token → Prop} {sameFault : LexicalError → LexicalError → Prop}
  {left right : String}

theorem scan_related (matching : List.Forall₂ (Matching same sameFault)
      (Scanner.ofText left).outcomes (Scanner.ofText right).outcomes) :
    List.Forall₂ same (Scan.ofText left).tokens (Scan.ofText right).tokens ∧
      Option.Rel sameFault (Scan.ofText left).error (Scan.ofText right).error := by
  simp only [Scanner.outcomes, List.forall₂_map_left_iff, List.forall₂_map_right_iff] at matching
  exact ofSteps_related matching

-- The verdict sees no more of the tokens than their kinds.
theorem validate_alike (kinds : ∀ left right, same left right → left.kind = right.kind)
    (matching : List.Forall₂ (Matching same sameFault)
      (Scanner.ofText left).outcomes (Scanner.ofText right).outcomes) :
    Alike same sameFault (Query.validate left) (Query.validate right) :=
  have ⟨related, ended⟩ := scan_related matching
  (validate_verdict left).alike kinds (validate_verdict right) related ended

end Agreement

/-- Tokens that differ in no more than their places. -/
def Token.Agrees (left right : Token) : Prop :=
  left.kind = right.kind ∧ left.payload = right.payload

def LexicalError.Agrees (left right : LexicalError) : Prop := left.cause = right.cause

namespace Scanner

theorem next_agrees {left right : Scanner} (unread : left.unread = right.unread) :
    Matching Token.Agrees LexicalError.Agrees left.next.outcome right.next.outcome ∧
      left.next.after.unread = right.next.after.unread := by
  have here : left.skipBlanks.unread = right.skipBlanks.unread := by
    rw [unread_skipBlanks, unread_skipBlanks, unread]
  simp only [next, here]
  split
  · exact ⟨.token ⟨rfl, rfl⟩, here⟩
  · exact ⟨.token ⟨rfl, rfl⟩, by simp [here]⟩
  · exact ⟨.fault rfl, by simp [here]⟩

theorem outcomes_agree {left right : Scanner} (unread : left.unread = right.unread) :
    List.Forall₂ (Matching Token.Agrees LexicalError.Agrees) left.outcomes right.outcomes := by
  induction left using steps.induct generalizing right with
  | case1 left error failed =>
      have matched := (next_agrees unread).1
      rw [failed] at matched
      obtain ⟨other, otherFailed, agrees⟩ := matched.of_fault
      rw [outcomes_fault failed, outcomes_fault otherFailed]
      exact .cons (.fault agrees) .nil
  | case2 left token read ends =>
      have matched := (next_agrees unread).1
      rw [read] at matched
      obtain ⟨other, otherRead, agrees⟩ := matched.of_token
      rw [outcomes_end read ends, outcomes_end otherRead (agrees.1 ▸ ends)]
      exact .cons (.token agrees) .nil
  | case3 left token read proper _ ih =>
      obtain ⟨matched, after⟩ := next_agrees unread
      rw [read] at matched
      obtain ⟨other, otherRead, agrees⟩ := matched.of_token
      rw [outcomes_token read proper, outcomes_token otherRead (agrees.1 ▸ proper)]
      exact .cons (.token agrees) (ih after)

end Scanner

end QueryCheck
