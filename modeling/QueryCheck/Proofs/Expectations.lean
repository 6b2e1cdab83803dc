import QueryCheck.Proofs.Acceptance
import QueryCheck.Proofs.Places

/-!
The expectation of a refusal is the truth about what may follow. Each stage names the
kinds it does not refuse, the kinds in front of a stage fix which of its optional kinds
may still come, and a query is refused at the stage that the tokens in front lead to.
-/
namespace QueryCheck

open Grammar

/-- The kinds that may follow some kinds in front, for each text of expectation. -/
inductive Expects (front : List Kind) : String → List Kind → Prop where
  | select : front = [] → Expects front "Expected SELECT" [.selectKeyword]
  | column :
      Expects front "Expected field name in SELECT list"
        ((if front = [.selectKeyword] then [.distinctKeyword] else []) ++
          [.star, .identifier, .field])
  | columnAfterComma :
      [.comma] <:+ front → Expects front "Expected field name after comma" [.identifier, .field]
  | fromKeyword :
      Expects front "Expected FROM"
        ((if [.star] <:+ front then [] else [.comma]) ++ [.fromKeyword])
  | table :
      [.fromKeyword] <:+ front →
        Expects front "Expected table name after FROM" [.identifier, .field]
  | operand :
      Expects front "Expected operand"
        [.identifier, .field, .string, .number, .boolean, .nullKeyword]
  | comparison : Expects front "Expected comparison operator" [.comparison]
  | endOfQuery :
      Expects front "Unexpected tokens after end of query"
        ((if .whereKeyword ∈ front then [.andKeyword, .orKeyword, .xorKeyword]
          else [.whereKeyword]) ++ [.endOfText])

namespace Stage

def continuations : Stage → List Kind
  | .query => [.selectKeyword]
  | .quantifier => [.distinctKeyword, .star, .identifier, .field]
  | .selection => [.star, .identifier, .field]
  | .columns => [.comma, .fromKeyword]
  | .column | .table => [.identifier, .field]
  | .star => [.fromKeyword]
  | .filter => [.whereKeyword, .endOfText]
  | .leftOperand | .rightOperand =>
      [.identifier, .field, .string, .number, .boolean, .nullKeyword]
  | .comparison => [.comparison]
  | .condition => [.andKeyword, .orKeyword, .xorKeyword, .endOfText]

theorem mem_continuations_iff (stage : Stage) (kind : Kind) :
    kind ∈ stage.continuations ↔ ∀ expected, stage.move kind ≠ .refuse expected := by
  cases stage <;> cases kind <;>
    simp [continuations, move, moveSelection, Kind.isName, Kind.isOperand, Kind.isConnective]

def expectation : Stage → Expectation
  | .query => .select
  | .quantifier | .selection => .column
  | .columns | .star => .fromKeyword
  | .column => .columnAfterComma
  | .table => .table
  | .leftOperand | .rightOperand => .operand
  | .comparison => .comparison
  | .filter | .condition => .endOfQuery

theorem refuse_expectation {stage : Stage} {kind : Kind} {expected : Expectation}
    (refused : stage.move kind = .refuse expected) : expected = stage.expectation := by
  cases stage <;> simp only [move, moveSelection] at refused <;>
    (repeat' split at refused) <;> cases refused <;> rfl

end Stage

namespace Grammar

section Fronts

theorem columns_last {columns : List Kind} (isColumns : Columns columns) :
    ∃ front name, columns = front ++ [name] ∧ Name name := by
  cases isColumns with
  | @one name named => exact ⟨[], name, rfl, named⟩
  | @more front name _ named => exact ⟨front ++ [.comma], name, by simp, named⟩

theorem columns_unstarred {front columns : List Kind} (isColumns : Columns columns) :
    ¬ [.star] <:+ front ++ columns := by
  obtain ⟨before, name, rfl, named⟩ := columns_last isColumns
  rintro ⟨rest, same⟩
  rw [← List.append_assoc] at same
  cases (List.append_inj' same rfl).2
  cases named

theorem name_ne_where {name : Kind} (named : Name name) : .whereKeyword ≠ name := by
  cases named <;> decide

theorem columns_unfiltered {columns : List Kind} (isColumns : Columns columns) :
    .whereKeyword ∉ columns := by
  induction isColumns with
  | one named => simpa using name_ne_where named
  | more _ named ih => simpa [ih] using name_ne_where named

theorem selection_unfiltered {selection : List Kind} (selected : Selection selection) :
    .whereKeyword ∉ selection := by
  cases selected with
  | star => decide
  | columns columns => exact columns_unfiltered columns

theorem where_not_mem_unfiltered {front : List Kind} (unfiltered : Unfiltered front) :
    .whereKeyword ∉ front := by
  obtain ⟨quantified, selected, named⟩ := unfiltered
  have table := name_ne_where named
  have selection := selection_unfiltered selected
  cases quantified <;> simpa [selection] using table

-- What a stage does not refuse is what may follow the kinds in front of it, by the text that it
-- refuses with.
theorem reached_expects {stage : Stage} {front : List Kind} (reached : Reached stage front) :
    Expects front stage.expectation.describe stage.continuations := by
  cases reached with
  | query => exact .select rfl
  | quantifier => exact .column
  | selection => exact .column
  | @columns quantifier columns _ isColumns =>
      have expects := @Expects.fromKeyword (.selectKeyword :: quantifier ++ columns)
      rwa [if_neg (columns_unstarred isColumns)] at expects
  | column => exact .columnAfterComma (List.suffix_append _ _)
  | @star quantifier _ =>
      have expects := @Expects.fromKeyword (.selectKeyword :: quantifier ++ [.star])
      rwa [if_pos (List.suffix_append _ _)] at expects
  | table => exact .table (List.suffix_append _ _)
  | filter unfiltered =>
      have expects := @Expects.endOfQuery front
      rwa [if_neg (where_not_mem_unfiltered unfiltered)] at expects
  | leftOperand => exact .operand
  | comparison => exact .comparison
  | rightOperand => exact .operand
  | @condition before condition _ _ =>
      have expects := @Expects.endOfQuery (before ++ .whereKeyword :: condition)
      rwa [if_pos (by simp)] at expects

end Fronts

end Grammar

theorem Verdict.refusing {stage : Stage} {tokens : List Token} {ending : Option LexicalError}
    {outcome : Except QueryError Unit} (verdict : Verdict stage tokens ending outcome)
    {expected : Expectation} {found : Token}
    (refusal : outcome = .error (.unexpected expected found)) (front : List Token)
    (led : Stage.advance .query (front.map Token.kind) = some stage) :
    ∃ before rest last, front ++ tokens = before ++ found :: rest ∧
      Stage.advance .query (before.map Token.kind) = some last ∧
      last.move found.kind = .refuse expected := by
  induction verdict generalizing front with
  | accepted _ => cases refusal
  | @refused stage token _ rest ending refused =>
      cases refusal
      exact ⟨front, rest, stage, rfl, led, refused⟩
  | faulted _ _ => cases refusal
  | @proceeded stage next token rest ending outcome moved _ ih =>
      have ledNext : Stage.advance .query ((front ++ [token]).map Token.kind) = some next := by
        rw [List.map_append, Stage.advance_append_some _ led]
        exact Stage.advance_cons next moved
      simpa using ih refusal (front ++ [token]) ledNext

theorem Position.before_irrefl (place : Position) : ¬ place.Before place := by
  rintro (less | ⟨-, less⟩) <;> exact absurd less (Nat.lt_irrefl _)

namespace Scanner

theorem scan_behind (scanner : Scanner) :
    ∀ token ∈ scanner.scan.tokens, ∃ passed, token.place = scanner.cursor.after passed := by
  induction scanner using steps.induct with
  | case1 scanner error failed => simp [scan_fault failed]
  | case2 scanner token read ends =>
      rw [scan_end read ends]
      have place := (next_place read).trans (skipBlanks_passes scanner).cursor
      exact List.forall_mem_singleton.mpr ⟨_, place⟩
  | case3 scanner token read proper _ ih =>
      rw [scan_token read proper]
      obtain ⟨lexeme, -, -, taken, -⟩ := next_token read proper
      have path := (skipBlanks_passes scanner).trans taken
      have here := (next_place read).trans (skipBlanks_passes scanner).cursor
      refine List.forall_mem_cons.mpr ⟨⟨_, here⟩, ?_⟩
      intro later member
      obtain ⟨passed, place⟩ := ih later member
      exact ⟨_, by rw [place, path.cursor, ← Position.after_append]⟩

theorem scan_ordered (scanner : Scanner) :
    scanner.scan.tokens.Pairwise fun earlier later => earlier.place.Before later.place := by
  induction scanner using steps.induct with
  | case1 scanner error failed =>
      rw [scan_fault failed]
      exact .nil
  | case2 scanner token read ends =>
      rw [scan_end read ends]
      exact List.pairwise_singleton _ _
  | case3 scanner token read proper _ ih =>
      rw [scan_token read proper]
      refine .cons ?_ ih
      intro later member
      obtain ⟨lexeme, isLexeme, -, taken, -⟩ := next_token read proper
      obtain ⟨passed, place⟩ := scan_behind _ later member
      rw [next_place read, place, taken.cursor, ← Position.after_append]
      exact Position.after_before _ (by simp [isLexeme.ne_nil])

end Scanner

theorem not_mem_front {query : String} {front rest : List Token} {found : Token}
    (split : (Scan.ofText query).tokens = front ++ found :: rest) : found ∉ front := by
  have ordered := (Scanner.ofText query).scan_ordered
  intro member
  rw [show (Scanner.ofText query).scan.tokens = _ from split, List.pairwise_append] at ordered
  exact Position.before_irrefl _ (ordered.2.2 found member found (by simp))

/-- A refused query could have gone on, behind the tokens in front of the refused one, with
just the kinds that the text of the refusal stands for. -/
theorem expectation_truthful {query : String} {expected : Expectation} {found : Token}
    (refused : Query.validate query = .error (.unexpected expected found)) :
    ∃ front rest, (Scan.ofText query).tokens = front ++ found :: rest ∧ found ∉ front ∧
      ∃ allowed, Expects (front.map Token.kind) expected.describe allowed ∧
        found.kind ∉ allowed ∧
        ∀ kind, Viable (front.map Token.kind ++ [kind]) ↔ kind ∈ allowed := by
  obtain ⟨front, rest, stage, split, led, move⟩ :=
    (validate_verdict query).refusing refused [] rfl
  rw [List.nil_append] at split
  refine ⟨front, rest, split, not_mem_front split, stage.continuations, ?_, ?_, fun kind => ?_⟩
  · rw [Stage.refuse_expectation move]
    exact reached_expects (Stage.reached_advance led)
  · rw [Stage.mem_continuations_iff]
    exact fun accepted => accepted expected move
  · rw [Stage.viable_snoc_iff led, Stage.mem_continuations_iff]

theorem expectation_behind_condition :
    let query := "SELECT a FROM t WHERE a = 1 LIMIT 10"
    let found : Token := ⟨.limitKeyword, ⟨0, 28⟩, none⟩
    Query.validate query = .error (.unexpected .endOfQuery found) ∧
    ∃ front rest, (Scan.ofText query).tokens = front ++ found :: rest ∧ found ∉ front ∧
      ∃ allowed, Expects (front.map Token.kind) Expectation.endOfQuery.describe allowed ∧
        found.kind ∉ allowed ∧
        ∀ kind, Viable (front.map Token.kind ++ [kind]) ↔ kind ∈ allowed := by
  intro query found
  have refused : Query.validate query = .error (.unexpected .endOfQuery found) := by
    decide +kernel
  exact ⟨refused, expectation_truthful refused⟩

end QueryCheck
