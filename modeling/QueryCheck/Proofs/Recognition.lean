import Mathlib.Data.List.Induction
import QueryCheck.Query

/-!
The stages recognise the grammar. A list of kinds leads to a stage exactly when it is
what the grammar allows in front of that stage, every stage can still be completed, and
so the kinds some query begins with are those that no stage refuses.
-/
namespace QueryCheck

open Grammar

namespace Kind

theorem isName_iff (kind : Kind) : kind.isName = true ↔ Name kind := by
  constructor
  · intro named
    unfold isName at named
    split at named
    · exact .identifier
    · exact .field
    · cases named
  · intro named
    cases named <;> rfl

theorem isOperand_iff (kind : Kind) : kind.isOperand = true ↔ Operand kind := by
  constructor
  · intro operand
    unfold isOperand at operand
    split at operand
    · exact .name .identifier
    · exact .name .field
    · exact .string
    · exact .number
    · exact .boolean
    · exact .null
    · cases operand
  · rintro (⟨_ | _⟩ | _ | _ | _ | _) <;> rfl

theorem isConnective_iff (kind : Kind) : kind.isConnective = true ↔ Connective kind := by
  constructor
  · intro connective
    unfold isConnective at connective
    split at connective
    · exact .and
    · exact .or
    · exact .xor
    · cases connective
  · intro connective
    cases connective <;> rfl

end Kind

namespace Grammar

inductive Unfiltered : List Kind → Prop where
  | table {quantifier selection : List Kind} {table : Kind} :
      Quantifier quantifier → Selection selection → Name table →
        Unfiltered (.selectKeyword :: quantifier ++ selection ++ [.fromKeyword, table])

inductive Connected : List Kind → Prop where
  | first : Connected []
  | next {front : List Kind} {connective : Kind} :
      Condition front → Connective connective → Connected (front ++ [connective])

/-- The kinds in front of a stage. -/
inductive Reached : Stage → List Kind → Prop where
  | query : Reached .query []
  | quantifier : Reached .quantifier [.selectKeyword]
  | selection : Reached .selection [.selectKeyword, .distinctKeyword]
  | columns {quantifier columns : List Kind} :
      Quantifier quantifier → Columns columns →
        Reached .columns (.selectKeyword :: quantifier ++ columns)
  | column {quantifier columns : List Kind} :
      Quantifier quantifier → Columns columns →
        Reached .column (.selectKeyword :: quantifier ++ columns ++ [.comma])
  | star {quantifier : List Kind} :
      Quantifier quantifier → Reached .star (.selectKeyword :: quantifier ++ [.star])
  | table {quantifier selection : List Kind} :
      Quantifier quantifier → Selection selection →
        Reached .table (.selectKeyword :: quantifier ++ selection ++ [.fromKeyword])
  | filter {front : List Kind} : Unfiltered front → Reached .filter front
  | leftOperand {front connected : List Kind} :
      Unfiltered front → Connected connected →
        Reached .leftOperand (front ++ .whereKeyword :: connected)
  | comparison {front connected : List Kind} {left : Kind} :
      Unfiltered front → Connected connected → Operand left →
        Reached .comparison (front ++ .whereKeyword :: connected ++ [left])
  | rightOperand {front connected : List Kind} {left : Kind} :
      Unfiltered front → Connected connected → Operand left →
        Reached .rightOperand (front ++ .whereKeyword :: connected ++ [left, .comparison])
  | condition {front condition : List Kind} :
      Unfiltered front → Condition condition →
        Reached .condition (front ++ .whereKeyword :: condition)

theorem connected_group {connected group : List Kind}
    (opening : Connected connected) (closing : Group group) :
    Condition (connected ++ group) := by
  cases opening with
  | first => exact .group closing
  | next front connective =>
      rw [List.append_assoc, List.singleton_append]
      exact .connected front connective closing

theorem reached_selection {quantifier : List Kind} {kind : Kind} {next : Stage}
    (quantified : Quantifier quantifier) (moved : Stage.moveSelection kind = .proceed next) :
    Reached next (.selectKeyword :: quantifier ++ [kind]) := by
  simp only [Stage.moveSelection] at moved
  split at moved
  · rename_i star
    cases moved
    exact star ▸ .star quantified
  · split at moved
    · rename_i named
      cases moved
      exact .columns quantified (.one ((Kind.isName_iff kind).mp named))
    · cases moved

-- One more kind that is not refused leads from the front of a stage to the front of the next
-- one.
theorem reached_proceed {stage next : Stage} {kinds : List Kind} {kind : Kind}
    (reached : Reached stage kinds) (moved : stage.move kind = .proceed next) :
    Reached next (kinds ++ [kind]) := by
  -- The test that a stage makes of the kind is what the grammar asks for at that place.
  cases reached <;> simp only [Stage.move] at moved
  case query =>
    split at moved <;> cases moved
    subst kind
    exact .quantifier
  case quantifier =>
    split at moved
    · cases moved
      subst kind
      exact .selection
    · exact reached_selection .absent moved
  case selection => exact reached_selection .distinct moved
  case columns quantified columns =>
    split at moved
    · cases moved
      subst kind
      exact .column quantified columns
    · split at moved <;> cases moved
      subst kind
      exact .table quantified (.columns columns)
  case column quantified columns =>
    split at moved <;> cases moved
    rename_i named
    simpa using Reached.columns quantified (.more columns ((Kind.isName_iff kind).mp named))
  case star quantified =>
    split at moved <;> cases moved
    subst kind
    exact .table quantified .star
  case table quantified selected =>
    split at moved <;> cases moved
    rename_i named
    simpa using Reached.filter (.table quantified selected ((Kind.isName_iff kind).mp named))
  case filter unfiltered =>
    split at moved
    · cases moved
      subst kind
      exact .leftOperand unfiltered .first
    · split at moved <;> cases moved
  case leftOperand unfiltered connected =>
    split at moved <;> cases moved
    rename_i operand
    exact .comparison unfiltered connected ((Kind.isOperand_iff kind).mp operand)
  case comparison unfiltered connected left =>
    split at moved <;> cases moved
    subst kind
    simpa using Reached.rightOperand unfiltered connected left
  case rightOperand unfiltered connected left =>
    split at moved <;> cases moved
    rename_i operand
    have right := (Kind.isOperand_iff kind).mp operand
    simpa using Reached.condition unfiltered
      (connected_group connected (.comparison left right))
  case condition unfiltered condition =>
    split at moved
    · rename_i connective
      cases moved
      simpa using Reached.leftOperand unfiltered
        (.next condition ((Kind.isConnective_iff kind).mp connective))
    · split at moved <;> cases moved

theorem sentence_iff_unfiltered {kinds : List Kind} :
    Sentence kinds ↔ ∃ front filter, Unfiltered front ∧ Filter filter ∧
      kinds = front ++ filter ++ [.endOfText] := by
  constructor
  · rintro ⟨quantified, selected, named, filtered⟩
    exact ⟨_, _, .table quantified selected named, filtered, by simp⟩
  · rintro ⟨front, filter, ⟨quantified, selected, named⟩, filtered, rfl⟩
    simpa using Sentence.query quantified selected named filtered

theorem finish_exact {stage : Stage} {kind : Kind} (moved : stage.move kind = .finish) :
    (stage = .filter ∨ stage = .condition) ∧ kind = .endOfText := by
  cases stage <;> simp only [Stage.move, Stage.moveSelection] at moved
  case filter | condition =>
    split at moved
    · cases moved
    · split at moved
      · rename_i ends
        exact ⟨by simp, ends⟩
      · cases moved
  all_goals
    repeat' split at moved
    all_goals cases moved

theorem reached_finish {stage : Stage} {kinds : List Kind} {kind : Kind}
    (reached : Reached stage kinds) (moved : stage.move kind = .finish) :
    Sentence (kinds ++ [kind]) := by
  obtain ⟨last, rfl⟩ := finish_exact moved
  apply sentence_iff_unfiltered.mpr
  rcases last with rfl | rfl
  · cases reached with
    | filter unfiltered => exact ⟨kinds, [], unfiltered, .absent, by simp⟩
  · cases reached with
    | condition unfiltered condition =>
        exact ⟨_, _, unfiltered, .condition condition, rfl⟩

end Grammar

namespace Stage

def advance : Stage → List Kind → Option Stage
  | stage, [] => some stage
  | stage, kind :: rest =>
      match stage.move kind with
      | .proceed next => advance next rest
      | .finish | .refuse _ => none

theorem advance_cons {stage : Stage} {kind : Kind} {rest : List Kind} (next : Stage)
    (moved : stage.move kind = .proceed next) :
    stage.advance (kind :: rest) = next.advance rest := by
  simp [advance, moved]

theorem advance_append (stage : Stage) (front back : List Kind) :
    stage.advance (front ++ back) = (stage.advance front).bind (advance · back) := by
  induction front generalizing stage with
  | nil => rfl
  | cons kind rest ih =>
      simp only [List.cons_append, advance]
      split
      · exact ih _
      · rfl
      · rfl

theorem advance_append_some {stage middle : Stage} {front : List Kind} (back : List Kind)
    (led : stage.advance front = some middle) :
    stage.advance (front ++ back) = middle.advance back := by
  rw [advance_append, led, Option.bind_some]

def Selects (stage : Stage) : Prop :=
  ∀ kind next, moveSelection kind = .proceed next → stage.move kind = .proceed next

theorem selection_selects : Selects .selection := fun _ _ moved => moved

theorem quantifier_selects : Selects .quantifier := by
  intro kind next moved
  by_cases distinct : kind = .distinctKeyword
  · subst kind
    cases moved
  · simpa [move, distinct] using moved

theorem advance_columns {stage : Stage} {kinds : List Kind} (selects : Selects stage)
    (columns : Columns kinds) : stage.advance kinds = some .columns := by
  induction columns with
  | one named =>
      cases named <;> exact advance_cons .columns (selects _ _ rfl)
  | more _ named ih =>
      rw [advance_append_some _ ih]
      cases named <;> rfl

theorem advance_selection {stage : Stage} {kinds : List Kind} (selects : Selects stage)
    (selection : Selection kinds) :
    stage.advance (kinds ++ [.fromKeyword]) = some .table := by
  cases selection with
  | star => exact advance_cons .star (selects _ _ rfl)
  | columns columns => rw [advance_append_some _ (advance_columns selects columns)]; rfl

theorem advance_unfiltered {kinds : List Kind} (unfiltered : Unfiltered kinds) :
    advance .query kinds = some .filter := by
  obtain ⟨quantified, selected, named⟩ := unfiltered
  rename_i quantifier selection table
  -- DISTINCT moves the place where the selection begins, not how it is read.
  have start : ∃ stage, Selects stage ∧
      advance .query (.selectKeyword :: quantifier) = some stage := by
    cases quantified with
    | absent => exact ⟨.quantifier, quantifier_selects, rfl⟩
    | distinct => exact ⟨.selection, selection_selects, rfl⟩
  obtain ⟨stage, selects, led⟩ := start
  rw [List.append_assoc, advance_append_some _ led, ← List.singleton_append (l := [table]),
    ← List.append_assoc, advance_append_some _ (advance_selection selects selected)]
  cases named <;> rfl

theorem advance_group {kinds : List Kind} (group : Group kinds) :
    advance .leftOperand kinds = some .condition := by
  obtain ⟨left, right⟩ := group
  rw [advance_cons .comparison (by simp [move, (Kind.isOperand_iff _).mpr left]),
    advance_cons .rightOperand rfl]
  exact advance_cons .condition (by simp [move, (Kind.isOperand_iff _).mpr right])

theorem advance_condition {kinds : List Kind} (condition : Condition kinds) :
    advance .leftOperand kinds = some .condition := by
  induction condition with
  | group group => exact advance_group group
  | connected _ connective group ih =>
      rw [advance_append_some _ ih, ← advance_group group]
      cases connective <;> rfl

theorem advance_sentence {kinds : List Kind} (sentence : Sentence kinds) :
    ∃ front stage, kinds = front ++ [.endOfText] ∧ advance .query front = some stage ∧
      stage.move .endOfText = .finish := by
  obtain ⟨front, filter, unfiltered, filtered, rfl⟩ := sentence_iff_unfiltered.mp sentence
  have reached := advance_unfiltered unfiltered
  cases filtered with
  | absent => exact ⟨_, .filter, rfl, by simpa using reached, rfl⟩
  | condition condition =>
      refine ⟨_, .condition, rfl, ?_, rfl⟩
      rw [advance_append_some _ reached, advance_cons .leftOperand rfl]
      exact advance_condition condition

theorem reached_advance {stage : Stage} {kinds : List Kind}
    (led : advance .query kinds = some stage) : Reached stage kinds := by
  -- From the right, so that the last kind meets the stage that the others lead to.
  induction kinds using List.reverseRecOn generalizing stage with
  | nil =>
      cases led
      exact .query
  | append_singleton front kind ih =>
      rw [advance_append] at led
      obtain ⟨middle, ledFront, ledKind⟩ := Option.bind_eq_some_iff.mp led
      simp only [advance] at ledKind
      split at ledKind <;> cases ledKind
      rename_i moved
      exact reached_proceed (ih ledFront) moved

/-- The sentences are the texts that lead to a stage where the end marker finishes. -/
theorem sentence_iff_advance {kinds : List Kind} :
    Sentence kinds ↔ ∃ front stage, kinds = front ++ [.endOfText] ∧
      advance .query front = some stage ∧ stage.move .endOfText = .finish := by
  constructor
  · exact advance_sentence
  · rintro ⟨front, stage, rfl, led, finished⟩
    exact reached_finish (reached_advance led) finished

def completion : Stage → List Kind
  | .query => [.selectKeyword, .star, .fromKeyword, .identifier]
  | .quantifier | .selection => [.star, .fromKeyword, .identifier]
  | .columns | .star => [.fromKeyword, .identifier]
  | .column => [.identifier, .fromKeyword, .identifier]
  | .table => [.identifier]
  | .filter | .condition => []
  | .leftOperand => [.identifier, .comparison, .identifier]
  | .comparison => [.comparison, .identifier]
  | .rightOperand => [.identifier]

theorem completion_finishes (stage : Stage) :
    ∃ last, stage.advance stage.completion = some last ∧ last.move .endOfText = .finish := by
  cases stage <;> exact ⟨_, rfl, rfl⟩

theorem advance_viable {stage : Stage} {kinds : List Kind}
    (led : advance .query kinds = some stage) : Viable kinds := by
  obtain ⟨last, ledLast, finished⟩ := stage.completion_finishes
  refine ⟨stage.completion ++ [.endOfText], sentence_iff_advance.mpr
    ⟨kinds ++ stage.completion, last, by simp, ?_, finished⟩⟩
  rw [advance_append_some _ led, ledLast]

theorem viable_iff_advance {kinds : List Kind} :
    Viable kinds ↔ (∃ stage, advance .query kinds = some stage) ∨ Sentence kinds := by
  constructor
  · rintro ⟨rest, sentence⟩
    rcases List.eq_nil_or_concat rest with rfl | ⟨back, last, rfl⟩
    · exact .inr (by simpa using sentence)
    · -- All that a sentence has in front of its end marker led to some stage.
      obtain ⟨front, stage, same, led, -⟩ := advance_sentence sentence
      rw [List.concat_eq_append, ← List.append_assoc] at same
      obtain ⟨rfl, -⟩ := List.append_inj' same rfl
      rw [advance_append] at led
      obtain ⟨middle, ledFront, -⟩ := Option.bind_eq_some_iff.mp led
      exact .inl ⟨middle, ledFront⟩
  · rintro (⟨stage, led⟩ | sentence)
    · exact advance_viable led
    · exact ⟨[], by simpa using sentence⟩

-- Behind kinds that lead to a stage, a query can go on with one more kind exactly when the
-- stage does not refuse it.
theorem viable_snoc_iff {stage : Stage} {kinds : List Kind} {kind : Kind}
    (led : advance .query kinds = some stage) :
    Viable (kinds ++ [kind]) ↔ ∀ expected, stage.move kind ≠ .refuse expected := by
  constructor
  · intro viable expected refused
    rcases viable_iff_advance.mp viable with ⟨next, ledNext⟩ | sentence
    · rw [advance_append_some _ led] at ledNext
      simp [advance, refused] at ledNext
    · obtain ⟨front, last, same, ledLast, finished⟩ := advance_sentence sentence
      obtain ⟨rfl, sameKind⟩ := List.append_inj' same rfl
      cases sameKind
      cases led.symm.trans ledLast
      cases refused.symm.trans finished
  · intro accepted
    cases moved : stage.move kind with
    | proceed next =>
        exact advance_viable ((advance_append_some _ led).trans (advance_cons next moved))
    | finish =>
        exact ⟨[], by simpa using reached_finish (reached_advance led) moved⟩
    | refuse expected => exact absurd moved (accepted expected)

end Stage

end QueryCheck
