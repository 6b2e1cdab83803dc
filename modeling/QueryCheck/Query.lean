import QueryCheck.Scanner

/-! Queries: the accepted sentences, and the validator that recognises them. -/
namespace QueryCheck

/-! The accepted queries as a grammar over kinds of tokens:

    query     := SELECT [DISTINCT] selection FROM name [WHERE condition] END
    selection := * | name (, name)*
    condition := group ((AND | OR | XOR) group)*
    group     := operand COMPARISON operand
    operand   := name | string | number | boolean | NULL
    name      := identifier | field

Connectives have equal weight and group to the left. -/

namespace Grammar

inductive Name : Kind → Prop where
  | identifier : Name .identifier
  | field : Name .field

inductive Operand : Kind → Prop where
  | name {kind : Kind} : Name kind → Operand kind
  | string : Operand .string
  | number : Operand .number
  | boolean : Operand .boolean
  | null : Operand .nullKeyword

inductive Connective : Kind → Prop where
  | and : Connective .andKeyword
  | or : Connective .orKeyword
  | xor : Connective .xorKeyword

inductive Group : List Kind → Prop where
  | comparison {left right : Kind} :
      Operand left → Operand right → Group [left, .comparison, right]

inductive Condition : List Kind → Prop where
  | group {kinds : List Kind} : Group kinds → Condition kinds
  | connected {front group : List Kind} {connective : Kind} :
      Condition front → Connective connective → Group group →
        Condition (front ++ connective :: group)

inductive Columns : List Kind → Prop where
  | one {name : Kind} : Name name → Columns [name]
  | more {front : List Kind} {name : Kind} :
      Columns front → Name name → Columns (front ++ [.comma, name])

inductive Selection : List Kind → Prop where
  | star : Selection [.star]
  | columns {kinds : List Kind} : Columns kinds → Selection kinds

inductive Quantifier : List Kind → Prop where
  | absent : Quantifier []
  | distinct : Quantifier [.distinctKeyword]

inductive Filter : List Kind → Prop where
  | absent : Filter []
  | condition {kinds : List Kind} : Condition kinds → Filter (.whereKeyword :: kinds)

inductive Sentence : List Kind → Prop where
  | query {quantifier selection filter : List Kind} {table : Kind} :
      Quantifier quantifier → Selection selection → Name table → Filter filter →
        Sentence (.selectKeyword :: quantifier ++ selection ++
          .fromKeyword :: table :: filter ++ [.endOfText])

/-- A list of kinds that some query begins with. -/
def Viable (kinds : List Kind) : Prop := ∃ rest, Sentence (kinds ++ rest)

end Grammar

/-! Recognising a query one kind at a time. The grammar needs no stack: where a query
stands is one of twelve stages, and the next kind alone decides how it goes on. -/

inductive Expectation where
  | select
  | column
  | columnAfterComma
  | fromKeyword
  | table
  | operand
  | comparison
  | endOfQuery
  deriving DecidableEq

def Expectation.describe : Expectation → String
  | .select => "Expected SELECT"
  | .column => "Expected field name in SELECT list"
  | .columnAfterComma => "Expected field name after comma"
  | .fromKeyword => "Expected FROM"
  | .table => "Expected table name after FROM"
  | .operand => "Expected operand"
  | .comparison => "Expected comparison operator"
  | .endOfQuery => "Unexpected tokens after end of query"

/-- Where a query stands between two tokens: before or behind `SELECT`, where the selection
begins, behind a column, a comma or a star, behind `FROM`, behind the table, before,
between or behind the sides of a comparison. -/
inductive Stage where
  | query
  | quantifier
  | selection
  | columns
  | column
  | star
  | table
  | filter
  | leftOperand
  | comparison
  | rightOperand
  | condition
  deriving DecidableEq

namespace Kind

def isName : Kind → Bool
  | .identifier | .field => true
  | _ => false

def isOperand : Kind → Bool
  | .identifier | .field | .string | .number | .boolean | .nullKeyword => true
  | _ => false

def isConnective : Kind → Bool
  | .andKeyword | .orKeyword | .xorKeyword => true
  | _ => false

end Kind

inductive Move where
  | proceed (next : Stage)
  | finish
  | refuse (expected : Expectation)
  deriving DecidableEq

namespace Stage

def moveSelection (kind : Kind) : Move :=
  if kind = .star then .proceed .star
  else if kind.isName then .proceed .columns
  else .refuse .column

def move (stage : Stage) (kind : Kind) : Move :=
  match stage with
  | .query => if kind = .selectKeyword then .proceed .quantifier else .refuse .select
  | .quantifier =>
      if kind = .distinctKeyword then .proceed .selection else moveSelection kind
  | .selection => moveSelection kind
  | .columns =>
      if kind = .comma then .proceed .column
      else if kind = .fromKeyword then .proceed .table
      else .refuse .fromKeyword
  | .column => if kind.isName then .proceed .columns else .refuse .columnAfterComma
  | .star => if kind = .fromKeyword then .proceed .table else .refuse .fromKeyword
  | .table => if kind.isName then .proceed .filter else .refuse .table
  | .filter =>
      if kind = .whereKeyword then .proceed .leftOperand
      else if kind = .endOfText then .finish
      else .refuse .endOfQuery
  | .leftOperand => if kind.isOperand then .proceed .comparison else .refuse .operand
  | .comparison =>
      if kind = .comparison then .proceed .rightOperand else .refuse .comparison
  | .rightOperand => if kind.isOperand then .proceed .condition else .refuse .operand
  | .condition =>
      if kind.isConnective then .proceed .leftOperand
      else if kind = .endOfText then .finish
      else .refuse .endOfQuery

theorem ne_endOfText_of_proceed {stage next : Stage} {kind : Kind}
    (moved : stage.move kind = .proceed next) : kind ≠ .endOfText := by
  rintro rfl
  cases stage <;>
    simp [move, moveSelection, Kind.isName, Kind.isOperand, Kind.isConnective] at moved

end Stage

/-! Deciding whether a text is a query, with one token of lookahead. The validator reads
the next token only after the lookahead has been taken, so a refusal never depends on
the text behind the refused token. It keeps its state between runs: after a refusal the
lookahead is the refused token, and after a lexical error it is the token taken last. -/

inductive QueryError where
  | lexical (error : LexicalError)
  | unexpected (expected : Expectation) (found : Token)
  deriving DecidableEq

namespace QueryError

def message : QueryError → String
  | .lexical error => error.message
  | .unexpected expected found => expected.describe ++ " but found: " ++ found.describe

def place : QueryError → Position
  | .lexical error => error.place
  | .unexpected _ found => found.place

end QueryError

inductive Event where
  | validating (query : String)
  | scanned (token : Token)
  | lookahead (token : Token)
  | accepted
  | rejected (error : QueryError)
  deriving DecidableEq

structure Validator where
  scanner : Scanner
  lookahead : Token
  deriving DecidableEq

structure Run where
  outcome : Except QueryError Unit
  validator : Validator
  events : List Event

namespace Validator

def start (scanner : Scanner) : Except LexicalError Validator :=
  match scanner.next with
  | ⟨.error error, _⟩ => .error error
  | ⟨.ok token, after⟩ => .ok ⟨after, token⟩

-- Characters and tokens still to be taken, the end marker aside.
def pending (validator : Validator) : Nat :=
  validator.scanner.unread.length + if validator.lookahead.kind = .endOfText then 0 else 1

theorem pending_next_lt {scanner : Scanner} {taken token : Token}
    (proper : taken.kind ≠ .endOfText) (read : scanner.next.outcome = .ok token) :
    pending ⟨scanner.next.after, token⟩ < pending ⟨scanner, taken⟩ := by
  simp only [pending, proper, if_false]
  by_cases ends : token.kind = .endOfText
  · have := scanner.length_next_le
    simp only [ends, if_true]
    omega
  · have := Scanner.length_next_lt read ends
    simp only [ends, if_false]
    omega

/-- Take tokens from a stage on until the query is complete or cannot go on. -/
def runFrom (stage : Stage) (validator : Validator) : Run :=
  match moved : stage.move validator.lookahead.kind with
  | .refuse expected =>
      ⟨.error (.unexpected expected validator.lookahead), validator, []⟩
  | .finish =>
      match validator.scanner.next.outcome with
      | .error error =>
          ⟨.error (.lexical error), { validator with scanner := validator.scanner.next.after }, []⟩
      | .ok token =>
          ⟨.ok (), ⟨validator.scanner.next.after, token⟩, [.scanned token, .lookahead token]⟩
  | .proceed next =>
      match read : validator.scanner.next.outcome with
      | .error error =>
          ⟨.error (.lexical error), { validator with scanner := validator.scanner.next.after }, []⟩
      | .ok token =>
          have := pending_next_lt (Stage.ne_endOfText_of_proceed moved) read
          let rest := runFrom next ⟨validator.scanner.next.after, token⟩
          { rest with events := .scanned token :: .lookahead token :: rest.events }
termination_by validator.pending

def verdict : Except QueryError Unit → Event
  | .ok () => .accepted
  | .error error => .rejected error

def validate (validator : Validator) : Run :=
  let run := validator.runFrom .query
  { run with events := run.events ++ [verdict run.outcome] }

def outcomes : Nat → Validator → List (Except QueryError Unit)
  | 0, _ => []
  | count + 1, validator =>
      validator.validate.outcome :: outcomes count validator.validate.validator

end Validator

namespace Query

structure Trace where
  outcome : Except QueryError Unit
  events : List Event

def trace (query : String) : Trace :=
  match Validator.start (Scanner.ofText query) with
  | .error error => ⟨.error (.lexical error), []⟩
  | .ok validator =>
      ⟨validator.validate.outcome, .scanned validator.lookahead :: validator.validate.events⟩

def validate (query : String) : Except QueryError Unit := (trace query).outcome

end Query

end QueryCheck
