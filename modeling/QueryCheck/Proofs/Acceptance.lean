import QueryCheck.Proofs.Recognition
import QueryCheck.Proofs.Scanning

/-!
The verdict on a query, from its tokens alone. The validator reads one token at a time
and stops early; here its outcome is compared with the whole list of tokens that
scanning gives, and with the fault that may end it.
-/
namespace QueryCheck

open Grammar

/-- The verdict of a stage on the tokens from there on and on the fault behind them. -/
inductive Verdict : Stage → List Token → Option LexicalError → Except QueryError Unit → Prop where
  | accepted {stage : Stage} {token : Token} :
      stage.move token.kind = .finish → Verdict stage [token] none (.ok ())
  | refused {stage : Stage} {token : Token} {expected : Expectation} (rest : List Token)
      (ending : Option LexicalError) :
      stage.move token.kind = .refuse expected →
        Verdict stage (token :: rest) ending (.error (.unexpected expected token))
  | faulted (stage : Stage) (error : LexicalError) :
      Verdict stage [] (some error) (.error (.lexical error))
  | proceeded {stage next : Stage} {token : Token} {rest : List Token}
      {ending : Option LexicalError} {outcome : Except QueryError Unit} :
      stage.move token.kind = .proceed next → Verdict next rest ending outcome →
        Verdict stage (token :: rest) ending outcome

namespace Validator

theorem start_error {scanner : Scanner} {error : LexicalError}
    (failed : scanner.next.outcome = .error error) : start scanner = .error error := by
  unfold start
  split
  · rename_i step
    rw [step] at failed
    cases failed
    rfl
  · rename_i step
    rw [step] at failed
    cases failed

theorem start_ok {scanner : Scanner} {token : Token}
    (read : scanner.next.outcome = .ok token) :
    start scanner = .ok ⟨scanner.next.after, token⟩ := by
  unfold start
  split
  · rename_i step
    rw [step] at read
    cases read
  · rename_i step
    rw [step] at read ⊢
    cases read
    rfl

theorem start_ok_iff {scanner : Scanner} {validator : Validator} :
    start scanner = .ok validator ↔ scanner.next.outcome = .ok validator.lookahead ∧
      validator.scanner = scanner.next.after := by
  constructor
  · intro started
    cases read : scanner.next.outcome with
    | error error => cases started.symm.trans (start_error read)
    | ok token =>
        cases started.symm.trans (start_ok read)
        exact ⟨rfl, rfl⟩
  · rintro ⟨read, after⟩
    rw [start_ok read, ← after]

def scan (validator : Validator) : Scan :=
  if validator.lookahead.kind = .endOfText then ⟨[validator.lookahead], none⟩
  else { validator.scanner.scan with
    tokens := validator.lookahead :: validator.scanner.scan.tokens }

-- A validator whose lookahead is the end marker has nothing more to read.
def Settled (validator : Validator) : Prop :=
  validator.lookahead.kind = .endOfText → validator.scanner.unread = []

theorem next_settled {scanner : Scanner} {token : Token}
    (read : scanner.next.outcome = .ok token) : Settled ⟨scanner.next.after, token⟩ :=
  Scanner.unread_after_end read

theorem next_scan {scanner : Scanner} {token : Token}
    (read : scanner.next.outcome = .ok token) :
    scan ⟨scanner.next.after, token⟩ = scanner.scan := by
  by_cases ends : token.kind = .endOfText
  · simp [scan, ends, Scanner.scan_end read ends]
  · simp [scan, ends, Scanner.scan_token read ends]

theorem scan_proper {validator : Validator} (proper : validator.lookahead.kind ≠ .endOfText) :
    validator.scan = { validator.scanner.scan with
      tokens := validator.lookahead :: validator.scanner.scan.tokens } := by
  rw [scan, if_neg proper]

theorem scan_head (validator : Validator) :
    ∃ rest ending, validator.scan = ⟨validator.lookahead :: rest, ending⟩ := by
  unfold scan
  split
  · exact ⟨_, _, rfl⟩
  · exact ⟨_, _, rfl⟩

-- A run of the validator gives the verdict of its stage on the tokens still to be taken.
theorem runFrom_verdict (stage : Stage) (validator : Validator) (settled : validator.Settled) :
    Verdict stage validator.scan.tokens validator.scan.error
      (runFrom stage validator).outcome := by
  fun_induction runFrom stage validator with
  | case1 stage validator expected refused =>
      obtain ⟨rest, ending, same⟩ := validator.scan_head
      rw [same]
      exact .refused rest ending refused
  | case2 stage validator finished error failed =>
      -- Behind the end marker no call fails.
      have read := congrArg Scanner.Step.outcome
        (Scanner.next_exhausted (settled (finish_exact finished).2))
      cases failed.symm.trans read
  | case3 stage validator finished token read =>
      rw [scan, if_pos (finish_exact finished).2]
      exact .accepted finished
  | case4 stage validator next moved error failed =>
      rw [scan_proper (Stage.ne_endOfText_of_proceed moved), Scanner.scan_fault failed]
      exact .proceeded moved (.faulted next error)
  | case5 stage validator next moved token read smaller rest ih =>
      -- Behind the token taken stand the tokens of the validator that goes on.
      rw [scan_proper (Stage.ne_endOfText_of_proceed moved), ← next_scan read]
      exact .proceeded moved (ih (next_settled read))

end Validator

/-- The token behind which the kinds are no longer viable. -/
def FirstViolation (tokens : List Token) (found : Token) : Prop :=
  ∃ index, tokens[index]? = some found ∧ Viable ((tokens.take index).map Token.kind) ∧
    ¬ Viable ((tokens.take (index + 1)).map Token.kind)

/-- What an outcome says about the whole list of tokens and the fault behind it. -/
def Explained (tokens : List Token) (ending : Option LexicalError) :
    Except QueryError Unit → Prop
  | .ok () => ending = none ∧ Sentence (tokens.map Token.kind)
  | .error (.unexpected _ found) => FirstViolation tokens found
  | .error (.lexical error) => ending = some error ∧ Viable (tokens.map Token.kind)

theorem verdict_explained {stage : Stage} {tokens : List Token} {ending : Option LexicalError}
    {outcome : Except QueryError Unit} (verdict : Verdict stage tokens ending outcome)
    (front : List Token) (led : Stage.advance .query (front.map Token.kind) = some stage) :
    Explained (front ++ tokens) ending outcome := by
  induction verdict generalizing front with
  | accepted finished =>
      refine ⟨rfl, ?_⟩
      simpa using reached_finish (Stage.reached_advance led) finished
  | @refused stage token expected rest ending refused =>
      refine ⟨front.length, by simp, by simpa using Stage.advance_viable led, ?_⟩
      have split : front ++ token :: rest = front ++ [token] ++ rest := by simp
      rw [split, List.take_left' (by simp), List.map_append, List.map_singleton,
        Stage.viable_snoc_iff led]
      exact fun accepted => accepted expected refused
  | faulted stage error =>
      -- No token refused: all of them led to the stage where the fault came.
      exact ⟨rfl, by simpa using Stage.advance_viable led⟩
  | @proceeded stage next token rest ending outcome moved _ ih =>
      have ledNext : Stage.advance .query ((front ++ [token]).map Token.kind) = some next := by
        rw [List.map_append, Stage.advance_append_some _ led]
        exact Stage.advance_cons next moved
      simpa using ih (front ++ [token]) ledNext

theorem validate_verdict (query : String) :
    Verdict .query (Scan.ofText query).tokens (Scan.ofText query).error
      (Query.validate query) := by
  show Verdict .query (Scanner.ofText query).scan.tokens (Scanner.ofText query).scan.error _
  cases first : (Scanner.ofText query).next.outcome with
  | error error =>
      rw [Scanner.scan_fault first, Query.validate, Query.trace, Validator.start_error first]
      exact .faulted .query error
  | ok token =>
      rw [← Validator.next_scan first, Query.validate, Query.trace, Validator.start_ok first]
      exact Validator.runFrom_verdict .query _ (Validator.next_settled first)

theorem validate_explained (query : String) :
    Explained (Scan.ofText query).tokens (Scan.ofText query).error (Query.validate query) :=
  verdict_explained (validate_verdict query) [] rfl

theorem viable_take {tokens : List Token} (viable : Viable (tokens.map Token.kind)) (count : Nat) :
    Viable ((tokens.take count).map Token.kind) := by
  obtain ⟨rest, sentence⟩ := viable
  refine ⟨(tokens.drop count).map Token.kind ++ rest, ?_⟩
  rwa [← List.append_assoc, ← List.map_append, List.take_append_drop]

theorem no_violation {tokens : List Token} {found : Token}
    (viable : Viable (tokens.map Token.kind)) : ¬ FirstViolation tokens found := by
  rintro ⟨index, -, -, violated⟩
  exact violated (viable_take viable (index + 1))

theorem violation_unique {tokens : List Token} {left right : Token}
    (first : FirstViolation tokens left) (other : FirstViolation tokens right) :
    left = right := by
  obtain ⟨index, isLeft, viable, violated⟩ := first
  obtain ⟨place, isRight, viablePlace, violatedPlace⟩ := other
  -- Fronts of viable kinds are viable, so neither violation comes before the other.
  have notBefore : index ≤ place := by
    by_contra before
    have whole := viable_take viable (place + 1)
    rw [List.take_take, Nat.min_eq_left (by omega)] at whole
    exact violatedPlace whole
  have notBehind : place ≤ index := by
    by_contra behind
    have whole := viable_take viablePlace (index + 1)
    rw [List.take_take, Nat.min_eq_left (by omega)] at whole
    exact violated whole
  cases Nat.le_antisymm notBefore notBehind
  exact Option.some.inj (isLeft.symm.trans isRight)

theorem sentence_viable {kinds : List Kind} (sentence : Sentence kinds) : Viable kinds :=
  ⟨[], by simpa using sentence⟩

-- Two explanations of the same tokens differ in no more than what they say was expected.
theorem explained_determined {tokens : List Token} {ending : Option LexicalError}
    {left right : Except QueryError Unit} (isLeft : Explained tokens ending left)
    (isRight : Explained tokens ending right) :
    left = right ∨ ∃ expected other found, left = .error (.unexpected expected found) ∧
      right = .error (.unexpected other found) := by
  rcases left with (error | ⟨expected, found⟩) | _ <;>
    rcases right with (otherError | ⟨otherExpected, otherFound⟩) | _
  case error.lexical.error.lexical =>
    cases isLeft.1.symm.trans isRight.1
    exact .inl rfl
  case error.lexical.error.unexpected => exact absurd isRight (no_violation isLeft.2)
  case error.lexical.ok => cases isLeft.1.symm.trans isRight.1
  case error.unexpected.error.lexical => exact absurd isLeft (no_violation isRight.2)
  case error.unexpected.error.unexpected =>
    cases violation_unique isLeft isRight
    exact .inr ⟨expected, otherExpected, found, rfl, rfl⟩
  case error.unexpected.ok =>
    exact absurd isLeft (no_violation (sentence_viable isRight.2))
  case ok.error.lexical => cases isLeft.1.symm.trans isRight.1
  case ok.error.unexpected =>
    exact absurd isRight (no_violation (sentence_viable isLeft.2))
  case ok.ok => exact .inl rfl

/-- A query is accepted exactly when it can be scanned to its end and the kinds of its
tokens are a sentence of the grammar. -/
theorem accepted_iff_sentence (query : String) :
    Query.validate query = .ok () ↔
      (Scan.ofText query).error = none ∧
        Sentence ((Scan.ofText query).tokens.map Token.kind) := by
  have explained := validate_explained query
  constructor
  · intro accepted
    rwa [accepted] at explained
  · intro sentence
    have expects : Explained (Scan.ofText query).tokens (Scan.ofText query).error (.ok ()) :=
      sentence
    rcases explained_determined explained expects with same | ⟨_, _, _, _, other⟩
    · exact same
    · cases other

/-- A rejection tells the first violation: the token behind which no query goes on, or
the lexical fault when every token in front of it could still belong to a query. -/
theorem rejected_iff_violation (query : String) :
    (∀ found, (∃ expected, Query.validate query = .error (.unexpected expected found)) ↔
      FirstViolation (Scan.ofText query).tokens found) ∧
    ∀ error, Query.validate query = .error (.lexical error) ↔
      (Scan.ofText query).error = some error ∧
        Viable ((Scan.ofText query).tokens.map Token.kind) := by
  have explained := validate_explained query
  constructor
  · intro found
    constructor
    · rintro ⟨expected, refused⟩
      rwa [refused] at explained
    · intro violation
      have expects : Explained (Scan.ofText query).tokens (Scan.ofText query).error
          (.error (.unexpected .select found)) := violation
      rcases explained_determined explained expects with same | ⟨expected, _, other, same, sameFound⟩
      · exact ⟨.select, same⟩
      · cases sameFound
        exact ⟨expected, same⟩
  · intro error
    constructor
    · intro failed
      rwa [failed] at explained
    · intro faulted
      have expects : Explained (Scan.ofText query).tokens (Scan.ofText query).error
          (.error (.lexical error)) := faulted
      rcases explained_determined explained expects with same | ⟨_, _, _, _, other⟩
      · exact same
      · cases other

end QueryCheck
