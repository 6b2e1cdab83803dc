import QueryCheck.Proofs.Course

/-!
Checks in a row on one validator, which is never set back. A refused token stays as the
lookahead, so only a refused `SELECT` gives the next check anything to read, and it reads
as a validator started there would. Behind a lexical error the lookahead is stale, but
nothing can be read behind it, so no check is passed any more.
-/
namespace QueryCheck.Validator

open Grammar

def afterChecks : Nat → Validator → Validator
  | 0, validator => validator
  | count + 1, validator => afterChecks count validator.validate.validator

/-- One more check behind a number of others. -/
def check (count : Nat) (validator : Validator) : Run := (validator.afterChecks count).validate

theorem outcomes_checks (validator : Validator) (count : Nat) :
    validator.outcomes count =
      (List.range count).map fun number => (validator.check number).outcome := by
  induction count generalizing validator with
  | zero => rfl
  | succ count ih =>
      rw [outcomes, ih, List.range_succ_eq_map, List.map_cons, List.map_map]
      rfl

theorem afterChecks_add (validator : Validator) (count more : Nat) :
    validator.afterChecks (count + more) = (validator.afterChecks count).afterChecks more := by
  induction count generalizing validator with
  | zero => rw [Nat.zero_add, afterChecks]
  | succ count ih => rw [Nat.succ_add, afterChecks, ih, afterChecks]

theorem afterChecks_succ (validator : Validator) (count : Nat) :
    validator.afterChecks (count + 1) = (validator.afterChecks count).validate.validator :=
  afterChecks_add validator count 1

def Still (validator : Validator) : Prop := validator.validate.validator = validator

theorem Still.afterChecks {validator : Validator} (still : validator.Still) (count : Nat) :
    validator.afterChecks count = validator := by
  induction count with
  | zero => rfl
  | succ count ih =>
      rw [Validator.afterChecks, still]
      exact ih

theorem Still.behind {validator : Validator} {count later : Nat}
    (still : (validator.afterChecks count).Still) (order : count ≤ later) :
    validator.afterChecks later = validator.afterChecks count := by
  obtain ⟨more, rfl⟩ := Nat.exists_eq_add_of_le order
  rw [afterChecks_add, still.afterChecks]

theorem move_query {kind : Kind} {next : Stage} (moved : Stage.move .query kind = .proceed next) :
    kind = .selectKeyword ∧ next = .quantifier := by
  simp only [Stage.move] at moved
  split at moved
  · cases moved
    exact ⟨‹_›, rfl⟩
  · cases moved

theorem validate_unselected {validator : Validator}
    (other : validator.lookahead.kind ≠ .selectKeyword) :
    validator.validate.outcome = .error (.unexpected .select validator.lookahead) ∧
      validator.Still := by
  have refused : Stage.move .query validator.lookahead.kind = .refuse .select := by
    simp [Stage.move, other]
  obtain ⟨tokens, last, final, run, advances, halts, course⟩ := validator.validate_course
  rw [Still, course]
  cases advances with
  | more moved _ _ => cases refused.symm.trans moved
  | none =>
      cases halts with
      | refused again =>
          cases refused.symm.trans again
          exact ⟨rfl, rfl⟩
      | failed proper _ => exact absurd refused (proper _)
      | finished finished _ => cases refused.symm.trans finished

theorem check_unselected {validator : Validator} {count later : Nat} (order : count ≤ later)
    (other : (validator.afterChecks count).lookahead.kind ≠ .selectKeyword) :
    (validator.check later).outcome =
        .error (.unexpected .select (validator.afterChecks count).lookahead) ∧
      (validator.check later).validator = validator.afterChecks later := by
  obtain ⟨refused, still⟩ := validate_unselected other
  rw [check, still.behind order]
  exact ⟨refused, still⟩

/-- A validator as it is when it has just been started somewhere in a text. -/
def Fresh (text : String) (validator : Validator) : Prop :=
  ∃ count, start ((Scanner.ofText text).afterCalls count) = .ok validator

/-- A validator that reads nothing more, whatever its lookahead is. -/
def Spent (validator : Validator) : Prop :=
  validator.scanner.unread = [] ∨
    ∃ again, validator.scanner.next = ⟨.error again, validator.scanner⟩

theorem Fresh.ending {text : String} {validator : Validator} (fresh : Fresh text validator)
    (ends : validator.lookahead.kind = .endOfText) :
    validator.lookahead = ⟨.endOfText, .behind text.toList, none⟩ := by
  obtain ⟨count, started⟩ := fresh
  exact Scanner.end_placed (start_ok_iff.mp started).1 ends

theorem Fresh.settled {text : String} {validator : Validator} (fresh : Fresh text validator) :
    validator.Settled := by
  obtain ⟨count, started⟩ := fresh
  obtain ⟨read, after⟩ := start_ok_iff.mp started
  intro ends
  rw [after]
  exact Scanner.unread_after_end read ends

theorem Fresh.advance {text : String} {stage last : Stage} {validator final : Validator}
    {tokens : List Token} (fresh : Fresh text validator)
    (advances : Advances stage validator tokens last final) : Fresh text final := by
  obtain ⟨count, started⟩ := fresh
  refine ⟨count + tokens.length, ?_⟩
  rw [Scanner.afterCalls_add]
  exact advances.started started

theorem Fresh.read {text : String} {validator : Validator} {token : Token}
    (fresh : Fresh text validator) (read : validator.scanner.next.outcome = .ok token) :
    Fresh text ⟨validator.scanner.next.after, token⟩ := by
  obtain ⟨count, started⟩ := fresh
  refine ⟨count + 1, ?_⟩
  rw [Scanner.afterCalls_succ, ← (start_ok_iff.mp started).2]
  exact start_ok read

/-- What a check gives and leaves when the validator was fresh. -/
inductive Leaves (text : String) : Except QueryError Unit → Validator → Prop where
  | accepted {left : Validator} :
      Fresh text left → left.lookahead.kind = .endOfText → Leaves text (.ok ()) left
  | refused (expected : Expectation) {left : Validator} :
      Fresh text left → Leaves text (.error (.unexpected expected left.lookahead)) left
  | failed (error : LexicalError) {left : Validator} :
      Spent left → Leaves text (.error (.lexical error)) left

theorem Fresh.leaves {text : String} {validator : Validator} (fresh : Fresh text validator) :
    Leaves text validator.validate.outcome validator.validate.validator := by
  obtain ⟨tokens, last, final, run, advances, halts, course⟩ := validator.validate_course
  have freshFinal := fresh.advance advances
  rw [course]
  cases halts with
  | refused _ => exact .refused _ freshFinal
  | failed _ failed => exact .failed _ (Scanner.next_fault failed)
  | finished finished read =>
      refine .accepted (freshFinal.read read) ?_
      rw [Scanner.next_exhausted (freshFinal.settled (finish_exact finished).2)] at read
      cases read
      rfl

theorem Spent.advance {validator final : Validator} {tokens : List Token} {last : Stage}
    (spent : Spent validator) (advances : Advances .query validator tokens last final) :
    last = .query ∧ final = validator ∨
      last = .quantifier ∧ final.lookahead.kind = .endOfText ∧
        final.scanner = validator.scanner ∧ final.scanner.unread = [] := by
  cases advances with
  | none => exact .inl ⟨rfl, rfl⟩
  | more moved read later =>
      obtain ⟨-, rfl⟩ := move_query moved
      rcases spent with empty | ⟨again, stuck⟩
      · rw [Scanner.next_exhausted empty] at read later
        cases read
        cases later with
        | none => exact .inr ⟨rfl, rfl, rfl, empty⟩
        | more movedEnd _ _ => exact absurd rfl (Stage.ne_endOfText_of_proceed movedEnd)
      · rw [stuck] at read
        cases read

-- A check of a spent validator refuses something else than a `SELECT`, or fails and changes
-- nothing.
theorem Spent.leaves {validator : Validator} (spent : Spent validator) :
    (∃ expected found, validator.validate.outcome = .error (.unexpected expected found) ∧
      found.kind ≠ .selectKeyword ∧ validator.validate.validator = ⟨validator.scanner, found⟩) ∨
    ∃ error, validator.validate.outcome = .error (.lexical error) ∧ validator.Still := by
  obtain ⟨tokens, last, final, run, advances, halts, course⟩ := validator.validate_course
  rw [Still, course]
  rcases spent.advance advances with ⟨rfl, rfl⟩ | ⟨rfl, ends, kept, empty⟩
  · cases halts with
    | refused refused =>
        refine .inl ⟨_, _, rfl, ?_, rfl⟩
        intro taken
        rw [taken] at refused
        cases refused
    | failed _ failed =>
        rcases spent with empty | ⟨again, stuck⟩
        · rw [Scanner.next_exhausted empty] at failed
          cases failed
        · rw [stuck]
          exact .inr ⟨_, rfl, rfl⟩
    | finished finished _ => exact absurd (finish_exact finished).1 (by decide)
  · cases halts with
    | refused _ => exact .inl ⟨_, _, rfl, by simp [ends], by rw [← kept]⟩
    | failed _ failed =>
        rw [Scanner.next_exhausted empty] at failed
        cases failed
    | finished finished _ => exact absurd (finish_exact finished).1 (by decide)

theorem Spent.refused {validator : Validator} (spent : Spent validator) :
    validator.validate.outcome ≠ .ok () := by
  intro accepted
  rcases spent.leaves with ⟨_, _, refused, -⟩ | ⟨_, failed, -⟩
  · cases accepted.symm.trans refused
  · cases accepted.symm.trans failed

theorem Spent.left {validator : Validator} (spent : Spent validator) :
    Spent validator.validate.validator := by
  rcases spent.leaves with ⟨expected, found, -, -, left⟩ | ⟨error, -, still⟩
  · rw [left]
    exact spent
  · rw [still]
    exact spent

theorem Spent.left_still {validator : Validator} (spent : Spent validator) :
    validator.validate.validator.Still := by
  rcases spent.leaves with ⟨expected, found, -, other, left⟩ | ⟨error, -, still⟩
  · rw [left]
    exact (validate_unselected other).2
  · rw [still]
    exact still

theorem Spent.afterChecks {validator : Validator} (spent : Spent validator) (count : Nat) :
    Spent (validator.afterChecks count) := by
  induction count generalizing validator with
  | zero => exact spent
  | succ count ih => exact ih spent.left

theorem fresh_or_spent {text : String} {validator : Validator} (fresh : Fresh text validator)
    (count : Nat) :
    Fresh text (validator.afterChecks count) ∨ Spent (validator.afterChecks count) := by
  induction count generalizing validator with
  | zero => exact .inl fresh
  | succ count ih =>
      have leaves := fresh.leaves
      rw [Validator.afterChecks]
      generalize validator.validate.outcome = outcome at leaves
      cases leaves with
      | accepted freshLeft _ => exact ih freshLeft
      | refused _ freshLeft => exact ih freshLeft
      -- Nothing makes a spent validator fresh again.
      | failed _ spent => exact .inr (spent.afterChecks count)

theorem refused_left {validator : Validator} {expected : Expectation} {found : Token}
    (refused : validator.validate.outcome = .error (.unexpected expected found)) :
    validator.validate.validator.lookahead = found := by
  obtain ⟨tokens, last, final, run, advances, halts, course⟩ := validator.validate_course
  rw [course] at refused ⊢
  cases halts with
  | refused _ =>
      cases refused
      rfl
  | failed _ _ => cases refused
  | finished _ _ => cases refused

section Left

variable {text : String} {validator : Validator} (known : Fresh text validator ∨ Spent validator)
include known

theorem accepted_left (accepted : validator.validate.outcome = .ok ()) :
    validator.validate.validator.lookahead = ⟨.endOfText, .behind text.toList, none⟩ := by
  rcases known with fresh | spent
  · have leaves := fresh.leaves
    rw [accepted] at leaves
    cases leaves with
    | accepted freshLeft ends => exact freshLeft.ending ends
  · exact absurd accepted spent.refused

theorem selected_left {expected : Expectation} {found : Token}
    (refused : validator.validate.outcome = .error (.unexpected expected found))
    (again : found.kind = .selectKeyword) : Fresh text validator.validate.validator := by
  rcases known with fresh | spent
  · have leaves := fresh.leaves
    rw [refused] at leaves
    cases leaves with
    | refused _ freshLeft => exact freshLeft
  · rcases spent.leaves with ⟨_, other, same, different, -⟩ | ⟨_, failed, -⟩
    · cases refused.symm.trans same
      exact absurd again different
    · cases refused.symm.trans failed

theorem failed_left {error : LexicalError}
    (failed : validator.validate.outcome = .error (.lexical error)) :
    Spent validator.validate.validator := by
  rcases known with fresh | spent
  · have leaves := fresh.leaves
    rw [failed] at leaves
    cases leaves with
    | failed _ spentLeft => exact spentLeft
  · exact spent.left

end Left

/-- The `SELECT` tokens among those still to be taken. -/
def selects (validator : Validator) : Nat :=
  validator.scan.tokens.countP fun token => token.kind = .selectKeyword

theorem selects_pos {validator : Validator}
    (taken : validator.lookahead.kind = .selectKeyword) : 0 < validator.selects := by
  obtain ⟨rest, ending, same⟩ := validator.scan_head
  rw [selects, same, List.countP_cons_of_pos (by simp [taken])]
  exact Nat.succ_pos _

-- Between a `SELECT` taken and a `SELECT` refused there is one `SELECT` less to come.
theorem selects_left_lt {validator : Validator} {expected : Expectation} {found : Token}
    (refused : validator.validate.outcome = .error (.unexpected expected found))
    (again : found.kind = .selectKeyword) :
    validator.validate.validator.selects < validator.selects := by
  obtain ⟨tokens, last, final, run, advances, halts, course⟩ := validator.validate_course
  rw [course] at refused ⊢
  cases halts with
  | failed _ _ => cases refused
  | finished _ _ => cases refused
  | refused stopped =>
      cases refused
      cases advances with
      | none =>
          rw [again] at stopped
          cases stopped
      | more moved read later =>
          obtain ⟨front, -, -, scanned⟩ := later.taken
          have taken := (move_query moved).1
          rw [selects, selects, scan_proper (Stage.ne_endOfText_of_proceed moved),
            ← next_scan read, scanned, List.countP_cons_of_pos (by simp [taken]),
            List.countP_append]
          exact Nat.lt_succ_of_le (Nat.le_add_left _ _)

theorem Fresh.settles {text : String} {validator : Validator} (fresh : Fresh text validator) :
    ∃ count ≤ validator.selects + 1, (validator.afterChecks count).Still := by
  induction number : validator.selects using Nat.strong_induction_on generalizing validator with
  | h bound ih =>
      have leaves := fresh.leaves
      generalize result : validator.validate.outcome = outcome at leaves
      cases leaves with
      | accepted _ ends =>
          have other : validator.validate.validator.lookahead.kind ≠ .selectKeyword := by
            rw [ends]
            decide
          exact ⟨1, Nat.le_add_left _ _, (validate_unselected other).2⟩
      | refused expected freshLeft =>
          by_cases again : validator.validate.validator.lookahead.kind = .selectKeyword
          · have fewer := selects_left_lt result again
            obtain ⟨count, within, still⟩ := ih _ (number ▸ fewer) freshLeft rfl
            exact ⟨count + 1, by omega, still⟩
          · exact ⟨1, Nat.le_add_left _ _, (validate_unselected again).2⟩
      | failed error spent =>
          -- Only behind a `SELECT` is anything read, so this one is counted.
          have taken : validator.lookahead.kind = .selectKeyword := by
            by_contra other
            cases result.symm.trans (validate_unselected other).1
          have counted := selects_pos taken
          exact ⟨2, by omega, spent.left_still⟩

/-- Checks in a row on a validator that was started anywhere in a text: their outcomes are
those of each check behind the ones before it. A passed check is the only one, and the end
marker is refused behind it; a refused token other than `SELECT` is refused for good, and a
refused `SELECT` leaves the validator that would be started there; behind a lexical error no
check is passed; and one check behind as many as there are `SELECT` tokens to come, outcomes
change no more. -/
theorem checks_in_a_row {text : String} {calls : Nat} {validator : Validator}
    (started : start ((Scanner.ofText text).afterCalls calls) = .ok validator) :
    (∀ count, validator.outcomes count =
      (List.range count).map fun number => (validator.check number).outcome) ∧
    (∀ earlier later, earlier < later → (validator.check earlier).outcome = .ok () →
      (validator.check later).outcome =
        .error (.unexpected .select ⟨.endOfText, .behind text.toList, none⟩)) ∧
    (∀ earlier later expected found, earlier < later →
      (validator.check earlier).outcome = .error (.unexpected expected found) →
      found.kind ≠ .selectKeyword →
      (validator.check later).outcome = .error (.unexpected .select found) ∧
        (validator.check later).validator = validator.afterChecks later) ∧
    (∀ count expected found,
      (validator.check count).outcome = .error (.unexpected expected found) →
      found.kind = .selectKeyword →
      ∃ before fresh, start ((Scanner.ofText text).afterCalls before) = .ok fresh ∧
        fresh.lookahead = found ∧ validator.afterChecks (count + 1) = fresh) ∧
    (∀ earlier later error, earlier < later →
      (validator.check earlier).outcome = .error (.lexical error) →
      (validator.check later).outcome ≠ .ok ()) ∧
    ∀ earlier later, validator.selects < earlier → validator.selects < later →
      (validator.check earlier).outcome = (validator.check later).outcome := by
  have fresh : Fresh text validator := ⟨calls, started⟩
  refine ⟨validator.outcomes_checks, ?_, ?_, ?_, ?_, ?_⟩
  · intro earlier later order accepted
    have left := accepted_left (fresh_or_spent fresh earlier) accepted
    rw [← afterChecks_succ] at left
    have other : (validator.afterChecks (earlier + 1)).lookahead.kind ≠ .selectKeyword := by
      simp [left]
    rw [(check_unselected (Nat.succ_le_of_lt order) other).1, left]
  · intro earlier later expected found order refused different
    have left := refused_left refused
    rw [← afterChecks_succ] at left
    subst left
    exact check_unselected (Nat.succ_le_of_lt order) different
  · intro count expected found refused again
    obtain ⟨before, startedAgain⟩ := selected_left (fresh_or_spent fresh count) refused again
    exact ⟨before, _, startedAgain, refused_left refused, afterChecks_succ validator count⟩
  · intro earlier later error order failed
    have spent := failed_left (fresh_or_spent fresh earlier) failed
    obtain ⟨more, rfl⟩ := Nat.exists_eq_add_of_le (Nat.succ_le_of_lt order)
    rw [check, afterChecks_add, afterChecks_succ]
    exact (spent.afterChecks more).refused
  · intro earlier later many more
    obtain ⟨count, within, still⟩ := fresh.settles
    rw [check, check, still.behind (within.trans many), still.behind (within.trans more)]

/-- A query behind a stray `SELECT`, checked until outcomes change no more, and a check
behind an open string. -/
theorem checks_of_two_texts :
    (∃ validator, start ((Scanner.ofText "SELECT SELECT * FROM t").afterCalls 0) = .ok validator ∧
      (validator.check 0).outcome =
        .error (.unexpected .column ⟨.selectKeyword, ⟨0, 7⟩, none⟩) ∧
      (∃ before fresh,
        start ((Scanner.ofText "SELECT SELECT * FROM t").afterCalls before) = .ok fresh ∧
        fresh.lookahead = ⟨.selectKeyword, ⟨0, 7⟩, none⟩ ∧ validator.afterChecks 1 = fresh) ∧
      (validator.check 1).outcome = .ok () ∧
      (validator.check 2).outcome = .error (.unexpected .select ⟨.endOfText, ⟨0, 22⟩, none⟩) ∧
      validator.selects = 2 ∧ (validator.check 3).outcome = (validator.check 9).outcome) ∧
    ∃ validator, start ((Scanner.ofText "x SELECT \"a").afterCalls 1) = .ok validator ∧
      (validator.check 0).outcome = .error (.lexical ⟨.unterminatedString, ⟨0, 9⟩⟩) ∧
      (validator.check 7).outcome ≠ .ok () ∧
      (validator.check 1).outcome =
        .error (.unexpected .column ⟨.endOfText, ⟨0, 11⟩, none⟩) ∧
      (validator.check 7).outcome = .error (.unexpected .select ⟨.endOfText, ⟨0, 11⟩, none⟩) := by
  constructor
  · have started : start ((Scanner.ofText "SELECT SELECT * FROM t").afterCalls 0) =
        .ok ⟨⟨" SELECT * FROM t".toList, ⟨0, 6⟩⟩, ⟨.selectKeyword, ⟨0, 0⟩, none⟩⟩ := by
      decide +kernel
    obtain ⟨-, passed, -, selected, -, settled⟩ := checks_in_a_row started
    exact ⟨_, started, by decide +kernel, selected 0 .column _ (by decide +kernel) rfl,
      by decide +kernel, passed 1 2 (by decide) (by decide +kernel), by decide +kernel,
      settled 3 9 (by decide +kernel) (by decide +kernel)⟩
  · have started : start ((Scanner.ofText "x SELECT \"a").afterCalls 1) =
        .ok ⟨⟨" \"a".toList, ⟨0, 8⟩⟩, ⟨.selectKeyword, ⟨0, 2⟩, none⟩⟩ := by
      decide +kernel
    obtain ⟨-, -, refused, -, failed, -⟩ := checks_in_a_row started
    exact ⟨_, started, by decide +kernel,
      failed 0 7 ⟨.unterminatedString, ⟨0, 9⟩⟩ (by decide) (by decide +kernel), by decide +kernel,
      (refused 1 7 .column _ (by decide) (by decide +kernel) (by decide)).1⟩

end QueryCheck.Validator
