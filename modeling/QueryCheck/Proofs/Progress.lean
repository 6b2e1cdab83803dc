import QueryCheck.Proofs.Course
import QueryCheck.Proofs.Sources

/-!
How often a loop calls the scanner. A call that gives a token other than the end marker takes
something from the text, so a loop that goes on behind other outcomes only so many times comes
to its result, and the characters of the text bound its calls. A listing never goes on behind
another outcome; a check does so once, behind the end marker.
-/
namespace QueryCheck

/-- An outcome behind which nothing is left to read, or nothing can be read. -/
def Final : Except LexicalError Token → Prop
  | .error _ => True
  | .ok token => token.kind = .endOfText

namespace Scanner

theorem next_shorter {scanner : Scanner} (proper : ¬ Final scanner.next.outcome) :
    scanner.next.after.unread.length < scanner.unread.length := by
  cases read : scanner.next.outcome with
  | error error =>
      rw [read] at proper
      exact absurd trivial proper
  | ok token =>
      rw [read] at proper
      exact length_next_lt read proper

-- The first final outcome comes behind no more calls than there are characters.
theorem final_soon (scanner : Scanner) :
    ∃ count ≤ scanner.unread.length, Final (scanner.afterCalls count).next.outcome ∧
      ∀ earlier < count, ¬ Final (scanner.afterCalls earlier).next.outcome := by
  induction scanner using steps.induct with
  | case1 scanner error failed =>
      have final : Final scanner.next.outcome := by
        rw [failed]
        trivial
      exact ⟨0, Nat.zero_le _, final, by simp⟩
  | case2 scanner token read ends =>
      have final : Final scanner.next.outcome := by
        rw [read]
        exact ends
      exact ⟨0, Nat.zero_le _, final, by simp⟩
  | case3 scanner token read proper shorter ih =>
      obtain ⟨count, bound, final, first⟩ := ih
      refine ⟨count + 1, by omega, by rwa [afterCalls_first], ?_⟩
      intro earlier before
      cases earlier with
      | zero =>
          show ¬ Final scanner.next.outcome
          rw [read]
          exact proper
      | succ earlier =>
          rw [afterCalls_first]
          exact first earlier (by omega)

def given (scanner : Scanner) (count : Nat) : List Token :=
  (scanner.calls count).filterMap fun step => step.outcome.toOption

theorem given_succ (scanner : Scanner) (count : Nat) :
    scanner.given (count + 1) =
      scanner.next.outcome.toOption.toList ++ scanner.next.after.given count := by
  rw [given, calls, List.filterMap_cons]
  cases scanner.next.outcome <;> rfl

theorem length_calls (scanner : Scanner) (count : Nat) : (scanner.calls count).length = count := by
  induction count generalizing scanner with
  | zero => rfl
  | succ count ih => rw [calls, List.length_cons, ih]

theorem length_given_le (scanner : Scanner) (count : Nat) :
    (scanner.given count).length ≤ count :=
  (List.length_filterMap_le _ _).trans_eq (scanner.length_calls count)

end Scanner

section Loops

inductive Turn (State Result : Type) where
  | more (state : State)
  | done (result : Result)

/-- A loop that learns of a text nothing but the outcomes of its calls. -/
abbrev Loop (State Result : Type) := State → Except LexicalError Token → Turn State Result

variable {State Result : Type}

namespace Turn

def elim {Motive : Sort*} (more : State → Motive) (done : Result → Motive) :
    Turn State Result → Motive
  | .more state => more state
  | .done result => done result

@[simp]
theorem elim_more {Motive : Sort*} (more : State → Motive) (done : Result → Motive)
    (state : State) : (Turn.more state).elim more done = more state := rfl

@[simp]
theorem elim_done {Motive : Sort*} (more : State → Motive) (done : Result → Motive)
    (result : Result) : (Turn.done result).elim more done = done result := rfl

end Turn

namespace Loop

/-- A loop comes to a result in so many calls; one that goes on for ever has none. -/
inductive Gives (loop : Loop State Result) : State → Scanner → Nat → Result → Prop where
  | done {state : State} {scanner : Scanner} {result : Result} :
      loop state scanner.next.outcome = .done result → Gives loop state scanner 1 result
  | more {state later : State} {scanner : Scanner} {calls : Nat} {result : Result} :
      loop state scanner.next.outcome = .more later →
        Gives loop later scanner.next.after calls result →
          Gives loop state scanner (calls + 1) result

/-- A loop that goes on behind a final outcome only at the expense of what its state has to
spare. -/
def Thrifty (loop : Loop State Result) (spare : State → Nat) : Prop :=
  ∀ state outcome later, loop state outcome = .more later →
    spare later ≤ spare state ∧ (Final outcome → spare later < spare state)

-- A value for every state of a loop that stays the same as the loop goes on.
def Keeps (loop : Loop State Result) (value : State → Scanner → Result) : Prop :=
  ∀ state scanner, value state scanner =
    (loop state scanner.next.outcome).elim (value · scanner.next.after) id

-- What holds of the tokens given so far in every state of a loop, and of all tokens that its
-- calls have given when it is done.
def Reports (loop : Loop State Result) (before : List Token → State → Prop)
    (behind : List Token → Result → Prop) : Prop :=
  ∀ front state outcome, before front state →
    (loop state outcome).elim (before (front ++ outcome.toOption.toList))
      (behind (front ++ outcome.toOption.toList))

variable {loop : Loop State Result}

/-- A thrifty loop ends, and what there is to read and to spare bounds its calls. -/
theorem Thrifty.ends {spare : State → Nat} (thrifty : loop.Thrifty spare) (state : State)
    (scanner : Scanner) :
    ∃ calls ≤ scanner.unread.length + spare state + 1,
      ∃ result, loop.Gives state scanner calls result := by
  -- Neither what is left to read nor what is left to spare grows, and one of them shrinks.
  induction size : scanner.unread.length + spare state using Nat.strongRecOn
    generalizing state scanner with
  | ind size ih =>
      cases turn : loop state scanner.next.outcome with
      | done result => exact ⟨1, by omega, result, .done turn⟩
      | more later =>
          obtain ⟨kept, spent⟩ := thrifty _ _ _ turn
          have less : scanner.next.after.unread.length + spare later <
              scanner.unread.length + spare state := by
            by_cases final : Final scanner.next.outcome
            · have := spent final
              have := scanner.length_next_le
              omega
            · have := Scanner.next_shorter final
              omega
          obtain ⟨calls, bound, result, gives⟩ := ih _ (by omega) later scanner.next.after rfl
          exact ⟨calls + 1, by omega, result, .more turn gives⟩

theorem Gives.result_eq {value : State → Scanner → Result} {state : State} {scanner : Scanner}
    {calls : Nat} {result : Result} (gives : loop.Gives state scanner calls result)
    (keeps : loop.Keeps value) : result = value state scanner := by
  induction gives with
  | done turn =>
      rw [keeps, turn]
      rfl
  | more turn _ ih =>
      rw [keeps, turn]
      exact ih

theorem Thrifty.gives {spare : State → Nat} {value : State → Scanner → Result}
    (thrifty : loop.Thrifty spare) (keeps : loop.Keeps value) (state : State) (scanner : Scanner) :
    ∃ calls ≤ scanner.unread.length + spare state + 1,
      loop.Gives state scanner calls (value state scanner) := by
  obtain ⟨calls, bound, result, gives⟩ := thrifty.ends state scanner
  exact ⟨calls, bound, gives.result_eq keeps ▸ gives⟩

theorem Gives.unique {state : State} {scanner : Scanner} {calls : Nat} {result : Result}
    (gives : loop.Gives state scanner calls result) (made : Nat) (found : Result) :
    loop.Gives state scanner made found ↔ made = calls ∧ found = result := by
  constructor
  · intro other
    induction gives generalizing made with
    | done turn =>
        cases other with
        | done again =>
            cases turn.symm.trans again
            exact ⟨rfl, rfl⟩
        | more again _ => cases turn.symm.trans again
    | more turn _ ih =>
        cases other with
        | done again => cases turn.symm.trans again
        | more again later =>
            cases turn.symm.trans again
            obtain ⟨rfl, rfl⟩ := ih _ later
            exact ⟨rfl, rfl⟩
  · rintro ⟨rfl, rfl⟩
    exact gives

theorem Gives.reports {before : List Token → State → Prop} {behind : List Token → Result → Prop}
    {state : State} {scanner : Scanner} {calls : Nat} {result : Result}
    (gives : loop.Gives state scanner calls result) (reports : loop.Reports before behind)
    (front : List Token) (holds : before front state) :
    behind (front ++ scanner.given calls) result := by
  induction gives generalizing front with
  | @done state scanner result turn =>
      have last := reports front state scanner.next.outcome holds
      rw [turn] at last
      rw [Scanner.given_succ]
      simpa [Scanner.given, Scanner.calls] using last
  | @more state later scanner calls result turn _ ih =>
      have next := reports front state scanner.next.outcome holds
      rw [turn] at next
      rw [Scanner.given_succ, ← List.append_assoc]
      exact ih _ next

end Loop

end Loops

section Listing

structure Sink where
  room : Option Nat
  written : List UInt8

/-- A listing, which writes each token before it calls for the next one. -/
def listing (style : ListingStyle) : Loop Sink ListingResult
  | sink, .error error => .done ⟨sink.written, some (.lexical error)⟩
  | sink, .ok token =>
      let delivery := deliver sink.room (token.chunks style)
      let written := sink.written ++ delivery.written
      match delivery.failed with
      | some role => .done ⟨written, some role.error⟩
      | none =>
          if token.kind = .endOfText then .done ⟨written, none⟩
          else .more ⟨sink.room.map (· - delivery.written.length), written⟩

def Sink.listed (style : ListingStyle) (sink : Sink) (scanner : Scanner) : ListingResult :=
  let later := scanner.streamed style sink.room
  { later with written := sink.written ++ later.written }

theorem listing_thrifty (style : ListingStyle) : (listing style).Thrifty fun _ => 0 := by
  intro sink outcome later turn
  refine ⟨Nat.le_refl 0, ?_⟩
  intro final
  cases outcome with
  | error error => cases turn
  | ok token =>
      have ends : token.kind = .endOfText := final
      simp only [listing, ends, if_true] at turn
      split at turn <;> cases turn

theorem listing_keeps (style : ListingStyle) : (listing style).Keeps (Sink.listed style) := by
  intro sink scanner
  unfold Sink.listed
  fun_cases Scanner.streamed style sink.room scanner with
  | case1 error failed => simp [failed, listing]
  | case2 token read delivery role failed => simp [read, listing, delivery, failed]
  | case3 token read delivery complete ends => simp [read, listing, delivery, complete, ends]
  | case4 token read delivery complete proper _ later =>
      simp [read, listing, delivery, complete, proper, later]

theorem listing_reports (style : ListingStyle) : (listing style).Reports
    (fun front sink => sink.written = front.flatMap (Token.line style))
    (fun front result => result.written <+: front.flatMap (Token.line style)) := by
  intro front sink outcome written
  cases outcome with
  | error error => simp [listing, Except.toOption, written]
  | ok token =>
      have partly := deliver_front sink.room (token.chunks style)
      rw [token.chunks_bytes] at partly
      simp only [listing]
      split
      · simp [Except.toOption, written, partly]
      · rename_i complete
        have whole := deliver_whole complete
        rw [token.chunks_bytes] at whole
        split <;> simp [Except.toOption, written, whole]

end Listing

section Checking

namespace Query

/-- Where a check stands when it calls for a token: for its first lookahead, for the token
that a stage goes on with, or for what stands behind the end marker. -/
inductive Awaiting where
  | first
  | next (stage : Stage) (reported : List Event)
  | last (reported : List Event)

def concluded (reported : List Event) (outcome : Except QueryError Unit) : Trace :=
  ⟨outcome, reported ++ [Validator.verdict outcome]⟩

def turn (stage : Stage) (reported : List Event) (lookahead : Token) : Turn Awaiting Trace :=
  match stage.move lookahead.kind with
  | .refuse expected => .done (concluded reported (.error (.unexpected expected lookahead)))
  | .finish => .more (.last reported)
  | .proceed next => .more (.next next reported)

/-- A check, which calls for a token when it has taken the one before. -/
def checking : Loop Awaiting Trace
  | .first, .error error => .done ⟨.error (.lexical error), []⟩
  | .first, .ok token => turn .query [.scanned token] token
  | .next _ reported, .error error => .done (concluded reported (.error (.lexical error)))
  | .next stage reported, .ok token => turn stage (reported ++ Validator.reports [token]) token
  | .last reported, .error error => .done (concluded reported (.error (.lexical error)))
  | .last reported, .ok token =>
      .done (concluded (reported ++ Validator.reports [token]) (.ok ()))

def resumed (stage : Stage) (reported : List Event) (validator : Validator) : Trace :=
  let run := validator.runFrom stage
  concluded (reported ++ run.events) run.outcome

def Awaiting.trace (awaiting : Awaiting) (scanner : Scanner) : Trace :=
  match scanner.next.outcome, awaiting with
  | .error error, .first => ⟨.error (.lexical error), []⟩
  | .error error, .next _ reported | .error error, .last reported =>
      concluded reported (.error (.lexical error))
  | .ok token, .first => resumed .query [.scanned token] ⟨scanner.next.after, token⟩
  | .ok token, .next stage reported =>
      resumed stage (reported ++ Validator.reports [token]) ⟨scanner.next.after, token⟩
  | .ok token, .last reported => concluded (reported ++ Validator.reports [token]) (.ok ())

theorem trace_first (query : String) :
    trace query = Awaiting.first.trace (Scanner.ofText query) := by
  cases read : (Scanner.ofText query).next.outcome with
  | error error => simp only [trace, Validator.start_error read, Awaiting.trace, read]
  | ok token =>
      simp only [trace, Validator.start_ok read, Awaiting.trace, read]
      rfl

theorem resumed_turn (stage : Stage) (reported : List Event) (validator : Validator) :
    resumed stage reported validator =
      (turn stage reported validator.lookahead).elim (·.trace validator.scanner) id := by
  unfold resumed turn
  fun_cases Validator.runFrom stage validator with
  | case1 expected refused => simp [refused]
  | case2 finished error failed => simp [finished, failed, Awaiting.trace]
  | case3 finished token read => simp [finished, read, Awaiting.trace, Validator.reports]
  | case4 next moved error failed => simp [moved, failed, Awaiting.trace]
  | case5 next moved token read _ rest =>
      simp [moved, read, Awaiting.trace, Validator.reports, resumed, rest]

theorem checking_keeps : checking.Keeps Awaiting.trace := by
  intro awaiting scanner
  cases read : scanner.next.outcome with
  | error error => cases awaiting <;> simp [Awaiting.trace, checking, read]
  | ok token =>
      simp only [Awaiting.trace, checking, read]
      cases awaiting with
      | first => exact resumed_turn _ _ _
      | next stage reported => exact resumed_turn _ _ _
      | last reported => rfl

-- How often a check may still go on behind a final outcome.
def Awaiting.spare : Awaiting → Nat
  | .first | .next _ _ => 1
  | .last _ => 0

theorem turn_spends {stage : Stage} {reported : List Event} {lookahead : Token} {later : Awaiting}
    (more : turn stage reported lookahead = .more later) :
    later.spare ≤ 1 ∧ (lookahead.kind = .endOfText → later.spare < 1) := by
  cases moved : stage.move lookahead.kind with
  | refuse expected => simp [turn, moved] at more
  | finish =>
      simp only [turn, moved] at more
      cases more
      simp [Awaiting.spare]
  | proceed next =>
      simp only [turn, moved] at more
      cases more
      -- No stage goes on with the end marker.
      exact ⟨Nat.le_refl 1, fun ends => absurd ends (Stage.ne_endOfText_of_proceed moved)⟩

theorem checking_thrifty : checking.Thrifty Awaiting.spare := by
  intro awaiting outcome later more
  cases outcome with
  | error error => cases awaiting <;> cases more
  | ok token =>
      cases awaiting with
      | first => exact turn_spends more
      | next stage reported => exact turn_spends more
      | last reported => cases more

end Query

def Event.scanned? : Event → Option Token
  | .scanned token => some token
  | _ => none

def scannedTokens (events : List Event) : List Token := events.filterMap Event.scanned?

@[simp]
theorem scannedTokens_append (front back : List Event) :
    scannedTokens (front ++ back) = scannedTokens front ++ scannedTokens back :=
  List.filterMap_append

@[simp]
theorem scannedTokens_reports (token : Token) :
    scannedTokens (Validator.reports [token]) = [token] := rfl

namespace Query

@[simp]
theorem scannedTokens_concluded (reported : List Event) (outcome : Except QueryError Unit) :
    scannedTokens (concluded reported outcome).events = scannedTokens reported := by
  have none : scannedTokens [Validator.verdict outcome] = [] := by cases outcome <;> rfl
  rw [concluded, scannedTokens_append, none, List.append_nil]

def Awaiting.reported : Awaiting → List Event
  | .first => []
  | .next _ reported | .last reported => reported

theorem turn_reports (stage : Stage) {reported : List Event} (lookahead : Token)
    {tokens : List Token} (scanned : scannedTokens reported = tokens) :
    (turn stage reported lookahead).elim (fun later => scannedTokens later.reported = tokens)
      (fun trace => scannedTokens trace.events = tokens) := by
  unfold turn
  split
  · exact (scannedTokens_concluded _ _).trans scanned
  · exact scanned
  · exact scanned

theorem checking_reports : checking.Reports
    (fun front awaiting => scannedTokens awaiting.reported = front)
    (fun front trace => scannedTokens trace.events = front) := by
  rintro _ awaiting outcome rfl
  cases outcome with
  | error error => cases awaiting <;> simp [checking, Except.toOption, Awaiting.reported]
  | ok token =>
      cases awaiting with
      | first => exact turn_reports .query token rfl
      | next stage reported =>
          exact turn_reports stage token (by simp [Except.toOption, Awaiting.reported])
      | last reported => simp [checking, Except.toOption, Awaiting.reported]

end Query

end Checking

/-- A call never lengthens the unread text, and shortens it unless it gives the end marker or a
fault. So the calls up to the first of these are at most one more than the characters of the
text. A listing makes no more calls than that, and writes no tokens but those that they give; a
check makes at most one more, and reports each token that its calls give. -/
theorem every_loop_ends (query : String) :
    (∀ scanner : Scanner, scanner.next.after.unread.length ≤ scanner.unread.length ∧
      ∀ token, scanner.next.outcome = .ok token → token.kind ≠ .endOfText →
        scanner.next.after.unread.length < scanner.unread.length) ∧
    let scanner := Scanner.ofText query
    (∃ count ≤ query.length, Final (scanner.afterCalls count).next.outcome ∧
      ∀ earlier < count, ¬ Final (scanner.afterCalls earlier).next.outcome) ∧
    (∀ files source style room, source.load files = .ok (some query) →
      ∃ calls ≤ query.length + 1,
        (∀ made result, (listing style).Gives ⟨room, []⟩ scanner made result ↔
          made = calls ∧ result = listTokens files source style room) ∧
        (scanner.given calls).length ≤ query.length + 1 ∧
        (listTokens files source style room).written <+:
          (scanner.given calls).flatMap (Token.line style)) ∧
    ∃ calls ≤ query.length + 2,
      (∀ made result, Query.checking.Gives .first scanner made result ↔
        made = calls ∧ result = Query.trace query) ∧
      scannedTokens (Query.trace query).events = scanner.given calls := by
  refine ⟨fun scanner => ⟨scanner.length_next_le, fun _ => Scanner.length_next_lt⟩, ?_⟩
  intro scanner
  have size : scanner.unread.length = query.length := String.length_toList
  refine ⟨?_, ?_, ?_⟩
  · rw [← size]
    exact scanner.final_soon
  · intro files source style room loaded
    have listed : listTokens files source style room = Sink.listed style ⟨room, []⟩ scanner := by
      rw [listTokens_loaded loaded, listText_streamed]
      rfl
    obtain ⟨calls, bound, gives⟩ :=
      (listing_thrifty style).gives (listing_keeps style) ⟨room, []⟩ scanner
    rw [size] at bound
    rw [listed]
    exact ⟨calls, bound, gives.unique, (scanner.length_given_le calls).trans bound,
      gives.reports (listing_reports style) [] rfl⟩
  · obtain ⟨calls, bound, gives⟩ :=
      Query.checking_thrifty.gives Query.checking_keeps .first scanner
    rw [size] at bound
    rw [Query.trace_first]
    exact ⟨calls, bound, gives.unique, gives.reports Query.checking_reports [] rfl⟩

/-- A listing that a fault ends, of a text that a file holds, and the check of the same text. -/
theorem loops_end_at_fault :
    let scanner := Scanner.ofText "a $"
    let files : Files := fun _ => .ok (Text.utf8 "a $")
    let source : Source := ⟨none, some "query"⟩
    scanner.next.outcome = .ok ⟨.identifier, ⟨0, 0⟩, some (.text "a")⟩ ∧
    Kind.identifier ≠ .endOfText ∧
    scanner.next.after.unread.length < scanner.unread.length ∧
    source.load files = .ok (some "a $") ∧
    (∃ calls ≤ 4,
      (∀ made result, (listing .plain).Gives ⟨none, []⟩ scanner made result ↔
        made = calls ∧ result =
          ⟨Text.utf8 "0:0 #29 identifier a\n", some (.lexical ⟨.illegalCharacter '$', ⟨0, 2⟩⟩)⟩) ∧
      Text.utf8 "0:0 #29 identifier a\n" <+: (scanner.given calls).flatMap (Token.line .plain)) ∧
    ∃ calls ≤ 5, ∀ made result, Query.checking.Gives .first scanner made result ↔
      made = calls ∧ result = Query.trace "a $" := by
  intro scanner files source
  have read : scanner.next.outcome = .ok ⟨.identifier, ⟨0, 0⟩, some (.text "a")⟩ := rfl
  have loaded : source.load files = .ok (some "a $") := by rfl
  have listed : listTokens files source .plain none =
      ⟨Text.utf8 "0:0 #29 identifier a\n", some (.lexical ⟨.illegalCharacter '$', ⟨0, 2⟩⟩)⟩ := by
    decide +kernel
  obtain ⟨progress, -, lists, calls, bound, checks, -⟩ := every_loop_ends "a $"
  obtain ⟨listingCalls, listingBound, lists, -, written⟩ := lists files source .plain none loaded
  rw [listed] at lists written
  exact ⟨read, by decide, (progress scanner).2 _ read (by decide), loaded,
    ⟨listingCalls, listingBound, lists, written⟩, calls, bound, checks⟩

end QueryCheck
