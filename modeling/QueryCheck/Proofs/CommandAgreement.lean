import QueryCheck.Proofs.Acceptance
import QueryCheck.Proofs.Delivery
import QueryCheck.Proofs.Places

/-!
The check and the listing agree. Both read the same tokens, the listing up to the end or
the first lexical error, the check no further than the first token refused; so a refused
token is one of those listed, and it stands in front of the error that ends the listing.
-/
namespace QueryCheck

namespace Scanner

theorem fault_behind {scanner : Scanner} {error : LexicalError}
    (failed : scanner.scan.error = some error) :
    ∃ passed, error.place = scanner.cursor.after passed := by
  induction scanner using steps.induct with
  | case1 scanner other first =>
      rw [scan_fault first] at failed
      cases failed
      obtain ⟨_, -, -, place⟩ := next_failed first
      exact ⟨_, place.trans (skipBlanks_passes scanner).cursor⟩
  | case2 scanner token read ends =>
      rw [scan_end read ends] at failed
      cases failed
  | case3 scanner token read proper _ ih =>
      rw [scan_token read proper] at failed
      obtain ⟨passed, place⟩ := ih failed
      obtain ⟨lexeme, -, -, taken, -⟩ := next_token read proper
      have path := (skipBlanks_passes scanner).trans taken
      exact ⟨_, by rw [place, path.cursor, ← Position.after_append]⟩

-- Every token scanned before a fault stands in front of it.
theorem tokens_before_fault {scanner : Scanner} {error : LexicalError}
    (failed : scanner.scan.error = some error) :
    ∀ token ∈ scanner.scan.tokens, token.place.Before error.place := by
  induction scanner using steps.induct with
  | case1 scanner other first =>
      rw [scan_fault first]
      simp
  | case2 scanner token read ends =>
      rw [scan_end read ends] at failed
      cases failed
  | case3 scanner token read proper _ ih =>
      rw [scan_token read proper] at failed ⊢
      refine List.forall_mem_cons.mpr ⟨?_, ih failed⟩
      obtain ⟨passed, place⟩ := fault_behind failed
      obtain ⟨lexeme, isLexeme, -, taken, -⟩ := next_token read proper
      rw [next_place read, place, taken.cursor, ← Position.after_append]
      exact Position.after_before _ (by simp [isLexeme.ne_nil])

end Scanner

theorem FirstViolation.mem {tokens : List Token} {found : Token}
    (violation : FirstViolation tokens found) : found ∈ tokens := by
  obtain ⟨_, here, -⟩ := violation
  exact List.mem_of_getElem? here

theorem check_outcome (files : Files) (file : Option String) (query : String) :
    ∃ trace, check files ⟨some query, file⟩ = .ok trace ∧
      trace.outcome = Query.validate query :=
  ⟨_, rfl, rfl⟩

theorem validate_faulted {query : String} {error : LexicalError}
    (failed : (Scan.ofText query).error = some error) :
    Query.validate query = .error (.lexical error) ∨
      ∃ expected found, Query.validate query = .error (.unexpected expected found) ∧
        found.place.Before error.place := by
  have explained := validate_explained query
  rcases verdict : Query.validate query with (fault | ⟨expected, found⟩) | _
  · rw [verdict] at explained
    cases explained.1.symm.trans failed
    exact .inl rfl
  · rw [verdict] at explained
    exact .inr ⟨expected, found, rfl, Scanner.tokens_before_fault failed found explained.mem⟩
  · rw [verdict] at explained
    cases explained.1.symm.trans failed

/-- What the check finds and what the listing says are about the same tokens. -/
theorem check_and_listing_agree (files : Files) (file : Option String) (query : String)
    (style : ListingStyle) :
    let listing := listTokens files ⟨some query, file⟩ style none
    ∃ trace, check files ⟨some query, file⟩ = .ok trace ∧
      (trace.outcome = .ok () → listing.error = none) ∧
      (∀ error, trace.outcome = .error (.lexical error) →
        listing.error = some (.lexical error)) ∧
      (∀ error, listing.error = some (.lexical error) →
        trace.outcome = .error (.lexical error) ∨
          ∃ expected found, trace.outcome = .error (.unexpected expected found) ∧
            found.place.Before error.place) ∧
      ∀ expected found, trace.outcome = .error (.unexpected expected found) →
        ∃ front back, (Scan.ofText query).tokens = front ++ found :: back ∧
          listing.written = front.flatMap (Token.line style) ++ found.line style ++
            back.flatMap (Token.line style) := by
  obtain ⟨trace, checked, outcome⟩ := check_outcome files file query
  have explained := validate_explained query
  dsimp only
  rw [listTokens_unlimited]
  refine ⟨trace, checked, ?_, ?_, ?_, ?_⟩ <;> rw [outcome]
  · intro accepted
    rw [accepted] at explained
    rw [explained.1, Option.map_none]
  · intro error faulted
    rw [faulted] at explained
    rw [explained.1, Option.map_some]
  · intro error failed
    obtain ⟨found, ending, same⟩ := Option.map_eq_some_iff.mp failed
    cases same
    exact validate_faulted ending
  · intro expected found refused
    rw [refused] at explained
    obtain ⟨front, back, split⟩ := List.mem_iff_append.mp explained.mem
    refine ⟨front, back, split, ?_⟩
    rw [split, List.flatMap_append, List.flatMap_cons, List.append_assoc]

/-- A refused token with a lexical error behind it, a query with no fault, and a text that
is one. -/
theorem agreement_on_three_texts :
    let files : Files := fun _ => .error .missing
    let found : Token := ⟨.fromKeyword, ⟨0, 10⟩, none⟩
    let listing := listTokens files ⟨some "SELECT a, FROM t $", none⟩ .plain none
    ((∃ trace, check files ⟨some "SELECT a, FROM t $", none⟩ = .ok trace ∧
        trace.outcome = .error (.unexpected .columnAfterComma found)) ∧
      listing.error = some (.lexical ⟨.illegalCharacter '$', ⟨0, 17⟩⟩) ∧
      found.place.Before ⟨0, 17⟩ ∧
      ∃ front back, listing.written = front ++ found.line .plain ++ back) ∧
    ((∃ trace, check files ⟨some "SELECT * FROM t", none⟩ = .ok trace ∧ trace.outcome = .ok ()) ∧
      (listTokens files ⟨some "SELECT * FROM t", none⟩ .json none).error = none) ∧
    (∃ trace, check files ⟨some "$", none⟩ = .ok trace ∧
        trace.outcome = .error (.lexical ⟨.illegalCharacter '$', ⟨0, 0⟩⟩)) ∧
      (listTokens files ⟨some "$", none⟩ .json none).error =
        some (.lexical ⟨.illegalCharacter '$', ⟨0, 0⟩⟩) := by
  intro files found listing
  have failed : listing.error = some (.lexical ⟨.illegalCharacter '$', ⟨0, 17⟩⟩) := by
    decide +kernel
  obtain ⟨trace, checked, -, -, located, listed⟩ :=
    check_and_listing_agree files none "SELECT a, FROM t $" .plain
  obtain ⟨valid, checkedValid, accepted, -⟩ :=
    check_and_listing_agree files none "SELECT * FROM t" .json
  obtain ⟨faulty, checkedFaulty, -, faulted, -⟩ := check_and_listing_agree files none "$" .json
  have outcome : trace.outcome = .error (.unexpected .columnAfterComma found) := by
    cases checked
    decide +kernel
  have outcomeValid : valid.outcome = .ok () := by
    cases checkedValid
    decide +kernel
  have outcomeFaulty : faulty.outcome =
      .error (.lexical ⟨.illegalCharacter '$', ⟨0, 0⟩⟩) := by
    cases checkedFaulty
    decide +kernel
  refine ⟨⟨⟨trace, checked, outcome⟩, failed, ?_, ?_⟩,
    ⟨⟨valid, checkedValid, outcomeValid⟩, accepted outcomeValid⟩,
    ⟨faulty, checkedFaulty, outcomeFaulty⟩, faulted _ outcomeFaulty⟩
  · rcases located _ failed with lexical | ⟨_, _, refused, before⟩
    · cases outcome.symm.trans lexical
    · cases outcome.symm.trans refused
      exact before
  · obtain ⟨front, back, -, written⟩ := listed _ _ outcome
    exact ⟨_, _, written⟩

end QueryCheck
