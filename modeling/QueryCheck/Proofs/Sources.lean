import QueryCheck.Command.Report
import QueryCheck.Proofs.Delivery

/-!
Where a query comes from does not matter. An argument, a file and standard input with the
same text give the same query, the empty one included, so a command shows the same of it. The
demonstration query and the failure without a query are for runs that name no query at all.
-/
namespace QueryCheck

/-- The ways a text reaches a command: as an argument, whatever the file and standard input
are; in the file named, whatever standard input is; or on standard input, with no argument
and no file. -/
inductive Delivers (surroundings : Surroundings) (query : String) : Source → Prop where
  | argument (file : Option String) : Delivers surroundings query ⟨some query, file⟩
  | file {path : String} :
      surroundings.files path = .ok (Text.utf8 query) →
        Delivers surroundings query ⟨none, some path⟩
  | input :
      surroundings.input = some (Text.utf8 query) → Delivers surroundings query ⟨none, none⟩

theorem readFile_utf8 {files : Files} {path query : String}
    (contents : files path = .ok (Text.utf8 query)) : Source.readFile files path = .ok query := by
  simp only [Source.readFile, contents, Text.ofUtf8?_utf8]

theorem Delivers.loaded {surroundings : Surroundings} {query : String} {source : Source}
    (delivers : Delivers surroundings query source) :
    ∃ completed, surroundings.complete source = .ok completed ∧
      completed.load surroundings.files = .ok (some query) := by
  cases delivers with
  | argument file => exact ⟨⟨some query, file⟩, by simp [Surroundings.complete], rfl⟩
  | @file path contents =>
      refine ⟨⟨none, some path⟩, by simp [Surroundings.complete], ?_⟩
      simp only [Source.load, readFile_utf8 contents]
      rfl
  | input piped =>
      refine ⟨⟨some query, none⟩, ?_, rfl⟩
      simp only [Surroundings.complete, piped, Text.ofUtf8?_utf8]

theorem check_loaded {files : Files} {source : Source} {query : String}
    (loaded : source.load files = .ok (some query)) :
    check files source = .ok { Query.trace query with
      events := .validating query :: (Query.trace query).events } := by
  rw [check, loaded]
  rfl

theorem listTokens_loaded {files : Files} {source : Source} {query : String}
    (loaded : source.load files = .ok (some query)) (style : ListingStyle) (room : Option Nat) :
    listTokens files source style room = listText style room query := by
  simp only [listTokens, loaded]

namespace Report

/-- What the check shows of a query. -/
def ofVerdict : Except QueryError Unit → Report
  | .ok () => { output := Text.utf8 "VALID\n" }
  | .error error => { exit := 1, output := Text.utf8 ("INVALID: " ++ error.message ++ "\n") }

/-- What a listing shows of a query: the lines of the tokens in front of a fault, and the
fault. -/
def ofScan (style : ListingStyle) (scan : Scan) : Report :=
  let lines := scan.tokens.flatMap (Token.line style)
  match scan.error with
  | none => { output := lines }
  | some error => { exit := 1, output := lines, diagnostics := error.message ++ "\n" }

theorem ofVerdict_exit (verdict : Except QueryError Unit) :
    (ofVerdict verdict).exit = 0 ↔ verdict = .ok () := by
  cases verdict with
  | ok _ => simp [ofVerdict]
  | error error => simp [ofVerdict]

theorem ofScan_exit (style : ListingStyle) (scan : Scan) :
    (ofScan style scan).exit = 0 ↔ scan.error = none := by
  cases ended : scan.error with
  | none => simp [ofScan, ended]
  | some error => simp [ofScan, ended]

theorem ofCheck_trace (trace : Query.Trace) :
    { ofCheck (.ok trace) with log := [] } = ofVerdict trace.outcome := by
  simp only [ofCheck]
  cases trace.outcome <;> rfl

theorem ofListing_text (style : ListingStyle) (query : String) :
    ofListing (listText style none query) = ofScan style (Scan.ofText query) := by
  rw [listText_unlimited, ofListing, ofScan]
  cases (Scan.ofText query).error <;> rfl

theorem ofArguments_quiet {surroundings : Surroundings} {arguments : List String}
    {command : Command} (asked : Request.ofArguments arguments = .ok (.run command false)) :
    ofArguments surroundings arguments = { ofCommand surroundings command with log := [] } := by
  simp only [ofArguments, asked]
  rfl

theorem check_delivered {surroundings : Surroundings} {query : String} {source : Source}
    {arguments : List String} (delivers : Delivers surroundings query source)
    (asked : Request.ofArguments arguments = .ok (.run (.check source) false)) :
    ofArguments surroundings arguments = ofVerdict (Query.validate query) := by
  obtain ⟨completed, completes, loaded⟩ := delivers.loaded
  have checked : (surroundings.complete source >>= check surroundings.files) =
      check surroundings.files completed := by
    rw [completes]
    rfl
  rw [ofArguments_quiet asked, ofCommand, checked, check_loaded loaded]
  exact ofCheck_trace _

theorem listing_delivered {surroundings : Surroundings} {query : String} {source : Source}
    {style : ListingStyle} {arguments : List String}
    (delivers : Delivers surroundings query source)
    (asked : Request.ofArguments arguments = .ok (.run (.tokens source style) false)) :
    ofArguments surroundings arguments = ofScan style (Scan.ofText query) := by
  obtain ⟨completed, completes, loaded⟩ := delivers.loaded
  rw [ofArguments_quiet asked, ofCommand, completes]
  dsimp only
  rw [listTokens_loaded loaded, ofListing_text, ofScan]
  cases (Scan.ofText query).error <;> rfl

end Report

/-- A run of the check or of a listing that asks for no log shows what its query gives, and
which way the query was delivered makes no difference to it. -/
theorem delivery_immaterial (query : String) :
    (∀ surroundings source, Delivers surroundings query source →
      (surroundings.complete source >>= Source.load surroundings.files) = .ok (some query)) ∧
    (∀ surroundings source arguments, Delivers surroundings query source →
      Request.ofArguments arguments = .ok (.run (.check source) false) →
      Report.ofArguments surroundings arguments = .ofVerdict (Query.validate query)) ∧
    (∀ surroundings source style arguments, Delivers surroundings query source →
      Request.ofArguments arguments = .ok (.run (.tokens source style) false) →
      Report.ofArguments surroundings arguments = .ofScan style (Scan.ofText query)) ∧
    ((Report.ofVerdict (Query.validate query)).exit = 0 ↔ Query.validate query = .ok ()) ∧
    ∀ style, (Report.ofScan style (Scan.ofText query)).exit = 0 ↔
      ∃ token ∈ (Scan.ofText query).tokens, token.kind = .endOfText := by
  refine ⟨?_, ?_, ?_, Report.ofVerdict_exit _, fun style => ?_⟩
  · intro surroundings source delivers
    obtain ⟨completed, completes, loaded⟩ := delivers.loaded
    rw [completes]
    exact loaded
  · intro surroundings source arguments delivers asked
    exact Report.check_delivered delivers asked
  · intro surroundings source style arguments delivers asked
    exact Report.listing_delivered delivers asked
  · exact (Report.ofScan_exit style _).trans (Scanner.ofText query).scan_ends

theorem delivery_of_empty_text :
    let piped : Surroundings := ⟨some (Text.utf8 ""), fun _ => .error .missing⟩
    let stored : Surroundings := ⟨some [0xff], fun _ => .ok (Text.utf8 "")⟩
    let refused : Report :=
      { exit := 1, output := Text.utf8 "INVALID: Expected SELECT but found: #0\n" }
    let listed : Report := .ofScan .json ⟨[⟨.endOfText, ⟨0, 0⟩, none⟩], none⟩
    (Delivers piped "" ⟨some "", some "query"⟩ ∧
      Request.ofArguments ["check", "", "--file", "query"] =
        .ok (.run (.check ⟨some "", some "query"⟩) false) ∧
      Report.ofArguments piped ["check", "", "--file", "query"] = refused) ∧
    (Delivers stored "" ⟨none, some "query"⟩ ∧
      Request.ofArguments ["check", "-f", "query"] =
        .ok (.run (.check ⟨none, some "query"⟩) false) ∧
      Report.ofArguments stored ["check", "-f", "query"] = refused ∧
      Request.ofArguments ["tokens", "--json", "-fquery"] =
        .ok (.run (.tokens ⟨none, some "query"⟩ .json) false) ∧
      Report.ofArguments stored ["tokens", "--json", "-fquery"] = listed) ∧
    Delivers piped "" ⟨none, none⟩ ∧
      Request.ofArguments ["check"] = .ok (.run (.check ⟨none, none⟩) false) ∧
      Report.ofArguments piped ["check"] = refused ∧
      Request.ofArguments ["tokens", "--json"] = .ok (.run (.tokens ⟨none, none⟩ .json) false) ∧
      Report.ofArguments piped ["tokens", "--json"] = listed := by
  intro piped stored refused listed
  obtain ⟨-, checked, scanned, -⟩ := delivery_immaterial ""
  have verdict : Report.ofVerdict (Query.validate "") = refused := by
    have outcome : Query.validate "" =
        .error (.unexpected .select ⟨.endOfText, ⟨0, 0⟩, none⟩) := by decide +kernel
    rw [outcome]
    rfl
  have read : (Scanner.ofText "").next.outcome = .ok ⟨.endOfText, ⟨0, 0⟩, none⟩ := rfl
  have scan : Scan.ofText "" = ⟨[⟨.endOfText, ⟨0, 0⟩, none⟩], none⟩ := Scanner.scan_end read rfl
  rw [verdict] at checked
  rw [scan] at scanned
  have argument : Delivers piped "" ⟨some "", some "query"⟩ := .argument _
  have file : Delivers stored "" ⟨none, some "query"⟩ := .file rfl
  have input : Delivers piped "" ⟨none, none⟩ := .input rfl
  have askedArgument : Request.ofArguments ["check", "", "--file", "query"] =
      .ok (.run (.check ⟨some "", some "query"⟩) false) := by decide +kernel
  have askedFile : Request.ofArguments ["check", "-f", "query"] =
      .ok (.run (.check ⟨none, some "query"⟩) false) := by decide +kernel
  have askedInput : Request.ofArguments ["check"] =
      .ok (.run (.check ⟨none, none⟩) false) := by decide +kernel
  have listedFile : Request.ofArguments ["tokens", "--json", "-fquery"] =
      .ok (.run (.tokens ⟨none, some "query"⟩ .json) false) := by decide +kernel
  have listedInput : Request.ofArguments ["tokens", "--json"] =
      .ok (.run (.tokens ⟨none, none⟩ .json) false) := by decide +kernel
  exact ⟨⟨argument, askedArgument, checked _ _ _ argument askedArgument⟩,
    ⟨file, askedFile, checked _ _ _ file askedFile, listedFile,
      scanned _ _ _ _ file listedFile⟩,
    input, askedInput, checked _ _ _ input askedInput, listedInput,
      scanned _ _ _ _ input listedInput⟩

end QueryCheck
