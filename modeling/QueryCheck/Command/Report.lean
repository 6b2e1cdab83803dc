import QueryCheck.Command.Arguments

/-! Running a command line, and all the texts that a run shows. -/
namespace QueryCheck

/-! The version and the help texts. -/

def versionText : String := "oaql 0.1.0\n"

namespace Topic

def programHelp : String :=
"OAQL - scan and validate SQL-like queries for document stores

Usage: oaql [OPTIONS] <COMMAND>

Commands:
  check    Validate a query
  tokens   Print the tokens of a query
  grammar  Show the accepted grammar and token codes
  help     Print this message or the help of the given subcommand(s)

Options:
  -v, --verbose  Log scanner and parser activity to stderr
  -h, --help     Print help
  -V, --version  Print version
"

def checkHelp : String :=
"Validate a query

Usage: oaql check [OPTIONS] [QUERY]

Arguments:
  [QUERY]  The query (reads --file or stdin if not provided)

Options:
  -f, --file <FILE>  Read the query from a file
  -v, --verbose      Log scanner and parser activity to stderr
  -h, --help         Print help
"

def tokensHelp : String :=
"Print the tokens of a query

Usage: oaql tokens [OPTIONS] [QUERY]

Arguments:
  [QUERY]  The query (reads --file or stdin if not provided)

Options:
  -f, --file <FILE>  Read the query from a file
  -v, --verbose      Log scanner and parser activity to stderr
      --json         Emit one JSON object per token
  -h, --help         Print help
"

def grammarHelp : String :=
"Show the accepted grammar and token codes

Usage: oaql grammar [OPTIONS]

Options:
  -v, --verbose  Log scanner and parser activity to stderr
  -h, --help     Print help
"

def helpHelp : String :=
"Print this message or the help of the given subcommand(s)

Usage: oaql help [COMMAND]...

Arguments:
  [COMMAND]...  Print help for the subcommand(s)
"

def helpText : Topic → String
  | .program => programHelp
  | .check => checkHelp
  | .tokens => tokensHelp
  | .grammar => grammarHelp
  | .help => helpHelp

end Topic

/-! The reference text on the accepted grammar and the token codes. -/

namespace Reference

def overview : String :=
"OAQL GRAMMAR

OAQL is a small SQL-like query language. Comparisons are translated into
document-store operators while the query is scanned.

ACCEPTED QUERIES

  query     := SELECT [DISTINCT] selection FROM name [WHERE condition]
  selection := * | name (, name)*
  condition := group ((AND | OR | XOR) group)*
  group     := operand OPERATOR operand
  operand   := name | \"string\" | number | TRUE | FALSE | NULL
  name      := identifier | alias.column

  AND, OR and XOR have equal weight and are read left to right.
  Keywords are case-insensitive. Identifiers may contain '-'.

EXAMPLES

  oaql check 'SELECT * FROM users'
  oaql check 'SELECT DISTINCT u.name FROM users WHERE u.age >= 18 AND active = TRUE'
  oaql tokens --json 'SELECT name FROM users WHERE name <> \"bob\"'
"

def reserved : String :=
"
RESERVED BUT NOT YET ACCEPTED

  JOIN ON AS NOT IN IS BETWEEN ORDER BY LIMIT LIKE ASC DESC ( )

  The scanner recognises these, so the words cannot be used as names,
  but any query containing them is rejected.
"

def padded (width : Nat) (text : String) : String :=
  text ++ String.ofList (List.replicate (width - text.length) ' ')

def comparisonLine (comparison : Comparison) : String :=
  "  " ++ padded 4 comparison.symbol ++ " " ++ comparison.mnemonic ++ "\n"

def kindLine (kind : Kind) : String :=
  "  #" ++ padded 3 (toString kind.code) ++ " " ++ kind.label ++ "\n"

def text : String :=
  overview ++
  "\nCOMPARISON OPERATORS\n\n" ++ String.join (Comparison.longestFirst.map comparisonLine) ++
  "\nTOKEN CODES\n\n" ++ String.join (Kind.all.map kindLine) ++
  reserved

end Reference

/-! Running a command line. Everything it can depend on is an argument here, and
everything it shows is part of the report, so that a run is a function. There is no
standard input where that is a terminal. -/

structure Surroundings where
  input : Option (List UInt8)
  files : Files

structure Report where
  exit : Nat := 0
  output : List UInt8 := []
  diagnostics : String := ""
  log : List Event := []

namespace Surroundings

/-- The source of a command on the command line: standard input stands in for a query
when neither an argument nor a file is given. -/
def complete (surroundings : Surroundings) (source : Source) : Except CommandError Source :=
  match source.query, source.file, surroundings.input with
  | none, none, some bytes =>
      match Text.ofUtf8? bytes with
      | some text => .ok { source with query := some text }
      | none => .error (.stream .notUtf8)
  | _, _, _ => .ok source

end Surroundings

namespace Report

def failure (error : CommandError) (output : List UInt8) : Report :=
  { exit := 1, output := output, diagnostics := error.message ++ "\n" }

def ofCheck : Except CommandError Query.Trace → Report
  | .error error => failure error []
  | .ok trace =>
      match trace.outcome with
      | .ok () => { output := Text.utf8 "VALID\n", log := trace.events }
      | .error error =>
          { exit := 1, output := Text.utf8 ("INVALID: " ++ error.message ++ "\n"),
            log := trace.events }

def ofListing (listing : ListingResult) : Report :=
  match listing.error with
  | none => { output := listing.written }
  | some error => failure error listing.written

def ofCommand (surroundings : Surroundings) : Command → Report
  | .check source =>
      ofCheck (surroundings.complete source >>= check surroundings.files)
  | .tokens source style =>
      match surroundings.complete source with
      | .error error => failure error []
      | .ok source => ofListing (listTokens surroundings.files source style none)
  | .grammar => { output := Text.utf8 Reference.text }

def ofArguments (surroundings : Surroundings) (arguments : List String) : Report :=
  match Request.ofArguments arguments with
  | .error error =>
      { exit := 2, diagnostics := error.message ++ "\n\n" ++ Topic.program.helpText }
  | .ok .version => { output := Text.utf8 versionText }
  | .ok (.help topic) => { output := Text.utf8 topic.helpText }
  | .ok (.run command verbose) =>
      let report := ofCommand surroundings command
      { report with log := if verbose then report.log else [] }

end Report

end QueryCheck
