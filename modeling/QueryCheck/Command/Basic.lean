import QueryCheck.Dump
import QueryCheck.Query

/-! The commands that work on a query, where they find it, and why they fail. -/
namespace QueryCheck

/-! Why a command fails. A text that is not a query is no failure of the check: these are
the faults that keep a command from doing its work. A stream fails when standard input
cannot be read or a line cannot be written, a record when a JSON object cannot. -/

inductive StreamFault where
  | missing
  | directory
  | notUtf8
  | sinkFull
  | system (reason : String)
  deriving DecidableEq

def StreamFault.describe : StreamFault → String
  | .missing => "No such file or directory (os error 2)"
  | .directory => "Is a directory (os error 21)"
  | .notUtf8 => "stream did not contain valid UTF-8"
  | .sinkFull => "sink full"
  | .system reason => reason

inductive CommandError where
  | lexical (error : LexicalError)
  | stream (fault : StreamFault)
  | file (path : String) (fault : StreamFault)
  | record (fault : StreamFault)
  | noQuery
  deriving DecidableEq

def CommandError.message : CommandError → String
  | .lexical error => error.message
  | .stream fault => "IO error: " ++ fault.describe
  | .file path fault => "Cannot read " ++ path ++ ": " ++ fault.describe
  | .record fault => "Invalid JSON: " ++ fault.describe
  | .noQuery => "No query provided. Pass it as an argument, use --file, or pipe it to stdin."

/-! Where a command finds its query: in an argument, which wins, in a file, or nowhere. -/

abbrev Files := String → Except StreamFault (List UInt8)

structure Source where
  query : Option String := none
  file : Option String := none
  deriving DecidableEq

namespace Source

def readFile (files : Files) (path : String) : Except CommandError String :=
  match files path with
  | .error fault => .error (.file path fault)
  | .ok bytes =>
      match Text.ofUtf8? bytes with
      | some text => .ok text
      | none => .error (.file path .notUtf8)

def load (files : Files) (source : Source) : Except CommandError (Option String) :=
  match source.query, source.file with
  | some query, _ => .ok (some query)
  | none, some path => (readFile files path).map some
  | none, none => .ok none

end Source

/-! The commands that work on a query. Without any query the check takes a demonstration
query, and the listing fails. -/

def demoQuery : String := "SELECT name, age FROM users WHERE age >= 18"

def check (files : Files) (source : Source) : Except CommandError Query.Trace :=
  (source.load files).map fun found =>
    let query := found.getD demoQuery
    let trace := Query.trace query
    { trace with events := .validating query :: trace.events }

structure ListingResult where
  written : List UInt8
  error : Option CommandError
  deriving DecidableEq

def Role.error : Role → CommandError
  | .record => .record .sinkFull
  | .line => .stream .sinkFull

/-- List the tokens of a text into a sink. Each token is written before the next one is
read, so a full sink is reported before a lexical error further on. -/
def listText (style : ListingStyle) (room : Option Nat) (query : String) : ListingResult :=
  let scan := Scan.ofText query
  let delivery := deliver room (scan.chunks style)
  ⟨delivery.written, (delivery.failed.map Role.error).or (scan.error.map .lexical)⟩

def listTokens (files : Files) (source : Source) (style : ListingStyle) (room : Option Nat) :
    ListingResult :=
  match source.load files with
  | .error error => ⟨[], some error⟩
  | .ok none => ⟨[], some .noQuery⟩
  | .ok (some query) => listText style room query

end QueryCheck
