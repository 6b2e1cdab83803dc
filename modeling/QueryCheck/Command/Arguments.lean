import QueryCheck.Command.Basic

/-! The command line. Arguments are taken from left to right and the first problem
decides; a request for help or for the version is met as soon as it is read. Options
may stand before or behind the query, a flag may be given once at each level, and
everything behind `--` is a query. -/
namespace QueryCheck

inductive Command where
  | check (source : Source)
  | tokens (source : Source) (style : ListingStyle)
  | grammar
  deriving DecidableEq

inductive Topic where
  | program
  | check
  | tokens
  | grammar
  | help
  deriving DecidableEq

inductive Request where
  | run (command : Command) (verbose : Bool)
  | help (topic : Topic)
  | version
  deriving DecidableEq

inductive UsageError where
  | unexpectedArgument (argument : String)
  | unknownCommand (name : String)
  | missingCommand
  | missingValue (option : String)
  | unexpectedValue (option : String)
  | repeated (option : String)
  deriving DecidableEq

def UsageError.message : UsageError → String
  | .unexpectedArgument argument => "error: unexpected argument '" ++ argument ++ "' found"
  | .unknownCommand name => "error: unrecognized subcommand '" ++ name ++ "'"
  | .missingCommand => "error: a subcommand is required"
  | .missingValue option => "error: a value is required for '" ++ option ++ "'"
  | .unexpectedValue option => "error: no value is expected for '" ++ option ++ "'"
  | .repeated option => "error: the argument '" ++ option ++ "' cannot be used multiple times"

/-- Reading ends before the last argument. -/
inductive Halt where
  | answer (request : Request)
  | refuse (error : UsageError)
  deriving DecidableEq

inductive Argument where
  | terminator
  | long (name : String) (value : Option String)
  | short (letters : List Char)
  | plain
  deriving DecidableEq

def Argument.ofString (argument : String) : Argument :=
  match argument.toList with
  | ['-', '-'] => .terminator
  | '-' :: '-' :: body =>
      let name := body.takeWhile (· ≠ '=')
      match body.drop name.length with
      | [] => .long (String.ofList name) none
      | _ :: value => .long (String.ofList name) (some (String.ofList value))
  | '-' :: c :: letters => .short (c :: letters)
  | _ => .plain

/-- What has been read so far. The topic is `program` before the subcommand, `verboseHere`
is about the present level alone, `literal` is set behind `--`, and `awaitingFile` behind
a `--file` that still lacks its path. -/
structure CommandLine where
  topic : Topic := .program
  helpTopic : Topic := .program
  verbose : Bool := false
  verboseHere : Bool := false
  source : Source := {}
  json : Bool := false
  literal : Bool := false
  awaitingFile : Bool := false
  deriving DecidableEq

namespace Topic

def ofName? (name : String) : Option Topic :=
  if name = "check" then some .check
  else if name = "tokens" then some .tokens
  else if name = "grammar" then some .grammar
  else if name = "help" then some .help
  else none

def takesQuery : Topic → Bool
  | .check | .tokens => true
  | _ => false

end Topic

namespace CommandLine

def markVerbose (line : CommandLine) : Except Halt CommandLine :=
  if line.verboseHere then .error (.refuse (.repeated "--verbose"))
  else .ok { line with verbose := true, verboseHere := true }

def markJson (line : CommandLine) : Except Halt CommandLine :=
  if line.json then .error (.refuse (.repeated "--json"))
  else .ok { line with json := true }

def setFile (line : CommandLine) (path : String) : Except Halt CommandLine :=
  if line.source.file.isSome then .error (.refuse (.repeated "--file"))
  else if path = "" then .error (.refuse (.missingValue "--file"))
  else .ok { line with source := { line.source with file := some path }, awaitingFile := false }

def awaitFile (line : CommandLine) : Except Halt CommandLine :=
  if line.source.file.isSome then .error (.refuse (.repeated "--file"))
  else .ok { line with awaitingFile := true }

def takePlain (line : CommandLine) (argument : String) : Except Halt CommandLine :=
  match line.topic with
  | .program =>
      if line.literal then .error (.refuse (.unexpectedArgument argument))
      else match Topic.ofName? argument with
        | some topic => .ok { line with topic := topic, verboseHere := false }
        | none => .error (.refuse (.unknownCommand argument))
  | .check | .tokens =>
      if line.source.query.isSome then .error (.refuse (.unexpectedArgument argument))
      else .ok { line with source := { line.source with query := some argument } }
  | .grammar | .help => .error (.refuse (.unexpectedArgument argument))

def takeLong (line : CommandLine) (name : String) (value : Option String) :
    Except Halt CommandLine :=
  let flag (set : Except Halt CommandLine) : Except Halt CommandLine :=
    if value.isSome then .error (.refuse (.unexpectedValue ("--" ++ name))) else set
  if name = "verbose" then flag line.markVerbose
  else if name = "help" then flag (.error (.answer (.help line.topic)))
  else if name = "version" && line.topic = .program then flag (.error (.answer .version))
  else if name = "json" && line.topic = .tokens then flag line.markJson
  else if name = "file" && line.topic.takesQuery then
    match value with
    | some path => line.setFile path
    | none => line.awaitFile
  else .error (.refuse (.unexpectedArgument ("--" ++ name)))

/-- Take the letters behind a single `-`. The path of `-f` may follow at once, with or
without an equals sign. -/
def takeShort (line : CommandLine) : List Char → Except Halt CommandLine
  | [] => .ok line
  | c :: rest =>
      if c = 'v' then
        match line.markVerbose with
        | .error halt => .error halt
        | .ok line => takeShort line rest
      else if c = 'h' then .error (.answer (.help line.topic))
      else if c = 'V' && line.topic = .program then .error (.answer .version)
      else if c = 'f' && line.topic.takesQuery then
        match rest with
        | [] => line.awaitFile
        | first :: path =>
            line.setFile (String.ofList (if first = '=' then path else first :: path))
      else .error (.refuse (.unexpectedArgument ("-" ++ String.singleton c)))

def takeHelpTopic (line : CommandLine) (argument : String) : Except Halt CommandLine :=
  match line.helpTopic, Topic.ofName? argument with
  | .program, some topic => .ok { line with helpTopic := topic }
  | _, _ => .error (.refuse (.unknownCommand argument))

def take (line : CommandLine) (argument : String) : Except Halt CommandLine :=
  if line.topic = .help then line.takeHelpTopic argument
  else if line.awaitingFile then
    match Argument.ofString argument with
    | .plain => line.setFile argument
    | _ => .error (.refuse (.missingValue "--file"))
  else if line.literal then line.takePlain argument
  else match Argument.ofString argument with
    | .terminator => .ok { line with literal := true }
    | .long name value => line.takeLong name value
    | .short letters => line.takeShort letters
    | .plain => line.takePlain argument

def finish (line : CommandLine) : Except Halt Request :=
  if line.awaitingFile then .error (.refuse (.missingValue "--file"))
  else match line.topic with
    | .program => .error (.refuse .missingCommand)
    | .help => .ok (.help line.helpTopic)
    | .check => .ok (.run (.check line.source) line.verbose)
    | .tokens =>
        .ok (.run (.tokens line.source (if line.json then .json else .plain)) line.verbose)
    | .grammar => .ok (.run .grammar line.verbose)

end CommandLine

def Request.ofArguments (arguments : List String) : Except UsageError Request :=
  match arguments.foldlM CommandLine.take {} >>= CommandLine.finish with
  | .ok request => .ok request
  | .error (.answer request) => .ok request
  | .error (.refuse error) => .error error

end QueryCheck
