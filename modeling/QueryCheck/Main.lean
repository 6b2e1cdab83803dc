import QueryCheck.Command.Report

/-! The program: collects what a run reads, and shows what it reports. -/
namespace QueryCheck

partial def readToEnd (stream : IO.FS.Stream) (front : ByteArray) : IO ByteArray := do
  let bytes ← stream.read 65536
  if bytes.isEmpty then return front
  readToEnd stream (front ++ bytes)

def StreamFault.ofError : IO.Error → StreamFault
  | .noFileOrDirectory _ _ _ => .missing
  | .inappropriateType _ code _ =>
      if code = 21 then .directory
      else .system ("Not a directory (os error " ++ toString code ++ ")")
  | .permissionDenied _ code _ =>
      .system ("Permission denied (os error " ++ toString code ++ ")")
  | error => .system (toString error)

def readContents (path : String) : IO (Except StreamFault (List UInt8)) := do
  match ← (IO.FS.readBinFile path).toBaseIO with
  | .ok bytes => return .ok bytes.toList
  | .error error => return .error (.ofError error)

def requestedSource (arguments : List String) : Option Source :=
  match Request.ofArguments arguments with
  | .ok (.run (.check source) _) => some source
  | .ok (.run (.tokens source _) _) => some source
  | _ => none

/-- Collect what the command line needs to read, and nothing else. -/
def gather (arguments : List String) : IO Surroundings := do
  match requestedSource arguments with
  | some ⟨none, some path⟩ =>
      let contents ← readContents path
      return ⟨none, fun _ => contents⟩
  | some ⟨none, none⟩ =>
      let stdin ← IO.getStdin
      if ← stdin.isTty then return ⟨none, fun _ => .error .missing⟩
      let bytes ← readToEnd stdin .empty
      return ⟨some bytes.toList, fun _ => .error .missing⟩
  | _ => return ⟨none, fun _ => .error .missing⟩

def Event.logLine? : Event → Option String
  | .validating query => some ("DEBUG validating query=" ++ query)
  | .accepted => some "DEBUG query accepted"
  | .rejected error => some ("DEBUG query rejected error=" ++ error.message)
  | .scanned _ | .lookahead _ => none

end QueryCheck

def main (args : List String) : IO UInt32 := do
  let surroundings ← QueryCheck.gather args
  let report := QueryCheck.Report.ofArguments surroundings args
  for line in report.log.filterMap QueryCheck.Event.logLine? do
    IO.eprintln line
  let stdout ← IO.getStdout
  stdout.write ⟨report.output.toArray⟩
  stdout.flush
  IO.eprint report.diagnostics
  return report.exit.toUInt32
