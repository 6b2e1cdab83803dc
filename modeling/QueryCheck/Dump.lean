import QueryCheck.Scanner

/-! Token listings, plain or as JSON, written into a sink. -/
namespace QueryCheck

/-! Writing chunks of text into a sink that may have room for only so many bytes. A
sink takes every byte it has room for; the chunk that meets its end decides how the
failure is reported, and nothing behind it is written. A chunk is part of a JSON record,
or of a plain line or a line's end. -/

inductive Role where
  | record
  | line
  deriving DecidableEq

structure Chunk where
  text : String
  role : Role
  deriving DecidableEq

structure Delivery where
  written : List UInt8
  failed : Option Role
  deriving DecidableEq

/-- Write chunks in order into a sink with room for `room` bytes, or for any number. -/
def deliver : Option Nat → List Chunk → Delivery
  | _, [] => ⟨[], none⟩
  | room, chunk :: rest =>
      let bytes := Text.utf8 chunk.text
      if room.all (bytes.length ≤ ·) then
        let later := deliver (room.map (· - bytes.length)) rest
        { later with written := bytes ++ later.written }
      else ⟨bytes.take (room.getD 0), some chunk.role⟩

/-! Tokens as plain text: `line:column #code label`, and the payload behind if there is
one. -/

def Token.plain (token : Token) : String :=
  let front :=
    toString token.place.line ++ ":" ++ toString token.place.column ++ " " ++
      token.kind.tag ++ " " ++ token.kind.label
  match token.payload with
  | none => front
  | some payload => front ++ " " ++ payload.describe

/-! Tokens as JSON objects: one compact object, keys in alphabetical order. -/

namespace Json

def hexDigit (n : Nat) : Char :=
  if n < 10 then Char.ofNat ('0'.toNat + n) else Char.ofNat ('a'.toNat + (n - 10))

def escape (c : Char) : List Char :=
  if c = '"' then ['\\', '"']
  else if c = '\\' then ['\\', '\\']
  else if c = '\x08' then ['\\', 'b']
  else if c = '\x0C' then ['\\', 'f']
  else if c = '\n' then ['\\', 'n']
  else if c = '\r' then ['\\', 'r']
  else if c = '\t' then ['\\', 't']
  else if c.toNat < 0x20 then
    ['\\', 'u', '0', '0', hexDigit (c.toNat / 16), hexDigit (c.toNat % 16)]
  else [c]

def quote (text : String) : String :=
  String.ofList ('"' :: text.toList.flatMap escape ++ ['"'])

-- JSON has no infinity, so those stand as strings.
def number (x : Binary64) : String :=
  if x.isFinite then String.ofList (NumberFormat.json.finiteText x) else quote x.text

def payload : Option Payload → String
  | none => "null"
  | some (.text value) => quote value
  | some (.number value) => number value
  | some (.boolean value) => if value then "true" else "false"
  | some (.direction value) => toString value
  | some (.comparison value) => quote value.mnemonic

end Json

def Token.json (token : Token) : String :=
  "\x7b\"code\":" ++ toString token.kind.code ++
  ",\"column\":" ++ toString token.place.column ++
  ",\"kind\":" ++ Json.quote token.kind.label ++
  ",\"line\":" ++ toString token.place.line ++
  ",\"payload\":" ++ Json.payload token.payload ++ "\x7d"

/-! Token listings: one line for each token of a text, the end marker included, as far
as the text can be scanned. -/

inductive ListingStyle where
  | plain
  | json
  deriving DecidableEq

/-- The tokens of a text up to its end or its first lexical error. -/
structure Scan where
  tokens : List Token
  error : Option LexicalError

namespace Scan

def ofSteps : List Scanner.Step → Scan
  | [] => ⟨[], none⟩
  | step :: rest =>
      match step.outcome with
      | .ok token =>
          let later := ofSteps rest
          { later with tokens := token :: later.tokens }
      | .error error => ⟨[], some error⟩

def ofText (text : String) : Scan := ofSteps (Scanner.ofText text).steps

end Scan

def Token.chunks (style : ListingStyle) (token : Token) : List Chunk :=
  match style with
  | .plain => [⟨token.plain, .line⟩, ⟨"\n", .line⟩]
  | .json => [⟨token.json, .record⟩, ⟨"\n", .line⟩]

def Scan.chunks (style : ListingStyle) (scan : Scan) : List Chunk :=
  scan.tokens.flatMap (Token.chunks style)

end QueryCheck
