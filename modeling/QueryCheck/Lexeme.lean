import QueryCheck.Token

/-! Lexemes at the front of a text: numerals, string literals, words and fields. -/
namespace QueryCheck

/-! Numerals: an optional sign, digits, an optional fraction and an optional exponent.
Either the whole part or the fraction may be missing, not both; a point without
digits behind it, or an exponent mark without digits, is not part of the numeral. -/

inductive Sign where
  | plus
  | minus
  deriving DecidableEq

namespace Sign

def ofChar? (c : Char) : Option Sign :=
  if c = '+' then some .plus else if c = '-' then some .minus else none

def spelling : Sign → Char
  | .plus => '+'
  | .minus => '-'

def read : List Char → Option Sign × List Char
  | [] => (none, [])
  | c :: rest =>
      match ofChar? c with
      | some sign => (some sign, rest)
      | none => (none, c :: rest)

end Sign

structure Exponent where
  mark : Char
  sign : Option Sign
  digits : List Char
  deriving DecidableEq

def Exponent.spelling (exponent : Exponent) : List Char :=
  exponent.mark :: exponent.sign.toList.map Sign.spelling ++ exponent.digits

structure Numeral where
  sign : Option Sign
  whole : List Char
  fraction : Option (List Char)
  exponent : Option Exponent
  deriving DecidableEq

namespace Numeral

def digits (text : List Char) : List Char := text.takeWhile Char.isDigit

-- At least one digit stands behind the point.
def fraction? : List Char → Option (List Char)
  | [] => none
  | c :: rest => if c = '.' && !(digits rest).isEmpty then some (digits rest) else none

def exponent? : List Char → Option Exponent
  | [] => none
  | c :: rest =>
      let (sign, rest) := Sign.read rest
      if (c = 'e' || c = 'E') && !(digits rest).isEmpty then some ⟨c, sign, digits rest⟩ else none

def fractionSpelling : Option (List Char) → List Char
  | none => []
  | some digits => '.' :: digits

def spelling (numeral : Numeral) : List Char :=
  numeral.sign.toList.map Sign.spelling ++ numeral.whole ++
    fractionSpelling numeral.fraction ++ (numeral.exponent.map Exponent.spelling).getD []

def read? (text : List Char) : Option Numeral :=
  let (sign, unsigned) := Sign.read text
  let whole := digits unsigned
  let behindWhole := unsigned.drop whole.length
  let fraction := fraction? behindWhole
  let behindFraction := behindWhole.drop (fractionSpelling fraction).length
  if whole.isEmpty && fraction.isNone then none
  else some ⟨sign, whole, fraction, exponent? behindFraction⟩

/-- Whether a text is to be read as a numeral: a digit, or a sign with a digit or a point
behind it. A point alone does not begin one. -/
def begins : List Char → Bool
  | [] => false
  | c :: rest =>
      c.isDigit || ((c = '-' || c = '+') && rest.head?.any fun d => d.isDigit || d = '.')

def value (digits : List Char) : Nat :=
  digits.foldl (fun total digit => 10 * total + (digit.toNat - '0'.toNat)) 0

def exponentValue (exponent : Exponent) : Int :=
  if exponent.sign = some .minus then -(value exponent.digits : Int) else value exponent.digits

def toDecimal (numeral : Numeral) : Decimal :=
  let fraction := numeral.fraction.getD []
  let exponent := (numeral.exponent.map exponentValue).getD 0
  ⟨numeral.sign = some .minus, value (numeral.whole ++ fraction), exponent - fraction.length⟩

theorem fractionSpelling_eq_nil_iff {fraction : Option (List Char)} :
    fractionSpelling fraction = [] ↔ fraction = none := by
  cases fraction <;> simp [fractionSpelling]

theorem spelling_ne_nil {text : List Char} {numeral : Numeral}
    (found : read? text = some numeral) : numeral.spelling ≠ [] := by
  simp only [read?] at found
  split at found
  · contradiction
  · rename_i present
    injection found with same
    subst same
    intro empty
    simp only [spelling, List.append_eq_nil_iff, fractionSpelling_eq_nil_iff] at empty
    obtain ⟨⟨⟨-, whole⟩, fraction⟩, -⟩ := empty
    exact present (by rw [fraction, whole]; rfl)

end Numeral

/-! String literals. Inside the quotes a backslash takes the next character with it:
`t`, `n` and `r` stand for tab, line feed and carriage return, and any other
character stands for itself, the quote and the backslash among them. -/

/-- What is read behind an opening quote: the decoded text, the characters read with the
closing quote among them, and whether there was one. -/
structure Quoted where
  text : List Char
  spelling : List Char
  closed : Bool
  deriving DecidableEq

namespace Quoted

def unescape (c : Char) : Char :=
  if c = 't' then '\t'
  else if c = 'n' then '\n'
  else if c = 'r' then '\r'
  else c

def cons (c : Char) (spelling : List Char) (rest : Quoted) : Quoted :=
  ⟨c :: rest.text, spelling ++ rest.spelling, rest.closed⟩

/-- Read up to the closing quote. Without one, everything is read, except a backslash
that ends the text and so has nothing to take with it. -/
def read : List Char → Quoted
  | [] => ⟨[], [], false⟩
  | c :: rest =>
      if c = '"' then ⟨[], [c], true⟩
      else if c = '\\' then
        match rest with
        | [] => ⟨[], [], false⟩
        | escaped :: rest => (read rest).cons (unescape escaped) [c, escaped]
      else (read rest).cons c [c]

end Quoted

/-! Words and fields. A field is two words joined by a dot with nothing between; a
further dot is not part of it. -/

namespace Word

def run (text : List Char) : List Char := text.takeWhile Text.isWordPart

def member? : List Char → Option (List Char)
  | dot :: c :: rest =>
      if dot = '.' && Text.isWordStart c then some (run (c :: rest)) else none
  | _ => none

theorem run_ne_nil {c : Char} {rest : List Char} (starts : Text.isWordStart c = true) :
    run (c :: rest) ≠ [] := by
  simp [run, Text.isWordPart_of_isWordStart starts]

end Word

/-! Reading one lexeme from the front of a text that does not begin with a blank. What
is read depends on the text alone, never on what was read before it. -/

inductive LexicalFault where
  | illegalCharacter (found : Char)
  | unterminatedString
  | invalidNumber
  deriving DecidableEq

/-- What stands at the front of a text; what a fault consumed is passed over all the same. -/
inductive Reading where
  | endOfText
  | lexeme (kind : Kind) (payload : Option Payload) (spelling : List Char)
  | fault (cause : LexicalFault) (consumed : List Char)

namespace Reading

def ofQuoted (quoted : Quoted) : Reading :=
  if quoted.closed then
    .lexeme .string (some (.text (String.ofList quoted.text))) ('"' :: quoted.spelling)
  else .fault .unterminatedString ('"' :: quoted.spelling)

def ofWord (word : List Char) : Reading :=
  match Keyword.find? word with
  | some keyword => .lexeme keyword.kind keyword.payload word
  | none => .lexeme .identifier (some (.text (String.ofList word))) word

def word (text : List Char) : Reading :=
  let first := Word.run text
  match Word.member? (text.drop first.length) with
  | some member =>
      let spelling := first ++ '.' :: member
      .lexeme .field (some (.text (String.ofList spelling))) spelling
  | none => ofWord first

def numeral (text : List Char) : Reading :=
  match Numeral.read? text with
  | some numeral =>
      .lexeme .number (some (.number numeral.toDecimal.toBinary64)) numeral.spelling
  | none => .fault .invalidNumber []

def ofText : List Char → Reading
  | [] => .endOfText
  | c :: rest =>
      if c = '"' then ofQuoted (Quoted.read rest)
      else match Kind.punctuation? c, Comparison.read? (c :: rest) with
        | some kind, _ => .lexeme kind none [c]
        | none, some comparison =>
            .lexeme .comparison (some (.comparison comparison)) comparison.symbol.toList
        | none, none =>
            if Text.isWordStart c then word (c :: rest)
            else if Numeral.begins (c :: rest) then numeral (c :: rest)
            else .fault (.illegalCharacter c) []

theorem ofWord_proper {text spelling : List Char} {kind : Kind} {payload : Option Payload}
    (nonempty : text ≠ []) (read : ofWord text = .lexeme kind payload spelling) :
    kind ≠ .endOfText ∧ spelling ≠ [] := by
  unfold ofWord at read
  split at read
  · rename_i keyword found
    injection read with sameKind _ sameSpelling
    subst sameKind sameSpelling
    exact ⟨Keyword.kind_ne_endOfText (Keyword.mem_all_of_find? found), nonempty⟩
  · injection read with sameKind _ sameSpelling
    subst sameKind sameSpelling
    exact ⟨by decide, nonempty⟩

/-- A lexeme is never empty and never marks the end of the text. -/
theorem ofText_proper {text spelling : List Char} {kind : Kind} {payload : Option Payload}
    (read : ofText text = .lexeme kind payload spelling) :
    text ≠ [] ∧ kind ≠ .endOfText ∧ spelling ≠ [] := by
  cases text with
  | nil => simp [ofText] at read
  | cons c rest =>
      refine ⟨by simp, ?_⟩
      simp only [ofText] at read
      split at read
      · unfold ofQuoted at read
        split at read
        · injection read with sameKind _ sameSpelling
          subst sameKind sameSpelling
          exact ⟨by decide, by simp⟩
        · contradiction
      · split at read
        · rename_i punctuation
          injection read with sameKind _ sameSpelling
          subst sameKind sameSpelling
          exact ⟨fun ends => Kind.punctuation?_ne_endOfText c (ends ▸ punctuation), by simp⟩
        · injection read with sameKind _ sameSpelling
          subst sameKind sameSpelling
          exact ⟨by decide, Comparison.symbol_ne_nil _⟩
        · split at read
          · rename_i starts
            simp only [word] at read
            split at read
            · injection read with sameKind _ sameSpelling
              subst sameKind sameSpelling
              exact ⟨by decide, by simp⟩
            · exact ofWord_proper (Word.run_ne_nil starts) read
          · split at read
            · unfold numeral at read
              split at read
              · rename_i found
                injection read with sameKind _ sameSpelling
                subst sameKind sameSpelling
                exact ⟨by decide, Numeral.spelling_ne_nil found⟩
              · contradiction
            · contradiction

end Reading

end QueryCheck
