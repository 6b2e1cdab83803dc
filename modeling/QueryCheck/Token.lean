import QueryCheck.Number
import QueryCheck.Text

/-! Tokens: what kind they are, where they stand, and what they carry. -/
namespace QueryCheck

/-! Places in a query text. Lines and columns count from zero, a column counts
characters, and only a line feed begins a new line: a tab, a carriage return or
a form feed is one column like any other character. -/

structure Position where
  line : Nat
  column : Nat
  deriving DecidableEq

namespace Position

def start : Position := ⟨0, 0⟩

def next (place : Position) (c : Char) : Position :=
  if c = '\n' then ⟨place.line + 1, 0⟩ else ⟨place.line, place.column + 1⟩

def after (place : Position) (text : List Char) : Position :=
  text.foldl next place

def describe (place : Position) : String :=
  "line " ++ toString place.line ++ ", column " ++ toString place.column

@[simp]
theorem after_nil (place : Position) : place.after [] = place := rfl

@[simp]
theorem after_cons (place : Position) (c : Char) (text : List Char) :
    place.after (c :: text) = (place.next c).after text := rfl

@[simp]
theorem after_append (place : Position) (front back : List Char) :
    place.after (front ++ back) = (place.after front).after back :=
  List.foldl_append

end Position

/-! Kinds of tokens. The codes are a contract with other tools: diagnostics print them
as `#code`, so a kind never changes its number. -/

inductive Kind where
  | endOfText
  | leftParen
  | rightParen
  | comma
  | dot
  | star
  | comparison
  | selectKeyword
  | distinctKeyword
  | fromKeyword
  | joinKeyword
  | onKeyword
  | asKeyword
  | whereKeyword
  | andKeyword
  | orKeyword
  | xorKeyword
  | notKeyword
  | inKeyword
  | isKeyword
  | nullKeyword
  | betweenKeyword
  | orderKeyword
  | byKeyword
  | limitKeyword
  | direction
  | likeKeyword
  | boolean
  | field
  | identifier
  | number
  | string
  deriving DecidableEq

namespace Kind

def all : List Kind :=
  [.endOfText, .leftParen, .rightParen, .comma, .dot, .star, .comparison,
   .selectKeyword, .distinctKeyword, .fromKeyword, .joinKeyword, .onKeyword, .asKeyword,
   .whereKeyword, .andKeyword, .orKeyword, .xorKeyword, .notKeyword, .inKeyword, .isKeyword,
   .nullKeyword, .betweenKeyword, .orderKeyword, .byKeyword, .limitKeyword, .direction,
   .likeKeyword, .boolean, .field, .identifier, .number, .string]

def code : Kind → Nat
  | .endOfText => 0
  | .leftParen => 1
  | .rightParen => 2
  | .comma => 3
  | .dot => 4
  | .star => 5
  | .comparison => 6
  | .selectKeyword => 7
  | .distinctKeyword => 8
  | .fromKeyword => 9
  | .joinKeyword => 10
  | .onKeyword => 11
  | .asKeyword => 12
  | .whereKeyword => 13
  | .andKeyword => 14
  | .orKeyword => 15
  | .xorKeyword => 16
  | .notKeyword => 17
  | .inKeyword => 18
  | .isKeyword => 19
  | .nullKeyword => 20
  | .betweenKeyword => 21
  | .orderKeyword => 22
  | .byKeyword => 23
  | .limitKeyword => 24
  | .direction => 25
  | .likeKeyword => 26
  | .boolean => 27
  | .field => 28
  | .identifier => 29
  | .number => 30
  | .string => 31

def ofCode? (code : Nat) : Option Kind := all[code]?

def label : Kind → String
  | .endOfText => "end of input"
  | .leftParen => "("
  | .rightParen => ")"
  | .comma => ","
  | .dot => "."
  | .star => "*"
  | .comparison => "comparison operator"
  | .selectKeyword => "SELECT"
  | .distinctKeyword => "DISTINCT"
  | .fromKeyword => "FROM"
  | .joinKeyword => "JOIN"
  | .onKeyword => "ON"
  | .asKeyword => "AS"
  | .whereKeyword => "WHERE"
  | .andKeyword => "AND"
  | .orKeyword => "OR"
  | .xorKeyword => "XOR"
  | .notKeyword => "NOT"
  | .inKeyword => "IN"
  | .isKeyword => "IS"
  | .nullKeyword => "NULL"
  | .betweenKeyword => "BETWEEN"
  | .orderKeyword => "ORDER"
  | .byKeyword => "BY"
  | .limitKeyword => "LIMIT"
  | .direction => "ASC/DESC"
  | .likeKeyword => "LIKE"
  | .boolean => "boolean"
  | .field => "field"
  | .identifier => "identifier"
  | .number => "number"
  | .string => "string"

def tag (kind : Kind) : String := "#" ++ toString kind.code

def punctuation? (c : Char) : Option Kind :=
  if c = '(' then some .leftParen
  else if c = ')' then some .rightParen
  else if c = ',' then some .comma
  else if c = '.' then some .dot
  else if c = '*' then some .star
  else none

theorem ofCode?_code (kind : Kind) : ofCode? kind.code = some kind := by
  cases kind <;> rfl

theorem punctuation?_ne_endOfText (c : Char) : punctuation? c ≠ some .endOfText := by
  unfold punctuation?
  repeat' split
  all_goals simp

end Kind

/-! The six comparisons. A query writes a symbol; tokens carry the comparison, and
every output names it by its document-store mnemonic. -/

inductive Comparison where
  | equal
  | notEqual
  | greater
  | greaterEqual
  | less
  | lessEqual
  deriving DecidableEq

namespace Comparison

def symbol : Comparison → String
  | .equal => "="
  | .notEqual => "<>"
  | .greater => ">"
  | .greaterEqual => ">="
  | .less => "<"
  | .lessEqual => "<="

def mnemonic : Comparison → String
  | .equal => "$eq"
  | .notEqual => "$ne"
  | .greater => "$gt"
  | .greaterEqual => "$gte"
  | .less => "$lt"
  | .lessEqual => "$lte"

/-- All comparisons, two-character symbols first: tried in this order, a long symbol is
never split after its first character. -/
def longestFirst : List Comparison :=
  [.notEqual, .greaterEqual, .lessEqual, .equal, .greater, .less]

def ofSymbol? (symbol : String) : Option Comparison :=
  longestFirst.find? fun comparison => comparison.symbol = symbol

def read? (text : List Char) : Option Comparison :=
  longestFirst.find? fun comparison => comparison.symbol.toList.isPrefixOf text

theorem symbol_ne_nil (comparison : Comparison) : comparison.symbol.toList ≠ [] := by
  cases comparison <;> decide

theorem ofSymbol?_symbol (comparison : Comparison) :
    ofSymbol? comparison.symbol = some comparison := by
  cases comparison <;> decide

end Comparison

/-! What a token carries besides its kind: the name of an identifier or a field or the
decoded text of a string, a number, a truth value, `1` or `-1` for an ascending or a
descending order, or a comparison. In diagnostics and plain listings a text stands
unquoted. -/

inductive Payload where
  | text (value : String)
  | number (value : Binary64)
  | boolean (value : Bool)
  | direction (value : Int)
  | comparison (value : Comparison)
  deriving DecidableEq

def Payload.describe : Payload → String
  | .text value => value
  | .number value => value.text
  | .boolean value => if value then "true" else "false"
  | .direction value => toString value
  | .comparison value => value.mnemonic

/-! Tokens: a kind, the place of the first character, and what the token carries. -/

structure Token where
  kind : Kind
  place : Position
  payload : Option Payload
  deriving DecidableEq

namespace Token

def text? (token : Token) : Option String :=
  match token.payload with
  | some (.text value) => some value
  | _ => none

def number? (token : Token) : Option Binary64 :=
  match token.payload with
  | some (.number value) => some value
  | _ => none

def comparison? (token : Token) : Option Comparison :=
  match token.payload with
  | some (.comparison value) => some value
  | _ => none

def describe (token : Token) : String :=
  match token.payload with
  | none => token.kind.tag
  | some payload => token.kind.tag ++ " (" ++ payload.describe ++ ")"

end Token

/-! The reserved words. A word is reserved when its upper-case form is one of them, so
letters outside ASCII can spell one too. -/

structure Keyword where
  word : String
  kind : Kind
  payload : Option Payload := none

namespace Keyword

def all : List Keyword :=
  [{ word := "SELECT", kind := .selectKeyword },
   { word := "DISTINCT", kind := .distinctKeyword },
   { word := "FROM", kind := .fromKeyword },
   { word := "JOIN", kind := .joinKeyword },
   { word := "ON", kind := .onKeyword },
   { word := "AS", kind := .asKeyword },
   { word := "WHERE", kind := .whereKeyword },
   { word := "AND", kind := .andKeyword },
   { word := "OR", kind := .orKeyword },
   { word := "XOR", kind := .xorKeyword },
   { word := "NOT", kind := .notKeyword },
   { word := "IN", kind := .inKeyword },
   { word := "IS", kind := .isKeyword },
   { word := "NULL", kind := .nullKeyword },
   { word := "BETWEEN", kind := .betweenKeyword },
   { word := "ORDER", kind := .orderKeyword },
   { word := "BY", kind := .byKeyword },
   { word := "LIMIT", kind := .limitKeyword },
   { word := "ASC", kind := .direction, payload := some (.direction 1) },
   { word := "DESC", kind := .direction, payload := some (.direction (-1)) },
   { word := "LIKE", kind := .likeKeyword },
   { word := "TRUE", kind := .boolean, payload := some (.boolean true) },
   { word := "FALSE", kind := .boolean, payload := some (.boolean false) }]

def find? (spelling : List Char) : Option Keyword :=
  let upper := Text.upperCase spelling
  all.find? fun keyword => keyword.word.toList = upper

theorem kind_ne_endOfText {keyword : Keyword} (member : keyword ∈ all) :
    keyword.kind ≠ .endOfText := by
  have none : all.all (fun keyword => keyword.kind ≠ .endOfText) = true := by decide
  simpa using List.all_eq_true.mp none keyword member

theorem mem_all_of_find? {spelling : List Char} {keyword : Keyword}
    (found : find? spelling = some keyword) : keyword ∈ all := by
  unfold find? at found
  exact List.mem_of_find?_eq_some found

end Keyword

end QueryCheck
