import Mathlib.Tactic.SplitIfs
import QueryCheck.Dump
import QueryCheck.Proofs.ReadBack

/-!
JSON texts, said without the writer: what may stand between the quotes of a string, which
numerals are numbers, and objects of such values. Every token is written as one object.
No text of this grammar holds a control character, and a string says by itself where it
ends and what it stands for.
-/
namespace QueryCheck.Json

def marked? (mark : Char) : Option Char :=
  if mark = '"' ∨ mark = '\\' ∨ mark = '/' then some mark
  else if mark = 'b' then some '\x08'
  else if mark = 'f' then some '\x0C'
  else if mark = 'n' then some '\n'
  else if mark = 'r' then some '\r'
  else if mark = 't' then some '\t'
  else none

def isHex (c : Char) : Bool :=
  c.isDigit || ('a' ≤ c && c ≤ 'f') || ('A' ≤ c && c ≤ 'F')

def hexValue (c : Char) : Nat :=
  if c.isDigit then c.toNat - '0'.toNat
  else if 'a' ≤ c then c.toNat - 'a'.toNat + 10
  else c.toNat - 'A'.toNat + 10

def hexCode (figures : List Char) : Nat :=
  figures.foldl (fun code figure => 16 * code + hexValue figure) 0

/-- One character of a JSON string, as it may be written. -/
inductive Item : Char → List Char → Prop where
  | plain {c : Char} : 0x20 ≤ c.toNat → c ≠ '"' → c ≠ '\\' → Item c [c]
  | marked {c mark : Char} : marked? mark = some c → Item c ['\\', mark]
  | coded {c : Char} {figures : List Char} :
      figures.length = 4 → (∀ figure ∈ figures, isHex figure = true) →
        hexCode figures = c.toNat → Item c ('\\' :: 'u' :: figures)

inductive Body : List Char → List Char → Prop where
  | empty : Body [] []
  | more {c : Char} {text written rest : List Char} :
      Item c written → Body text rest → Body (c :: text) (written ++ rest)

inductive StringText : List Char → List Char → Prop where
  | quoted {text body : List Char} :
      Body text body → StringText text ('"' :: body ++ ['"'])

inductive Scalar : List Char → Prop where
  | null : Scalar "null".toList
  | true : Scalar "true".toList
  | false : Scalar "false".toList
  | number {numeral : Numeral} : numeral.Plain → Scalar numeral.spelling
  | string {text written : List Char} : StringText text written → Scalar written

inductive Members : List String → List Char → Prop where
  | last {key : String} {name value : List Char} :
      StringText key.toList name → Scalar value → Members [key] (name ++ ':' :: value)
  | more {key : String} {keys : List String} {name value rest : List Char} :
      StringText key.toList name → Scalar value → Members keys rest →
        Members (key :: keys) (name ++ ':' :: value ++ ',' :: rest)

/-- A whole JSON object whose values are strings, numbers and names. -/
inductive Object (keys : List String) : List Char → Prop where
  | braces {members : List Char} :
      Members keys members → Object keys ('\x7b' :: members ++ ['\x7d'])

section Strings

theorem Item.determined {c other : Char} {written spelled rest more : List Char}
    (item : Item c written) (another : Item other spelled)
    (same : written ++ rest = spelled ++ more) : c = other ∧ rest = more := by
  cases item with
  | plain printable quote backslash =>
      cases another with
      | plain _ _ _ =>
          cases same
          exact ⟨rfl, rfl⟩
      | marked _ => cases same; exact absurd rfl backslash
      | coded _ _ _ => cases same; exact absurd rfl backslash
  | marked meaning =>
      cases another with
      | plain _ _ backslash => cases same; exact absurd rfl backslash
      | marked other =>
          cases same
          exact ⟨Option.some.inj (meaning.symm.trans other), rfl⟩
      | coded _ _ _ => cases same; cases meaning
  | coded four _ code =>
      cases another with
      | plain _ _ backslash => cases same; exact absurd rfl backslash
      | marked meaning => cases same; cases meaning
      | coded fourOther _ codeOther =>
          simp only [List.cons_append, List.cons.injEq, true_and] at same
          obtain ⟨rfl, rfl⟩ := List.append_inj same (four.trans fourOther.symm)
          exact ⟨Char.toNat_inj.mp (code.symm.trans codeOther), rfl⟩

theorem Item.open {c : Char} {written : List Char} (item : Item c written) (rest : List Char) :
    (written ++ rest).head? ≠ some '"' := by
  cases item with
  | plain _ quote _ => simpa using quote
  | marked _ => simp
  | coded _ _ _ => simp

theorem Body.determined {text other written spelled rest more : List Char}
    (body : Body text written) (another : Body other spelled)
    (same : written ++ '"' :: rest = spelled ++ '"' :: more) : text = other ∧ rest = more := by
  induction body generalizing other spelled with
  | empty =>
      cases another with
      | empty =>
          cases same
          exact ⟨rfl, rfl⟩
      | more item _ =>
          rw [List.append_assoc] at same
          exact absurd (congrArg List.head? same).symm (item.open _)
  | more item _ ih =>
      cases another with
      | empty =>
          rw [List.append_assoc] at same
          exact absurd (congrArg List.head? same) (item.open _)
      | more otherItem otherBody =>
          simp only [List.append_assoc] at same
          obtain ⟨rfl, later⟩ := item.determined otherItem same
          obtain ⟨rfl, behind⟩ := ih otherBody later
          exact ⟨rfl, behind⟩

theorem StringText.determined {text other written spelled rest more : List Char}
    (string : StringText text written) (another : StringText other spelled)
    (same : written ++ rest = spelled ++ more) : text = other ∧ rest = more := by
  cases string with
  | quoted body =>
      cases another with
      | quoted otherBody =>
          simp only [List.cons_append, List.append_assoc, List.cons.injEq, true_and,
            List.nil_append] at same
          exact body.determined otherBody same

end Strings

def Printable (text : List Char) : Prop := ∀ c ∈ text, 0x20 ≤ c.toNat

section Control

theorem Printable.append {front back : List Char} (first : Printable front)
    (second : Printable back) : Printable (front ++ back) :=
  List.forall_mem_append.mpr ⟨first, second⟩

theorem Printable.cons {c : Char} {rest : List Char} (first : 0x20 ≤ c.toNat)
    (second : Printable rest) : Printable (c :: rest) :=
  List.forall_mem_cons.mpr ⟨first, second⟩

theorem Printable.nil : Printable [] := fun _ member => absurd member List.not_mem_nil

theorem hex_printable {figure : Char} (hex : isHex figure = true) : 0x20 ≤ figure.toNat := by
  simp only [isHex, Char.isDigit, Bool.or_eq_true, Bool.and_eq_true, decide_eq_true_eq] at hex
  rcases hex with (⟨least, -⟩ | ⟨least, -⟩) | ⟨least, -⟩
  · exact Nat.le_trans (by decide) (UInt32.le_iff_toNat_le.mp least)
  · exact Nat.le_trans (by decide) (UInt32.le_iff_toNat_le.mp least)
  · exact Nat.le_trans (by decide) (UInt32.le_iff_toNat_le.mp least)

theorem marked_printable {c mark : Char} (meaning : marked? mark = some c) :
    0x20 ≤ mark.toNat := by
  by_contra control
  have known : ∀ code < 0x20, marked? (Char.ofNat code) = none := by decide
  have none := known mark.toNat (Nat.lt_of_not_le control)
  rw [Char.ofNat_toNat, meaning] at none
  cases none

theorem Item.printable {c : Char} {written : List Char} (item : Item c written) :
    Printable written := by
  cases item with
  | plain printable _ _ => exact .cons printable .nil
  | marked meaning => exact .cons (by decide) (.cons (marked_printable meaning) .nil)
  | coded _ hex _ =>
      exact .cons (by decide) (.cons (by decide) fun figure member => hex_printable (hex figure member))

theorem Body.printable {text written : List Char} (body : Body text written) :
    Printable written := by
  induction body with
  | empty => exact .nil
  | more item _ ih => exact item.printable.append ih

theorem StringText.printable {text written : List Char} (string : StringText text written) :
    Printable written := by
  cases string with
  | quoted body => exact .cons (by decide) (body.printable.append (.cons (by decide) .nil))

theorem digits_printable {text : List Char} (digits : Digits text) : Printable text :=
  fun c member => hex_printable (by simp [isHex, digits c member])

theorem sign_printable (sign : Option Sign) : Printable (sign.toList.map Sign.spelling) := by
  rcases sign with _ | _ | _ <;> simp [Printable, Sign.spelling]

theorem numeral_printable {numeral : Numeral} (valid : numeral.Valid) :
    Printable numeral.spelling := by
  obtain ⟨sign, whole, fraction, exponent⟩ := numeral
  refine (((sign_printable sign).append (digits_printable valid.whole)).append ?_).append ?_
  · cases fraction with
    | none => exact .nil
    | some digits => exact .cons (by decide) (digits_printable (valid.fraction digits rfl).1)
  · cases exponent with
    | none => exact .nil
    | some exponent =>
        have present := valid.exponent exponent rfl
        refine .append (.cons ?_ (sign_printable _)) (digits_printable present.digits)
        rcases present.mark with mark | mark <;> rw [mark] <;> decide

theorem Scalar.printable {text : List Char} (scalar : Scalar text) : Printable text := by
  cases scalar with
  | null => simp [Printable]
  | true => simp [Printable]
  | false => simp [Printable]
  | number plain => exact numeral_printable plain.valid
  | string string => exact string.printable

theorem Members.printable {keys : List String} {text : List Char} (members : Members keys text) :
    Printable text := by
  induction members with
  | last name value => exact name.printable.append (.cons (by decide) value.printable)
  | more name value _ ih =>
      exact (name.printable.append (.cons (by decide) value.printable)).append (.cons (by decide) ih)

theorem Object.printable {keys : List String} {text : List Char} (object : Object keys text) :
    Printable text := by
  cases object with
  | braces members =>
      exact .append (.cons (by decide) members.printable) (.cons (by decide) .nil)

end Control

section Writer

theorem control_coded : ∀ code < 0x20, isHex (hexDigit (code / 16)) = true ∧
    isHex (hexDigit (code % 16)) = true ∧
    hexCode ['0', '0', hexDigit (code / 16), hexDigit (code % 16)] = code := by
  decide

theorem escape_item (c : Char) : Item c (escape c) := by
  unfold escape
  split_ifs with quote backslash backspace formFeed lineFeed carriageReturn tab control
  · exact .marked (by rw [quote]; rfl)
  · exact .marked (by rw [backslash]; rfl)
  · exact .marked (backspace ▸ rfl)
  · exact .marked (formFeed ▸ rfl)
  · exact .marked (lineFeed ▸ rfl)
  · exact .marked (carriageReturn ▸ rfl)
  · exact .marked (tab ▸ rfl)
  · obtain ⟨high, low, code⟩ := control_coded c.toNat control
    have zero : isHex '0' = true := rfl
    exact .coded rfl (by simp [zero, high, low]) code
  · exact .plain (Nat.le_of_not_lt control) quote backslash

theorem flatMap_escape (text : List Char) : Body text (text.flatMap escape) := by
  induction text with
  | nil => exact .empty
  | cons c rest ih => exact .more (escape_item c) ih

theorem quote_string (text : String) : StringText text.toList (quote text).toList := by
  rw [quote, String.toList_ofList]
  exact .quoted (flatMap_escape text.toList)

theorem count_plain (sign : Option Sign) (unsigned : sign ≠ some .plus) (count : Nat) :
    Numeral.Plain ⟨sign, Nat.toDigits 10 count, none, none⟩ := by
  have figures := Numeral.toDigits_figures count
  refine ⟨⟨figures.digits, by simp, .inl figures.nonempty, by simp⟩, unsigned, ?_⟩
  rcases figures.leading with zero | leading
  · exact .inl zero
  · obtain ⟨first, rest, same⟩ := List.exists_cons_of_ne_nil figures.nonempty
    rw [same] at leading ⊢
    exact .inr ⟨first, rfl, leading first rfl⟩

theorem toList_count (count : Nat) : (toString count).toList = Nat.toDigits 10 count :=
  String.toList_ofList

theorem count_scalar (count : Nat) : Scalar (toString count).toList := by
  have scalar := Scalar.number (count_plain none (by simp) count)
  simpa [Numeral.spelling, Numeral.fractionSpelling, toList_count] using scalar

theorem order_scalar (order : Int) : Scalar (toString order).toList := by
  cases order with
  | ofNat count => exact count_scalar count
  | negSucc count =>
      have scalar := Scalar.number (count_plain (some .minus) (by simp) (count + 1))
      have written : toString (Int.negSucc count) = "-" ++ toString (count + 1) := rfl
      rw [written, String.toList_append, toList_count]
      simpa [Numeral.spelling, Numeral.fractionSpelling, Sign.spelling] using scalar

theorem number_scalar (x : Binary64) : Scalar (number x).toList := by
  unfold number
  split
  · rename_i finite
    obtain ⟨numeral, spelled, plain, -⟩ := NumberFormat.json.finiteText_reads finite
    rw [String.toList_ofList, ← spelled]
    exact .number plain
  · exact .string (quote_string _)

theorem payload_scalar (carried : Option Payload) : Scalar (payload carried).toList := by
  rcases carried with _ | value | value | value | value | value
  · exact .null
  · exact .string (quote_string value)
  · exact number_scalar value
  · cases value
    · exact .false
    · exact .true
  · exact order_scalar value
  · exact .string (quote_string value.mnemonic)

theorem toList_members (code column kind line payload : String) :
    ("\x7b\"code\":" ++ code ++ ",\"column\":" ++ column ++ ",\"kind\":" ++ kind ++
      ",\"line\":" ++ line ++ ",\"payload\":" ++ payload ++ "\x7d").toList =
      '\x7b' :: ((quote "code").toList ++ ':' :: code.toList ++
        ',' :: ((quote "column").toList ++ ':' :: column.toList ++
        ',' :: ((quote "kind").toList ++ ':' :: kind.toList ++
        ',' :: ((quote "line").toList ++ ':' :: line.toList ++
        ',' :: ((quote "payload").toList ++ ':' :: payload.toList))))) ++ ['\x7d'] := by
  simp [quote, escape]

end Writer

end QueryCheck.Json

namespace QueryCheck.Token

open Json

theorem toList_json (token : Token) :
    token.json.toList =
      '\x7b' :: ((quote "code").toList ++ ':' :: (toString token.kind.code).toList ++
        ',' :: ((quote "column").toList ++ ':' :: (toString token.place.column).toList ++
        ',' :: ((quote "kind").toList ++ ':' :: (quote token.kind.label).toList ++
        ',' :: ((quote "line").toList ++ ':' :: (toString token.place.line).toList ++
        ',' :: ((quote "payload").toList ++ ':' :: (Json.payload token.payload).toList))))) ++
          ['\x7d'] :=
  toList_members _ _ _ _ _

/-- A token is written as one JSON object, whatever it carries. -/
theorem json_object (token : Token) :
    Object ["code", "column", "kind", "line", "payload"] token.json.toList := by
  rw [toList_json]
  refine .braces (.more (quote_string "code") (count_scalar _) ?_)
  refine .more (quote_string "column") (count_scalar _) ?_
  refine .more (quote_string "kind") (.string (quote_string _)) ?_
  refine .more (quote_string "line") (count_scalar _) ?_
  exact .last (quote_string "payload") (payload_scalar _)

end QueryCheck.Token
