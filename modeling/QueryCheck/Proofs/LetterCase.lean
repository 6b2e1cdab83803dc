import Mathlib.Data.List.Forall2
import QueryCheck.Proofs.Breaks

/-!
Texts that differ only in the case of ASCII letters. No class of characters that a query is
made of tells the two cases of a letter apart, so a lexeme other than a string stays one,
with the same kind, and the longest lexeme in front of a text stays the longest.
-/
namespace QueryCheck

namespace Text

/-- The same character, up to the case of an ASCII letter. -/
def SameLetter (c d : Char) : Prop := c.toUpper = d.toUpper

theorem SameLetter.symm {c d : Char} (same : SameLetter c d) : SameLetter d c := Eq.symm same

theorem sameLetter_refl (c : Char) : SameLetter c c := rfl

theorem toNat_toUpper (c : Char) :
    c.toUpper.toNat =
      if 97 ≤ c.toNat ∧ c.toNat ≤ 122 then c.toNat - 32 else c.toNat := by
  have bounds : ('a'.val ≤ c.val ∧ c.val ≤ 'z'.val) ↔ 97 ≤ c.toNat ∧ c.toNat ≤ 122 := by
    rw [UInt32.le_iff_toNat_le, UInt32.le_iff_toNat_le]
    rfl
  by_cases lower : 97 ≤ c.toNat ∧ c.toNat ≤ 122
  · obtain ⟨valid, raised⟩ : ∃ valid, c.toUpper = ⟨c.val + ('A'.val - 'a'.val), valid⟩ :=
      ⟨_, dif_pos (bounds.mpr lower)⟩
    have shifted : c.toUpper.toNat = (c.val + ('A'.val - 'a'.val)).toNat := by
      rw [raised]
      rfl
    have step : ('A'.val - 'a'.val).toNat = 4294967264 := rfl
    have code : c.val.toNat = c.toNat := rfl
    rw [shifted, UInt32.toNat_add, step, code, if_pos lower]
    omega
  · have kept : c.toUpper = c := dif_neg (mt bounds.mp lower)
    rw [kept, if_neg lower]

theorem isAlpha_iff {c : Char} : c.isAlpha = true ↔
    65 ≤ c.toNat ∧ c.toNat ≤ 90 ∨ 97 ≤ c.toNat ∧ c.toNat ≤ 122 := by
  show (decide ('A'.val ≤ c.val ∧ c.val ≤ 'Z'.val) ||
    (decide ('a'.val ≤ c.val) && decide (c.val ≤ 'z'.val))) = true ↔ _
  simp only [Bool.or_eq_true, Bool.and_eq_true, decide_eq_true_eq, UInt32.le_iff_toNat_le]
  exact Iff.rfl

theorem SameLetter.eq_or_letters {c d : Char} (same : SameLetter c d) :
    c = d ∨ c.isAlpha = true ∧ d.isAlpha = true := by
  have codes := congrArg Char.toNat same
  rw [toNat_toUpper, toNat_toUpper] at codes
  by_cases equal : c.toNat = d.toNat
  · exact .inl (Char.toNat_inj.mp equal)
  · right
    rw [isAlpha_iff, isAlpha_iff]
    split at codes <;> split at codes <;> omega

theorem SameLetter.eq {c d : Char} (same : SameLetter c d) (unlettered : c.isAlpha = false) :
    d = c := by
  rcases same.eq_or_letters with equal | ⟨letter, -⟩
  · exact equal.symm
  · rw [unlettered] at letter
    cases letter

theorem isAlphabetic_of_isAlpha {c : Char} (letter : c.isAlpha = true) :
    isAlphabetic c = true := by
  have nonempty : ∀ range ∈ alphabeticRanges.head?, range.1 ≤ range.2 := by
    rintro _ ⟨⟩
    decide
  refine (CodeRange.cover_iff alphabeticRanges_ascending nonempty c.toNat).mpr ?_
  rcases isAlpha_iff.mp letter with upper | lower
  · exact ⟨(0x41, 0x5A), .head _, upper⟩
  · exact ⟨(0x61, 0x7A), .tail _ (.head _), lower⟩

theorem SameLetter.holds {p : Char → Bool} {c d : Char} (same : SameLetter c d)
    (letters : ∀ letter : Char, letter.isAlpha = true → p letter = true) (holds : p c = true) :
    p d = true := by
  rcases same.eq_or_letters with rfl | ⟨-, letter⟩
  · exact holds
  · exact letters d letter

theorem isWordStart_of_isAlpha (c : Char) (letter : c.isAlpha = true) : isWordStart c = true := by
  simp [isWordStart, isAlphabetic_of_isAlpha letter]

theorem isWordPart_of_isAlpha (c : Char) (letter : c.isAlpha = true) : isWordPart c = true :=
  isWordPart_of_isWordStart (isWordStart_of_isAlpha c letter)

theorem upperCaseChar_letter {c : Char} (letter : c.isAlpha = true) :
    upperCaseChar c = [c.toUpper] := by
  have apart : ∀ other : Char, other.isAlpha = false → c ≠ other := by
    rintro other unlettered rfl
    rw [unlettered] at letter
    cases letter
  unfold upperCaseChar
  repeat rw [if_neg (apart _ rfl)]

theorem SameLetter.upperCaseChar {c d : Char} (same : SameLetter c d) :
    upperCaseChar c = upperCaseChar d := by
  rcases same.eq_or_letters with rfl | ⟨letter, other⟩
  · rfl
  · rw [upperCaseChar_letter letter, upperCaseChar_letter other, same]

def Recased (left right : List Char) : Prop := List.Forall₂ SameLetter left right

theorem Recased.symm {left right : List Char} (recased : Recased left right) :
    Recased right left :=
  List.Forall₂.flip (List.Forall₂.imp (fun _ _ same => same.symm) recased)

theorem related_append {α β : Type} {R : α → β → Prop} {front back : List α} {other : List β}
    (related : List.Forall₂ R (front ++ back) other) :
    ∃ first second, other = first ++ second ∧ List.Forall₂ R front first ∧
      List.Forall₂ R back second := by
  have first := List.forall₂_take front.length related
  have second := List.forall₂_drop front.length related
  rw [List.take_left] at first
  rw [List.drop_left] at second
  exact ⟨_, _, (List.take_append_drop front.length other).symm, first, second⟩

theorem Recased.eq {left right : List Char} (recased : Recased left right)
    (unlettered : ∀ c ∈ left, c.isAlpha = false) : right = left := by
  induction recased with
  | nil => rfl
  | cons same _ ih =>
      obtain ⟨first, later⟩ := List.forall_mem_cons.mp unlettered
      rw [same.eq first, ih later]

theorem Recased.head {left right : List Char} {c : Char} (recased : Recased left right)
    (unlettered : c.isAlpha = false) (head : right.head? = some c) : left.head? = some c := by
  cases recased with
  | nil => exact head
  | cons same _ =>
      cases head
      rw [List.head?_cons, same.symm.eq unlettered]

theorem Recased.all {p : Char → Bool} {left right : List Char} (recased : Recased left right)
    (letters : ∀ letter : Char, letter.isAlpha = true → p letter = true)
    (all : ∀ c ∈ left, p c = true) : ∀ c ∈ right, p c = true := by
  induction recased with
  | nil => exact all
  | cons same _ ih =>
      obtain ⟨first, later⟩ := List.forall_mem_cons.mp all
      exact List.forall_mem_cons.mpr ⟨same.holds letters first, ih later⟩

theorem Recased.upperCase {left right : List Char} (recased : Recased left right) :
    upperCase left = upperCase right := by
  induction recased with
  | nil => rfl
  | cons same _ ih => rw [upperCase_cons, upperCase_cons, same.upperCaseChar, ih]

end Text

open Text

theorem Keyword.find?_recased {word other : List Char} (recased : Recased word other) :
    find? other = find? word := by
  rw [find?, find?, recased.upperCase]

theorem IsWord.recased {word other : List Char} (isWord : IsWord word)
    (recased : Recased word other) : IsWord other := by
  cases recased with
  | nil => exact isWord
  | cons same rest =>
      exact ⟨same.holds isWordStart_of_isAlpha isWord.1,
        Recased.all rest isWordPart_of_isAlpha isWord.2⟩

section Numerals

theorem digits_unlettered {text : List Char} (digits : Digits text) :
    ∀ c ∈ text, c.isAlpha = false := by
  intro c member
  have digit := digits c member
  simp only [Char.isDigit, Bool.and_eq_true, decide_eq_true_eq, UInt32.le_iff_toNat_le] at digit
  refine Bool.eq_false_iff.mpr fun letter => ?_
  have code : c.val.toNat = c.toNat := rfl
  have least : '9'.val.toNat = 57 := rfl
  rw [isAlpha_iff] at letter
  omega

theorem sign_unlettered (sign : Option Sign) :
    ∀ c ∈ sign.toList.map Sign.spelling, c.isAlpha = false := by
  rcases sign with _ | _ | _ <;> simp [Sign.spelling]

theorem mark_recased {mark other : Char} (marked : mark = 'e' ∨ mark = 'E')
    (same : SameLetter mark other) : other = 'e' ∨ other = 'E' := by
  have upper : mark.toUpper.toNat = 69 := by rcases marked with rfl | rfl <;> rfl
  rw [same, toNat_toUpper] at upper
  by_cases lower : other.toNat = 101
  · exact .inl (Char.toNat_inj.mp lower)
  · refine .inr (Char.toNat_inj.mp ?_)
    show other.toNat = 69
    split at upper <;> omega

theorem Exponent.recased {exponent : Exponent} {other : List Char} (valid : exponent.Valid)
    (recased : Recased exponent.spelling other) :
    ∃ mark, Exponent.Valid { exponent with mark := mark } ∧
      Exponent.spelling { exponent with mark := mark } = other := by
  cases recased with
  | @cons _ mark _ rest same later =>
      have plain : ∀ c ∈ exponent.sign.toList.map Sign.spelling ++ exponent.digits,
          c.isAlpha = false :=
        List.forall_mem_append.mpr ⟨sign_unlettered _, digits_unlettered valid.digits⟩
      refine ⟨mark, ⟨mark_recased valid.mark same, valid.digits, valid.nonempty⟩, ?_⟩
      rw [Recased.eq later plain]
      rfl

theorem Numeral.recased {numeral : Numeral} {other : List Char} (valid : numeral.Valid)
    (recased : Recased numeral.spelling other) :
    ∃ again : Numeral, again.Valid ∧ again.spelling = other ∧
      again.toDecimal = numeral.toDecimal := by
  obtain ⟨sign, whole, fraction, exponent⟩ := numeral
  obtain ⟨first, second, rfl, front, back⟩ := related_append recased
  have plain : ∀ c ∈ sign.toList.map Sign.spelling ++ whole ++ fractionSpelling fraction,
      c.isAlpha = false := by
    refine List.forall_mem_append.mpr ⟨List.forall_mem_append.mpr
      ⟨sign_unlettered sign, digits_unlettered valid.whole⟩, ?_⟩
    cases fraction with
    | none => simp [fractionSpelling]
    | some digits =>
        exact List.forall_mem_cons.mpr ⟨rfl, digits_unlettered (valid.fraction digits rfl).1⟩
  rw [Recased.eq front plain]
  cases exponent with
  | none =>
      cases back
      exact ⟨⟨sign, whole, fraction, none⟩, valid, rfl, rfl⟩
  | some exponent =>
      obtain ⟨mark, validAgain, rfl⟩ := Exponent.recased (valid.exponent exponent rfl) back
      refine ⟨⟨sign, whole, fraction, some { exponent with mark := mark }⟩,
        ⟨valid.whole, valid.fraction, valid.nonempty, ?_⟩, rfl, rfl⟩
      rintro _ ⟨⟩
      exact validAgain

end Numerals

/-- What two lexemes carry that differ in the case of letters: names are as written, and
everything else is the same. -/
inductive Respelled (lexeme other : List Char) : Kind → Option Payload → Option Payload → Prop where
  | name {kind : Kind} :
      kind = .identifier ∨ kind = .field →
        Respelled lexeme other kind (some (.text (String.ofList lexeme)))
          (some (.text (String.ofList other)))
  | same {kind : Kind} {payload : Option Payload} :
      kind ≠ .identifier → kind ≠ .field → Respelled lexeme other kind payload payload

theorem Comparison.symbol_unlettered (comparison : Comparison) :
    ∀ c ∈ comparison.symbol.toList, c.isAlpha = false := by
  have plain : comparison.symbol.toList.all (fun c => !c.isAlpha) = true := by
    cases comparison <;> rfl
  simpa using List.all_eq_true.mp plain

theorem Lexeme.unlettered {lexeme other : List Char} {kind : Kind} {payload : Option Payload}
    (isLexeme : Lexeme lexeme kind payload) (plain : ∀ c ∈ lexeme, c.isAlpha = false)
    (unnamed : kind ≠ .identifier ∧ kind ≠ .field) (recased : Recased lexeme other) :
    ∃ carried, Lexeme other kind carried ∧ Respelled lexeme other kind payload carried := by
  rw [recased.eq plain]
  exact ⟨payload, isLexeme, .same unnamed.1 unnamed.2⟩

theorem Lexeme.recased {lexeme other : List Char} {kind : Kind} {payload : Option Payload}
    (isLexeme : Lexeme lexeme kind payload) (unquoted : kind ≠ .string)
    (recased : Recased lexeme other) :
    ∃ carried, Lexeme other kind carried ∧ Respelled lexeme other kind payload carried := by
  have whole := isLexeme
  cases isLexeme with
  | leftParen | rightParen | comma | dot | star =>
      exact whole.unlettered (List.forall_mem_singleton.mpr rfl) (by decide) recased
  | comparison comparison =>
      exact whole.unlettered comparison.symbol_unlettered (by decide) recased
  | reserved isWord found =>
      obtain ⟨unnamed, undotted, -⟩ := Keyword.kind_plain (Keyword.mem_all_of_find? found)
      rw [← Keyword.find?_recased recased] at found
      exact ⟨_, .reserved (isWord.recased recased) found, .same unnamed undotted⟩
  | identifier isWord missing =>
      rw [← Keyword.find?_recased recased] at missing
      exact ⟨_, .identifier (isWord.recased recased) missing, .name (.inl rfl)⟩
  | field first second =>
      obtain ⟨front, back, rfl, frontRecased, backRecased⟩ := related_append recased
      cases backRecased with
      | cons dot rest =>
          rw [dot.eq rfl]
          exact ⟨_, .field (first.recased frontRecased) (second.recased rest), .name (.inr rfl)⟩
  | number pattern valid point =>
      obtain ⟨again, validAgain, rfl, same⟩ := Numeral.recased valid recased
      rw [← same]
      exact ⟨_, .number (numericPattern_iff.mpr ⟨again, validAgain, rfl⟩) validAgain
        fun dotted => point (recased.head rfl dotted), .same (by decide) (by decide)⟩
  | string _ => exact absurd rfl unquoted

-- The longest lexeme in front of a text stays the longest.
theorem Longest.recased {lexeme other rest more : List Char} {kind : Kind}
    {payload : Option Payload} (longest : Longest (lexeme ++ rest) lexeme)
    (isLexeme : Lexeme lexeme kind payload) (recased : Recased lexeme other)
    (recasedRest : Recased rest more) (literal : kind = .string → other = lexeme) :
    Longest (other ++ more) other := by
  refine ⟨List.prefix_append _ _, ?_⟩
  intro found foundKind carried isFound front
  have whole : Recased (other ++ more) (lexeme ++ rest) :=
    Recased.symm (List.rel_append recased recasedRest)
  by_cases string : foundKind = .string
  · -- The lexeme begins with the same quote, so nothing in it has changed.
    subst string
    obtain ⟨tail, split⟩ := front
    have quoted : (lexeme ++ rest).head? = some '"' := by
      refine whole.symm.head rfl ?_
      rw [← split, List.head?_append_of_ne_nil _ isFound.ne_nil]
      exact isFound.string_iff.mp rfl
    rw [List.head?_append_of_ne_nil _ isLexeme.ne_nil] at quoted
    obtain rfl := isLexeme.string_iff.mpr quoted
    obtain rfl := literal rfl
    obtain ⟨body, decoded, own, spelled⟩ := isLexeme.quoted
    obtain ⟨inner, text, quotedFound, spelledFound⟩ := isFound.quoted
    have prefixed : '"' :: inner ++ ['"'] <+: other ++ more :=
      ⟨tail, by rw [← spelledFound, split]⟩
    have ahead : '"' :: body ++ ['"'] <+: other ++ more := ⟨more, by rw [← spelled]⟩
    rw [spelledFound, quoted_unique own quotedFound ahead prefixed, ← spelled]
  · have within : Recased found ((lexeme ++ rest).take found.length) := by
      have cut := List.forall₂_take found.length whole
      rwa [← List.prefix_iff_eq_take.mp front] at cut
    obtain ⟨again, isAgain, -⟩ := isFound.recased string within
    have short := longest.longest _ _ _ isAgain (List.take_prefix _ _)
    rw [← List.Forall₂.length_eq recased]
    rwa [← List.Forall₂.length_eq within] at short

end QueryCheck
