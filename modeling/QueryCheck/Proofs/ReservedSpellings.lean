import Mathlib
import QueryCheck.Proofs.LetterCase

/-!
Which texts spell a reserved word. No character but a letter and four others has an
upper-case form that stands in a reserved word, so a spelling is cut into pieces of one
character each. The short table of upper-case forms that the look-up uses is compared
with the full one: where they differ, neither form is wholly ASCII.
-/
namespace QueryCheck

open Text

/-- A character and the letters of a reserved word that it spells. -/
inductive Piece : List Char → Char → Prop where
  | letter {c : Char} : c.isAlpha = true → Piece [c.toUpper] c
  | longS : Piece ['S'] '\u017f'
  | dotlessI : Piece ['I'] '\u0131'
  | longLigature : Piece ['S', 'T'] '\ufb05'
  | ligature : Piece ['S', 'T'] '\ufb06'

/-- A spelling cut into pieces that spell a word from left to right. -/
inductive Spells : List Char → List Char → Prop where
  | nothing : Spells [] []
  | piece {letters word : List Char} {c : Char} {spelling : List Char} :
      Piece letters c → Spells word spelling → Spells (letters ++ word) (c :: spelling)

/-- A character that stands in no spelling of a reserved word. -/
def Foreign (c : Char) : Prop :=
  (128 ≤ c.toNat ∧ c ∉ ['\u017f', '\u0131', '\ufb05', '\ufb06']) ∨
    c.isDigit = true ∨ c = '_' ∨ c = '-'

section Pieces

theorem Piece.upperCaseChar {letters : List Char} {c : Char} (piece : Piece letters c) :
    upperCaseChar c = letters := by
  cases piece with
  | letter letter => exact upperCaseChar_letter letter
  | longS | dotlessI | longLigature | ligature => rfl

theorem Piece.native {letters : List Char} {c : Char} (piece : Piece letters c) : ¬ Foreign c := by
  cases piece with
  | letter letter =>
      have code := isAlpha_iff.mp letter
      rintro (⟨high, -⟩ | digit | rfl | rfl)
      · omega
      · have unlettered := digits_unlettered (List.forall_mem_singleton.mpr digit) c (by simp)
        rw [letter] at unlettered
        cases unlettered
      · cases letter
      · cases letter
  | longS | dotlessI | longLigature | ligature => simp [Foreign, Char.isDigit]

theorem Spells.upperCase {word spelling : List Char} (spells : Spells word spelling) :
    upperCase spelling = word := by
  induction spells with
  | nothing => rfl
  | piece piece _ ih => rw [upperCase_cons, piece.upperCaseChar, ih]

theorem Spells.native {word spelling : List Char} (spells : Spells word spelling) :
    ∀ c ∈ spelling, ¬ Foreign c := by
  induction spells with
  | nothing => simp
  | piece piece _ ih => exact List.forall_mem_cons.mpr ⟨piece.native, ih⟩

def Unligated (word : List Char) : Prop :=
  (∀ c ∈ word, c.isUpper = true) ∧
    ∀ pair ∈ [['S', 'S'], ['F', 'F'], ['F', 'I'], ['F', 'L']], ¬ pair <:+: word

instance (word : List Char) : Decidable (Unligated word) :=
  @instDecidableAnd _ _ (List.decidableBAll (fun c : Char => c.isUpper = true) word)
    (List.decidableBAll (fun pair : List Char => ¬ pair <:+: word) _)

theorem Unligated.within {word part : List Char} (plain : Unligated word)
    (inside : part <:+: word) : Unligated part :=
  ⟨fun c member => plain.1 c (inside.subset member),
    fun pair listed within => plain.2 pair listed (within.trans inside)⟩

def capitals : List Char :=
  ['\u0131', '\u017f', '\ufb05', '\ufb06', '\u00df', '\ufb00', '\ufb01', '\ufb02', '\ufb03',
    '\ufb04']

theorem upperCaseChar_single {c : Char} (single : c ∉ capitals) :
    upperCaseChar c = [c.toUpper] := by
  simp only [capitals, List.mem_cons, List.not_mem_nil, or_false, not_or] at single
  simp [upperCaseChar, single]

theorem piece_of_unligated {c : Char} (plain : Unligated (upperCaseChar c)) :
    Piece (upperCaseChar c) c := by
  by_cases single : c ∈ capitals
  · simp only [capitals, List.mem_cons, List.not_mem_nil, or_false] at single
    rcases single with rfl | rfl | rfl | rfl | rfl | rfl | rfl | rfl | rfl | rfl
    · exact .dotlessI
    · exact .longS
    · exact .longLigature
    · exact .ligature
    -- The others stand for a pair that is in no reserved word.
    all_goals exact absurd plain (by decide)
  · rw [upperCaseChar_single single] at plain ⊢
    have upper := plain.1 _ (List.mem_singleton_self _)
    rw [Char.isUpper_toUpper_eq_isAlpha] at upper
    exact .letter upper

theorem spells_of_upperCase {word spelling : List Char} (plain : Unligated word)
    (upper : upperCase spelling = word) : Spells word spelling := by
  induction spelling generalizing word with
  | nil =>
      cases upper
      exact .nothing
  | cons c rest ih =>
      rw [upperCase_cons] at upper
      subst upper
      have front := plain.within (List.prefix_append _ _).isInfix
      have back := plain.within (List.suffix_append _ _).isInfix
      exact .piece (piece_of_unligated front) (ih back rfl)

end Pieces

namespace Keyword

theorem word_unligated {keyword : Keyword} (member : keyword ∈ all) :
    Unligated keyword.word.toList := by
  have plain : all.all (fun keyword => Unligated keyword.word.toList) = true := by decide +kernel
  simpa using List.all_eq_true.mp plain keyword member

theorem word_injective {left right : Keyword} (known : left ∈ all) (knownRight : right ∈ all)
    (same : left.word = right.word) : left = right := by
  have distinct : (all.map word).Nodup := by decide
  exact List.inj_on_of_nodup_map distinct known knownRight same

theorem spells_iff {keyword : Keyword} (member : keyword ∈ all) {spelling : List Char} :
    Spells keyword.word.toList spelling ↔ upperCase spelling = keyword.word.toList := by
  constructor
  · exact Spells.upperCase
  · exact spells_of_upperCase (word_unligated member)

theorem spelled_once {left right : Keyword} (known : left ∈ all) (knownRight : right ∈ all)
    {spelling : List Char} (spells : Spells left.word.toList spelling)
    (spellsRight : Spells right.word.toList spelling) : left = right := by
  apply word_injective known knownRight
  apply String.toList_inj.mp
  rw [← spells.upperCase, spellsRight.upperCase]

theorem find?_some_iff {spelling : List Char} {keyword : Keyword} :
    find? spelling = some keyword ↔
      keyword ∈ all ∧ Spells keyword.word.toList spelling := by
  constructor
  · intro found
    have member := mem_all_of_find? found
    have upper := List.find?_some found
    exact ⟨member, (spells_iff member).mpr (of_decide_eq_true upper).symm⟩
  · rintro ⟨member, spells⟩
    cases found : find? spelling with
    | none =>
        have missed := List.find?_eq_none.mp found keyword member
        exact absurd (decide_eq_true spells.upperCase.symm) missed
    | some other =>
        have known := mem_all_of_find? found
        have upper := List.find?_some found
        have spellsOther := (spells_iff known).mpr (of_decide_eq_true upper).symm
        rw [spelled_once known member spellsOther spells]

end Keyword

namespace Text

def Beyond (text : List Char) : Prop := ∃ c ∈ text, 128 ≤ c.toNat

instance (text : List Char) : Decidable (Beyond text) :=
  List.decidableBEx (fun c : Char => 128 ≤ c.toNat) text

theorem Beyond.append_left {back : List Char} (beyond : Beyond back) (front : List Char) :
    Beyond (front ++ back) := by
  obtain ⟨c, member, high⟩ := beyond
  exact ⟨c, List.mem_append_right _ member, high⟩

theorem Beyond.append_right {front : List Char} (beyond : Beyond front) (back : List Char) :
    Beyond (front ++ back) := by
  obtain ⟨c, member, high⟩ := beyond
  exact ⟨c, List.mem_append_left _ member, high⟩

-- Only the first run, that of the small letters, begins in ASCII.
theorem fullUpperCaseChar_ascii {c : Char} (low : c.toNat < 128) :
    fullUpperCaseChar c = [c.toUpper] := by
  have long : ∀ expansion ∈ caseExpansions, 128 ≤ expansion.1 := by decide +kernel
  have later : ∀ run ∈ caseRuns.tail, 128 ≤ run.first := by decide +kernel
  have unexpanded : caseExpansions.find? (·.1 = c.toNat) = none := by
    rw [List.find?_eq_none]
    intro expansion listed
    have high := long expansion listed
    rw [decide_eq_true_eq]
    omega
  have unmoved : caseRuns.tail.find? (·.holds c.toNat) = none := by
    rw [List.find?_eq_none]
    intro run listed
    have high := later run listed
    simp only [CaseRun.holds, Bool.and_eq_true, decide_eq_true_eq]
    omega
  have small : caseRuns = ⟨0x61, 0x7A, 1, -32⟩ :: caseRuns.tail := rfl
  have upper := toNat_toUpper c
  rw [fullUpperCaseChar, unexpanded, small, List.find?_cons, unmoved]
  by_cases letter : 97 ≤ c.toNat ∧ c.toNat ≤ 122
  · have holds : CaseRun.holds ⟨0x61, 0x7A, 1, -32⟩ c.toNat = true := by
      simp [CaseRun.holds, letter, Nat.mod_one]
    rw [if_pos letter] at upper
    have moved : CaseRun.upper ⟨0x61, 0x7A, 1, -32⟩ c.toNat = c.toUpper.toNat := by
      simp only [CaseRun.upper, upper]
      omega
    simp only [holds, moved, Char.ofNat_toNat]
  · have misses : CaseRun.holds ⟨0x61, 0x7A, 1, -32⟩ c.toNat = false := by
      simp only [CaseRun.holds, Bool.and_eq_false_iff, decide_eq_false_iff_not]
      omega
    rw [if_neg letter, Char.toNat_inj] at upper
    simp only [misses, upper]

theorem fullUpperCaseChar_capitals {c : Char} (capital : c ∈ capitals) :
    fullUpperCaseChar c = upperCaseChar c := by
  have known : capitals.all (fun c => fullUpperCaseChar c = upperCaseChar c) = true := by
    decide +kernel
  exact of_decide_eq_true (List.all_eq_true.mp known c capital)

theorem expansion_beyond {expansion : Nat × List Nat} (listed : expansion ∈ caseExpansions)
    (uncommon : Char.ofNat expansion.1 ∉ capitals) : Beyond (expansion.2.map Char.ofNat) := by
  have known : caseExpansions.all (fun expansion =>
      Char.ofNat expansion.1 ∈ capitals ∨ Beyond (expansion.2.map Char.ofNat)) = true := by
    decide +kernel
  have here := of_decide_eq_true (List.all_eq_true.mp known expansion listed)
  exact here.resolve_left uncommon

/-- Where a run lies: in ASCII, on one of the capitals, or wholly beyond, with what it is
moved to on one side of the surrogates. -/
def CaseRun.Placed (run : CaseRun) : Prop :=
  run.last < 128 ∨ (run.first = run.last ∧ Char.ofNat run.first ∈ capitals) ∨
    (128 ≤ run.first + run.shift ∧
      (run.last + run.shift < 0xD800 ∨
        0xDFFF < run.first + run.shift ∧ run.last + run.shift < 0x110000))

instance (run : CaseRun) : Decidable run.Placed := inferInstanceAs (Decidable (_ ∨ _))

theorem caseRuns_placed {run : CaseRun} (listed : run ∈ caseRuns) : run.Placed := by
  have known : caseRuns.all (fun run => run.Placed) = true := by decide +kernel
  exact of_decide_eq_true (List.all_eq_true.mp known run listed)

theorem run_beyond {run : CaseRun} (listed : run ∈ caseRuns) {c : Char}
    (holds : run.holds c.toNat = true) (high : 128 ≤ c.toNat) (uncommon : c ∉ capitals) :
    Beyond [Char.ofNat (run.upper c.toNat)] := by
  simp only [CaseRun.holds, Bool.and_eq_true, decide_eq_true_eq] at holds
  obtain ⟨⟨first, last⟩, -⟩ := holds
  rcases caseRuns_placed listed with low | ⟨single, capital⟩ | ⟨beyond, side⟩
  · omega
  · have same : run.first = c.toNat := by omega
    rw [same, Char.ofNat_toNat] at capital
    exact absurd capital uncommon
  · refine ⟨_, List.mem_singleton_self _, ?_⟩
    have valid : (run.upper c.toNat).isValidChar := by
      simp only [CaseRun.upper, Nat.isValidChar]
      omega
    have code : (Char.ofNat (run.upper c.toNat)).toNat = run.upper c.toNat := by
      rw [Char.ofNat, dif_pos valid]
      rfl
    rw [code, CaseRun.upper]
    omega

theorem fullUpperCaseChar_beyond {c : Char} (high : 128 ≤ c.toNat) (uncommon : c ∉ capitals) :
    Beyond (fullUpperCaseChar c) := by
  unfold fullUpperCaseChar
  split
  · rename_i expansion found
    have same : expansion.1 = c.toNat := by simpa using List.find?_some found
    apply expansion_beyond (List.mem_of_find?_eq_some found)
    rwa [same, Char.ofNat_toNat]
  · split
    · rename_i run found
      have holds : run.holds c.toNat = true := by simpa using List.find?_some found
      exact run_beyond (List.mem_of_find?_eq_some found) holds high uncommon
    · exact ⟨c, List.mem_singleton_self c, high⟩

-- The short table gives the full upper-case form of a character, unless neither form is wholly
-- ASCII.
theorem upperCaseChar_full (c : Char) :
    fullUpperCaseChar c = upperCaseChar c ∨
      Beyond (fullUpperCaseChar c) ∧ Beyond (upperCaseChar c) := by
  by_cases capital : c ∈ capitals
  · exact .inl (fullUpperCaseChar_capitals capital)
  · rw [upperCaseChar_single capital]
    rcases Nat.lt_or_ge c.toNat 128 with low | high
    · exact .inl (fullUpperCaseChar_ascii low)
    · have kept : 128 ≤ c.toUpper.toNat := by
        rw [toNat_toUpper]
        split <;> omega
      exact .inr ⟨fullUpperCaseChar_beyond high capital, _, List.mem_singleton_self _, kept⟩

theorem fullUpperCase_iff {word : List Char} (ascii : ¬ Beyond word) (text : List Char) :
    fullUpperCase text = word ↔ upperCase text = word := by
  induction text generalizing word with
  | nil => rfl
  | cons c rest ih =>
      rw [upperCase_cons, fullUpperCase, List.flatMap_cons]
      change _ ++ fullUpperCase rest = word ↔ _
      rcases upperCaseChar_full c with same | ⟨beyond, beyondShort⟩
      · rw [same]
        -- Behind the same front, what is left of the word is ASCII too.
        have left : ∀ {back : List Char}, upperCaseChar c ++ back = word → ¬ Beyond back := by
          rintro back rfl beyond
          exact ascii (beyond.append_left _)
        constructor
        · intro upper
          rwa [(ih (left upper)).mp rfl]
        · intro upper
          rwa [(ih (left upper)).mpr rfl]
      · constructor
        · rintro rfl
          exact absurd (beyond.append_right _) ascii
        · rintro rfl
          exact absurd (beyondShort.append_right _) ascii

end Text

namespace Keyword

theorem word_ascii {keyword : Keyword} (member : keyword ∈ all) :
    ¬ Beyond keyword.word.toList := by
  rintro ⟨c, inside, high⟩
  have upper := (word_unligated member).1 c inside
  have letter : c.isAlpha = true := by rw [Char.isAlpha, upper, Bool.true_or]
  rw [isAlpha_iff] at letter
  omega

-- The look-up is that of the full upper-case form among the reserved words.
theorem find?_full (spelling : List Char) :
    find? spelling =
      all.find? fun keyword => keyword.word.toList = fullUpperCase spelling := by
  apply List.find?_congr
  intro keyword member
  rw [decide_eq_decide, eq_comm, eq_comm (b := fullUpperCase spelling)]
  exact (fullUpperCase_iff (word_ascii member) spelling).symm

/-- A text is a reserved word exactly when it can be cut into pieces that spell one, and
then it spells no other; the look-up goes by the full upper-case form of the text. -/
theorem reserved_exactly (spelling : List Char) :
    (∀ keyword, find? spelling = some keyword ↔
      keyword ∈ all ∧ Spells keyword.word.toList spelling) ∧
    (∀ left ∈ all, ∀ right ∈ all, Spells left.word.toList spelling →
      Spells right.word.toList spelling → left = right) ∧
    ((∃ c ∈ spelling, Foreign c) → find? spelling = none) ∧
    find? spelling =
      all.find? fun keyword => keyword.word.toList = fullUpperCase spelling := by
  refine ⟨fun keyword => find?_some_iff, ?_, ?_, find?_full spelling⟩
  · intro left known right knownRight spells spellsRight
    exact spelled_once known knownRight spells spellsRight
  · rintro ⟨c, member, foreign⟩
    cases found : find? spelling with
    | none => rfl
    | some keyword => exact absurd foreign ((find?_some_iff.mp found).2.native c member)

/-- Seven characters spell `DISTINCT`, one of them two letters at once; a `K` of another
alphabet spells nothing. -/
theorem reserved_by_ligature :
    Spells "DISTINCT".toList ['d', '\u0131', '\ufb05', '\u0131', 'N', 'c', 't'] ∧
    find? ['d', '\u0131', '\ufb05', '\u0131', 'N', 'c', 't'] =
      some { word := "DISTINCT", kind := .distinctKeyword } ∧
    (∀ other ∈ all,
      Spells other.word.toList ['d', '\u0131', '\ufb05', '\u0131', 'N', 'c', 't'] →
        other = { word := "DISTINCT", kind := .distinctKeyword }) ∧
    Foreign '\u212a' ∧ find? ['l', 'i', '\u212a', 'e'] = none := by
  have member : { word := "DISTINCT", kind := .distinctKeyword } ∈ all :=
    .tail _ (.head _)
  have spells := (spells_iff member).mpr
    (show upperCase ['d', '\u0131', '\ufb05', '\u0131', 'N', 'c', 't'] = _ by decide)
  have foreign : Foreign '\u212a' := .inl ⟨by decide, by decide⟩
  obtain ⟨reserved, once, -, -⟩ :=
    reserved_exactly ['d', '\u0131', '\ufb05', '\u0131', 'N', 'c', 't']
  obtain ⟨-, -, unreserved, -⟩ := reserved_exactly ['l', 'i', '\u212a', 'e']
  refine ⟨spells, (reserved _).mpr ⟨member, spells⟩, ?_, foreign, ?_⟩
  · intro other known spellsOther
    exact once other known _ member spellsOther spells
  · exact unreserved ⟨'\u212a', by simp, foreign⟩

end Keyword

end QueryCheck
