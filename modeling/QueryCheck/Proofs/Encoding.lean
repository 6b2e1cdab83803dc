import QueryCheck.Text

/-!
Texts as bytes, character by character. Different texts have different bytes, and the byte
of a line feed stands in a text only where a line feed does: every byte of a character
outside ASCII has its highest bit set.
-/
namespace QueryCheck.Text

theorem utf8_eq_flatMap (text : String) :
    utf8 text = text.toList.flatMap String.utf8EncodeChar := by
  have encoded : text.toUTF8 = (text.toList.flatMap String.utf8EncodeChar).toByteArray :=
    String.utf8Encode_toList.symm
  rw [utf8, encoded, List.data_toByteArray]

theorem utf8_injective {left right : String} (same : utf8 left = utf8 right) : left = right := by
  have read := ofUtf8?_utf8 left
  rw [same, ofUtf8?_utf8] at read
  exact (Option.some.inj read).symm

theorem encoded_high {c : Char} (wide : 0x7f < c.val.toNat) :
    ∀ byte ∈ String.utf8EncodeChar c, 0x80 ≤ byte.toNat := by
  simp only [String.utf8EncodeChar, if_neg (Nat.not_le_of_lt wide)]
  split
  · simp only [List.mem_cons, List.not_mem_nil, or_false, forall_eq_or_imp, forall_eq,
      UInt8.toNat_ofNat']
    omega
  · split
    · simp only [List.mem_cons, List.not_mem_nil, or_false, forall_eq_or_imp, forall_eq,
        UInt8.toNat_ofNat']
      omega
    · simp only [List.mem_cons, List.not_mem_nil, or_false, forall_eq_or_imp, forall_eq,
        UInt8.toNat_ofNat']
      omega

theorem encoded_ascii {c : Char} (narrow : c.val.toNat ≤ 0x7f) :
    String.utf8EncodeChar c = [UInt8.ofNat c.val.toNat] := by
  simp only [String.utf8EncodeChar, if_pos narrow]

def lineFeed : UInt8 := 10

theorem eq_of_lineFeed_mem {c : Char} (member : lineFeed ∈ String.utf8EncodeChar c) :
    c = '\n' := by
  rcases Nat.lt_or_ge 0x7f c.val.toNat with wide | narrow
  · exact absurd (encoded_high wide lineFeed member) (by decide)
  · rw [encoded_ascii narrow, List.mem_singleton, ← UInt8.toNat_inj, UInt8.toNat_ofNat'] at member
    have ten : lineFeed.toNat = 10 := rfl
    have code : c.val.toNat = 10 := by omega
    exact Char.ext (UInt32.toNat_inj.mp code)

theorem lineFeed_mem_utf8 {text : String} (member : lineFeed ∈ utf8 text) :
    '\n' ∈ text.toList := by
  rw [utf8_eq_flatMap, List.mem_flatMap] at member
  obtain ⟨c, inside, encoded⟩ := member
  rwa [eq_of_lineFeed_mem encoded] at inside

theorem utf8_lineFeed : utf8 "\n" = [lineFeed] := by
  decide +kernel

theorem count_encoded (c : Char) :
    (String.utf8EncodeChar c).count lineFeed = if c = '\n' then 1 else 0 := by
  split
  · rename_i feed
    subst feed
    rfl
  · rename_i other
    exact List.count_eq_zero_of_not_mem (mt eq_of_lineFeed_mem other)

theorem count_utf8 (text : String) : (utf8 text).count lineFeed = text.toList.count '\n' := by
  rw [utf8_eq_flatMap]
  induction text.toList with
  | nil => rfl
  | cons c rest ih =>
      rw [List.flatMap_cons, List.count_append, count_encoded, ih, List.count_cons, Nat.add_comm]
      simp

/-!
Lines of bytes, each with a line feed behind it. Splitting at the line feeds gives the lines
back exactly when no line holds one itself, and counting the line feeds tells the same: every
line feed inside a line is one more than there are lines.
-/

theorem length_splitOn (mark : UInt8) (bytes : List UInt8) :
    (bytes.splitOn mark).length = bytes.count mark + 1 := by
  induction bytes with
  | nil => rfl
  | cons byte rest ih =>
      rw [List.splitOn_cons_eq_if_modifyHead, List.count_cons]
      by_cases same : (byte == mark) = true
      · rw [if_pos same, if_pos same, List.length_cons, ih]
      · rw [if_neg same, if_neg same, List.length_modifyHead, ih]

theorem count_lines (lines : List (List UInt8)) :
    (lines.flatMap (· ++ [lineFeed])).count lineFeed =
      lines.length + lines.flatten.count lineFeed := by
  induction lines with
  | nil => rfl
  | cons line rest ih =>
      rw [List.flatMap_cons, List.count_append, List.count_append, ih, List.count_singleton_self,
        List.length_cons, List.flatten_cons, List.count_append]
      omega

theorem count_lines_iff {lines : List (List UInt8)} :
    (lines.flatMap (· ++ [lineFeed])).count lineFeed = lines.length ↔
      ∀ line ∈ lines, lineFeed ∉ line := by
  rw [count_lines, Nat.add_eq_left, List.count_eq_zero, List.mem_flatten]
  exact ⟨fun none line member feed => none ⟨line, member, feed⟩,
    fun apart ⟨line, member, feed⟩ => apart line member feed⟩

theorem splitOn_lines {lines : List (List UInt8)} (apart : ∀ line ∈ lines, lineFeed ∉ line) :
    (lines.flatMap (· ++ [lineFeed])).splitOn lineFeed = lines ++ [[]] := by
  induction lines with
  | nil => rfl
  | cons line rest ih =>
      obtain ⟨plain, later⟩ := List.forall_mem_cons.mp apart
      rw [List.flatMap_cons, List.append_assoc, List.singleton_append,
        List.splitOn_append_cons_self_of_not_mem plain, ih later, List.cons_append]

/-- Lines are found again by their line feeds just when they hold none themselves. -/
theorem splitOn_lines_iff {lines : List (List UInt8)} :
    (lines.flatMap (· ++ [lineFeed])).splitOn lineFeed = lines ++ [[]] ↔
      ∀ line ∈ lines, lineFeed ∉ line := by
  constructor
  · intro split
    have pieces := congrArg List.length split
    rw [length_splitOn, List.length_append, List.length_singleton] at pieces
    exact count_lines_iff.mp (Nat.succ.inj pieces)
  · exact splitOn_lines

end QueryCheck.Text
