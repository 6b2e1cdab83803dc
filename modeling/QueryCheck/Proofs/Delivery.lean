import QueryCheck.Command.Basic
import QueryCheck.Proofs.Encoding
import QueryCheck.Proofs.JsonText
import QueryCheck.Proofs.Scanning

/-!
Listings into sinks of limited room. A sink takes the first bytes of the listing, as many
as it has room for, and the first byte that does not fit says how the failure is reported:
in a JSON listing the bytes of the objects and the line feeds between them differ.
-/
namespace QueryCheck

section Sink

def Chunk.bytes (chunk : Chunk) : List UInt8 := Text.utf8 chunk.text

def Chunk.fits (chunk : Chunk) (room : Option Nat) : Bool := room.all (chunk.bytes.length ≤ ·)

theorem deliver_fitting {chunk : Chunk} {room : Option Nat} (fits : chunk.fits room = true)
    (rest : List Chunk) :
    deliver room (chunk :: rest) =
      ⟨chunk.bytes ++ (deliver (room.map (· - chunk.bytes.length)) rest).written,
        (deliver (room.map (· - chunk.bytes.length)) rest).failed⟩ :=
  if_pos fits

theorem deliver_overfull {chunk : Chunk} {room : Option Nat} (full : ¬ chunk.fits room = true)
    (rest : List Chunk) :
    deliver room (chunk :: rest) = ⟨chunk.bytes.take (room.getD 0), some chunk.role⟩ :=
  if_neg full

theorem Chunk.fits_some_iff {chunk : Chunk} {room : Nat} :
    chunk.fits (some room) = true ↔ chunk.bytes.length ≤ room :=
  decide_eq_true_iff

theorem deliver_unlimited (chunks : List Chunk) :
    deliver none chunks = ⟨chunks.flatMap Chunk.bytes, none⟩ := by
  induction chunks with
  | nil => rfl
  | cons chunk rest ih =>
      rw [deliver_fitting rfl, Option.map_none, ih]
      rfl

theorem deliver_written (room : Nat) (chunks : List Chunk) :
    (deliver (some room) chunks).written = (chunks.flatMap Chunk.bytes).take room := by
  induction chunks generalizing room with
  | nil => rw [deliver, List.flatMap_nil, List.take_nil]
  | cons chunk rest ih =>
      rw [List.flatMap_cons, List.take_append]
      by_cases fits : chunk.bytes.length ≤ room
      · rw [deliver_fitting (Chunk.fits_some_iff.mpr fits), Option.map_some, ih,
          List.take_of_length_le fits]
      · have full := Nat.le_of_not_le fits
        rw [deliver_overfull (mt Chunk.fits_some_iff.mp fits), Nat.sub_eq_zero_of_le full,
          List.take_zero, List.append_nil, Option.getD_some]

theorem deliver_complete {room : Nat} {chunks : List Chunk}
    (fits : (chunks.flatMap Chunk.bytes).length ≤ room) :
    (deliver (some room) chunks).failed = none := by
  induction chunks generalizing room with
  | nil => rfl
  | cons chunk rest ih =>
      rw [List.flatMap_cons, List.length_append] at fits
      have later : (rest.flatMap Chunk.bytes).length ≤ room - chunk.bytes.length := by omega
      rw [deliver_fitting (Chunk.fits_some_iff.mpr (by omega))]
      exact ih later

theorem deliver_failed {room : Nat} {chunks : List Chunk} {byte : UInt8}
    (first : (chunks.flatMap Chunk.bytes)[room]? = some byte) :
    ∃ chunk ∈ chunks, byte ∈ chunk.bytes ∧
      (deliver (some room) chunks).failed = some chunk.role := by
  induction chunks generalizing room with
  | nil => cases first
  | cons chunk rest ih =>
      rw [List.flatMap_cons] at first
      by_cases fits : chunk.bytes.length ≤ room
      · rw [List.getElem?_append_right fits] at first
        obtain ⟨later, member, inside, failed⟩ := ih first
        refine ⟨later, List.mem_cons_of_mem chunk member, inside, ?_⟩
        rw [deliver_fitting (Chunk.fits_some_iff.mpr fits)]
        exact failed
      · rw [List.getElem?_append_left (Nat.lt_of_not_le fits)] at first
        refine ⟨chunk, List.mem_cons_self, List.mem_of_getElem? first, ?_⟩
        rw [deliver_overfull (mt Chunk.fits_some_iff.mp fits)]

-- Whatever room a sink has, it takes a front of what is written.
theorem deliver_front (room : Option Nat) (chunks : List Chunk) :
    (deliver room chunks).written <+: chunks.flatMap Chunk.bytes := by
  cases room with
  | none => simp only [deliver_unlimited, List.prefix_rfl]
  | some room =>
      rw [deliver_written]
      exact List.take_prefix room _

theorem deliver_whole {room : Option Nat} {chunks : List Chunk}
    (complete : (deliver room chunks).failed = none) :
    (deliver room chunks).written = chunks.flatMap Chunk.bytes := by
  cases room with
  | none => rw [deliver_unlimited]
  | some room =>
      rw [deliver_written, List.take_of_length_le]
      -- A byte that did not fit would have made its chunk fail.
      by_contra long
      obtain ⟨_, -, -, failed⟩ := deliver_failed (List.getElem?_eq_getElem (Nat.lt_of_not_le long))
      cases complete.symm.trans failed

theorem deliver_append_failed {room : Option Nat} {front : List Chunk} {role : Role}
    (failed : (deliver room front).failed = some role) (back : List Chunk) :
    deliver room (front ++ back) = deliver room front := by
  induction front generalizing room with
  | nil => cases failed
  | cons chunk rest ih =>
      by_cases fits : chunk.fits room = true
      · rw [deliver_fitting fits] at failed
        rw [List.cons_append, deliver_fitting fits, deliver_fitting fits, ih failed]
      · rw [List.cons_append, deliver_overfull fits, deliver_overfull fits]

theorem deliver_append {room : Option Nat} {front : List Chunk}
    (complete : (deliver room front).failed = none) (back : List Chunk) :
    deliver room (front ++ back) =
      let later := deliver (room.map (· - (deliver room front).written.length)) back
      ⟨(deliver room front).written ++ later.written, later.failed⟩ := by
  induction front generalizing room with
  | nil => cases room <;> simp [deliver]
  | cons chunk rest ih =>
      by_cases fits : chunk.fits room = true
      · rw [deliver_fitting fits] at complete
        rw [List.cons_append, deliver_fitting fits, deliver_fitting fits, ih complete]
        simp only [Option.map_map, Function.comp_def, List.length_append, Nat.sub_sub,
          List.append_assoc]
      · rw [deliver_overfull fits] at complete
        cases complete

end Sink

section Lines

def Token.render (style : ListingStyle) (token : Token) : String :=
  match style with
  | .plain => token.plain
  | .json => token.json

def Token.line (style : ListingStyle) (token : Token) : List UInt8 :=
  Text.utf8 (token.render style) ++ [Text.lineFeed]

theorem Token.chunks_bytes (style : ListingStyle) (token : Token) :
    (token.chunks style).flatMap Chunk.bytes = token.line style := by
  cases style with
  | plain => simp [chunks, Chunk.bytes, line, render, Text.utf8_lineFeed]
  | json => simp [chunks, Chunk.bytes, line, render, Text.utf8_lineFeed]

theorem Scan.chunks_bytes (style : ListingStyle) (scan : Scan) :
    (scan.chunks style).flatMap Chunk.bytes = scan.tokens.flatMap (Token.line style) := by
  rw [chunks, List.flatMap_assoc]
  exact congrArg (List.flatMap · scan.tokens) (funext (Token.chunks_bytes style))

theorem Token.lineFeed_not_mem_json (token : Token) : Text.lineFeed ∉ Text.utf8 token.json := by
  intro member
  have raw := token.json_object.printable '\n' (Text.lineFeed_mem_utf8 member)
  exact absurd raw (by decide)

/-- What a byte of a listing is part of. -/
def Role.ofByte (style : ListingStyle) (byte : UInt8) : Role :=
  if style = .json ∧ byte ≠ Text.lineFeed then .record else .line

theorem Token.chunk_role {style : ListingStyle} {token : Token} {chunk : Chunk} {byte : UInt8}
    (member : chunk ∈ token.chunks style) (inside : byte ∈ chunk.bytes) :
    chunk.role = .ofByte style byte := by
  cases style with
  | plain =>
      rw [Role.ofByte, if_neg (by simp)]
      rcases List.mem_pair.mp member with rfl | rfl <;> rfl
  | json =>
      rcases List.mem_pair.mp member with rfl | rfl
      · have other : byte ≠ Text.lineFeed := by
          rintro rfl
          exact token.lineFeed_not_mem_json inside
        rw [Role.ofByte, if_pos ⟨rfl, other⟩]
      · rw [Chunk.bytes, Text.utf8_lineFeed, List.mem_singleton] at inside
        rw [Role.ofByte, if_neg (by simp [inside])]

theorem Scan.chunk_role {style : ListingStyle} {scan : Scan} {chunk : Chunk} {byte : UInt8}
    (member : chunk ∈ scan.chunks style) (inside : byte ∈ chunk.bytes) :
    chunk.role = .ofByte style byte := by
  obtain ⟨token, -, part⟩ := List.mem_flatMap.mp member
  exact Token.chunk_role part inside

end Lines

section Listing

theorem listText_unlimited (query : String) (style : ListingStyle) :
    listText style none query =
      ⟨(Scan.ofText query).tokens.flatMap (Token.line style),
        (Scan.ofText query).error.map .lexical⟩ := by
  rw [listText, deliver_unlimited, Scan.chunks_bytes, Option.map_none, Option.none_or]

theorem listTokens_unlimited (files : Files) (file : Option String) (query : String)
    (style : ListingStyle) :
    listTokens files ⟨some query, file⟩ style none =
      ⟨(Scan.ofText query).tokens.flatMap (Token.line style),
        (Scan.ofText query).error.map .lexical⟩ :=
  listText_unlimited query style

/-- Write one token after the other, each before the next one is read. -/
def Scanner.streamed (style : ListingStyle) (room : Option Nat) (scanner : Scanner) :
    ListingResult :=
  match read : scanner.next.outcome with
  | .error error => ⟨[], some (.lexical error)⟩
  | .ok token =>
      let delivery := deliver room (token.chunks style)
      match delivery.failed with
      | some role => ⟨delivery.written, some role.error⟩
      | none =>
          if proper : token.kind = .endOfText then ⟨delivery.written, none⟩
          else
            have := length_next_lt read proper
            let later :=
              scanner.next.after.streamed style (room.map (· - delivery.written.length))
            { later with written := delivery.written ++ later.written }
termination_by scanner.unread.length

def Scan.listing (style : ListingStyle) (room : Option Nat) (scan : Scan) : ListingResult :=
  let delivery := deliver room (scan.chunks style)
  ⟨delivery.written, (delivery.failed.map Role.error).or (scan.error.map .lexical)⟩

theorem Scan.listing_failed {style : ListingStyle} {room : Option Nat} {token : Token} {role : Role}
    (failed : (deliver room (token.chunks style)).failed = some role) (rest : Scan) :
    listing style room { rest with tokens := token :: rest.tokens } =
      ⟨(deliver room (token.chunks style)).written, some role.error⟩ := by
  rw [listing, chunks, List.flatMap_cons, deliver_append_failed failed, failed]
  rfl

theorem Scan.listing_more {style : ListingStyle} {room : Option Nat} {token : Token}
    (complete : (deliver room (token.chunks style)).failed = none) (rest : Scan) :
    listing style room { rest with tokens := token :: rest.tokens } =
      let delivery := deliver room (token.chunks style)
      let later := rest.listing style (room.map (· - delivery.written.length))
      { later with written := delivery.written ++ later.written } := by
  rw [listing, chunks, List.flatMap_cons, deliver_append complete]
  rfl

/-- A listing written token by token is the listing written as a whole: a full sink is
reported before a lexical error that reading on would meet. -/
theorem Scanner.streamed_listing (style : ListingStyle) (room : Option Nat) (scanner : Scanner) :
    scanner.streamed style room = scanner.scan.listing style room := by
  fun_induction streamed style room scanner with
  | case1 room scanner error failed =>
      rw [scan_fault failed]
      rfl
  | case2 room scanner token read delivery role failed =>
      by_cases ends : token.kind = .endOfText
      · rw [scan_end read ends]
        exact (Scan.listing_failed failed ⟨[], none⟩).symm
      · rw [scan_token read ends]
        exact (Scan.listing_failed failed _).symm
  | case3 room scanner token read delivery complete ends =>
      rw [scan_end read ends, Scan.listing_more complete ⟨[], none⟩]
      simp [Scan.listing, Scan.chunks, deliver, delivery]
  | case4 room scanner token read delivery complete proper _ later ih =>
      rw [scan_token read proper, Scan.listing_more complete]
      simp only [later, ih]
      rfl

theorem listText_streamed (style : ListingStyle) (room : Option Nat) (query : String) :
    listText style room query = (Scanner.ofText query).streamed style room :=
  ((Scanner.ofText query).streamed_listing style room).symm

/-- A listing into a sink with room for so many bytes is the whole listing cut behind
them, and the first byte cut off decides how the failure is reported. -/
theorem listing_cut (files : Files) (file : Option String) (query : String)
    (style : ListingStyle) (limit : Nat) :
    let full := listTokens files ⟨some query, file⟩ style none
    let cut := listTokens files ⟨some query, file⟩ style (some limit)
    full = ⟨(Scan.ofText query).tokens.flatMap (Token.line style),
      (Scan.ofText query).error.map .lexical⟩ ∧
    cut.written = full.written.take limit ∧
    (full.written.length ≤ limit → cut.error = full.error) ∧
    ∀ byte, full.written[limit]? = some byte → cut.error =
      some (if style = .json ∧ byte ≠ Text.lineFeed then .record .sinkFull
        else .stream .sinkFull) := by
  dsimp only
  rw [listTokens_unlimited, ← Scan.chunks_bytes]
  refine ⟨rfl, deliver_written limit _, ?_, ?_⟩
  · intro fits
    have complete := deliver_complete fits
    show (Option.map Role.error (deliver _ _).failed).or _ = _
    rw [complete, Option.map_none, Option.none_or]
  · intro byte first
    obtain ⟨chunk, member, inside, failed⟩ := deliver_failed first
    show (Option.map Role.error (deliver _ _).failed).or _ = _
    rw [failed, Scan.chunk_role member inside, Option.map_some, Option.some_or, Role.ofByte]
    split <;> rfl

/-- The fault behind the only token is reported when the sink takes the whole line; a sink
that is full at the end of the line, or within it, is reported instead. -/
theorem listing_cut_at_line_end :
    let listed := listTokens (fun _ => .error .missing) ⟨some "a $", none⟩ .json
    listed none = ⟨Text.utf8
      "\x7b\"code\":29,\"column\":0,\"kind\":\"identifier\",\"line\":0,\"payload\":\"a\"\x7d\n",
      some (.lexical ⟨.illegalCharacter '$', ⟨0, 2⟩⟩)⟩ ∧
    (listed none).written.length = 66 ∧
    (listed (some 66)).error = some (.lexical ⟨.illegalCharacter '$', ⟨0, 2⟩⟩) ∧
    (listed none).written[65]? = some Text.lineFeed ∧
    (listed (some 65)).error = some (.stream .sinkFull) ∧
    (listed none).written[64]? = some 125 ∧
    (listed (some 64)).error = some (.record .sinkFull) := by
  have cut := listing_cut (fun _ => .error .missing) none "a $" .json
  have listed : listTokens (fun _ => .error .missing) ⟨some "a $", none⟩ .json none =
      ⟨Text.utf8
        "\x7b\"code\":29,\"column\":0,\"kind\":\"identifier\",\"line\":0,\"payload\":\"a\"\x7d\n",
        some (.lexical ⟨.illegalCharacter '$', ⟨0, 2⟩⟩)⟩ := by decide +kernel
  dsimp only at cut ⊢
  rw [listed] at cut ⊢
  refine ⟨rfl, by decide +kernel, ?_, by decide +kernel, ?_, by decide +kernel, ?_⟩
  · exact (cut 66).2.2.1 (by decide +kernel)
  · exact (cut 65).2.2.2 Text.lineFeed (by decide +kernel)
  · exact (cut 64).2.2.2 125 (by decide +kernel)

end Listing

end QueryCheck
