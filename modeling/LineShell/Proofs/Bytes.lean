/-
This file proves that bytes which are read as a text and written again come out as they were, where
stray bytes are preserved. The one point that needs arithmetic is that a character is written with
the very bytes that it was read from: the bounds on its second byte leave each code point a single
spelling.
-/

import LineShell.Text.Utf8

namespace LineShell

/-! ### The bytes of a character -/

/-- What a first byte announces, in numbers. The bounds on the second byte are always those of a
later byte, and narrower where the character would be overlong, a surrogate or too large. -/
theorem Lead.ofByte_cases {first : UInt8} {lead : Lead} (announces : ofByte first = some lead) :
    (lead.following = 0 ∧ first.toNat < 0x80 ∧ lead.value = first.toNat) ∨
    (lead.following = 1 ∧ 0xC2 ≤ first.toNat ∧ first.toNat < 0xE0 ∧
      lead.value = first.toNat - 0xC0 ∧ 0x80 ≤ lead.low.toNat ∧ lead.high.toNat ≤ 0xBF) ∨
    (lead.following = 2 ∧ 0xE0 ≤ first.toNat ∧ first.toNat < 0xF0 ∧
      lead.value = first.toNat - 0xE0 ∧ 0x80 ≤ lead.low.toNat ∧ lead.high.toNat ≤ 0xBF ∧
      (first.toNat = 0xE0 → 0xA0 ≤ lead.low.toNat) ∧
      (first.toNat = 0xED → lead.high.toNat ≤ 0x9F)) ∨
    (lead.following = 3 ∧ 0xF0 ≤ first.toNat ∧ first.toNat ≤ 0xF4 ∧
      lead.value = first.toNat - 0xF0 ∧ 0x80 ≤ lead.low.toNat ∧ lead.high.toNat ≤ 0xBF ∧
      (first.toNat = 0xF0 → 0x90 ≤ lead.low.toNat) ∧
      (first.toNat = 0xF4 → lead.high.toNat ≤ 0x8F)) := by
  unfold ofByte at announces
  simp only [UInt8.lt_iff_toNat_lt, ← UInt8.toNat_inj] at announces
  -- One case for each line of the table.
  repeat' split at announces
  all_goals cases announces
  all_goals simp_all
  all_goals omega

/-- Where more bytes follow and all of them are there, the next one lies between the bounds. -/
theorem laterBytes_full {following : Nat} {low high : UInt8} {bytes : List UInt8}
    (full : (laterBytes (following + 1) low high bytes).length = following + 1) :
    ∃ byte rest, laterBytes (following + 1) low high bytes =
        byte :: laterBytes following 0x80 0xBF rest ∧
      (laterBytes following 0x80 0xBF rest).length = following ∧
      low.toNat ≤ byte.toNat ∧ byte.toNat ≤ high.toNat := by
  cases bytes with
  | nil => cases full
  | cons byte rest =>
    rw [laterBytes] at full ⊢
    split at full
    · next within =>
      rw [if_pos within]
      exact ⟨byte, rest, rfl, Nat.succ.inj full, UInt8.le_iff_toNat_le.mp within.1,
        UInt8.le_iff_toNat_le.mp within.2⟩
    · cases full

theorem toNat_val_ofNat {code : Nat} (valid : code.isValidChar) :
    (Char.ofNat code).val.toNat = code := by
  rw [Char.ofNat, dif_pos valid]
  rfl

section

variable {first second third fourth : UInt8}

theorem utf8EncodeChar_one (small : first.toNat < 0x80) :
    String.utf8EncodeChar (Char.ofNat first.toNat) = [first] := by
  have valid : first.toNat.isValidChar := Or.inl (by omega)
  rw [String.utf8EncodeChar, toNat_val_ofNat valid, if_pos (by omega), UInt8.ofNat_toNat]

theorem utf8EncodeChar_two (low : 0xC2 ≤ first.toNat) (high : first.toNat < 0xE0)
    (secondLow : 0x80 ≤ second.toNat) (secondHigh : second.toNat ≤ 0xBF) :
    String.utf8EncodeChar (Char.ofNat (codePoint (first.toNat - 0xC0) [second])) =
      [first, second] := by
  generalize isCode : codePoint (first.toNat - 0xC0) [second] = code
  replace isCode : (first.toNat - 0xC0) * 64 + (second.toNat - 0x80) = code := isCode
  have valid : code.isValidChar := Or.inl (by omega)
  rw [String.utf8EncodeChar, toNat_val_ofNat valid, if_neg (by omega), if_pos (by omega)]
  simp only [List.cons.injEq, and_true, ← UInt8.toNat_inj, UInt8.toNat_ofNat']
  omega

theorem utf8EncodeChar_three (low : 0xE0 ≤ first.toNat) (high : first.toNat < 0xF0)
    (secondLow : 0x80 ≤ second.toNat) (secondHigh : second.toNat ≤ 0xBF)
    (long : first.toNat = 0xE0 → 0xA0 ≤ second.toNat)
    (noSurrogate : first.toNat = 0xED → second.toNat ≤ 0x9F)
    (thirdLow : 0x80 ≤ third.toNat) (thirdHigh : third.toNat ≤ 0xBF) :
    String.utf8EncodeChar (Char.ofNat (codePoint (first.toNat - 0xE0) [second, third])) =
      [first, second, third] := by
  generalize isCode : codePoint (first.toNat - 0xE0) [second, third] = code
  replace isCode : ((first.toNat - 0xE0) * 64 + (second.toNat - 0x80)) * 64 +
    (third.toNat - 0x80) = code := isCode
  have valid : code.isValidChar := by
    unfold Nat.isValidChar
    omega
  rw [String.utf8EncodeChar, toNat_val_ofNat valid, if_neg (by omega), if_neg (by omega),
    if_pos (by omega)]
  simp only [List.cons.injEq, and_true, ← UInt8.toNat_inj, UInt8.toNat_ofNat']
  omega

theorem utf8EncodeChar_four (low : 0xF0 ≤ first.toNat) (high : first.toNat ≤ 0xF4)
    (secondLow : 0x80 ≤ second.toNat) (secondHigh : second.toNat ≤ 0xBF)
    (long : first.toNat = 0xF0 → 0x90 ≤ second.toNat)
    (inRange : first.toNat = 0xF4 → second.toNat ≤ 0x8F)
    (thirdLow : 0x80 ≤ third.toNat) (thirdHigh : third.toNat ≤ 0xBF)
    (fourthLow : 0x80 ≤ fourth.toNat) (fourthHigh : fourth.toNat ≤ 0xBF) :
    String.utf8EncodeChar (Char.ofNat (codePoint (first.toNat - 0xF0) [second, third, fourth])) =
      [first, second, third, fourth] := by
  generalize isCode : codePoint (first.toNat - 0xF0) [second, third, fourth] = code
  replace isCode : (((first.toNat - 0xF0) * 64 + (second.toNat - 0x80)) * 64 +
    (third.toNat - 0x80)) * 64 + (fourth.toNat - 0x80) = code := isCode
  have valid : code.isValidChar := by
    unfold Nat.isValidChar
    omega
  rw [String.utf8EncodeChar, toNat_val_ofNat valid, if_neg (by omega), if_neg (by omega),
    if_neg (by omega)]
  simp only [List.cons.injEq, and_true, ← UInt8.toNat_inj, UInt8.toNat_ofNat']
  omega

end

/-- A character is written with the bytes that it was read from. -/
theorem utf8EncodeChar_codePoint {first : UInt8} {lead : Lead}
    (announces : Lead.ofByte first = some lead) {rest : List UInt8}
    (full : (laterBytes lead.following lead.low lead.high rest).length = lead.following) :
    String.utf8EncodeChar (Char.ofNat
        (codePoint lead.value (laterBytes lead.following lead.low lead.high rest))) =
      first :: laterBytes lead.following lead.low lead.high rest := by
  rcases Lead.ofByte_cases announces with
    ⟨none, small, value⟩ | ⟨one, low, high, value, least, most⟩ |
    ⟨two, low, high, value, least, most, long, noSurrogate⟩ |
    ⟨three, low, high, value, least, most, long, inRange⟩
  · rw [none, value]
    exact utf8EncodeChar_one small
  · rw [one] at full ⊢
    obtain ⟨second, _, shape, _, secondLow, secondHigh⟩ := laterBytes_full full
    rw [shape, value]
    exact utf8EncodeChar_two low high (by omega) (by omega)
  · rw [two] at full ⊢
    obtain ⟨second, _, shape, full, secondLow, secondHigh⟩ := laterBytes_full full
    obtain ⟨third, _, next, _, thirdLow, thirdHigh⟩ := laterBytes_full full
    rw [shape, next, value]
    exact utf8EncodeChar_three low high (by omega) (by omega) (by omega) (by omega) thirdLow
      thirdHigh
  · rw [three] at full ⊢
    obtain ⟨second, _, shape, full, secondLow, secondHigh⟩ := laterBytes_full full
    obtain ⟨third, _, next, full, thirdLow, thirdHigh⟩ := laterBytes_full full
    obtain ⟨fourth, _, last, _, fourthLow, fourthHigh⟩ := laterBytes_full full
    rw [shape, next, last, value]
    exact utf8EncodeChar_four low high (by omega) (by omega) (by omega) (by omega) thirdLow
      thirdHigh fourthLow fourthHigh

/-! ### Reading and writing again -/

theorem encode_ofByte (byte : UInt8) : (Glyph.ofByte byte).encode .preserve = [byte] := by
  unfold Glyph.ofByte
  split
  · next small => exact utf8EncodeChar_one small
  · next large =>
    simp only [Glyph.encode, Leniency.write, List.cons.injEq, and_true, ← UInt8.toNat_inj,
      UInt8.toNat_ofNat']
    have := byte.toNat_lt
    omega

theorem encode_map_ofByte (bytes : List UInt8) :
    Text.encode .preserve (bytes.map Glyph.ofByte) = bytes := by
  simp only [Text.encode, List.flatMap_map, encode_ofByte, List.flatMap_singleton']

/-- A piece is written with its own bytes, whether it is a character or not. -/
theorem encode_text_leading (first : UInt8) (rest : List UInt8) :
    Text.encode .preserve ((Piece.leading first rest).text .preserve) =
      (Piece.leading first rest).bytes := by
  unfold Piece.leading
  split
  · exact encode_map_ofByte [first]
  · next lead announces =>
    by_cases full :
        (laterBytes lead.following lead.low lead.high rest).length = lead.following
    · simp only [Piece.text, full, if_true, Text.encode, List.flatMap_singleton, Glyph.encode]
      exact utf8EncodeChar_codePoint announces full
    · simp only [Piece.text, full, if_false]
      exact encode_map_ofByte _

theorem mem_piecesAfter {taken : Nat} {bytes : List UInt8} {piece : Piece}
    (member : piece ∈ piecesAfter taken bytes) :
    ∃ first rest, piece = Piece.leading first rest := by
  induction bytes generalizing taken with
  | nil => cases member
  | cons first rest inductionHypothesis =>
    cases taken with
    | succ taken => exact inductionHypothesis member
    | zero =>
      rcases List.mem_cons.mp member with isFirst | inRest
      · exact ⟨first, rest, isFirst⟩
      · exact inductionHypothesis inRest

/-- Bytes that are read as a text and written again are the bytes that were read. -/
theorem encode_decode (bytes : List UInt8) :
    Text.encode .preserve (Text.decode .preserve bytes) = bytes := by
  calc Text.encode .preserve (Text.decode .preserve bytes)
      = (pieces bytes).flatMap fun piece => Text.encode .preserve (piece.text .preserve) := by
        simp only [Text.encode, Text.decode, List.flatMap_assoc]
    _ = (pieces bytes).flatMap Piece.bytes := by
        rw [List.flatMap_def, List.flatMap_def]
        refine congrArg List.flatten (List.map_congr_left fun piece member => ?_)
        obtain ⟨first, rest, rfl⟩ := mem_piecesAfter member
        exact encode_text_leading first rest
    _ = bytes := flatMap_bytes_pieces bytes

/-- A character of one byte is only read where that byte is. -/
theorem scalar_notMem_decode {character : Char} {byte : UInt8}
    (written : String.utf8EncodeChar character = [byte]) {bytes : List UInt8}
    (absent : byte ∉ bytes) : .scalar character ∉ Text.decode .preserve bytes := by
  intro inside
  rw [← encode_decode bytes] at absent
  refine absent (List.mem_flatMap.mpr ⟨.scalar character, inside, ?_⟩)
  rw [Glyph.encode, written]
  exact List.mem_singleton_self byte

theorem nul_notMem_decode {bytes : List UInt8} (absent : 0 ∉ bytes) :
    Glyph.nul ∉ Text.decode .preserve bytes :=
  scalar_notMem_decode rfl absent

/-! ### ASCII -/

theorem decode_cons_ascii (leniency : Leniency) {byte : UInt8} (small : byte.toNat < 0x80)
    (rest : List UInt8) : Text.decode leniency (byte :: rest) =
      .scalar (Char.ofNat byte.toNat) :: Text.decode leniency rest := by
  have announces : Lead.ofByte byte = some ⟨0, 0x80, 0xBF, byte.toNat⟩ :=
    if_pos (UInt8.lt_iff_toNat_lt.mpr small)
  have piece : Piece.leading byte rest = ⟨[byte], some (Char.ofNat byte.toNat)⟩ := by
    rw [Piece.leading, announces]
    rfl
  rw [Text.decode, pieces, piecesAfter, piece]
  rfl

/-! ### Bytes that part pieces -/

section

variable {byte : UInt8} (small : byte.toNat < 0x80) (after : List UInt8)

include small

theorem laterBytes_append {following : Nat} {low high : UInt8} (isLater : 0x80 ≤ low.toNat)
    (before : List UInt8) : laterBytes following low high (before ++ byte :: after) =
      laterBytes following low high before := by
  induction following generalizing low high before with
  | zero => rfl
  | succ following inductionHypothesis =>
    cases before with
    | nil =>
      have outside : ¬(low ≤ byte ∧ byte ≤ high) := by
        rw [UInt8.le_iff_toNat_le]
        omega
      exact if_neg outside
    | cons first rest =>
      rw [List.cons_append, laterBytes, laterBytes, inductionHypothesis (by decide)]

/-- An ASCII byte is never part of a piece that starts before it. -/
theorem leading_append (first : UInt8) (before : List UInt8) :
    Piece.leading first (before ++ byte :: after) = Piece.leading first before := by
  unfold Piece.leading
  cases announces : Lead.ofByte first with
  | none => rfl
  | some lead =>
    rcases Lead.ofByte_cases announces with ⟨none, _⟩ | ⟨_, _, _, _, isLater, _⟩ |
      ⟨_, _, _, _, isLater, _⟩ | ⟨_, _, _, _, isLater, _⟩
    · simp only [none, laterBytes]
    all_goals simp only [laterBytes_append small after isLater]

theorem piecesAfter_append {taken : Nat} {before : List UInt8} (within : taken ≤ before.length) :
    piecesAfter taken (before ++ byte :: after) =
      piecesAfter taken before ++ pieces (byte :: after) := by
  induction before generalizing taken with
  | nil =>
    rw [Nat.le_zero.mp within]
    rfl
  | cons first rest inductionHypothesis =>
    cases taken with
    | succ taken => exact inductionHypothesis (Nat.le_of_succ_le_succ within)
    | zero =>
      obtain ⟨later, shape, isPrefix⟩ := Piece.leading_bytes first rest
      rw [List.cons_append, piecesAfter, piecesAfter, leading_append small after]
      refine congrArg (_ :: ·) (inductionHypothesis ?_)
      rw [shape]
      exact isPrefix.length_le

/-- Bytes can be read in two parts, the second of which starts with an ASCII byte. -/
theorem decode_append (leniency : Leniency) (before : List UInt8) :
    Text.decode leniency (before ++ byte :: after) =
      Text.decode leniency before ++ Text.decode leniency (byte :: after) := by
  rw [Text.decode, pieces, piecesAfter_append small after (Nat.zero_le _), List.flatMap_append]
  rfl

end

/-- An ASCII text that was written in front of other bytes is read as it was. -/
theorem decode_bytes_append (leniency : Leniency) {text : Text}
    (ascii : ∀ glyph ∈ text, ∃ character, glyph = .scalar character ∧ character.toNat < 0x80)
    (rest : List UInt8) :
    Text.decode leniency (text.bytes ++ rest) = text ++ Text.decode leniency rest := by
  induction text with
  | nil => rfl
  | cons glyph others inductionHypothesis =>
    obtain ⟨character, rfl, small⟩ := ascii glyph List.mem_cons_self
    have inOthers := fun other member => ascii other (List.mem_cons_of_mem _ member)
    have code : (UInt8.ofNat character.toNat).toNat = character.toNat := by
      rw [UInt8.toNat_ofNat']
      omega
    have written : String.utf8EncodeChar character = [UInt8.ofNat character.toNat] :=
      if_pos (show character.toNat ≤ 127 by omega)
    have start : Text.bytes (.scalar character :: others) =
        UInt8.ofNat character.toNat :: Text.bytes others := by
      simp only [Text.bytes, Text.encode, List.flatMap_cons, Glyph.encode, written,
        List.singleton_append]
    rw [start, List.cons_append, decode_cons_ascii leniency (by omega), code,
      Char.ofNat_toNat, inductionHypothesis inOthers, List.cons_append]

end LineShell
