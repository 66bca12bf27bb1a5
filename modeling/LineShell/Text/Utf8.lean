/-
This file reads bytes as UTF-8 and writes texts as bytes. Reading first cuts the bytes into
pieces: a piece is one character or a longest start of a character that never came to its end.
A leniency then says what becomes of the second kind, and of stray bytes on the way back, so that
neither direction can fail. Under `preserve` nothing is lost: reading keeps each unclaimed byte
as a stray byte and writing gives it back.
-/

import LineShell.Text.Hex

namespace LineShell

/-! ### Cutting bytes into pieces -/

/-- What the first byte of a character announces. -/
structure Lead where
  /-- How many bytes follow. -/
  following : Nat
  /-- The least that the first of them can be. -/
  low : UInt8
  /-- The most that the first of them can be. -/
  high : UInt8
  /-- What the first byte itself adds to the character. -/
  value : Nat
  deriving DecidableEq, Repr

/-- The announcement of a byte, if a character can start with it. The narrower bounds shut out
overlong forms, surrogates and values above the last code point. -/
def Lead.ofByte (byte : UInt8) : Option Lead :=
  if byte < 0x80 then some ⟨0, 0x80, 0xBF, byte.toNat⟩
  else if byte < 0xC2 then none
  else if byte < 0xE0 then some ⟨1, 0x80, 0xBF, byte.toNat - 0xC0⟩
  else if byte = 0xE0 then some ⟨2, 0xA0, 0xBF, 0x0⟩
  else if byte = 0xED then some ⟨2, 0x80, 0x9F, 0xD⟩
  else if byte < 0xF0 then some ⟨2, 0x80, 0xBF, byte.toNat - 0xE0⟩
  else if byte = 0xF0 then some ⟨3, 0x90, 0xBF, 0x0⟩
  else if byte < 0xF4 then some ⟨3, 0x80, 0xBF, byte.toNat - 0xF0⟩
  else if byte = 0xF4 then some ⟨3, 0x80, 0x8F, 0x4⟩
  else none

/-- The bytes that go on with a character: at most so many, and only as long as the first of them
lies between the bounds and the others are plain later bytes. -/
def laterBytes : (following : Nat) → (low high : UInt8) → List UInt8 → List UInt8
  | 0, _, _, _ => []
  | _ + 1, _, _, [] => []
  | following + 1, low, high, byte :: rest =>
    if low ≤ byte ∧ byte ≤ high then byte :: laterBytes following 0x80 0xBF rest else []

/-- The number that the bytes of a character stand for, each later byte worth six bits. -/
def codePoint (value : Nat) (later : List UInt8) : Nat :=
  later.foldl (fun value byte => value * 64 + (byte.toNat - 0x80)) value

/-- A piece of a byte string: its bytes, and the character they are if they are one. -/
structure Piece where
  bytes : List UInt8
  character : Option Char
  deriving DecidableEq, Repr

/-- The piece that starts with a byte, the rest of the bytes given. A piece that is no character
is as long as it can be and still be the start of one. -/
def Piece.leading (first : UInt8) (rest : List UInt8) : Piece :=
  match Lead.ofByte first with
  | none => ⟨[first], none⟩
  | some lead =>
    let later := laterBytes lead.following lead.low lead.high rest
    ⟨first :: later,
      if later.length = lead.following then some (Char.ofNat (codePoint lead.value later))
      else none⟩

/-- The pieces of a byte string after so many bytes that are already taken. -/
def piecesAfter : (taken : Nat) → List UInt8 → List Piece
  | _, [] => []
  | taken + 1, _ :: rest => piecesAfter taken rest
  | 0, first :: rest =>
    let piece := Piece.leading first rest
    piece :: piecesAfter (piece.bytes.length - 1) rest

/-- The pieces of a byte string, from its start. -/
def pieces (bytes : List UInt8) : List Piece := piecesAfter 0 bytes

/-- The later bytes of a character stand at the start of what is left. -/
theorem laterBytes_isPrefix (following : Nat) (low high : UInt8) (bytes : List UInt8) :
    laterBytes following low high bytes <+: bytes := by
  induction following generalizing low high bytes with
  | zero => exact List.nil_prefix
  | succ following inductionHypothesis =>
    cases bytes with
    | nil => exact List.nil_prefix
    | cons byte rest =>
      rw [laterBytes]
      split
      · exact List.cons_prefix_cons.mpr ⟨rfl, inductionHypothesis ..⟩
      · exact List.nil_prefix

/-- A piece starts with the byte it is led by, and goes on with what stands behind it. -/
theorem Piece.leading_bytes (first : UInt8) (rest : List UInt8) :
    ∃ later, (leading first rest).bytes = first :: later ∧ later <+: rest := by
  unfold leading
  split
  · exact ⟨[], rfl, List.nil_prefix⟩
  · exact ⟨_, rfl, laterBytes_isPrefix ..⟩

theorem piecesAfter_eq_drop (taken : Nat) (bytes : List UInt8) :
    piecesAfter taken bytes = piecesAfter 0 (bytes.drop taken) := by
  induction bytes generalizing taken with
  | nil => simp [piecesAfter]
  | cons byte rest inductionHypothesis =>
    cases taken with
    | zero => rfl
    | succ taken => rw [piecesAfter, inductionHypothesis, List.drop_succ_cons]

/-- A piece uses up some bytes, so that what is left for the next ones is shorter. -/
theorem flatMap_bytes_piecesAfter {count : Nat} {bytes : List UInt8}
    (short : bytes.length ≤ count) : (piecesAfter 0 bytes).flatMap Piece.bytes = bytes := by
  induction count generalizing bytes with
  | zero =>
    rw [List.length_eq_zero_iff.mp (Nat.le_zero.mp short)]
    rfl
  | succ count inductionHypothesis =>
    cases bytes with
    | nil => rfl
    | cons first rest =>
      obtain ⟨later, shape, more, whole⟩ := Piece.leading_bytes first rest
      have left : rest.drop later.length = more := by simp [← whole]
      have shorter : more.length ≤ count := by
        have lengths := congrArg List.length whole
        simp only [List.length_append, List.length_cons] at lengths short
        omega
      rw [piecesAfter, List.flatMap_cons, shape, piecesAfter_eq_drop]
      simp only [List.length_cons, Nat.add_sub_cancel, left, inductionHypothesis shorter]
      rw [List.cons_append, whole]

/-- The pieces together are the byte string: no byte is lost and none is used twice. -/
theorem flatMap_bytes_pieces (bytes : List UInt8) : (pieces bytes).flatMap Piece.bytes = bytes :=
  flatMap_bytes_piecesAfter (Nat.le_refl bytes.length)

/-! ### Reading and writing -/

/-- What becomes of bytes that are no character. -/
inductive Leniency where
  /-- They stay in the text as stray bytes, and stray bytes are written as they are. -/
  | preserve
  /-- A malformed piece becomes one replacement character, a stray byte a question mark. -/
  | replace
  /-- They are left out. -/
  | ignore
  /-- They are spelled as escapes. -/
  | spell
  deriving DecidableEq, Repr

/-- The text of a malformed piece. -/
def Leniency.read (leniency : Leniency) (bytes : List UInt8) : Text :=
  match leniency with
  | .preserve => bytes.map Glyph.ofByte
  | .replace => [.scalar '\uFFFD']
  | .ignore => []
  | .spell => bytes.flatMap fun byte => Text.of "\\x" ++ hexDigits 2 byte.toNat

/-- The bytes of a stray byte. -/
def Leniency.write (leniency : Leniency) (offset : Fin 128) : List UInt8 :=
  match leniency with
  | .preserve => [UInt8.ofNat (0x80 + offset.val)]
  | .replace => "?".toUTF8.toList
  | .ignore => []
  | .spell =>
    let digits := [hexDigit (8 + offset.val / 16), hexDigit (offset.val % 16)]
    ("\\udc".toList ++ digits).flatMap String.utf8EncodeChar

/-- The text of one piece. -/
def Piece.text (leniency : Leniency) (piece : Piece) : Text :=
  match piece.character with
  | some character => [.scalar character]
  | none => leniency.read piece.bytes

/-- The text of a byte string. -/
def Text.decode (leniency : Leniency) (bytes : List UInt8) : Text :=
  (pieces bytes).flatMap (Piece.text leniency)

/-- The bytes of one glyph. -/
def Glyph.encode (leniency : Leniency) : Glyph → List UInt8
  | .scalar character => String.utf8EncodeChar character
  | .octet offset => leniency.write offset

/-- The bytes of a text. -/
def Text.encode (leniency : Leniency) (text : Text) : List UInt8 :=
  text.flatMap (Glyph.encode leniency)

/-- The bytes of a text as the operating system counts and compares them. -/
def Text.bytes (text : Text) : List UInt8 := text.encode .preserve

@[simp] theorem Text.encode_nil (leniency : Leniency) : Text.encode leniency [] = [] := rfl

@[simp] theorem Text.encode_append (leniency : Leniency) (first second : Text) :
    Text.encode leniency (first ++ second) =
      Text.encode leniency first ++ Text.encode leniency second := by
  simp [Text.encode]

end LineShell
