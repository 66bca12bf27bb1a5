/-
This file fixes what a text is. Texts come from terminals, file names and environment variables,
none of which promises well-formed UTF-8, so a text is a list of glyphs: a glyph is a Unicode
character or one byte that no character claimed. Keeping the stray bytes apart from the
characters is what lets a text be written back exactly as it was read.
-/

namespace LineShell

/-- One position of a text. -/
inductive Glyph where
  /-- A Unicode character. -/
  | scalar (character : Char)
  /-- The stray byte `0x80 + offset`. A byte below `0x80` is always a character, so half of the
  bytes suffices. -/
  | octet (offset : Fin 128)
  deriving DecidableEq, Repr, Inhabited

/-- A text is a list of glyphs. -/
abbrev Text := List Glyph

/-- The glyph of a byte that stands alone: a character below `0x80`, a stray byte from there. -/
def Glyph.ofByte (byte : UInt8) : Glyph :=
  if small : byte.toNat < 128 then .scalar (Char.ofNat byte.toNat)
  else .octet ⟨byte.toNat - 128, by have := byte.toNat_lt; omega⟩

namespace Text

/-- The text of a string. -/
def of (string : String) : Text := string.toList.map .scalar

/-- The glyphs left after the longest final run that satisfies the test. -/
def dropEndWhile (test : Glyph → Bool) (text : Text) : Text :=
  (text.reverse.dropWhile test).reverse

/-- The fields in order, with the separator between each and the next. -/
def joined (separator : Glyph) (fields : List Text) : Text := [separator].intercalate fields

/-- What stands before the first separator, and what stands after it. -/
def cut (separator : Glyph) (text : Text) : Text × Text :=
  (text.takeWhile (· != separator), (text.dropWhile (· != separator)).tail)

/-- Without a separator everything stands before it. -/
theorem cut_of_notMem {separator : Glyph} {text : Text} (absent : separator ∉ text) :
    text.cut separator = (text, []) := by
  induction text with
  | nil => rfl
  | cons glyph rest inductionHypothesis =>
    simp only [List.mem_cons, not_or] at absent
    have other : (glyph != separator) = true := by simpa using Ne.symm absent.1
    have cutRest := inductionHypothesis absent.2
    simp_all [cut]

/-- The first separator is the one that cuts. -/
theorem cut_append_cons {separator : Glyph} {before : Text} (absent : separator ∉ before)
    (after : Text) : cut separator (before ++ separator :: after) = (before, after) := by
  induction before with
  | nil => simp [cut]
  | cons glyph rest inductionHypothesis =>
    simp only [List.mem_cons, not_or] at absent
    have other : (glyph != separator) = true := by simpa using Ne.symm absent.1
    have cutRest := inductionHypothesis absent.2
    simp_all [cut]

end Text

namespace Glyph

/-- The character that ends a text inside the operating system. -/
def nul : Glyph := .scalar '\x00'

/-- The only character that separates the words of a line. -/
def space : Glyph := .scalar ' '

/-- The character between the components of a path. -/
def slash : Glyph := .scalar '/'

/-- The character between the directories of a search path. -/
def colon : Glyph := .scalar ':'

end Glyph

end LineShell
