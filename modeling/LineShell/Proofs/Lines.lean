/-
This file proves how the lines of an input hang together. Bytes that end with a line feed can be cut
off from what follows them: the lines of the two parts in a row are the lines of the whole, whatever
stands in front of the line feed. No character is torn apart there, since a line feed is never part
of a longer one.
-/

import LineShell.Console.Input
import LineShell.Proofs.Bytes

namespace LineShell

namespace Input

/-- There is nothing, or it ends with the mark. -/
def Ended {α : Type} (mark : α) (items : List α) : Prop := items = [] ∨ items.getLast? = some mark

section

variable {α : Type} {mark item : α} {rest : List α} (ended : Ended mark (item :: rest))

include ended

theorem Ended.tail : Ended mark rest := by
  rcases ended with empty | last
  · cases empty
  · cases rest with
    | nil => exact Or.inl rfl
    | cons next after => exact Or.inr last

theorem Ended.tail_ne_nil (other : item ≠ mark) : rest ≠ [] := by
  rintro rfl
  rcases ended with empty | last
  · cases empty
  · exact other (Option.some_inj.mp last)

end

/-! ### Cutting -/

theorem cutLines_feed (rest : Text) :
    cutLines (lineFeed :: rest) = (cutLines rest).startLine := by
  rw [cutLines.eq_def]
  rfl

theorem cutLines_return_feed (rest : Text) :
    cutLines (carriageReturn :: lineFeed :: rest) = (cutLines rest).startLine := by
  rw [cutLines.eq_def]
  rfl

theorem cutLines_return {next : Glyph} (notFeed : next ≠ lineFeed) (rest : Text) :
    cutLines (carriageReturn :: next :: rest) = (cutLines (next :: rest)).startLine := by
  rw [cutLines.eq_def]
  exact if_neg notFeed

theorem cutLines_plain {glyph : Glyph} (notFeed : glyph ≠ lineFeed)
    (notReturn : glyph ≠ carriageReturn) (rest : Text) :
    cutLines (glyph :: rest) = (cutLines rest).startWith glyph := by
  rw [cutLines.eq_def]
  exact (if_neg notFeed).trans (if_neg notReturn)

/-- A text that ends with a line feed has no remainder, and at least one line if there is any
text. -/
theorem cutLines_of_ended {text : Text} (ended : Ended lineFeed text) :
    (cutLines text).remainder = [] ∧ (text ≠ [] → (cutLines text).lines ≠ []) := by
  fun_induction cutLines text with
  | case1 => exact ⟨rfl, fun some => absurd rfl some⟩
  | case2 rest inductionHypothesis =>
    exact ⟨(inductionHypothesis ended.tail).1, fun _ => List.cons_ne_nil _ _⟩
  | case3 => exact absurd rfl (ended.tail_ne_nil (by decide))
  | case4 _ rest inductionHypothesis =>
    exact ⟨(inductionHypothesis ended.tail.tail).1, fun _ => List.cons_ne_nil _ _⟩
  | case5 next after _ _ inductionHypothesis =>
    exact ⟨(inductionHypothesis ended.tail).1, fun _ => List.cons_ne_nil _ _⟩
  | case6 glyph rest notFeed notReturn inductionHypothesis =>
    obtain ⟨nothing, some⟩ := inductionHypothesis ended.tail
    have lines := some (ended.tail_ne_nil notFeed)
    unfold Cut.startWith
    split
    · next none => exact absurd none lines
    · exact ⟨nothing, fun _ => List.cons_ne_nil _ _⟩

/-- The cut of such a text in front of another cut. -/
theorem cutLines_append {first : Text} (ended : Ended lineFeed first) (second : Text) :
    cutLines (first ++ second) =
      ⟨(cutLines first).lines ++ (cutLines second).lines, (cutLines second).remainder⟩ := by
  fun_induction cutLines first with
  | case1 => rfl
  | case2 rest inductionHypothesis =>
    rw [List.cons_append, cutLines_feed, inductionHypothesis ended.tail]
    rfl
  | case3 => exact absurd rfl (ended.tail_ne_nil (by decide))
  | case4 _ rest inductionHypothesis =>
    rw [List.cons_append, List.cons_append, cutLines_return_feed,
      inductionHypothesis ended.tail.tail]
    rfl
  | case5 next after notFeed _ inductionHypothesis =>
    rw [List.cons_append, List.cons_append, cutLines_return notFeed, ← List.cons_append,
      inductionHypothesis ended.tail]
    rfl
  | case6 glyph rest notFeed notReturn inductionHypothesis =>
    have lines := (cutLines_of_ended ended.tail).2 (ended.tail_ne_nil notFeed)
    rw [List.cons_append, cutLines_plain notFeed notReturn, inductionHypothesis ended.tail]
    unfold Cut.startWith
    cases shape : (cutLines rest).lines with
    | nil => exact absurd shape lines
    | cons line others => rfl

/-- A text without a line end is one line when a line feed follows it. -/
theorem cutLines_line {text : Text} (noFeed : lineFeed ∉ text) (noReturn : carriageReturn ∉ text) :
    cutLines (text ++ [lineFeed]) = ⟨[text], []⟩ := by
  induction text with
  | nil => rfl
  | cons glyph rest inductionHypothesis =>
    rw [List.mem_cons, not_or] at noFeed noReturn
    rw [List.cons_append, cutLines_plain (Ne.symm noFeed.1) (Ne.symm noReturn.1),
      inductionHypothesis noFeed.2 noReturn.2]
    rfl

/-! ### Lines of bytes -/

/-- The line feed as a byte. -/
def feedByte : UInt8 := 0x0A

/-- The carriage return as a byte. -/
def returnByte : UInt8 := 0x0D

/-- A line feed ends what is read before it, whatever it is. -/
theorem decode_append_feed (leniency : Leniency) (before after : List UInt8) :
    Text.decode leniency (before ++ feedByte :: after) =
      Text.decode leniency before ++ lineFeed :: Text.decode leniency after := by
  rw [decode_append (by decide), decode_cons_ascii leniency (by decide)]
  rfl

/-- Bytes that end with a line feed are read apart from what follows them. -/
theorem decode_of_ended (leniency : Leniency) {first : List UInt8} (ended : Ended feedByte first)
    (second : List UInt8) : Ended lineFeed (Text.decode leniency first) ∧
      Text.decode leniency (first ++ second) =
        Text.decode leniency first ++ Text.decode leniency second := by
  rcases ended with rfl | last
  · exact ⟨Or.inl rfl, rfl⟩
  · obtain ⟨before, rfl⟩ := List.getLast?_eq_some_iff.mp last
    have alone : Text.decode leniency (before ++ [feedByte]) =
        Text.decode leniency before ++ [lineFeed] :=
      decode_append_feed leniency before []
    refine ⟨Or.inr (by rw [alone, List.getLast?_concat]), ?_⟩
    rw [alone, List.append_assoc, List.append_assoc]
    exact decode_append_feed leniency before second

/-- Their lines come before the lines of what follows them. -/
theorem ofBytes_append (handling : Handling) {first : List UInt8} (ended : Ended feedByte first)
    (second : List UInt8) :
    ofBytes handling (first ++ second) = ofBytes handling first ++ ofBytes handling second := by
  have front (lines others : List Text) (remainder : Text) :
      withRemainder (lines ++ others) remainder = lines ++ withRemainder others remainder := by
    unfold withRemainder
    split
    · rfl
    · rw [List.append_assoc]
  obtain ⟨endedText, apart⟩ := decode_of_ended handling.relaxed ended second
  have whole : ofBytes handling first = (cutLines (Text.decode handling.relaxed first)).lines :=
    if_pos (cutLines_of_ended endedText).1
  rw [whole]
  simp only [ofBytes, apart, cutLines_append endedText, front]

/-- Where no byte is lost, bytes without a line end are one line when a line feed follows them. -/
theorem ofBytes_line {handling : Handling} (preserves : handling.relaxed = .preserve)
    {line : List UInt8} (noFeed : feedByte ∉ line) (noReturn : returnByte ∉ line) :
    ofBytes handling (line ++ [feedByte]) = [Text.decode .preserve line] := by
  have feed : lineFeed ∉ Text.decode .preserve line := scalar_notMem_decode rfl noFeed
  have carriage : carriageReturn ∉ Text.decode .preserve line := scalar_notMem_decode rfl noReturn
  have alone : Text.decode .preserve (line ++ [feedByte]) =
      Text.decode .preserve line ++ [lineFeed] :=
    decode_append_feed .preserve line []
  simp only [ofBytes, preserves, alone, cutLines_line feed carriage]
  rfl

end Input

end LineShell
