/-
This file proves that the console reads every byte of its input once, and that only a line feed, a
carriage return or the two together end a line. Which pieces the line ends delimit is said of the
bytes themselves, without a look at the characters that they make up. It carries over to the text
because a glyph other than a line end is never written with a byte of one: so cutting the text parts
the bytes at the same places, also where a character was broken off or never well-formed.
-/

import LineShell.Proofs.Lines
import LineShell.Proofs.Output

namespace LineShell

open LineShell.Action

/-! ### Delimited pieces -/

namespace Input

/-- Bytes in which no line ends. -/
structure Unbroken (bytes : List UInt8) : Prop where
  noFeed : feedByte ∉ bytes
  noReturn : returnByte ∉ bytes

/-- A line end in front of other bytes. A carriage return ends a line by itself only where no line
feed follows it. -/
inductive LineEnd : List UInt8 → List UInt8 → Prop
  | feed {rest : List UInt8} : LineEnd [feedByte] rest
  | both {rest : List UInt8} : LineEnd [returnByte, feedByte] rest
  | carriage {rest : List UInt8} : rest.head? ≠ some feedByte → LineEnd [returnByte] rest

/-- Bytes, and the pieces that the line ends among them delimit. What follows the last line end is a
piece only if there is anything. -/
inductive Delimited : List UInt8 → List (List UInt8) → Prop
  | nothing : Delimited [] []
  | unended {piece : List UInt8} : Unbroken piece → piece ≠ [] → Delimited piece [piece]
  | ended {piece mark rest : List UInt8} {pieces : List (List UInt8)} : Unbroken piece →
      LineEnd mark rest → Delimited rest pieces →
      Delimited (piece ++ mark ++ rest) (piece :: pieces)

theorem unbroken_nil : Unbroken [] := ⟨List.not_mem_nil, List.not_mem_nil⟩

theorem Unbroken.append {first second : List UInt8} (front : Unbroken first)
    (back : Unbroken second) : Unbroken (first ++ second) :=
  ⟨fun inside => (List.mem_append.mp inside).elim front.noFeed back.noFeed,
    fun inside => (List.mem_append.mp inside).elim front.noReturn back.noReturn⟩

/-- The pieces when other bytes come before the first of them. -/
def startPiece (start : List UInt8) : List (List UInt8) → List (List UInt8)
  | [] => [start]
  | piece :: pieces => (start ++ piece) :: pieces

/-- Bytes without a line end go to the piece that they stand in front of. -/
theorem Delimited.start {start bytes : List UInt8} {pieces : List (List UInt8)}
    (unbroken : Unbroken start) (nonempty : start ≠ []) (delimited : Delimited bytes pieces) :
    Delimited (start ++ bytes) (startPiece start pieces) := by
  cases delimited with
  | nothing =>
    rw [List.append_nil]
    exact .unended unbroken nonempty
  | unended plain some =>
    exact .unended (unbroken.append plain) (List.append_ne_nil_of_left_ne_nil nonempty _)
  | ended plain isEnd delimited =>
    rw [← List.append_assoc, ← List.append_assoc]
    exact .ended (unbroken.append plain) isEnd delimited

/-! ### The pieces are determined by the bytes -/

/-- A line end starts with the byte of one. -/
theorem LineEnd.eq_cons {mark rest : List UInt8} (isEnd : LineEnd mark rest) :
    ∃ byte others, mark = byte :: others ∧ (byte = feedByte ∨ byte = returnByte) := by
  cases isEnd with
  | feed => exact ⟨_, _, rfl, Or.inl rfl⟩
  | both => exact ⟨_, _, rfl, Or.inr rfl⟩
  | carriage => exact ⟨_, _, rfl, Or.inr rfl⟩

theorem Unbroken.notMem {piece : List UInt8} (unbroken : Unbroken piece) {byte : UInt8}
    (isMark : byte = feedByte ∨ byte = returnByte) : byte ∉ piece := by
  rcases isMark with rfl | rfl
  · exact unbroken.noFeed
  · exact unbroken.noReturn

/-- A line end is nowhere among bytes in which no line ends. -/
theorem Unbroken.ne_append {whole piece mark rest : List UInt8} (unbroken : Unbroken whole)
    (isEnd : LineEnd mark rest) : whole ≠ piece ++ mark ++ rest := by
  rintro rfl
  obtain ⟨byte, others, rfl, isMark⟩ := isEnd.eq_cons
  exact unbroken.notMem isMark (by simp)

/-- The first line end is where two accounts of the same bytes have to agree. -/
theorem Unbroken.append_inj {first second : List UInt8} (unbroken : Unbroken first)
    (plain : Unbroken second) {byte other : UInt8} (isMark : byte = feedByte ∨ byte = returnByte)
    (alsoMark : other = feedByte ∨ other = returnByte) {rest after : List UInt8}
    (same : first ++ byte :: rest = second ++ other :: after) :
    first = second ∧ byte = other ∧ rest = after := by
  obtain ⟨inner, left, right⟩ := append_eq_append_cons_right same (unbroken.notMem alsoMark)
  cases inner with
  | nil => exact ⟨by rw [left, List.append_nil], (List.cons.inj right).1, (List.cons.inj right).2⟩
  | cons head others =>
    refine absurd ?_ (plain.notMem isMark)
    rw [left, (List.cons.inj right).1]
    simp

/-- The bytes behind the first byte of a line end tell which line end it is. -/
theorem LineEnd.unique {mark rest other after : List UInt8} (isEnd : LineEnd mark rest)
    (alsoEnd : LineEnd other after) (same : mark ++ rest = other ++ after) :
    mark = other ∧ rest = after := by
  cases isEnd with
  | feed =>
    cases alsoEnd with
    | feed => exact ⟨rfl, (List.cons.inj same).2⟩
    | both | carriage => exact absurd (List.cons.inj same).1 (by decide)
  | both =>
    cases alsoEnd with
    | feed => exact absurd (List.cons.inj same).1 (by decide)
    | both => exact ⟨rfl, (List.cons.inj (List.cons.inj same).2).2⟩
    | carriage notFeed => exact absurd (congrArg List.head? (List.cons.inj same).2.symm) notFeed
  | carriage notFeed =>
    cases alsoEnd with
    | feed => exact absurd (List.cons.inj same).1 (by decide)
    | both => exact absurd (congrArg List.head? (List.cons.inj same).2) notFeed
    | carriage => exact ⟨rfl, (List.cons.inj same).2⟩

theorem Delimited.unique {bytes : List UInt8} {pieces others : List (List UInt8)}
    (delimited : Delimited bytes pieces) (too : Delimited bytes others) : others = pieces := by
  induction delimited generalizing others with
  | nothing =>
    generalize none : [] = bytes at too
    cases too with
    | nothing => rfl
    | unended _ nonempty => exact absurd none.symm nonempty
    | ended _ isEnd => exact absurd none (unbroken_nil.ne_append isEnd)
  | @unended piece unbroken nonempty =>
    generalize whole : piece = bytes at too ⊢
    cases too with
    | nothing => exact absurd whole nonempty
    | unended => rfl
    | ended _ isEnd => exact absurd whole (unbroken.ne_append isEnd)
  | @ended piece mark rest pieces unbroken isEnd _ inductionHypothesis =>
    generalize whole : piece ++ mark ++ rest = bytes at too
    cases too with
    | nothing => exact absurd whole.symm (unbroken_nil.ne_append isEnd)
    | unended plain => exact absurd whole.symm (plain.ne_append isEnd)
    | @ended other mark' after _ plain alsoEnd further =>
      rw [List.append_assoc, List.append_assoc] at whole
      obtain ⟨byte, more, shape, isMark⟩ := isEnd.eq_cons
      obtain ⟨byte', more', shape', alsoMark⟩ := alsoEnd.eq_cons
      have split := whole
      rw [shape, shape', List.cons_append, List.cons_append] at split
      obtain ⟨rfl, _, _⟩ := unbroken.append_inj plain isMark alsoMark split
      obtain ⟨_, rfl⟩ := isEnd.unique alsoEnd (List.append_cancel_left whole)
      rw [inductionHypothesis further]

/-! ### Cutting the text parts the bytes -/

/-- No glyph is written with nothing. -/
theorem encode_ne_nil (glyph : Glyph) : glyph.encode .preserve ≠ [] := by
  cases glyph with
  | octet offset => exact List.cons_ne_nil _ _
  | scalar character => exact String.utf8EncodeChar_ne_nil

/-- A byte below `0x80` is only written for the character that it is. -/
theorem eq_of_mem_encode {byte : UInt8} (small : byte.toNat < 0x80) {glyph : Glyph}
    (inside : byte ∈ glyph.encode .preserve) : glyph = .scalar (Char.ofNat byte.toNat) := by
  cases glyph with
  | octet offset =>
    have same : byte = UInt8.ofNat (0x80 + offset.val) := List.mem_singleton.mp inside
    rw [← UInt8.toNat_inj, UInt8.toNat_ofNat'] at same
    omega
  | scalar character =>
    have code : byte.toNat = character.val.toNat := by
      rw [Glyph.encode, String.utf8EncodeChar] at inside
      -- Only the one byte of an ASCII character is small.
      repeat' split at inside
      all_goals
        simp only [List.mem_cons, List.not_mem_nil, or_false, ← UInt8.toNat_inj,
          UInt8.toNat_ofNat'] at inside
        omega
    rw [code]
    exact congrArg Glyph.scalar (Char.ofNat_toNat character).symm

theorem unbroken_encode {glyph : Glyph} (notFeed : glyph ≠ lineFeed)
    (notReturn : glyph ≠ carriageReturn) : Unbroken (glyph.encode .preserve) :=
  ⟨fun inside => notFeed (eq_of_mem_encode (by decide) inside),
    fun inside => notReturn (eq_of_mem_encode (by decide) inside)⟩

theorem head?_encode_ne_feed {glyph : Glyph} (notFeed : glyph ≠ lineFeed) (rest : Text) :
    (Text.encode .preserve (glyph :: rest)).head? ≠ some feedByte := by
  intro isFeed
  obtain ⟨first, others, shape⟩ := List.exists_cons_of_ne_nil (encode_ne_nil glyph)
  rw [Text.encode, List.flatMap_cons, shape, List.cons_append, List.head?_cons,
    Option.some_inj] at isFeed
  have inside : feedByte ∈ glyph.encode .preserve := by
    rw [shape, isFeed]
    exact List.mem_cons_self
  exact notFeed (eq_of_mem_encode (by decide) inside)

/-- The lines of a cut, the remainder among them if there is one. -/
def Cut.all (cut : Cut) : List Text := withRemainder cut.lines cut.remainder

theorem Cut.all_startLine (cut : Cut) : cut.startLine.all = [] :: cut.all := by
  unfold all withRemainder startLine
  split <;> rfl

/-- A glyph in front of the text goes to the piece that it stands in front of. -/
theorem Cut.encode_all_startWith (glyph : Glyph) (cut : Cut) :
    (cut.startWith glyph).all.map (Text.encode .preserve) =
      startPiece (glyph.encode .preserve) (cut.all.map (Text.encode .preserve)) := by
  obtain ⟨lines, remainder⟩ := cut
  cases lines <;> cases remainder <;>
    simp [all, withRemainder, startWith, startPiece, Text.encode]

theorem delimited_encode (text : Text) :
    Delimited (Text.encode .preserve text)
      ((cutLines text).all.map (Text.encode .preserve)) := by
  fun_induction cutLines text with
  | case1 => exact .nothing
  | case2 rest inductionHypothesis =>
    rw [Cut.all_startLine]
    exact .ended unbroken_nil .feed inductionHypothesis
  | case3 => exact .ended unbroken_nil (.carriage (by simp)) .nothing
  | case4 _ rest inductionHypothesis =>
    rw [Cut.all_startLine]
    have delimited := Delimited.ended unbroken_nil .both inductionHypothesis
    exact delimited
  | case5 next after notFeed _ inductionHypothesis =>
    rw [Cut.all_startLine]
    exact .ended unbroken_nil (.carriage (head?_encode_ne_feed notFeed after)) inductionHypothesis
  | case6 glyph rest notFeed notReturn inductionHypothesis =>
    rw [Cut.encode_all_startWith]
    exact inductionHypothesis.start (unbroken_encode notFeed notReturn) (encode_ne_nil glyph)

/-- The lines of a stream that loses no byte are the pieces that its line ends delimit. -/
theorem delimited_iff {handling : Handling} (preserves : handling.relaxed = .preserve)
    {bytes : List UInt8} {pieces : List (List UInt8)} :
    Delimited bytes pieces ↔ pieces = (ofBytes handling bytes).map Text.bytes := by
  have lines : Delimited bytes ((ofBytes handling bytes).map Text.bytes) := by
    have cut := delimited_encode (Text.decode .preserve bytes)
    rw [encode_decode] at cut
    rw [ofBytes, preserves]
    exact cut
  exact ⟨lines.unique, fun same => same ▸ lines⟩

end Input

/-! ### Reading again and again -/

/-- Some effects without the entries of the journal. -/
def Effect.unnoted (effects : List Effect) : List Effect :=
  effects.filter fun
    | .noted _ => false
    | _ => true

theorem Effect.unnoted_append (first second : List Effect) :
    unnoted (first ++ second) = unnoted first ++ unnoted second :=
  List.filter_append ..

namespace Console

/-- The results of so many readings in a row. -/
def readings (console : Console) (prompt : Text) : Nat → List Text → Action (List (Option Text))
  | 0, _ => give []
  | count + 1, unread => do
    let (line, rest) ← console.readLine prompt unread
    let others ← readings console prompt count rest
    give (line :: others)

/-- The effects that show a prompt: it is written, and the buffer is flushed. A stream without a
buffer shows it at once, so that a flush has nothing left to show. -/
def showing (console : Console) (prompt : Text) : List Effect :=
  match console.output with
  | .buffered _ => [.written prompt (console.encode prompt), .flushed]
  | .unyielding _ => [.written prompt (console.encode prompt), .flushed, .flushed]

theorem unnoted_prompting (console : Console) (prompt : Text) :
    Effect.unnoted (console.prompting prompt) = console.showing prompt := by
  obtain ⟨output, unyieldingInput⟩ := console
  cases output <;> cases unyieldingInput <;> rfl

/-- A reading gives the first line that is left, or nothing, and shows the prompt. -/
theorem readLine_apply (console : Console) (prompt : Text) (unread : List Text) (world : World) :
    ∃ effects, console.readLine prompt unread world =
        ⟨.ok (unread[0]?, unread.tail), world, effects⟩ ∧
      Effect.unnoted effects = console.showing prompt := by
  cases unread with
  | nil =>
    refine ⟨console.prompting prompt ++ [.noted endOfInput], rfl, ?_⟩
    rw [Effect.unnoted_append, unnoted_prompting]
    exact List.append_nil _
  | cons line rest =>
    refine ⟨console.prompting prompt ++ [], rfl, ?_⟩
    rw [List.append_nil, unnoted_prompting]

/-- Readings give the lines in their order, and then nothing for ever. -/
theorem readings_apply (console : Console) (prompt : Text) (count : Nat) (unread : List Text)
    (world : World) :
    ∃ effects, console.readings prompt count unread world =
        ⟨.ok ((List.range count).map (unread[·]?)), world, effects⟩ ∧
      Effect.unnoted effects = (List.replicate count (console.showing prompt)).flatten := by
  induction count generalizing unread with
  | zero => exact ⟨[], rfl, rfl⟩
  | succ count inductionHypothesis =>
    obtain ⟨first, reads, shown⟩ := console.readLine_apply prompt unread world
    obtain ⟨later, readsOn, shownOn⟩ := inductionHypothesis unread.tail
    refine ⟨first ++ (later ++ []), ?_, ?_⟩
    · have readings : console.readings prompt (count + 1) unread world =
          ⟨.ok (unread[0]? :: (List.range count).map (unread.tail[·]?)), world,
            first ++ (later ++ [])⟩ := by
        rw [Console.readings, bind_of_ok (by rw [reads]), reads]
        dsimp only
        rw [bind_of_ok (by rw [readsOn]), readsOn]
        rfl
      rw [readings, List.range_succ_eq_map, List.map_cons, List.map_map]
      simp [Function.comp_def]
    · rw [List.append_nil, Effect.unnoted_append, shown, shownOn, List.replicate_succ,
        List.flatten_cons]

end Console

/-- The console reads every byte of its input once. The stream is strict or preserves bytes that are
no character, so that the shell uses it in the second way. The readings give the pieces that the
line ends delimit, byte for byte and in their order, and then nothing for ever; none of them fails,
and each of them shows the prompt once and does nothing else. -/
theorem input_read_once {handling : Handling} (preserves : handling.relaxed = .preserve)
    (console : Console) (prompt : Text) (bytes : List UInt8) :
    let lines := Input.ofBytes handling bytes
    (∀ pieces, Input.Delimited bytes pieces ↔ pieces = lines.map Text.bytes) ∧
    ∀ count world,
      let step := console.readings prompt count lines world
      step.result = .ok ((List.range count).map (lines[·]?)) ∧
      step.world = world ∧
      Effect.unnoted step.effects = (List.replicate count (console.showing prompt)).flatten := by
  intro lines
  refine ⟨fun pieces => Input.delimited_iff preserves, fun count world => ?_⟩
  obtain ⟨effects, reads, shown⟩ := console.readings_apply prompt count lines world
  dsimp only
  rw [reads]
  exact ⟨rfl, rfl, shown⟩

/-- A truncated character before a carriage return and a line feed, then line feeds, a carriage
return behind one of them, and a line separator of Unicode before a last carriage return. -/
def brokenLines : List UInt8 :=
  [0xE2, 0x82, 0x0D, 0x0A, 0x0A, 0x0A, 0x0D, 0xE2, 0x80, 0xA8, 0x0D]

theorem input_read_once_brokenLines :
    Handling.relaxed .strict = .preserve ∧
    Input.Delimited brokenLines [[0xE2, 0x82], [], [], [], [0xE2, 0x80, 0xA8]] ∧
    (Console.terminal.readings Session.defaultPrompt 7 (Input.ofBytes .strict brokenLines)
        (World.bare [])).result =
      .ok [some [.octet 0x62, .octet 0x02], some [], some [], some [], some [.scalar '\u2028'],
        none, none] := by
  have preserves : Handling.relaxed .strict = .preserve := rfl
  have lines : Input.ofBytes .strict brokenLines =
      [[.octet 0x62, .octet 0x02], [], [], [], [.scalar '\u2028']] := by
    decide +kernel
  obtain ⟨pieces, reads⟩ :=
    input_read_once preserves Console.terminal Session.defaultPrompt brokenLines
  refine ⟨preserves, (pieces _).mpr ?_, ?_⟩
  · rw [lines]
    decide +kernel
  · rw [(reads 7 (World.bare [])).1, lines]
    rfl

end LineShell
