/-
This file proves that what is given to `echo` comes out as it went in, byte for byte. Reading turns
bytes that are no character into stray bytes and writing gives them back, no line end is found
within the text, nothing is trimmed from it, and the line's keyword is all that is taken off.
-/

import LineShell.Proofs.Bytes
import LineShell.Proofs.Composition
import LineShell.Proofs.Parsing

namespace LineShell

open Effect

/-! ### Lines that leave the world alone -/

namespace Session

variable {console : Console} {world : World}

/-- Where every line comes to its normal end and leaves the world, each is read in that world. -/
theorem rounds_of_idle {lines : List Text}
    (idle : ∀ line ∈ lines, (∃ command, (evaluateLine console line world).result = .ok command) ∧
      (evaluateLine console line world).world = world) :
    rounds console lines world = lines.map (⟨·, world⟩) ∧ breakOff console lines world = none ∧
      lastWorld console lines world = world := by
  induction lines with
  | nil => exact ⟨rfl, rfl, rfl⟩
  | cons line rest inductionHypothesis =>
    obtain ⟨⟨command, success⟩, left⟩ := idle line List.mem_cons_self
    obtain ⟨all, whole, last⟩ :=
      inductionHypothesis fun other member => idle other (List.mem_cons_of_mem line member)
    rw [rounds_of_ok success, breakOff_of_ok success, lastWorld_of_ok success, left]
    exact ⟨congrArg _ all, whole, last⟩

end Session

/-! ### One line of `echo` -/

namespace Command

variable {text : Text} (whole : Glyph.nul ∉ text)
  (ends : ∀ glyph ∈ text.getLast?, glyph.isBlank = false)

include whole ends

theorem ofLine_echo : ofLine (Text.of "echo " ++ text) = .ok (some (.echo text)) := by
  have listed : Text.of "echo" ∈ keywords := by decide
  exact ofLine_keyword_append listed ⟨whole, ends⟩ (reading_echo whole)

theorem evaluateLine_echo (console : Console) (world : World) :
    evaluateLine console (Text.of "echo " ++ text) world =
      ⟨.ok (some (.echo text)), world,
        carrying console (Text.of "echo " ++ text) (.echo text) world⟩ :=
  evaluateLine_of_some (ofLine_echo whole ends) console world

end Command

/-- A round of `echo` shows the prompt and the text. -/
theorem Round.output_echo {text : Text} (whole : Glyph.nul ∉ text)
    (ends : ∀ glyph ∈ text.getLast?, glyph.isBlank = false) {console : Console}
    {handling : Handling} (buffered : console.output = .buffered handling) (prompt : Text)
    (world : World) : Round.output console prompt ⟨Text.of "echo " ++ text, world⟩ =
      console.encode prompt ++ console.encode (Console.lineOf text) := by
  have effects : carrying console (Text.of "echo " ++ text) (.echo text) world =
      [.noted (lineEntry (Text.trim (Text.of "echo " ++ text)) (.echo text)),
        .written (Console.lineOf text) (console.encode (Console.lineOf text))] := by
    have writes : console.writing (Console.lineOf text) =
        [.written (Console.lineOf text) (console.encode (Console.lineOf text))] := by
      rw [Console.writing, buffered]
    rw [← writes]
    rfl
  rw [Round.output, Round.step, Command.evaluateLine_echo whole ends, effects]
  simp [programBytes, consoleBytes]

/-! ### Sessions of `echo` -/

/-- Bytes that can be given to `echo` in one line and lose nothing: no line ends in them, and the
text that they are read as does not end in a blank. They need not be well-formed. -/
structure Echoable (block : List UInt8) : Prop where
  whole : 0 ∉ block
  noFeed : Input.feedByte ∉ block
  noReturn : Input.returnByte ∉ block
  ends : ∀ glyph ∈ (Text.decode .preserve block).getLast?, glyph.isBlank = false

/-- The line that gives the bytes to `echo`, its end included. -/
def echoLine (block : List UInt8) : List UInt8 :=
  (Text.of "echo ").bytes ++ block ++ [Input.feedByte]

/-- The lines of some blocks are read one by one, the bytes of each as a text of their own. -/
theorem Input.ofBytes_echoLines {handling : Handling} (preserves : handling.relaxed = .preserve)
    {blocks : List (List UInt8)} (echoable : ∀ block ∈ blocks, Echoable block) :
    ofBytes handling (blocks.flatMap echoLine) =
      blocks.map fun block => Text.of "echo " ++ Text.decode .preserve block := by
  have ascii : ∀ glyph ∈ Text.of "echo ",
      ∃ character, glyph = .scalar character ∧ character.toNat < 0x80 := by
    intro glyph member
    obtain ⟨character, isThere, rfl⟩ := List.mem_map.mp member
    have small : ("echo ".toList.all fun other => other.toNat < 0x80) = true := by decide
    exact ⟨character, rfl, of_decide_eq_true (List.all_eq_true.mp small character isThere)⟩
  induction blocks with
  | nil => rfl
  | cons block rest inductionHypothesis =>
    obtain ⟨_, noFeed, noReturn, _⟩ := echoable block List.mem_cons_self
    have inFront {byte : UInt8} (absent : byte ∉ (Text.of "echo ").bytes)
        (notInBlock : byte ∉ block) : byte ∉ (Text.of "echo ").bytes ++ block := by
      simp [absent, notInBlock]
    have first : ofBytes handling (echoLine block) =
        [Text.of "echo " ++ Text.decode .preserve block] := by
      rw [echoLine, ofBytes_line preserves (inFront (by decide) noFeed)
        (inFront (by decide) noReturn), decode_bytes_append .preserve ascii]
    have ended : Ended feedByte (echoLine block) := Or.inr (by rw [echoLine, List.getLast?_concat])
    rw [List.flatMap_cons, ofBytes_append handling ended, first, inductionHypothesis
      fun other member => echoable other (List.mem_cons_of_mem block member)]
    rfl

/-- What is given to `echo` comes out byte for byte. The input and the output are strict streams or
preserve bytes that are no character, so that the shell uses both in the second way. -/
theorem echo_transparent {input output : Handling} (reads : input.relaxed = .preserve)
    (writes : output.relaxed = .preserve) (prompt : Text) (world : World)
    {blocks : List (List UInt8)} (echoable : ∀ block ∈ blocks, Echoable block) :
    let ending :=
      Session.onBytes ⟨.buffered output, none⟩ input prompt (blocks.flatMap echoLine) world
    ending.result = .ok 0 ∧ ending.unread = [] ∧ ending.world = world ∧
    Terminal.output ending.effects =
      blocks.flatMap (fun block => prompt.bytes ++ block ++ [Input.feedByte]) ++ prompt.bytes := by
  intro ending
  let console : Console := ⟨.buffered output, none⟩
  have buffered : console.output = .buffered output := rfl
  have encodes (text : Text) : console.encode text = text.bytes :=
    congrArg (Text.encode · text) writes
  let line (block : List UInt8) : Text := Text.of "echo " ++ Text.decode .preserve block
  have lines : Input.ofBytes input (blocks.flatMap echoLine) = blocks.map line :=
    Input.ofBytes_echoLines reads echoable
  have said (block : List UInt8) (member : block ∈ blocks) :=
    Command.evaluateLine_echo (nul_notMem_decode (echoable block member).whole)
      (echoable block member).ends console world
  obtain ⟨all, exhausted, last⟩ : Session.rounds console (blocks.map line) world = _ ∧ _ ∧ _ := by
    refine Session.rounds_of_idle fun other member => ?_
    obtain ⟨block, inBlocks, rfl⟩ := List.mem_map.mp member
    rw [said block inBlocks]
    exact ⟨⟨_, rfl⟩, rfl⟩
  have shown := Session.playAll_closing buffered prompt (blocks.map line) world
    (Terminal.blank.play (.noted Session.started))
  have whole : ending = _ :=
    (congrArg (Session.run console prompt · world) lines).trans (Session.run_eq ..)
  refine ⟨?_, ?_, ?_, ?_⟩
  · rw [whole, exhausted]
    rfl
  · rw [whole, Session.length_rounds_of_breakOff_none exhausted, List.drop_length]
  · rw [whole, last]
  · have outputs : (Session.rounds console (blocks.map line) world).flatMap
        (Round.output console prompt) =
          blocks.flatMap fun block => prompt.bytes ++ block ++ [Input.feedByte] := by
      rw [all, List.map_map, List.flatMap_map, List.flatMap_def, List.flatMap_def]
      refine congrArg List.flatten (List.map_congr_left fun block member => ?_)
      have one := Round.output_echo (nul_notMem_decode (echoable block member).whole)
        (echoable block member).ends buffered prompt world
      have written : (Console.lineOf (Text.decode .preserve block)).bytes =
          block ++ [Input.feedByte] := by
        rw [Console.lineOf, Text.bytes, Text.encode_append, encode_decode]
        rfl
      rw [encodes, encodes, written, ← List.append_assoc] at one
      exact one
    rw [whole]
    show (Terminal.playAll _ _).shown ++ (Terminal.playAll _ _).pending = _
    rw [Terminal.playAll_cons, Terminal.playAll_append, shown, outputs, exhausted, if_pos rfl,
      encodes]
    exact List.append_nil _

/-- A truncated character, a surrogate and an overlong form behind a space, and no bytes at all. -/
def roughBlocks : List (List UInt8) :=
  [[0xE2, 0x82], [0x20, 0xED, 0xA0, 0x80, 0xC0, 0xAF], []]

theorem echo_transparent_roughBlocks :
    (∀ block ∈ roughBlocks, Echoable block) ∧
    Terminal.output (Session.onBytes Console.terminal (.lenient .preserve) Session.defaultPrompt
        (roughBlocks.flatMap echoLine) (World.bare [])).effects =
      [0x24, 0x20, 0xE2, 0x82, 0x0A, 0x24, 0x20, 0x20, 0xED, 0xA0, 0x80, 0xC0, 0xAF, 0x0A,
        0x24, 0x20, 0x0A, 0x24, 0x20] := by
  have echoable : ∀ block ∈ roughBlocks, Echoable block := by
    intro block member
    simp only [roughBlocks, List.mem_cons, List.not_mem_nil, or_false] at member
    rcases member with rfl | rfl | rfl <;>
      exact ⟨by decide, by decide, by decide, by decide +kernel⟩
  have reads : Handling.relaxed (.lenient .preserve) = .preserve := rfl
  have writes : Handling.relaxed .strict = .preserve := rfl
  have transparent :=
    echo_transparent reads writes Session.defaultPrompt (World.bare []) echoable
  exact ⟨echoable, transparent.2.2.2.trans (by decide +kernel)⟩

end LineShell
