/-
This file proves that sessions compose. Bytes that end with a line feed can be given to one session
and what follows them to another, which starts in the world that the first one left: the two do
what one session over all the bytes does. So nothing but the world goes from one line to the next,
and nothing that stands behind the line that ends a session matters to it.
-/

import LineShell.Proofs.History
import LineShell.Proofs.Lines
import LineShell.Proofs.Output

namespace LineShell

open Effect

/-! ### Turns over lines in a row -/

namespace Session

variable {console : Console} {first : List Text} {world : World} (prompt : Text)

/-- If no line ends the session, the turns over the lines that follow start where it stopped. -/
theorem turns_append (exhausted : breakOff console first world = none) (second : List Text) :
    turns console prompt (first ++ second) world =
      (turns console prompt second (lastWorld console first world)).after
        ((rounds console first world).flatMap (roundEffects console prompt)) := by
  induction first generalizing world with
  | nil => rfl
  | cons line rest inductionHypothesis =>
    rcases outcome : (evaluateLine console line world).result with failure | command
    · rw [breakOff_of_error outcome] at exhausted
      cases exhausted
    · rw [breakOff_of_ok outcome] at exhausted
      rw [List.cons_append, turns, outcome, rounds_of_ok outcome, lastWorld_of_ok outcome]
      simp only [inductionHypothesis exhausted, Ending.after, List.flatMap_cons, List.append_assoc,
        roundEffects, Round.step]

/-- Lines behind the one that ends a session are not read and change nothing. -/
theorem turns_append_of_breakOff (broken : breakOff console first world ≠ none)
    (second : List Text) : turns console prompt (first ++ second) world =
      { turns console prompt first world with
        unread := (turns console prompt first world).unread ++ second } := by
  induction first generalizing world with
  | nil => exact absurd rfl broken
  | cons line rest inductionHypothesis =>
    rw [List.cons_append, turns, turns]
    rcases outcome : (evaluateLine console line world).result with failure | command
    · cases failure <;> rfl
    · rw [breakOff_of_ok outcome] at broken
      simp only [inductionHypothesis broken, Ending.after]

/-- The first thing that turns do is to show the prompt. -/
theorem turns_effects (console : Console) (lines : List Text) (world : World) :
    ∃ later, (turns console prompt lines world).effects = console.prompting prompt ++ later := by
  cases lines with
  | nil => exact ⟨_, rfl⟩
  | cons line rest =>
    rw [turns]
    rcases (evaluateLine console line world).result with failure | command
    · cases failure with
      | exit status => exact ⟨_, List.append_assoc ..⟩
      | _ => exact ⟨_, rfl⟩
    · exact ⟨_, List.append_assoc ..⟩

/-- A session that goes through all its lines comes to its rounds and a last prompt. -/
theorem run_effects_of_exhausted (exhausted : breakOff console first world = none) :
    (run console prompt first world).effects =
      .noted started :: ((rounds console first world).flatMap (roundEffects console prompt) ++
        (console.prompting prompt ++ [.noted Console.endOfInput, .noted Session.exhausted])) := by
  rw [run_eq, exhausted]
  rfl

end Session

/-! ### Prompts that part the output -/

namespace Terminal

/-- Once a prompt is shown, what was written before it does not matter to what is shown next. -/
theorem whole_playAll_prompting (console : Console) (prompt : Text) (later : List Effect)
    (terminal : Terminal) :
    (terminal.playAll (console.prompting prompt ++ later)).whole =
      terminal.whole ++ output (console.prompting prompt ++ later) := by
  have apart (shown : List UInt8) : (playAll ⟨shown, []⟩ later).whole =
      shown ++ (blank.playAll later).whole := by
    obtain ⟨shape, same⟩ := shown_playAll ⟨shown, []⟩ later
    rw [whole, shape, same, List.append_assoc]
    rfl
  show _ = terminal.whole ++ (blank.playAll (console.prompting prompt ++ later)).whole
  rw [playAll_append, playAll_append, playAll_prompting, playAll_prompting, apart, apart]
  exact List.append_assoc ..

end Terminal

/-! ### Sessions in a row -/

namespace Session

variable {console : Console} {first : List Text} {world : World}
  (exhausted : breakOff console first world = none) (prompt : Text) (second : List Text)

include exhausted

/-- The session over more lines goes on where the one over the first lines shows its last
prompt. -/
theorem run_append : ∃ earlier,
    run console prompt (first ++ second) world =
      (turns console prompt second (lastWorld console first world)).after
        (.noted started :: earlier) ∧
    (run console prompt first world).effects =
      .noted started :: (earlier ++
        (console.prompting prompt ++ [.noted Console.endOfInput, .noted Session.exhausted])) := by
  refine ⟨_, ?_, run_effects_of_exhausted prompt exhausted⟩
  rw [run, turns_append prompt exhausted]
  rfl

theorem calls_run_append :
    calls (run console prompt (first ++ second) world).effects =
      calls (run console prompt first world).effects ++
        calls (run console prompt second (lastWorld console first world)).effects := by
  obtain ⟨earlier, whole, start⟩ := run_append exhausted prompt second
  have noting (entry : Entry) (effects : List Effect) :
      calls (.noted entry :: effects) = calls effects := rfl
  have asking : calls (console.prompting prompt ++
      [.noted Console.endOfInput, .noted Session.exhausted]) = [] := by
    rw [calls_append, console.calls_prompting]
    rfl
  rw [whole, start, noting, calls_append, asking, List.append_nil]
  exact calls_append ..

/-- The second session's first prompt takes the place of the first one's last. -/
theorem output_run_append :
    ∃ kept, Terminal.output (run console prompt first world).effects =
        kept ++ console.encode prompt ∧
      Terminal.output (run console prompt (first ++ second) world).effects =
        kept ++ Terminal.output
          (run console prompt second (lastWorld console first world)).effects := by
  obtain ⟨earlier, whole, start⟩ := run_append exhausted prompt second
  obtain ⟨later, shape⟩ := turns_effects prompt console second (lastWorld console first world)
  refine ⟨(Terminal.blank.playAll earlier).whole, ?_, ?_⟩
  · rw [start]
    show (Terminal.blank.playAll (earlier ++ _)).whole = _
    rw [Terminal.playAll_append, Terminal.playAll_append, Terminal.playAll_prompting]
    exact List.append_nil _
  · rw [whole]
    show (Terminal.blank.playAll (earlier ++ _)).whole = _
    rw [Terminal.playAll_append, shape, Terminal.whole_playAll_prompting, ← shape]
    rfl

end Session

/-- A session on a byte stream. -/
def Session.onBytes (console : Console) (handling : Handling) (prompt : Text) (bytes : List UInt8)
    (world : World) : Ending :=
  Session.run console prompt (Input.ofBytes handling bytes) world

/-- Sessions compose. The first bytes are none or end with a line feed. If the session on them goes
through all their lines, the session on all the bytes ends as the session on the other bytes does
in the world that the first one left: its calls are those of the two in a row, and so is its
output, but for the last prompt of the first one. If it ends before, nothing that follows matters
to it. -/
theorem sessions_compose (console : Console) (handling : Handling) (prompt : Text) (world : World)
    {first : List UInt8} (ended : Input.Ended Input.feedByte first) (second : List UInt8) :
    let start := Session.onBytes console handling prompt first world
    let rest := Session.onBytes console handling prompt second start.world
    let whole := Session.onBytes console handling prompt (first ++ second) world
    let broken := Session.breakOff console (Input.ofBytes handling first) world
    (broken = none →
      whole.result = rest.result ∧ whole.unread = rest.unread ∧ whole.world = rest.world ∧
      calls whole.effects = calls start.effects ++ calls rest.effects ∧
      ∃ kept, Terminal.output start.effects = kept ++ console.encode prompt ∧
        Terminal.output whole.effects = kept ++ Terminal.output rest.effects) ∧
    (broken ≠ none →
      whole.result = start.result ∧ whole.unread = start.unread ++ Input.ofBytes handling second ∧
      whole.world = start.world ∧ whole.effects = start.effects) := by
  intro start rest whole broken
  have lines : whole = Session.run console prompt
      (Input.ofBytes handling first ++ Input.ofBytes handling second) world :=
    congrArg (Session.run console prompt · world) (Input.ofBytes_append handling ended second)
  refine ⟨fun exhausted => ?_, fun stopped => ?_⟩
  · have left : start.world = Session.lastWorld console (Input.ofBytes handling first) world :=
      congrArg Ending.world (Session.run_eq ..)
    have after : rest = Session.run console prompt (Input.ofBytes handling second)
        (Session.lastWorld console (Input.ofBytes handling first) world) :=
      congrArg (Session.run console prompt _) left
    obtain ⟨_, same, _⟩ := Session.run_append exhausted prompt (Input.ofBytes handling second)
    rw [lines, after]
    refine ⟨?_, ?_, ?_, Session.calls_run_append exhausted prompt _,
      Session.output_run_append exhausted prompt _⟩ <;>
    · rw [same]
      rfl
  · rw [lines, Session.run, Session.turns_append_of_breakOff prompt stopped]
    exact ⟨rfl, rfl, rfl, rfl⟩

/-- A change of directory, and a line that ends within a character. -/
def firstHalf : List UInt8 := (Text.of "cd /d\necho ").bytes ++ [0xE2, 0x82, Input.feedByte]

/-- The rest of that character as a line of its own, and a request to leave. -/
def secondHalf : List UInt8 := [0xAC, Input.feedByte] ++ (Text.of "pwd\nexit 3\npwd").bytes

/-- A world with a directory to go to. -/
def roomyWorld : World := (World.bare []).change (.place [Text.of "d"] .plainDirectory)

theorem sessions_compose_halves :
    let session := Session.onBytes Console.terminal .strict Session.defaultPrompt
    Input.Ended Input.feedByte firstHalf ∧
    Session.breakOff Console.terminal (Input.ofBytes .strict firstHalf) roomyWorld = none ∧
    (session (firstHalf ++ secondHalf) roomyWorld).result =
      (session secondHalf (session firstHalf roomyWorld).world).result ∧
    (session (firstHalf ++ secondHalf) roomyWorld).unread = [Text.of "pwd"] := by
  intro session
  have ended : Input.Ended Input.feedByte firstHalf := Or.inr (by decide +kernel)
  have exhausted :
      Session.breakOff Console.terminal (Input.ofBytes .strict firstHalf) roomyWorld = none := by
    decide +kernel
  have unread : (session secondHalf (session firstHalf roomyWorld).world).unread =
      [Text.of "pwd"] := by
    decide +kernel
  have together :=
    (sessions_compose Console.terminal .strict Session.defaultPrompt roomyWorld ended
      secondHalf).1 exhausted
  exact ⟨ended, exhausted, together.1, together.2.1.trans unread⟩

end LineShell
