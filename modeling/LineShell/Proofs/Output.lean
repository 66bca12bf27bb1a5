/-
This file proves that no output of a session is lost or put out of order. What a user sees of a
session on a stream with a buffer is, line by line, the prompt, then what the line's program wrote,
then what the line itself had to say. Nothing waits in the buffer when a program is spawned or when
the session stops, however it stops.
-/

import LineShell.Console.Terminal
import LineShell.Proofs.Order
import LineShell.Proofs.Rounds

namespace LineShell

open Effect

/-! ### Places in lists -/

theorem append_eq_append_cons_right {α : Type} {first second earlier later : List α} {item : α}
    (split : first ++ second = earlier ++ item :: later) (absent : item ∉ first) :
    ∃ inner, earlier = first ++ inner ∧ second = inner ++ item :: later := by
  rcases List.append_eq_append_iff.mp split with ⟨inner, left, right⟩ | ⟨inner, left, right⟩
  · exact ⟨inner, left, right⟩
  · cases inner with
    | nil => exact ⟨[], by rw [left, List.append_nil, List.append_nil], right.symm⟩
    | cons head rest =>
      rw [List.cons_append, List.cons.injEq] at right
      rw [left, right.1] at absent
      simp at absent

theorem append_eq_append_cons_left {α : Type} {first second earlier later : List α} {item : α}
    (split : first ++ second = earlier ++ item :: later) (absent : item ∉ second) :
    ∃ inner, first = earlier ++ item :: inner := by
  rcases List.append_eq_append_iff.mp split with ⟨inner, _, right⟩ | ⟨inner, left, right⟩
  · rw [right] at absent
    simp at absent
  · cases inner with
    | nil =>
      rw [List.nil_append] at right
      rw [← right] at absent
      simp at absent
    | cons head rest =>
      rw [List.cons_append, List.cons.injEq] at right
      exact ⟨rest, by rw [left, right.1]⟩

theorem flatMap_eq_append_cons {α β : Type} {pieces : α → List β} {items : List α}
    {earlier later : List β} {target : β}
    (split : items.flatMap pieces = earlier ++ target :: later) :
    ∃ past item future inner rest, items = past ++ item :: future ∧
      pieces item = inner ++ target :: rest ∧ earlier = past.flatMap pieces ++ inner := by
  induction items generalizing earlier with
  | nil => simp at split
  | cons first others inductionHypothesis =>
    rw [List.flatMap_cons] at split
    rcases List.append_eq_append_iff.mp split with ⟨inner, left, right⟩ | ⟨inner, left, right⟩
    · obtain ⟨past, item, future, within, rest, shape, place, whole⟩ := inductionHypothesis right
      exact ⟨first :: past, item, future, within, rest, by rw [shape, List.cons_append], place,
        by rw [left, whole, List.flatMap_cons, List.append_assoc]⟩
    · cases inner with
      | nil =>
        have start : others.flatMap pieces = [] ++ target :: later := right.symm
        obtain ⟨past, item, future, within, rest, shape, place, whole⟩ := inductionHypothesis start
        refine ⟨first :: past, item, future, within, rest, ?_, place, ?_⟩
        · rw [shape, List.cons_append]
        · rw [List.flatMap_cons, List.append_assoc, ← whole, left, List.append_nil, List.append_nil]
      | cons head rest =>
        rw [List.cons_append, List.cons.injEq] at right
        exact ⟨[], first, others, earlier, rest, rfl, by rw [left, right.1], rfl⟩

/-! ### One line on a terminal -/

namespace Terminal

/-- All that has been written, shown or not. -/
def whole (terminal : Terminal) : List UInt8 := terminal.shown ++ terminal.pending

theorem playAll_quiet {effects : List Effect} (still : Quiet effects) (shown : List UInt8) :
    playAll ⟨shown, []⟩ effects = ⟨shown, []⟩ := by
  induction effects with
  | nil => rfl
  | cons effect rest inductionHypothesis =>
    rw [quiet_cons] at still
    have unchanged : play ⟨shown, []⟩ effect = ⟨shown, []⟩ := by
      cases effect with
      | called | noted => rfl
      | flushed => rw [play, List.append_nil]
      | written | emitted => cases still.1
    rw [playAll_cons, unchanged, inductionHypothesis still.2]

/-- What a program writes is shown at once where the buffer is empty. -/
theorem playAll_oneProgram {effects : List Effect} (one : OneProgram effects) (shown : List UInt8) :
    playAll ⟨shown, []⟩ effects = ⟨shown ++ programBytes effects, []⟩ := by
  cases one with
  | quiet still => rw [playAll_quiet still, still.programBytes_eq, List.append_nil]
  | @spawned before output after program arguments directory quietBefore written quietAfter =>
    rw [programBytes_append, quietBefore.programBytes_eq, programBytes_called, programBytes_append,
      quietAfter.programBytes_eq, playAll_append, playAll_quiet quietBefore, playAll_cons, play,
      playAll_append]
    rcases written with rfl | ⟨bytes, rfl⟩
    · rw [playAll_nil, playAll_quiet quietAfter]
      simp [programBytes]
    · rw [playAll_cons, playAll_nil, play, playAll_quiet quietAfter]
      simp [programBytes]

/-- The prompt is shown after all that has been written. -/
theorem playAll_prompting (console : Console) (prompt : Text) (terminal : Terminal) :
    terminal.playAll (console.prompting prompt) =
      ⟨terminal.whole ++ console.encode prompt, []⟩ := by
  have warned : ∀ other : Terminal, other.playAll console.inputWarnings = other := by
    intro other
    rw [Console.inputWarnings]
    split <;> rfl
  cases shape : console.output <;>
    simp [Console.prompting, Console.writing, Console.flushing, Console.outputWarnings, shape,
      play, warned, whole, List.append_assoc]

end Terminal

namespace Effect.OneProgram

variable {effects : List Effect}

theorem consoleBytes_eq (one : OneProgram effects) : consoleBytes effects = [] := by
  cases one with
  | quiet still => exact still.consoleBytes_eq
  | spawned _ _ _ before written after =>
    rw [consoleBytes_append, before.consoleBytes_eq, consoleBytes_called, consoleBytes_append,
      after.consoleBytes_eq]
    rcases written with rfl | ⟨bytes, rfl⟩ <;> rfl

theorem texts_eq (one : OneProgram effects) : texts effects = [] := by
  cases one with
  | quiet still => exact still.texts_eq
  | spawned _ _ _ before written after =>
    rw [texts_append, before.texts_eq, ← List.singleton_append, texts_append, texts_append,
      after.texts_eq]
    rcases written with rfl | ⟨bytes, rfl⟩ <;> rfl

theorem length_spawns_le (one : OneProgram effects) : (spawns effects).length ≤ 1 := by
  cases one with
  | quiet still => simp [still.spawns_eq]
  | spawned _ _ _ before written after =>
    rw [spawns_append, before.spawns_eq, ← List.singleton_append, spawns_append, spawns_append,
      after.spawns_eq]
    rcases written with rfl | ⟨bytes, rfl⟩ <;> exact Nat.le_refl 1

/-- Without a spawn no program writes. -/
theorem programBytes_eq (one : OneProgram effects) (unspawned : spawns effects = []) :
    programBytes effects = [] := by
  cases one with
  | quiet still => exact still.programBytes_eq
  | spawned _ _ _ before written after =>
    rw [spawns_append, ← List.singleton_append, spawns_append] at unspawned
    simp [spawns, calls, Call.isSpawn] at unspawned

/-- Everything before a spawn is quiet. -/
theorem quiet_before {before rest : List Effect} {call : Call} (one : OneProgram effects)
    (split : effects = before ++ .called call :: rest) (isSpawn : call.isSpawn) : Quiet before := by
  have loud : ∀ {other : List Effect}, Quiet other → .called call ∉ other := by
    intro other still member
    have silent := still _ member
    simp [isQuiet, isSpawn] at silent
  cases one with
  | quiet still =>
    rw [split] at still
    exact (Effect.quiet_append.mp still).1
  | spawned program arguments directory quietBefore written quietAfter =>
    obtain ⟨inner, rfl, place⟩ := append_eq_append_cons_right split (loud quietBefore)
    cases inner with
    | nil => rwa [List.append_nil]
    | cons head others =>
      rw [List.cons_append, List.cons.injEq] at place
      have member : Effect.called call ∈ others ++ .called call :: rest := by simp
      rw [← place.2, List.mem_append] at member
      rcases member with inOutput | inAfter
      · rcases written with rfl | ⟨bytes, rfl⟩ <;> simp at inOutput
      · exact absurd inAfter (loud quietAfter)

end Effect.OneProgram

/-! ### What a line says -/

namespace Step.Orderly

open Console

variable {α : Type} {console : Console} {step : Step α}

theorem length_spawns_le (orderly : step.Orderly console) : (spawns step.effects).length ≤ 1 := by
  obtain ⟨ran, said, shape, one, _⟩ := orderly
  rw [shape, spawns_append, spawns_saying, List.append_nil]
  exact one.length_spawns_le

theorem programBytes_eq (orderly : step.Orderly console) (unspawned : spawns step.effects = []) :
    programBytes step.effects = [] := by
  obtain ⟨ran, said, shape, one, _⟩ := orderly
  rw [shape, spawns_append, spawns_saying, List.append_nil] at unspawned
  rw [shape, programBytes_append, one.programBytes_eq unspawned, programBytes_saying,
    List.append_nil]

/-- Nothing is written before a spawn. -/
theorem quiet_before {before rest : List Effect} {call : Call} (orderly : step.Orderly console)
    (split : step.effects = before ++ .called call :: rest) (isSpawn : call.isSpawn) :
    Quiet before := by
  obtain ⟨ran, said, shape, one, _⟩ := orderly
  rw [shape] at split
  obtain ⟨inner, place⟩ := append_eq_append_cons_left split (console.called_notMem_saying call said)
  exact one.quiet_before place isSpawn

/-- A line that fails has written nothing of its own. -/
theorem consoleBytes_eq {failure : Failure} (orderly : step.Orderly console)
    (failed : step.result = .error failure) : consoleBytes step.effects = [] := by
  obtain ⟨ran, said, shape, one, success⟩ := orderly
  cases said with
  | none =>
    rw [shape, consoleBytes_append, one.consoleBytes_eq]
    rfl
  | some text =>
    obtain ⟨value, ended⟩ := success rfl
    rw [ended] at failed
    cases failed

end Step.Orderly

/-! ### Rounds on a terminal with a buffer -/

/-- What a round comes to show: the prompt, what the line's program wrote, and what the line itself
said. -/
def Round.output (console : Console) (prompt : Text) (round : Round) : List UInt8 :=
  console.encode prompt ++ programBytes (round.step console).effects ++
    consoleBytes (round.step console).effects

theorem Round.orderly (console : Console) (round : Round) :
    (round.step console).Orderly console := orderly_evaluateLine console round.line round.world

section

variable {α : Type} {console : Console} {handling : Handling}
  (buffered : console.output = .buffered handling)

include buffered

theorem Console.saying_of_buffered (said : Option Text) : console.saying said =
    said.toList.map fun text => .written (lineOf text) (console.encode (lineOf text)) := by
  cases said with
  | none => rfl
  | some text => simp [saying, writing, buffered]

/-- A line says at most one text, and nothing else of its own goes to the console. -/
theorem Step.Orderly.said {step : Step α} (orderly : step.Orderly console) :
    ∃ said : Option Text, texts step.effects = said.toList.map Console.lineOf ∧
      consoleBytes step.effects = said.toList.flatMap fun text =>
        console.encode (Console.lineOf text) := by
  obtain ⟨ran, said, shape, one, _⟩ := orderly
  refine ⟨said, ?_, ?_⟩
  · rw [shape, texts_append, one.texts_eq, Console.saying_of_buffered buffered]
    cases said <;> rfl
  · rw [shape, consoleBytes_append, one.consoleBytes_eq, Console.saying_of_buffered buffered]
    cases said <;> simp [consoleBytes]

namespace Terminal

/-- A line that starts with an empty buffer has its program's bytes shown and its own held back. -/
theorem playAll_orderly {step : Step α} (orderly : step.Orderly console) (shown : List UInt8) :
    playAll ⟨shown, []⟩ step.effects =
      ⟨shown ++ programBytes step.effects, consoleBytes step.effects⟩ := by
  obtain ⟨ran, said, shape, one, _⟩ := orderly
  rw [shape, playAll_append, playAll_oneProgram one, programBytes_append, consoleBytes_append,
    one.consoleBytes_eq, Console.saying_of_buffered buffered]
  cases said <;> simp [play, programBytes, consoleBytes]

theorem playAll_round (prompt : Text) (round : Round) (terminal : Terminal) :
    terminal.playAll (Session.roundEffects console prompt round) =
      ⟨terminal.whole ++ console.encode prompt ++ programBytes (round.step console).effects,
        consoleBytes (round.step console).effects⟩ := by
  rw [Session.roundEffects, playAll_append, playAll_prompting, playAll_orderly buffered
    (round.orderly console)]

/-- Rounds in a row lose nothing and keep the order. -/
theorem whole_playAll_rounds (prompt : Text) (rounds : List Round) (terminal : Terminal) :
    (terminal.playAll (rounds.flatMap (Session.roundEffects console prompt))).whole =
      terminal.whole ++ rounds.flatMap (Round.output console prompt) := by
  induction rounds generalizing terminal with
  | nil => simp
  | cons round rest inductionHypothesis =>
    rw [List.flatMap_cons, playAll_append, inductionHypothesis, playAll_round buffered,
      List.flatMap_cons, Round.output]
    simp only [whole, List.append_assoc]

end Terminal

end

/-! ### A session on a terminal with a buffer -/

namespace Session

variable {console : Console}

theorem called_notMem_prompting (prompt : Text) (call : Call) :
    .called call ∉ console.prompting prompt := by
  simp only [Console.prompting, Console.flushing, Console.outputWarnings, Console.inputWarnings,
    Console.writing]
  cases console.output <;> cases console.unyieldingInput <;> simp

theorem called_notMem_closing (prompt : Text) (call : Call) (broken : Option Failure) :
    .called call ∉ closing console prompt broken := by
  cases broken with
  | none => simp [closing, called_notMem_prompting]
  | some failure => cases failure <;> simp [closing]

/-- A spawn in a session stands in one of its rounds. -/
theorem spawn_place {prompt : Text} {lines : List Text} {world : World} {call : Call}
    {earlier later : List Effect}
    (split : (run console prompt lines world).effects = earlier ++ .called call :: later) :
    ∃ past round future before rest, rounds console lines world = past ++ round :: future ∧
      (round.step console).effects = before ++ .called call :: rest ∧
      earlier = .noted started :: (past.flatMap (roundEffects console prompt) ++
        (console.prompting prompt ++ before)) := by
  rw [run_eq, ← List.singleton_append] at split
  obtain ⟨inner, start, within⟩ := append_eq_append_cons_right split (by simp)
  obtain ⟨rest, place⟩ := append_eq_append_cons_left within (called_notMem_closing prompt call _)
  obtain ⟨past, round, future, upTo, after, shape, piece, whole⟩ := flatMap_eq_append_cons place
  obtain ⟨before, front, back⟩ :=
    append_eq_append_cons_right piece (called_notMem_prompting prompt call)
  exact ⟨past, round, future, before, after, shape, back, by
    rw [start, whole, front, List.singleton_append]⟩

/-- After the rounds and what follows them nothing waits in the buffer. -/
theorem playAll_closing {handling : Handling} (buffered : console.output = .buffered handling)
    (prompt : Text) (lines : List Text) (world : World) (terminal : Terminal) :
    (terminal.playAll ((rounds console lines world).flatMap (roundEffects console prompt))).playAll
        (closing console prompt (breakOff console lines world)) =
      ⟨terminal.whole ++ (rounds console lines world).flatMap (Round.output console prompt) ++
        (if breakOff console lines world = none then console.encode prompt else []), []⟩ := by
  have all := Terminal.whole_playAll_rounds buffered prompt (rounds console lines world) terminal
  cases broken : breakOff console lines world with
  | none =>
    rw [closing, Terminal.playAll_append, Terminal.playAll_prompting, all, if_pos rfl]
    rfl
  | some failure =>
    obtain ⟨past, round, shape, failed⟩ := rounds_of_breakOff broken
    have silent : ∀ other : Terminal,
        other.playAll (closing console prompt (some failure)) = other := by
      intro other
      cases failure <;> rfl
    -- The round that failed is the last one, and it has said nothing.
    have empty : (terminal.playAll ((rounds console lines world).flatMap
        (roundEffects console prompt))).pending = [] := by
      rw [shape, List.flatMap_append, Terminal.playAll_append, List.flatMap_singleton,
        Terminal.playAll_round buffered, (round.orderly console).consoleBytes_eq failed]
    rw [silent, if_neg (Option.some_ne_none failure), List.append_nil, ← all, Terminal.whole, empty,
      List.append_nil]
    rw [← empty]

end Session

/-- No output of a session is lost or put out of order. Each line that is read spawns at most one
program, only a spawned program writes past the console, and a line says at most one text of its
own. At every spawn, and however the session stops, nothing waits in the buffer, and what has been
shown is the output of the rounds so far, in order, and the prompt that was answered last. -/
theorem output_in_order (handling : Handling) (unyieldingInput : Option Reluctance) (prompt : Text)
    (lines : List Text) (world : World) (terminal : Terminal) :
    let console : Console := ⟨.buffered handling, unyieldingInput⟩
    let rounds := Session.rounds console lines world
    let broken := Session.breakOff console lines world
    let ending := Session.run console prompt lines world
    rounds.map Round.line ++ ending.unread = lines ∧
    ending.result = Session.verdict broken ∧ (broken = none → ending.unread = []) ∧
    (∀ round ∈ rounds,
      (spawns (round.step console).effects).length ≤ 1 ∧
      (spawns (round.step console).effects = [] → programBytes (round.step console).effects = []) ∧
      ∃ said : Option Text,
        texts (round.step console).effects = said.toList.map Console.lineOf ∧
        consoleBytes (round.step console).effects =
          said.toList.flatMap fun text => console.encode (Console.lineOf text)) ∧
    (∀ call earlier later, call.isSpawn → ending.effects = earlier ++ .called call :: later →
      ∃ past round future, rounds = past ++ round :: future ∧
        call ∈ spawns (round.step console).effects ∧
        terminal.playAll earlier =
          ⟨terminal.whole ++ past.flatMap (Round.output console prompt) ++ console.encode prompt,
            []⟩) ∧
    terminal.playAll ending.effects =
      ⟨terminal.whole ++ rounds.flatMap (Round.output console prompt) ++
        (if broken = none then console.encode prompt else []), []⟩ := by
  intro console rounds broken ending
  have buffered : console.output = .buffered handling := rfl
  have whole : ending = _ := Session.run_eq console prompt lines world
  refine ⟨?_, ?_, ?_, ?_, ?_, ?_⟩
  · rw [whole, Session.map_line_rounds]
    exact List.take_append_drop _ lines
  · rw [whole]
  · intro exhausted
    rw [whole, Session.length_rounds_of_breakOff_none exhausted, List.drop_length]
  · intro round _
    have orderly := round.orderly console
    exact ⟨orderly.length_spawns_le, orderly.programBytes_eq, orderly.said buffered⟩
  · intro call earlier later isSpawn split
    obtain ⟨past, round, future, before, rest, shape, place, start⟩ := Session.spawn_place split
    refine ⟨past, round, future, shape, ?_, ?_⟩
    · exact mem_spawns.mpr ⟨by simp [place], isSpawn⟩
    · rw [start, Terminal.playAll_cons, Terminal.play, Terminal.playAll_append,
        Terminal.playAll_append, Terminal.playAll_prompting,
        Terminal.whole_playAll_rounds buffered,
        Terminal.playAll_quiet ((round.orderly console).quiet_before place isSpawn)]
  · rw [whole, Terminal.playAll_cons, Terminal.play, Terminal.playAll_append,
      Session.playAll_closing buffered]

end LineShell
