/-
This file proves that lines which only tell something do not interfere with the rest of a session.
Without such a line a session does what it does with it, but for the line's own prompt, for what the
line says, and for the files that it opens to look a name up. The frame behind this is what any line
can do to the world: only a change of directory moves the shell, and only a program that is run
changes variables and files. Openings are taken to have steady answers, or looking a name up would
use answers up.
-/

import LineShell.Proofs.Composition
import LineShell.Proofs.Course
import LineShell.Proofs.Spawning

namespace LineShell

open LineShell.Action Effect

/-! ### What a line does to the world -/

theorem enterDirectory_world (path : Text) (world : World) :
    (enterDirectory path world).world = world ∨
    ∃ location, (enterDirectory path world).world = { world with directory := location } := by
  rcases enterDirectory_apply path world with ⟨_, _, shape⟩ | ⟨location, _, _, _, shape⟩
  · exact Or.inl (congrArg Step.world shape)
  · exact Or.inr ⟨location, congrArg Step.world shape⟩

theorem changeDirectory_world (path : Text) (world : World) :
    (changeDirectory path world).world = (enterDirectory path world).world := by
  rw [changeDirectory]
  rcases outcome : (enterDirectory path world).result with failure | value
  · rw [bind_of_error outcome]
  · rw [bind_of_ok outcome, Step.world_after, bind_apply]
    cases (workingDirectory (enterDirectory path world).world).result <;> rfl

/-- A change of directory does nothing to the world but to move the shell. -/
theorem cd_world (console : Console) (path : Option Text) (world : World) :
    (Evaluation.cd console path world).world = world ∨
    ∃ location,
      (Evaluation.cd console path world).world = { world with directory := location } := by
  rw [Evaluation.cd, look_bind]
  cases Evaluation.cdTarget world.environment path with
  | none => exact Or.inl rfl
  | some target =>
    have left : (Evaluation.goTo console target world).world =
        (enterDirectory target world).world := by
      rw [← changeDirectory_world, Evaluation.goTo, attempt_bind, Step.world_after]
      rcases (changeDirectory target world).result with failure | value
      · cases failure <;> rfl
      · rfl
    dsimp only
    rw [left]
    exact enterDirectory_world target world

/-- The changes that a program makes, whichever way it ends. -/
def Program.changes : Program → List Change
  | .refused _ | .refusedWith _ => []
  | .failing _ changes _ | .running _ changes _ => changes

theorem runProgram_world (path : Text) (program : Program) (world : World) :
    (runProgram path program world).world = world.changeAll program.changes := by
  cases program <;> rfl

/-- A spawn does nothing to the world but to let the program make its changes. -/
theorem spawn_world (path : Text) (arguments : List Text) (directory : Option Text)
    (world : World) : (spawn path arguments directory world).world = world ∨
    ∃ location node, world.walk path = .ok (location, node) ∧
      (spawn path arguments directory world).world = world.changeAll node.program.changes := by
  unfold spawn
  rw [emit_bind, Step.world_after]
  split
  · exact Or.inl rfl
  obtain ⟨result, checked, _⟩ := checkDirectory_apply directory world
  rw [bind_apply, checked]
  rcases result with failure | value
  · exact Or.inl rfl
  simp only [Step.world_after, bind_apply, reach_apply]
  cases outcome : world.walk path with
  | error obstacle => exact Or.inl rfl
  | ok found =>
    obtain ⟨location, node⟩ := found
    exact Or.inr ⟨location, node, rfl, runProgram_world path node.program world⟩

theorem pwd_world (console : Console) (world : World) :
    (Evaluation.pwd console world).world = world := by
  rw [stable_replayed.keeps_pwd console, calls_pwd]
  rfl

/-- The worlds that a line may leave, by its effects. No change that a program makes moves the
shell. -/
inductive Alters (line : Text) (world : World) (effects : List Effect) : World → Prop
  /-- Nothing changes. -/
  | nothing : Alters line world effects world
  /-- A change of directory moves the shell. -/
  | moved {path : Option Text} {location : Location} :
      Command.ofLine line = .ok (some (.cd path)) →
      Alters line world effects { world with directory := location }
  /-- A program that the line spawns makes its changes. -/
  | changed {path : Text} {arguments : List Text} {directory : Option Text} {location : Location}
      {node : Node} :
      .spawn path arguments directory ∈ calls effects → world.walk path = .ok (location, node) →
      (world.changeAll node.program.changes).directory = world.directory →
      Alters line world effects (world.changeAll node.program.changes)

section

variable {world : World} (steady : world.Steady)

include steady

theorem replay_resolve_of_steady (name : Text) :
    world.replay (calls (resolve name world).effects) = world := by
  rw [← stable_replayed.keeps_resolve]
  exact resolve_world_of_steady steady name

theorem type_world (console : Console) (target : Text) :
    (Evaluation.type console target world).world = world := by
  rw [stable_replayed.keeps_type console, calls_type]
  cases (Command.type target).lookedUp with
  | none => rfl
  | some name => exact replay_resolve_of_steady steady name

/-- An external command leaves the world as its program does. -/
theorem external_world (console : Console) (program : Text) (arguments : List Text) :
    let step := Evaluation.external console program arguments world
    step.world = world ∨ ∃ path directory,
      .spawn path (program :: arguments) directory ∈ calls step.effects ∧
      step.world = (spawn path (program :: arguments) directory world).world := by
  intro step
  have whole : step.world = world.replay (calls step.effects) :=
    stable_replayed.keeps_external console program arguments world
  have looked := replay_resolve_of_steady steady program
  match lookup : (resolve program world).result with
  | .error failure =>
    have shape : step = _ := external_of_error lookup
    rw [shape]
    exact Or.inl (resolve_world_of_steady steady program)
  | .ok none =>
    have shape : step = _ := external_of_none lookup
    rw [shape]
    exact Or.inl (resolve_world_of_steady steady program)
  | .ok (some path) =>
    have made : calls step.effects = _ := calls_external lookup
    rw [resolve_world_of_steady steady, lookup] at made
    rw [whole, made, World.replay_append, World.replay_append, looked, looked]
    exact Or.inr ⟨path, _, by simp [foundSpawns], rfl⟩

/-- Whatever a line is, it does no more to a steady world than that. -/
theorem alters_evaluateLine (console : Console) (line : Text) :
    Alters line world (evaluateLine console line world).effects
      (evaluateLine console line world).world := by
  rcases parsed : Command.ofLine line with failure | command
  · rw [evaluateLine_of_error parsed]
    exact .nothing
  cases command with
  | none =>
    rw [evaluateLine_of_none parsed]
    exact .nothing
  | some command =>
    rw [evaluateLine_of_some parsed]
    cases command with
    | exit | echo | unrecognized => exact .nothing
    | pwd =>
      dsimp only [Command.evaluate]
      rw [pwd_world]
      exact .nothing
    | type target =>
      dsimp only [Command.evaluate]
      rw [type_world steady]
      exact .nothing
    | cd path =>
      dsimp only [Command.evaluate]
      rcases cd_world console path world with left | ⟨location, left⟩
      · rw [left]
        exact .nothing
      · rw [left]
        exact .moved parsed
    | external program arguments =>
      dsimp only [Command.evaluate]
      rcases external_world steady console program arguments with left | ⟨path, _, called, left⟩
      · rw [left]
        exact .nothing
      rw [left]
      rcases spawn_world path (program :: arguments) _ world with
        same | ⟨_, _, leads, same⟩
      · rw [same]
        exact .nothing
      · rw [same]
        exact .changed called leads (World.directory_changeAll world _)

end

/-! ### Lines that only tell something -/

/-- A line that asks for nothing but to be told something, or for nothing at all. A question about a
name is one of them only if looking the name up does not fail. -/
inductive Telling (line : Text) (world : World) : Prop
  | blank : Text.trim line = [] → Telling line world
  | echo {text : Text} : Command.ofLine line = .ok (some (.echo text)) → Telling line world
  | type {target : Text} : Command.ofLine line = .ok (some (.type target)) →
      (∀ name, (Command.type target).lookedUp = some name →
        ∃ found, (resolve name world).result = .ok found) → Telling line world
  | pwd : Command.ofLine line = .ok (some .pwd) → Telling line world
  | unrecognized {text : Text} :
      Command.ofLine line = .ok (some (.unrecognized text)) → Telling line world

/-- A step that comes to its normal end and leaves the world, and on its way only opens these files
and perhaps says something. -/
structure Step.Tells {α : Type} (console : Console) (world : World) (opened : List Text)
    (step : Step α) : Prop where
  result : ∃ value, step.result = .ok value
  world : step.world = world
  calls : Effect.calls step.effects = opened.map Call.openFile
  speaks : step.Speaks console

namespace Evaluation

variable (console : Console) {world : World}

theorem tells_writeLine (text : Text) : (console.writeLine text world).Tells console world [] :=
  ⟨⟨(), rfl⟩, rfl, console.calls_writing _, speaks_writeLine text world⟩

theorem tells_pwd : (pwd console world).Tells console world [] :=
  ⟨⟨(), pwd_result⟩, pwd_world console world, calls_pwd console world, speaks_pwd console world⟩

theorem tells_type {target : Text} (steady : world.Steady)
    (finds : ∀ name, (Command.type target).lookedUp = some name →
      ∃ found, (resolve name world).result = .ok found) :
    ∃ opened, (type console target world).Tells console world opened := by
  have success : ∃ value, (type console target world).result = .ok value := by
    rcases outcome : (type console target world).result with failure | value
    · obtain ⟨name, looks, failed⟩ := type_error_iff.mp outcome
      obtain ⟨found, lookup⟩ := finds name looks
      rw [lookup] at failed
      cases failed
    · exact ⟨value, rfl⟩
  have left := type_world steady console target
  have made := calls_type console target world
  have speaks := speaks_type console target world
  cases looks : (Command.type target).lookedUp with
  | none =>
    rw [looks] at made
    exact ⟨[], success, left, made, speaks⟩
  | some name =>
    rw [looks] at made
    obtain ⟨opened, _, opens⟩ := calls_resolve name world
    exact ⟨opened, success, left, made.trans opens, speaks⟩

end Evaluation

/-- A line tells what its command tells. -/
theorem tells_evaluateLine {console : Console} {line : Text} {command : Command} {world : World}
    {opened : List Text} (parsed : Command.ofLine line = .ok (some command))
    (tells : (command.evaluate console world).Tells console world opened) :
    (evaluateLine console line world).Tells console world opened := by
  obtain ⟨⟨value, success⟩, left, made, quiet, said, shape, still, _⟩ := tells
  have ended : (evaluateLine console line world).result = .ok (some command) := by
    rw [evaluateLine_of_some parsed, success]
    rfl
  rw [evaluateLine_of_some parsed] at ended ⊢
  refine ⟨⟨_, ended⟩, left, made, .noted (lineEntry (Text.trim line) command) :: quiet, said, ?_,
    quiet_cons.mpr ⟨rfl, still⟩, fun _ => ⟨_, ended⟩⟩
  rw [carrying, shape, List.cons_append]

/-- A line that only tells something does no more than that, and only a question opens files. -/
theorem Telling.tells (console : Console) {line : Text} {world : World} (steady : world.Steady)
    (telling : Telling line world) :
    ∃ opened, (evaluateLine console line world).Tells console world opened ∧
      (opened = [] ∨ ∃ target, Command.ofLine line = .ok (some (.type target))) := by
  cases telling with
  | blank blank =>
    rw [evaluateLine_of_none (Command.ofLine_of_trim_eq_nil blank)]
    exact ⟨[], ⟨⟨none, rfl⟩, rfl, rfl, speaks_of_quiet (quiet_give none) world⟩, Or.inl rfl⟩
  | echo parsed =>
    exact ⟨[], tells_evaluateLine parsed (Evaluation.tells_writeLine console _), Or.inl rfl⟩
  | type parsed finds =>
    obtain ⟨opened, tells⟩ := Evaluation.tells_type console steady finds
    exact ⟨opened, tells_evaluateLine parsed tells, Or.inr ⟨_, parsed⟩⟩
  | pwd parsed => exact ⟨[], tells_evaluateLine parsed (Evaluation.tells_pwd console), Or.inl rfl⟩
  | unrecognized parsed =>
    exact ⟨[], tells_evaluateLine parsed (Evaluation.tells_writeLine console _), Or.inl rfl⟩

/-- All that such a step gives to the console is at most one line. -/
theorem Step.Speaks.said {α : Type} {console : Console} {step : Step α}
    (speaks : step.Speaks console) : ∃ said : Option Text,
      texts step.effects = said.toList.map Console.lineOf ∧
      consoleBytes step.effects =
        said.toList.flatMap fun text => console.encode (Console.lineOf text) := by
  obtain ⟨quiet, said, shape, still, _⟩ := speaks
  refine ⟨said, ?_, ?_⟩
  · rw [shape, texts_append, still.texts_eq, console.texts_saying, List.nil_append]
  · rw [shape, consoleBytes_append, still.consoleBytes_eq, console.consoleBytes_saying,
      List.nil_append]

/-! ### What such a line shows -/

namespace Terminal

/-- What is given to the console adds to all that has been written, if no program writes. -/
theorem whole_playAll_of_silent {effects : List Effect} (silent : programBytes effects = [])
    (terminal : Terminal) :
    (terminal.playAll effects).whole = terminal.whole ++ consoleBytes effects := by
  induction effects generalizing terminal with
  | nil => exact (List.append_nil _).symm
  | cons first rest inductionHypothesis =>
    rw [← List.singleton_append, programBytes_append, List.append_eq_nil_iff] at silent
    rw [playAll_cons, inductionHypothesis silent.2, ← List.singleton_append, consoleBytes_append,
      ← List.append_assoc]
    congr 1
    cases first with
    | written text bytes => simp [play, whole, consoleBytes]
    | flushed => simp [play, whole, consoleBytes]
    | emitted bytes =>
      obtain rfl : bytes = [] := by simpa [programBytes] using silent.1
      simp [play, whole, consoleBytes]
    | called | noted => simp [play, consoleBytes]

end Terminal

/-! ### Sessions without such a line -/

namespace Session

variable {console : Console} {before : List Text} {world : World}

/-- A line that comes to its normal end and leaves the world can be left out: what is missing then
is its prompt and its effects. -/
theorem run_without {line : Text} {command : Option Command}
    (reached : breakOff console before world = none) (prompt : Text) (after : List Text)
    (success : (evaluateLine console line (lastWorld console before world)).result = .ok command)
    (left : (evaluateLine console line (lastWorld console before world)).world =
      lastWorld console before world) :
    ∃ earlier,
      run console prompt (before ++ after) world =
        (turns console prompt after (lastWorld console before world)).after earlier ∧
      run console prompt (before ++ line :: after) world =
        (turns console prompt after (lastWorld console before world)).after
          (earlier ++ (console.prompting prompt ++
            (evaluateLine console line (lastWorld console before world)).effects)) := by
  refine ⟨.noted started :: (rounds console before world).flatMap (roundEffects console prompt),
    ?_, ?_⟩
  · rw [run, turns_append prompt reached]
    rfl
  · rw [run, turns_append prompt reached, turns, success]
    simp only [left, Ending.after, List.append_assoc, List.cons_append, List.nil_append]

/-- What turns show comes after all that was written before them. -/
theorem output_append_turns (earlier : List Effect) (prompt : Text) (lines : List Text)
    (world : World) :
    Terminal.output (earlier ++ (turns console prompt lines world).effects) =
      (Terminal.blank.playAll earlier).whole ++
        Terminal.output (turns console prompt lines world).effects := by
  obtain ⟨later, shape⟩ := turns_effects prompt console lines world
  rw [shape, ← Terminal.whole_playAll_prompting, ← Terminal.playAll_append]
  rfl

/-- A line that only tells something does not interfere with the rest of the session that reaches
it. Without the line the session has the same result and leaves the same lines and the same world;
its effects are the same but for the line's prompt and the line's own effects, and so is its output.
The line's own effects are to open files, if it is a question about a name, and to say at most one
line. Besides, no line at all changes variables and files other than by a program that it spawns, or
moves the shell other than by a change of directory. -/
theorem run_without_telling (prompt : Text) {line : Text} {after : List Text}
    (reached : breakOff console before world = none)
    (steady : (lastWorld console before world).Steady)
    (telling : Telling line (lastWorld console before world)) :
    let whole := run console prompt (before ++ line :: after) world
    let short := run console prompt (before ++ after) world
    let own := (evaluateLine console line (lastWorld console before world)).effects
    (whole.result = short.result ∧ whole.unread = short.unread ∧ whole.world = short.world) ∧
    (∃ earlier later,
      whole.effects = earlier ++ (console.prompting prompt ++ own) ++ later ∧
      short.effects = earlier ++ later) ∧
    (∃ opened : List Text, calls own = opened.map Call.openFile ∧
      (opened = [] ∨ ∃ target, Command.ofLine line = .ok (some (.type target)))) ∧
    (∃ said : Option Text, ∃ shown later,
      texts own = said.toList.map Console.lineOf ∧
      Terminal.output whole.effects = shown ++ (console.encode prompt ++
        said.toList.flatMap fun text => console.encode (Console.lineOf text)) ++ later ∧
      Terminal.output short.effects = shown ++ later) ∧
    ∀ other here, here.Steady → Alters other here (evaluateLine console other here).effects
      (evaluateLine console other here).world := by
  intro whole short own
  obtain ⟨opened, tells, opens⟩ := telling.tells console steady
  obtain ⟨command, success⟩ := tells.result
  obtain ⟨earlier, shorter, longer⟩ := run_without reached prompt after success tells.world
  obtain ⟨said, spoken, bytes⟩ := tells.speaks.said
  -- No program writes in this round, so what the line gives to the console is all that it shows.
  have silent : programBytes own = [] := by
    obtain ⟨quiet, text, shape, still, _⟩ := tells.speaks
    show programBytes (evaluateLine console line _).effects = []
    rw [shape, programBytes_append, still.programBytes_eq, console.programBytes_saying,
      List.append_nil]
  have wholeIs : whole = _ := longer
  have shortIs : short = _ := shorter
  rw [wholeIs, shortIs]
  refine ⟨⟨rfl, rfl, rfl⟩, ⟨earlier, _, rfl, rfl⟩, ⟨opened, tells.calls, opens⟩, ?_,
    fun other here still => alters_evaluateLine still console other⟩
  refine ⟨said, (Terminal.blank.playAll earlier).whole, _, spoken, ?_,
    output_append_turns earlier prompt after _⟩
  have shown := Terminal.whole_playAll_of_silent silent
    ((Terminal.blank.playAll earlier).playAll (console.prompting prompt))
  rw [bytes, Terminal.playAll_prompting] at shown
  rw [Ending.after, output_append_turns, Terminal.playAll_append, Terminal.playAll_append,
    Terminal.playAll_prompting, shown]
  simp only [Terminal.whole, List.append_nil, List.append_assoc]

/-- A change to the directory of a tool. -/
def toBinaries : List Text := [Text.of "cd /bin"]

theorem run_without_type_tool :
    breakOff Console.terminal toBinaries toolWorld = none ∧
    (lastWorld Console.terminal toBinaries toolWorld).Steady ∧
    Telling (Text.of "type tool") (lastWorld Console.terminal toBinaries toolWorld) ∧
    (run Console.terminal defaultPrompt (toBinaries ++ Text.of "type tool" :: toolLines)
        toolWorld).world =
      (run Console.terminal defaultPrompt (toBinaries ++ toolLines) toolWorld).world := by
  have reached : breakOff Console.terminal toBinaries toolWorld = none := by decide +kernel
  have steady : (lastWorld Console.terminal toBinaries toolWorld).Steady :=
    (World.steady_bare []).place [Text.of "bin", Text.of "tool"] fun _ => rfl
  have parsed : Command.ofLine (Text.of "type tool") = .ok (some (.type (Text.of "tool"))) := rfl
  have looks : (Command.type (Text.of "tool")).lookedUp = some (Text.of "tool") := by
    decide +kernel
  have finds : ((resolve (Text.of "tool")
      (lastWorld Console.terminal toBinaries toolWorld)).result.toOption).isSome = true := by
    decide +kernel
  have telling : Telling (Text.of "type tool")
      (lastWorld Console.terminal toBinaries toolWorld) := by
    refine .type parsed fun name same => ?_
    obtain rfl : Text.of "tool" = name := Option.some_inj.mp (looks.symm.trans same)
    rcases outcome : (resolve (Text.of "tool")
      (lastWorld Console.terminal toBinaries toolWorld)).result with failure | found
    · rw [outcome] at finds
      cases finds
    · exact ⟨found, rfl⟩
  exact ⟨reached, steady, telling,
    (run_without_telling defaultPrompt reached steady telling).1.2.2⟩

end Session

end LineShell
