/-
This file proves that the character that ends texts never reaches the operating system. A line that
holds it is no command, and every text that a command of another line hands over is made of pieces
of that line, of variables and of the path of the working directory. So while these are free of the
character, every call of a session is, and the operating system has no call to turn down for it.
-/

import LineShell.Proofs.Course
import LineShell.Proofs.Directories
import LineShell.Proofs.Forms
import LineShell.Proofs.Spawning

namespace LineShell

open LineShell.Action Effect

/-! ### Calls without the character -/

/-- The texts that a call hands over. -/
def Call.texts : Call → List Text
  | .openFile path | .enter path => [path]
  | .spawn program arguments directory => program :: (arguments ++ directory.toList)

/-- No text that the call hands over holds the character that ends texts. -/
def Call.NulFree (call : Call) : Prop := ∀ text ∈ call.texts, Glyph.nul ∉ text

theorem Call.nulFree_openFile {path : Text} (whole : Glyph.nul ∉ path) :
    (Call.openFile path).NulFree := by
  simpa [NulFree, texts] using whole

theorem Call.nulFree_enter {path : Text} (whole : Glyph.nul ∉ path) :
    (Call.enter path).NulFree := by
  simpa [NulFree, texts] using whole

theorem Call.nulFree_spawn {path : Text} {arguments : List Text} {directory : Option Text}
    (program : Glyph.nul ∉ path) (rest : ∀ argument ∈ arguments, Glyph.nul ∉ argument)
    (place : ∀ text, directory = some text → Glyph.nul ∉ text) :
    (Call.spawn path arguments directory).NulFree := by
  intro text member
  rcases List.mem_cons.mp member with rfl | member
  · exact program
  rcases List.mem_append.mp member with member | member
  · exact rest text member
  · exact place text (Option.mem_toList.mp member)

/-- What the operating system answers to a call: that it is done, or a failure. -/
def World.answer (world : World) : Call → Except Failure Unit
  | .openFile path => (openFile path world).result.map fun _ => ()
  | .enter path => (enterDirectory path world).result
  | .spawn program arguments directory =>
    (spawn program arguments directory world).result.map fun _ => ()

/-- No call is turned down for a character that it does not hold. -/
theorem Call.NulFree.answer_ne {call : Call} (free : call.NulFree) (world : World) :
    world.answer call ≠ .error .embeddedNul := by
  intro turnedDown
  cases call with
  | openFile path =>
    rcases openFile_result (free path List.mem_cons_self) world with
      ⟨node, opened, _⟩ | ⟨refusal, refused, _⟩
    · rw [World.answer, opened] at turnedDown
      cases turnedDown
    · rw [World.answer, refused] at turnedDown
      cases turnedDown
  | enter path =>
    obtain ⟨refusal, different⟩ := enterDirectory_error (free path List.mem_cons_self) turnedDown
    cases different
  | spawn path arguments directory =>
    rw [World.answer] at turnedDown
    rcases outcome : (LineShell.spawn path arguments directory world).result with failure | code
    · rw [outcome] at turnedDown
      rcases spawn_error outcome with ⟨_, rfl⟩ | ⟨_, rfl⟩ | ⟨_, text, listed, inside⟩
      · cases turnedDown
      · cases turnedDown
      · exact free text listed inside
    · rw [outcome] at turnedDown
      cases turnedDown

/-! ### Worlds without the character -/

/-- The calls of the step do not hold the character, and it does not fail for it. -/
structure Step.NulFree {α : Type} (step : Step α) : Prop where
  calls : ∀ call ∈ Effect.calls step.effects, call.NulFree
  result : step.result ≠ .error .embeddedNul

theorem Step.nulFree_of_uncalled {α : Type} {step : Step α}
    (uncalled : Effect.calls step.effects = []) (result : step.result ≠ .error .embeddedNul) :
    step.NulFree :=
  ⟨fun _ member => absurd (uncalled ▸ member) List.not_mem_nil, result⟩

/-- The character is in no variable, and not in the path of the working directory. -/
structure World.NulFree (world : World) : Prop where
  values : world.environment.NulFree
  directory : Glyph.nul ∉ world.directory.path

namespace World.NulFree

variable {world : World} (free : world.NulFree)

include free

theorem of_settled_eq {other : World} (same : other.settled = world.settled) : other.NulFree := by
  have sameDirectory : other.settled.directory = world.settled.directory :=
    congrArg World.directory same
  exact ⟨environment_eq_of_settled_eq same ▸ free.values, sameDirectory ▸ free.directory⟩

theorem directoryPath {path : Text} (told : world.directoryPath = .ok path) : Glyph.nul ∉ path :=
  directoryPath_eq told ▸ free.directory

/-- An absolute form is made of glyphs of the path and of the working directory. -/
theorem absoluteForm {path form : Text} (whole : Glyph.nul ∉ path)
    (formed : world.absoluteForm path = .ok form) : Glyph.nul ∉ form := by
  unfold World.absoluteForm at formed
  split at formed
  · next absolute =>
    rw [← Except.ok.inj formed]
    exact fun inside => whole ((Path.normal_sublist absolute).subset inside)
  · rcases told : world.directoryPath with failure | directory
    · rw [told] at formed
      cases formed
    rw [told] at formed
    rw [← Except.ok.inj formed]
    have absolute : Path.isAbsolute (Path.join directory path) := by
      refine Path.isAbsolute_join ?_
      rw [directoryPath_eq told]
      rfl
    intro inside
    rcases Path.mem_of_mem_join ((Path.normal_sublist absolute).subset inside) with
      inDirectory | isSlash | inPath
    · exact free.directoryPath told inDirectory
    · cases isSlash
    · exact whole inPath

/-- A lookup opens candidates, and what it finds is the absolute form of one of them. -/
theorem resolve {name : Text} (named : Glyph.nul ∉ name) :
    (∀ call ∈ calls (LineShell.resolve name world).effects, call.NulFree) ∧
    ∀ path, (LineShell.resolve name world).result = .ok (some path) → Glyph.nul ∉ path := by
  have whole := free.values.candidates named
  refine ⟨fun call member => ?_, fun path found => ?_⟩
  · obtain ⟨opened, isPrefix, opens⟩ := calls_resolve name world
    rw [opens] at member
    obtain ⟨candidate, listed, rfl⟩ := List.mem_map.mp member
    exact Call.nulFree_openFile (whole candidate (isPrefix.subset listed))
  · obtain @⟨passed, rest, candidate, _, listed, _, _, _, _, formed⟩ := resolve_found found
    refine free.absoluteForm (whole candidate ?_) formed
    rw [listed]
    exact List.mem_append_right _ List.mem_cons_self

theorem cd (console : Console) {path : Option Text} (fields : (Command.cd path).NulFree) :
    (Evaluation.cd console path world).NulFree := by
  have result : (Evaluation.cd console path world).result ≠ .error .embeddedNul := by
    rw [Evaluation.cd_result free.values fields]
    simp
  cases heads : Evaluation.cdTarget world.environment path with
  | none =>
    refine Step.nulFree_of_uncalled ?_ result
    rw [Evaluation.cd_of_homeless console heads]
    exact console.calls_writing _
  | some target =>
    have whole : Glyph.nul ∉ target := by
      refine Evaluation.nul_notMem_cdTarget (free.values homeVariable) ?_ heads
      rintro text rfl
      exact fields
    refine ⟨fun call member => ?_, result⟩
    rw [Evaluation.cd_of_target console heads, calls_goTo, List.mem_singleton] at member
    exact member ▸ Call.nulFree_enter whole

theorem type (console : Console) {target : Text} (fields : (Command.type target).NulFree) :
    (Evaluation.type console target world).NulFree := by
  constructor
  · intro call member
    rw [calls_type] at member
    cases looks : (Command.type target).lookedUp with
    | none =>
      rw [looks] at member
      cases member
    | some name =>
      rw [looks] at member
      exact (free.resolve (fields.lookedUp looks)).1 call member
  · intro failed
    obtain ⟨name, looks, lookup⟩ := Evaluation.type_error_iff.mp failed
    obtain ⟨_, different⟩ := resolve_refused free.values (fields.lookedUp looks) lookup
    cases different

/-- A spawn has the found path, the words of the command and the working directory. -/
theorem foundSpawns {arguments : List Text} {result : Except Failure (Option Text)}
    (found : ∀ path, result = .ok (some path) → Glyph.nul ∉ path)
    (whole : ∀ argument ∈ arguments, Glyph.nul ∉ argument) :
    ∀ call ∈ LineShell.foundSpawns arguments world.directoryPath.toOption result,
      call.NulFree := by
  intro call member
  obtain ⟨inner, later, split⟩ := List.append_of_mem member
  obtain ⟨path, success, _, rfl⟩ := foundSpawns_eq_append_cons split
  refine Call.nulFree_spawn (found path success) whole fun text told => ?_
  rcases outcome : world.directoryPath with failure | directory
  · rw [outcome] at told
    cases told
  · rw [outcome] at told
    exact free.directoryPath (Option.some_inj.mp told ▸ outcome)

/-- An external command opens candidates and spawns one of them. -/
theorem external (console : Console) {program : Text} {arguments : List Text}
    (whole : ∀ argument ∈ program :: arguments, Glyph.nul ∉ argument) :
    (Evaluation.external console program arguments world).NulFree := by
  have named : Glyph.nul ∉ program := whole program List.mem_cons_self
  have opens := (free.resolve named).1
  rcases lookup : (LineShell.resolve program world).result with failure | (_ | path)
  · obtain ⟨_, rfl⟩ := resolve_refused free.values named lookup
    rw [external_of_error lookup]
    exact ⟨opens, by simp⟩
  · rw [external_of_none lookup]
    refine ⟨fun call member => ?_, by simp⟩
    rw [calls_append, console.calls_writing, List.append_nil] at member
    exact opens call member
  · -- The second lookup meets the variables and the working directory that the first one met.
    have looked : (LineShell.resolve program world).world.NulFree :=
      free.of_settled_eq (settled_resolve program world)
    constructor
    · intro call member
      rw [calls_external lookup, List.mem_append, List.mem_append] at member
      rcases member with member | member | member
      · exact opens call member
      · exact (looked.resolve named).1 call member
      · exact looked.foundSpawns (looked.resolve named).2 whole call member
    · rw [external_of_some lookup, Step.result_after]
      intro failed
      rcases outcome : (externalRun program arguments world).result with failure | ended
      · rw [outcome] at failed
        rcases run_error outcome with ⟨_, rfl⟩ | ⟨_, rfl⟩ | ⟨_, rfl, _⟩ <;> cases failed
      · rw [outcome, Evaluation.report] at failed
        cases message : ended.statusMessage <;> rw [message] at failed <;> cases failed

end World.NulFree

/-! ### Lines -/

theorem World.NulFree.evaluateLine {world : World} (free : world.NulFree) (console : Console)
    (line : Text) : (LineShell.evaluateLine console line world).NulFree := by
  rcases parsed : Command.ofLine line with failure | command
  · obtain ⟨_, _, rfl⟩ := Command.ofTrimmed_error_iff.mp (Command.ofLine_error_iff.mp parsed)
    rw [evaluateLine_of_error parsed]
    exact Step.nulFree_of_uncalled rfl (by simp)
  cases command with
  | none =>
    rw [evaluateLine_of_none parsed]
    exact Step.nulFree_of_uncalled rfl (by simp)
  | some command =>
    have trimmed := Command.ofTrimmed_of_ofLine parsed
    have evaluated : (command.evaluate console world).NulFree := by
      have fields := Command.ofTrimmed_nulFree trimmed
      cases command with
      | exit code => exact Step.nulFree_of_uncalled rfl fun failed => by cases failed
      | echo | unrecognized =>
        exact Step.nulFree_of_uncalled (console.calls_writing _) fun failed => by cases failed
      | pwd =>
        refine Step.nulFree_of_uncalled (calls_pwd console world) ?_
        rw [Command.evaluate, Evaluation.pwd_result]
        simp
      | cd path => exact free.cd console fields
      | type target => exact free.type console fields
      | external program arguments =>
        refine free.external console fun argument listed => ?_
        rcases List.mem_cons.mp listed with rfl | listed
        · exact fields
        · exact Command.nul_notMem_arguments trimmed argument listed
    rw [evaluateLine_of_some parsed]
    refine ⟨evaluated.calls, ?_⟩
    have result := evaluated.result
    rcases outcome : (command.evaluate console world).result with failure | value
    · rw [outcome] at result
      exact fun same => result (congrArg Except.error (Except.error.inj same))
    · simp [Except.map]

/-- A line with the character is no command. Nothing is called for it and nothing changes; all that
happens is that the user is told so. -/
theorem evaluateLine_of_nul {line : Text} (held : Glyph.nul ∈ Text.trim line) (console : Console)
    (world : World) :
    let step := evaluateLine console line world
    let told := Text.trim line ++ Text.of ": command not found\n"
    step.result = .ok (some (.unrecognized (Text.trim line))) ∧ step.world = world ∧
    calls step.effects = [] ∧ texts step.effects = [told] ∧
    consoleBytes step.effects = console.encode told ∧ programBytes step.effects = [] := by
  have parsed : Command.ofLine line = .ok (some (.unrecognized (Text.trim line))) := by
    rw [Command.ofLine_of_trim_ne_nil (List.ne_nil_of_mem held), Command.ofTrimmed, if_pos held]
    rfl
  intro step told
  have whole : Console.lineOf (commandNotFound (Text.trim line)) = told := List.append_assoc ..
  have shape : step = _ := evaluateLine_of_some parsed console world
  rw [shape, ← whole]
  refine ⟨rfl, rfl, console.calls_writing _, console.texts_writing _, ?_, ?_⟩
  · exact (console.consoleBytes_saying (some _)).trans (List.append_nil _)
  · exact console.programBytes_saying (some _)

/-! ### Sessions -/

/-- A session that fails does so in one of its rounds. -/
theorem Session.round_of_error {console : Console} {prompt : Text} {lines : List Text}
    {world : World} {failure : Failure}
    (failed : (run console prompt lines world).result = .error failure) :
    ∃ round ∈ rounds console lines world, (round.step console).result = .error failure := by
  rw [run_eq] at failed
  cases broken : breakOff console lines world with
  | none =>
    rw [broken] at failed
    cases failed
  | some cause =>
    obtain ⟨past, round, shape, outcome⟩ := rounds_of_breakOff broken
    have same : cause = failure := by
      rw [broken] at failed
      cases cause <;> cases failed <;> rfl
    exact ⟨round, by rw [shape]; simp, same ▸ outcome⟩

/-- The character that ends texts never reaches the operating system. As long as no variable and no
path of the working directory holds it, no call of a session does, whatever its lines are. So no
call is ever turned down for it, and the session does not fail for it. A line that holds it,
whatever else it is, makes no call and changes nothing; the user is told that there is no such
command. -/
theorem calls_nulFree (console : Console) (prompt : Text) {lines : List Text} {world : World}
    (free : ∀ round ∈ Session.rounds console lines world, round.world.NulFree) :
    let ending := Session.run console prompt lines world
    (∀ call ∈ calls ending.effects, call.NulFree ∧
      ∀ moment : World, moment.answer call ≠ .error .embeddedNul) ∧
    ending.result ≠ .error .embeddedNul ∧
    ∀ round ∈ Session.rounds console lines world, Glyph.nul ∈ Text.trim round.line →
      let step := round.step console
      let told := Text.trim round.line ++ Text.of ": command not found\n"
      step.result = .ok (some (.unrecognized (Text.trim round.line))) ∧
      step.world = round.world ∧
      calls step.effects = [] ∧ texts step.effects = [told] ∧
      consoleBytes step.effects = console.encode told ∧ programBytes step.effects = [] := by
  intro ending
  refine ⟨fun call member => ?_, fun failed => ?_, fun round _ held =>
    evaluateLine_of_nul held console round.world⟩
  · rw [show calls ending.effects = _ from Session.calls_run console prompt lines world] at member
    obtain ⟨round, listed, inRound⟩ := List.mem_flatMap.mp member
    have callFree := ((free round listed).evaluateLine console round.line).calls call inRound
    exact ⟨callFree, callFree.answer_ne⟩
  · obtain ⟨round, listed, outcome⟩ := Session.round_of_error failed
    exact ((free round listed).evaluateLine console round.line).result outcome

/-- A question about a name with the character, and a program. -/
def nulLines : List Text := [Text.of "type " ++ [.nul], Text.of "tool"]

theorem calls_nulFree_toolWorld :
    (∀ round ∈ Session.rounds Console.terminal nulLines Session.toolWorld, round.world.NulFree) ∧
    (∀ call ∈ calls (Session.run Console.terminal Session.defaultPrompt nulLines
      Session.toolWorld).effects, call.NulFree) ∧
    texts (evaluateLine Console.terminal (Text.of "type " ++ [.nul]) Session.toolWorld).effects =
      [Text.of "type " ++ [.nul] ++ Text.of ": command not found\n"] := by
  have all : Session.rounds Console.terminal nulLines Session.toolWorld =
      [⟨Text.of "type " ++ [.nul], Session.toolWorld⟩, ⟨Text.of "tool", Session.toolWorld⟩] := rfl
  have whole : Session.toolWorld.NulFree :=
    ⟨Environment.nulFree_empty.set pathVariable (by decide), by decide⟩
  have free : ∀ round ∈ Session.rounds Console.terminal nulLines Session.toolWorld,
      round.world.NulFree := by
    rw [all]
    intro round member
    simp only [List.mem_cons, List.not_mem_nil, or_false] at member
    rcases member with rfl | rfl <;> exact whole
  obtain ⟨made, _, held⟩ := calls_nulFree Console.terminal Session.defaultPrompt free
  refine ⟨free, fun call member => (made call member).1, ?_⟩
  exact (held ⟨_, Session.toolWorld⟩ (by rw [all]; simp) (by decide)).2.2.2.1

end LineShell
