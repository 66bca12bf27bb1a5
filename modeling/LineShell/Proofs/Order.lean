/-
This file fixes the order in which a line takes effect. A line spawns at most one program, and what
the program writes stands right after its spawn. At most one text of the line's own goes to the
console, as the very last thing, and only from a line that comes to its normal end. So nothing ever
waits in the console's buffer when a program starts, and nothing waits there after a failure.
-/

import LineShell.Proofs.Lookup
import LineShell.Evaluation

namespace LineShell

open LineShell.Action Effect

/-! ### Shapes -/

/-- Quiet effects with at most one spawn among them, followed at once by what the program wrote. -/
inductive Effect.OneProgram : List Effect → Prop
  | quiet {effects : List Effect} : Quiet effects → OneProgram effects
  | spawned {before output after : List Effect} (program : Text) (arguments : List Text)
      (directory : Option Text) : Quiet before →
      (output = [] ∨ ∃ bytes, output = [.emitted bytes]) → Quiet after →
      OneProgram (before ++ .called (.spawn program arguments directory) :: (output ++ after))

/-- The effects of saying a text on a line of its own, or nothing. -/
def Console.saying (console : Console) : Option Text → List Effect
  | none => []
  | some text => console.writing (lineOf text)

namespace Console

variable (console : Console)

theorem called_notMem_writing (call : Call) (text : Text) :
    .called call ∉ console.writing text := by
  rw [writing]
  cases console.output <;> simp

theorem called_notMem_saying (call : Call) (said : Option Text) :
    .called call ∉ console.saying said := by
  cases said with
  | none => exact List.not_mem_nil
  | some text => exact console.called_notMem_writing call _

theorem spawns_saying (said : Option Text) : spawns (console.saying said) = [] := by
  rw [List.eq_nil_iff_forall_not_mem]
  exact fun call member => console.called_notMem_saying call said (mem_spawns.mp member).1

theorem programBytes_saying (said : Option Text) : programBytes (console.saying said) = [] := by
  cases said with
  | none => rfl
  | some text =>
    rw [saying, writing]
    cases console.output <;> rfl

theorem lineOf_inj {first second : Text} : lineOf first = lineOf second ↔ first = second :=
  List.append_left_inj _

theorem texts_writing (text : Text) : texts (console.writing text) = [text] := by
  rw [writing]
  cases console.output <;> rfl

theorem texts_saying (said : Option Text) :
    texts (console.saying said) = said.toList.map lineOf := by
  cases said with
  | none => rfl
  | some text => exact console.texts_writing _

theorem consoleBytes_saying (said : Option Text) :
    consoleBytes (console.saying said) =
      said.toList.flatMap fun text => console.encode (lineOf text) := by
  cases said with
  | none => rfl
  | some text =>
    rw [saying, writing]
    cases console.output <;> simp [consoleBytes]

end Console

variable {α β : Type}

/-- A step that is quiet but for a text it may say at its normal end. -/
def Step.Speaks (console : Console) (step : Step α) : Prop :=
  ∃ quiet text, step.effects = quiet ++ console.saying text ∧ Quiet quiet ∧
    (text.isSome → ∃ value, step.result = .ok value)

/-- A step that spawns at most one program and then perhaps says a text at its normal end. -/
def Step.Orderly (console : Console) (step : Step α) : Prop :=
  ∃ ran text, step.effects = ran ++ console.saying text ∧ OneProgram ran ∧
    (text.isSome → ∃ value, step.result = .ok value)

theorem Effect.OneProgram.append_quiet {ran quiet : List Effect} (one : OneProgram ran)
    (still : Quiet quiet) : OneProgram (ran ++ quiet) := by
  cases one with
  | quiet before => exact .quiet (quiet_append.mpr ⟨before, still⟩)
  | spawned program arguments directory before output after =>
    rw [List.append_assoc, List.cons_append, List.append_assoc]
    exact .spawned program arguments directory before output (quiet_append.mpr ⟨after, still⟩)

theorem Effect.OneProgram.quiet_append {quiet ran : List Effect} (still : Quiet quiet)
    (one : OneProgram ran) : OneProgram (quiet ++ ran) := by
  cases one with
  | quiet after => exact .quiet (Effect.quiet_append.mpr ⟨still, after⟩)
  | spawned program arguments directory before output after =>
    rw [← List.append_assoc]
    have silent := Effect.quiet_append.mpr ⟨still, before⟩
    exact .spawned program arguments directory silent output after

theorem Step.Speaks.orderly {console : Console} {step : Step α} (speaks : step.Speaks console) :
    step.Orderly console := by
  obtain ⟨quiet, text, shape, still, success⟩ := speaks
  exact ⟨quiet, text, shape, .quiet still, success⟩

theorem Step.Speaks.spawns_eq {console : Console} {step : Step α} (speaks : step.Speaks console) :
    spawns step.effects = [] := by
  obtain ⟨quiet, text, shape, still, _⟩ := speaks
  rw [shape, spawns_append, still.spawns_eq, console.spawns_saying, List.append_nil]

theorem Step.Orderly.after {console : Console} {step : Step α} {ran : List Effect}
    (one : OneProgram ran) (speaks : step.Speaks console) : (step.after ran).Orderly console := by
  obtain ⟨quiet, text, shape, still, success⟩ := speaks
  refine ⟨ran ++ quiet, text, ?_, one.append_quiet still, success⟩
  rw [Step.after, shape, List.append_assoc]

theorem Step.Orderly.after_quiet {console : Console} {step : Step α} {quiet : List Effect}
    (still : Quiet quiet) (orderly : step.Orderly console) :
    (step.after quiet).Orderly console := by
  obtain ⟨ran, text, shape, one, success⟩ := orderly
  refine ⟨quiet ++ ran, text, ?_, .quiet_append still one, success⟩
  rw [Step.after, shape, List.append_assoc]

theorem Step.orderly_of_oneProgram {console : Console} {step : Step α}
    (one : OneProgram step.effects) : step.Orderly console :=
  ⟨step.effects, none, (List.append_nil _).symm, one, nofun⟩

namespace Action

variable {console : Console} {action : Action α} {next : α → Action β}

theorem speaks_of_quiet (quiet : action.Leaves Quiet) : action.Always (Step.Speaks console) :=
  fun world => ⟨(action world).effects, none, (List.append_nil _).symm, quiet world, nofun⟩

theorem speaks_writeLine (text : Text) : (console.writeLine text).Always (Step.Speaks console) :=
  fun _ => ⟨[], some text, rfl, quiet_nil, fun _ => ⟨(), rfl⟩⟩

/-- A quiet action before one that speaks. -/
theorem speaks_bind (first : action.Leaves Quiet)
    (second : ∀ value, (next value).Always (Step.Speaks console)) :
    (action >>= next).Always (Step.Speaks console) := by
  refine Always.bind first second ?_ ?_
  · rintro effects step still ⟨quiet, text, shape, silent, success⟩
    refine ⟨effects ++ quiet, text, ?_, quiet_append.mpr ⟨still, silent⟩, success⟩
    rw [Step.after, shape, List.append_assoc]
  · intro failure world effects still
    exact ⟨effects, none, (List.append_nil _).symm, still, nofun⟩

/-- A quiet action before one that spawns at most one program. -/
theorem oneProgram_bind (first : action.Leaves Quiet)
    (second : ∀ value, (next value).Leaves OneProgram) : (action >>= next).Leaves OneProgram :=
  Leaves.bind first second (fun _ _ still one => .quiet_append still one)
    fun _ still => .quiet still

/-- A quiet action after one that spawns at most one program. -/
theorem oneProgram_bind_quiet (first : action.Leaves OneProgram)
    (second : ∀ value, (next value).Leaves Quiet) : (action >>= next).Leaves OneProgram :=
  Leaves.bind first second (fun _ _ one still => one.append_quiet still) fun _ one => one

/-- An action that runs at most one program before one that speaks. -/
theorem orderly_bind (first : action.Leaves OneProgram)
    (second : ∀ value, (next value).Always (Step.Speaks console)) :
    (action >>= next).Always (Step.Orderly console) :=
  Always.bind first second (fun _ _ one speaks => .after one speaks)
    fun _ _ _ one => Step.orderly_of_oneProgram one

/-- A quiet action before an orderly one. -/
theorem orderly_bind_quiet (first : action.Leaves Quiet)
    (second : ∀ value, (next value).Always (Step.Orderly console)) :
    (action >>= next).Always (Step.Orderly console) :=
  Always.bind first second (fun _ _ still orderly => .after_quiet still orderly)
    fun _ _ _ still => Step.orderly_of_oneProgram (.quiet still)

/-- Giving a value after an orderly action. -/
theorem orderly_bind_give (first : action.Always (Step.Orderly console)) (give' : α → β) :
    (action >>= fun value => give (give' value)).Always (Step.Orderly console) := by
  intro world
  obtain ⟨ran, text, shape, one, success⟩ := first world
  rcases outcome : (action world).result with failure | value
  · rw [bind_of_error outcome]
    refine ⟨ran, text, shape, one, fun isSome => ?_⟩
    obtain ⟨value, same⟩ := success isSome
    rw [outcome] at same
    cases same
  · rw [bind_of_ok outcome]
    refine ⟨ran, text, ?_, one, fun _ => ⟨give' value, rfl⟩⟩
    rw [Step.after, shape]
    exact List.append_nil _

end Action

/-! ### Directories -/

theorem quiet_workingDirectory : workingDirectory.Leaves Quiet :=
  quiet_bind quiet_look fun _ => quiet_settle _

/-- What keeps the directory at a path from being entered: the path leads nowhere, or what it leads
to refuses to be entered or is no directory. -/
def World.entryObstacle (world : World) (path : Text) : Option World.Obstacle :=
  match world.walk path with
  | .error obstacle => some obstacle
  | .ok (_, .directory _ _ entering) => entering.map .reason
  | .ok _ => some (.reason .notDirectory)

section

variable {world : World} {path : Text}

theorem World.entryObstacle_of_error {obstacle : World.Obstacle}
    (astray : world.walk path = .error obstacle) : world.entryObstacle path = some obstacle := by
  rw [entryObstacle, astray]

theorem World.entryObstacle_of_ok {location : Location} {node : Node}
    (leads : world.walk path = .ok (location, node)) :
    world.entryObstacle path = node.barrier.map .reason := by
  rw [entryObstacle, leads]
  cases node <;> rfl

/-- It is a refusal, unless the path holds the character that would end it. -/
theorem World.failure_of_entryObstacle {obstacle : World.Obstacle}
    (barred : world.entryObstacle path = some obstacle) :
    (∃ refusal, obstacle.failure path = .refused refusal) ∨
    (obstacle.failure path = .embeddedNul ∧ .nul ∈ path) := by
  rcases walk_cases world path with ⟨held, astray⟩ | ⟨errno, astray⟩ | ⟨found, leads, _⟩
  · rw [entryObstacle_of_error astray] at barred
    rw [← Option.some_inj.mp barred]
    exact Or.inr ⟨rfl, held⟩
  · rw [entryObstacle_of_error astray] at barred
    rw [← Option.some_inj.mp barred]
    exact Or.inl ⟨_, rfl⟩
  · rw [entryObstacle_of_ok leads] at barred
    obtain ⟨errno, _, rfl⟩ := Option.map_eq_some_iff.mp barred
    exact Or.inl ⟨_, rfl⟩

end

/-- A directory is entered, or nothing happens but that it is refused. -/
theorem enterDirectory_apply (path : Text) (world : World) :
    (∃ obstacle, world.entryObstacle path = some obstacle ∧
      enterDirectory path world =
        ⟨.error (obstacle.failure path), world, [.called (.enter path)]⟩) ∨
    (∃ location node, world.walk path = .ok (location, node) ∧ node.barrier = none ∧
      enterDirectory path world =
        ⟨.ok (), { world with directory := location }, [.called (.enter path)]⟩) := by
  simp only [enterDirectory, bind_apply, emit_apply, reach_apply]
  cases walked : world.walk path with
  | error obstacle => exact Or.inl ⟨obstacle, World.entryObstacle_of_error walked, rfl⟩
  | ok found =>
    obtain ⟨location, node⟩ := found
    rw [World.entryObstacle_of_ok walked]
    cases barrier : node.barrier with
    | none => exact Or.inr ⟨location, node, rfl, barrier, by simp only [barrier]; rfl⟩
    | some errno => exact Or.inl ⟨.reason errno, rfl, by simp only [barrier]; rfl⟩

theorem quiet_enterDirectory (path : Text) : (enterDirectory path).Leaves Quiet := by
  intro world
  rcases enterDirectory_apply path world with ⟨_, _, shape⟩ | ⟨_, _, _, _, shape⟩ <;>
    simp [shape, isQuiet, Call.isSpawn]

theorem quiet_changeDirectory (path : Text) : (changeDirectory path).Leaves Quiet :=
  quiet_bind (quiet_enterDirectory path) fun _ =>
    quiet_bind quiet_workingDirectory fun _ => quiet_note _ _

/-! ### Launching -/

/-- A directory that is named for a program is checked by the obstacle to entering it. -/
theorem checkDirectory_some (path : Text) (world : World) :
    checkDirectory (some path) world =
      ⟨match world.entryObstacle path with
        | none => .ok ()
        | some obstacle => .error (obstacle.failure path), world, []⟩ := by
  simp only [checkDirectory, bind_apply, reach_apply]
  cases walked : world.walk path with
  | error obstacle =>
    rw [World.entryObstacle_of_error walked]
  | ok found =>
    rw [World.entryObstacle_of_ok walked]
    dsimp only
    cases found.2.barrier <;> rfl

/-- A check of a directory has no effects, changes nothing and runs nothing. -/
theorem checkDirectory_apply (directory : Option Text) (world : World) :
    ∃ result, checkDirectory directory world = ⟨result, world, []⟩ ∧
      ∀ cause, result ≠ .error (.mishap cause) := by
  cases directory with
  | none =>
    refine ⟨.ok (), rfl, fun cause same => ?_⟩
    cases same
  | some path =>
    refine ⟨_, checkDirectory_some path world, fun cause same => ?_⟩
    cases barred : world.entryObstacle path with
    | none =>
      rw [barred] at same
      cases same
    | some obstacle =>
      rw [barred] at same
      cases obstacle <;> cases same

theorem runProgram_effects (path : Text) (program : Program) (world : World) :
    (runProgram path program world).effects = [] ∨
    ∃ bytes, (runProgram path program world).effects = [.emitted bytes] := by
  cases program with
  | refused _ | refusedWith _ => exact Or.inl rfl
  | failing output _ _ | running output _ _ => exact Or.inr ⟨output, rfl⟩

/-- A spawn is seen first, and after it at most what the program writes. -/
theorem spawn_effects (path : Text) (arguments : List Text) (directory : Option Text)
    (world : World) : ∃ output, (output = [] ∨ ∃ bytes, output = [.emitted bytes]) ∧
      (spawn path arguments directory world).effects =
        .called (.spawn path arguments directory) :: output := by
  unfold spawn
  rw [emit_bind]
  split
  · exact ⟨[], Or.inl rfl, rfl⟩
  obtain ⟨result, checked, _⟩ := checkDirectory_apply directory world
  rw [bind_apply, checked]
  rcases result with failure | value
  · exact ⟨[], Or.inl rfl, rfl⟩
  dsimp only
  rw [bind_apply, reach_apply]
  cases world.walk path with
  | error obstacle => exact ⟨[], Or.inl rfl, rfl⟩
  | ok found => exact ⟨_, runProgram_effects path found.2.program _, rfl⟩

theorem oneProgram_spawn (path : Text) (arguments : List Text) (directory : Option Text) :
    (spawn path arguments directory).Leaves OneProgram := by
  intro world
  obtain ⟨output, written, shape⟩ := spawn_effects path arguments directory world
  rw [shape, ← List.append_nil output]
  exact .spawned path arguments directory quiet_nil written quiet_nil

theorem quiet_concludeSpawn (path : Text) (outcome : Except Failure Int) :
    (concludeSpawn path outcome).Leaves Quiet := by
  rcases outcome with failure | code
  · cases failure with
    | refused refusal => exact quiet_bind (quiet_note _ _) fun _ => quiet_fail _
    | _ => exact quiet_fail _
  · exact quiet_give _

theorem oneProgram_spawnAt (path : Text) (arguments : List Text) (directory : Option Text) :
    (spawnAt path arguments directory).Leaves OneProgram :=
  oneProgram_bind (quiet_note _ _) fun _ =>
    oneProgram_bind_quiet (oneProgram_spawn path arguments directory).attempt
      (quiet_concludeSpawn path)

theorem oneProgram_launchFound (name : Text) (arguments : List Text) (directory : Option Text)
    (found : Option Text) : (launchFound name arguments directory found).Leaves OneProgram := by
  cases found with
  | none => exact fun _ => .quiet quiet_nil
  | some path =>
    exact oneProgram_bind_quiet (oneProgram_spawnAt path arguments directory) fun _ =>
      quiet_bind (quiet_note _ _) fun _ => quiet_give _

theorem oneProgram_launch (arguments : List Text) (directory : Option Text) :
    (launch arguments directory).Leaves OneProgram := by
  cases arguments with
  | nil => exact fun _ => .quiet quiet_nil
  | cons name rest =>
    exact oneProgram_bind (quiet_resolve name)
      (oneProgram_launchFound name (name :: rest) directory)

theorem quiet_runFailure (failure : Failure) : (runFailure failure).Leaves Quiet := by
  unfold runFailure
  split
  · exact quiet_fail _
  · exact quiet_fail _
  · exact quiet_fail _
  · exact quiet_bind (quiet_note _ _) fun _ => quiet_fail _

theorem quiet_concludeRun (outcome : Except Failure Outcome) :
    (concludeRun outcome).Leaves Quiet := by
  rcases outcome with failure | outcome
  · exact quiet_runFailure failure
  · exact quiet_give _

theorem oneProgram_launchNoted (name : Text) (arguments : List Text) (directory : Option Text) :
    (launchNoted name arguments directory).Leaves OneProgram :=
  oneProgram_bind (quiet_note _ _) fun _ =>
    oneProgram_bind_quiet (oneProgram_launch arguments directory) fun _ =>
      quiet_bind (quiet_note _ _) fun _ => quiet_give _

theorem oneProgram_run (arguments : List Text) (directory : Option Text) :
    (run arguments directory).Leaves OneProgram := by
  cases arguments with
  | nil => exact fun _ => .quiet (by simp [run, bind_apply, Step.after, isQuiet])
  | cons name rest =>
    exact oneProgram_bind_quiet (oneProgram_launchNoted name (name :: rest) directory).attempt
      quiet_concludeRun

/-! ### Commands -/

namespace Evaluation

variable (console : Console)

theorem speaks_type (target : Text) : (type console target).Always (Step.Speaks console) := by
  unfold type
  dsimp only
  split
  · exact speaks_of_quiet (quiet_give _)
  split
  · exact speaks_writeLine _
  refine speaks_bind (quiet_resolve _) fun found => ?_
  cases found with
  | none => exact speaks_writeLine _
  | some path => exact speaks_writeLine _

theorem speaks_pwd : (pwd console).Always (Step.Speaks console) := by
  refine speaks_bind quiet_workingDirectory.attempt fun outcome => ?_
  rcases outcome with failure | directory
  · exact speaks_bind (quiet_note _ _) fun _ => speaks_writeLine _
  · exact speaks_writeLine _

theorem speaks_goTo (target : Text) : (goTo console target).Always (Step.Speaks console) := by
  refine speaks_bind (quiet_changeDirectory target).attempt fun outcome => ?_
  rcases outcome with failure | value
  · cases failure with
    | refused refusal => exact speaks_bind (quiet_note _ _) fun _ => speaks_writeLine _
    | _ => exact speaks_of_quiet (quiet_fail _)
  · exact speaks_of_quiet (quiet_give _)

theorem speaks_cd (path : Option Text) : (cd console path).Always (Step.Speaks console) := by
  refine speaks_bind quiet_look fun world => ?_
  cases cdTarget world.environment path with
  | none => exact speaks_writeLine _
  | some target => exact speaks_goTo console target

theorem speaks_report (program : Text) (outcome : Except Failure Outcome) :
    (report console program outcome).Always (Step.Speaks console) := by
  rcases outcome with failure | outcome
  · cases failure with
    | programNotFound _ | launchFailed _ => exact speaks_writeLine _
    | _ => exact speaks_of_quiet (quiet_fail _)
  · rw [report]
    split
    · exact speaks_of_quiet (quiet_give _)
    · exact speaks_writeLine _

theorem quiet_flush : console.flush.Leaves Quiet := by
  refine quiet_emit ?_
  rw [Console.flushing, Console.outputWarnings]
  cases console.output <;> simp [isQuiet]

theorem orderly_external (program : Text) (arguments : List Text) :
    (external console program arguments).Always (Step.Orderly console) := by
  refine orderly_bind_quiet (quiet_resolve program) fun found => ?_
  cases found with
  | none => exact fun world => (speaks_writeLine _ world).orderly
  | some path =>
    refine orderly_bind_quiet quiet_look fun world => ?_
    refine orderly_bind_quiet (quiet_flush console) fun _ => ?_
    exact orderly_bind (oneProgram_run _ _).attempt fun outcome =>
      speaks_report console program outcome

end Evaluation

/-- Every command takes effect in this order. -/
theorem orderly_evaluate (console : Console) (command : Command) :
    (command.evaluate console).Always (Step.Orderly console) := by
  intro world
  cases command with
  | exit code =>
    have still : (Evaluation.exit code).Leaves Quiet :=
      quiet_bind (quiet_note _ _) fun _ => quiet_fail _
    exact (speaks_of_quiet still world).orderly
  | echo text => exact (speaks_writeLine text world).orderly
  | type target => exact (Evaluation.speaks_type console target world).orderly
  | pwd => exact (Evaluation.speaks_pwd console world).orderly
  | cd path => exact (Evaluation.speaks_cd console path world).orderly
  | external program arguments => exact Evaluation.orderly_external console program arguments world
  | unrecognized line => exact (speaks_writeLine _ world).orderly

theorem quiet_readCommand (line : Text) : (readCommand line).Leaves Quiet := by
  refine quiet_bind (quiet_settle _) fun command => ?_
  cases command with
  | none => exact quiet_give _
  | some command => exact quiet_bind (quiet_emit (by simp [isQuiet])) fun _ => quiet_give _

/-- Every line takes effect in this order. -/
theorem orderly_evaluateLine (console : Console) (line : Text) :
    (evaluateLine console line).Always (Step.Orderly console) := by
  refine orderly_bind_quiet (quiet_readCommand line) fun command => ?_
  cases command with
  | none => exact fun world => (speaks_of_quiet (quiet_give none) world).orderly
  | some command => exact orderly_bind_give (orderly_evaluate console command) fun _ => some command

end LineShell
