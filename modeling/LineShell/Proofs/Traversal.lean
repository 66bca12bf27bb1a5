/-
This file goes through everything that a line can do, once for all properties of actions. A property
that passes from actions to their sequences and attempts, and that the calls to the operating system
have, is a property of every line that is carried out. What an action may see of the world is
little: where a name is looked for, where a change of directory is to go, and the path of the
working directory.
-/

import LineShell.Evaluation

namespace LineShell

/-! ### What the console adds -/

namespace Console

variable (console : Console)

theorem calls_writing (text : Text) : Effect.calls (console.writing text) = [] := by
  rw [writing]
  cases console.output <;> rfl

theorem calls_flushing : Effect.calls console.flushing = [] := by
  rw [flushing, outputWarnings]
  cases console.output <;> rfl

theorem calls_prompting (prompt : Text) : Effect.calls (console.prompting prompt) = [] := by
  rw [prompting, Effect.calls_append, Effect.calls_append, calls_writing, calls_flushing,
    inputWarnings]
  split <;> rfl

end Console

/-! ### Properties that pass through -/

/-- What an action looks at in the world before it goes on. -/
inductive World.View : {γ : Type} → (World → γ) → Prop
  | candidates (name : Text) : View fun world => world.environment.candidates name
  | target (path : Option Text) : View fun world => Evaluation.cdTarget world.environment path
  | directory : View World.directoryPath

/-- A property of actions that passes from actions to what is made of them. An action that looks at
the world has it if it goes by no more than a view. -/
structure Action.Stable (Keeps : {α : Type} → Action α → Prop) : Prop where
  settles {α : Type} (result : Except Failure α) : Keeps (settle result)
  emits {effects : List Effect} : Effect.calls effects = [] → Keeps (emit effects)
  binds {α β : Type} {action : Action α} {next : α → Action β} :
    Keeps action → (∀ value, Keeps (next value)) → Keeps (action >>= next)
  attempts {α : Type} {action : Action α} : Keeps action → Keeps (attempt action)
  looks {β γ : Type} {see : World → γ} {next : World → Action β} : World.View see →
    (∀ first second, see first = see second → next first = next second) →
    (∀ world, Keeps (next world)) → Keeps (look >>= next)
  opens (path : Text) : Keeps (openFile path)
  enters (path : Text) : Keeps (enterDirectory path)
  spawns (path : Text) (arguments : List Text) (directory : Option Text) :
    Keeps (spawn path arguments directory)

namespace Action.Stable

variable {Keeps : {α : Type} → Action α → Prop} (stable : Stable Keeps)

include stable

theorem gives {α : Type} (value : α) : Keeps (give value) := stable.settles (.ok value)

theorem fails {α : Type} (failure : Failure) : Keeps (fail failure : Action α) :=
  stable.settles (.error failure)

theorem notes (level : Level) (message : Text) : Keeps (note level message) := stable.emits rfl

theorem keeps_workingDirectory : Keeps workingDirectory :=
  stable.looks .directory (fun _ _ same => congrArg settle same) fun _ => stable.settles _

/-! ### Lookups and runs -/

theorem keeps_isExecutable (candidate : Text) : Keeps (isExecutable candidate) := by
  refine stable.binds (stable.attempts (stable.opens candidate)) fun outcome => ?_
  rcases outcome with failure | node
  · cases failure with
    | refused refusal => exact stable.binds (stable.notes _ _) fun _ => stable.gives _
    | _ => exact stable.fails _
  · exact stable.gives _

theorem keeps_absolutePath (path : Text) : Keeps (absolutePath path) := by
  unfold absolutePath
  split
  · exact stable.gives _
  · exact stable.binds stable.keeps_workingDirectory fun _ => stable.gives _

theorem keeps_firstExecutable (name : Text) (candidates : List Text) :
    Keeps (firstExecutable name candidates) := by
  induction candidates with
  | nil => exact stable.binds (stable.notes _ _) fun _ => stable.gives _
  | cons candidate rest inductionHypothesis =>
    refine stable.binds (stable.keeps_isExecutable candidate) fun executable => ?_
    split
    · exact stable.binds (stable.keeps_absolutePath candidate) fun _ =>
        stable.binds (stable.notes _ _) fun _ => stable.gives _
    · exact inductionHypothesis

theorem keeps_resolve (name : Text) : Keeps (resolve name) := by
  unfold resolve
  split
  · exact stable.gives _
  · exact stable.looks (.candidates name) (fun _ _ same => congrArg (firstExecutable name) same)
      fun _ => stable.keeps_firstExecutable name _

theorem keeps_concludeSpawn (path : Text) (outcome : Except Failure Int) :
    Keeps (concludeSpawn path outcome) := by
  rcases outcome with failure | code
  · cases failure with
    | refused refusal => exact stable.binds (stable.notes _ _) fun _ => stable.fails _
    | _ => exact stable.fails _
  · exact stable.gives _

theorem keeps_launch (arguments : List Text) (directory : Option Text) :
    Keeps (launch arguments directory) := by
  cases arguments with
  | nil => exact stable.fails _
  | cons name rest =>
    refine stable.binds (stable.keeps_resolve name) fun found => ?_
    cases found with
    | none => exact stable.fails _
    | some path =>
      have spawned : Keeps (spawnAt path (name :: rest) directory) :=
        stable.binds (stable.notes _ _) fun _ =>
          stable.binds (stable.attempts (stable.spawns path _ directory))
            (stable.keeps_concludeSpawn path)
      exact stable.binds spawned fun _ => stable.binds (stable.notes _ _) fun _ => stable.gives _

theorem keeps_concludeRun (outcome : Except Failure Outcome) : Keeps (concludeRun outcome) := by
  rcases outcome with failure | outcome
  · rw [concludeRun, runFailure.eq_def]
    split
    · exact stable.fails _
    · exact stable.fails _
    · exact stable.fails _
    · exact stable.binds (stable.notes _ _) fun _ => stable.fails _
  · exact stable.gives _

theorem keeps_run (arguments : List Text) (directory : Option Text) :
    Keeps (run arguments directory) := by
  cases arguments with
  | nil => exact stable.binds (stable.notes _ _) fun _ => stable.fails _
  | cons name rest =>
    have launched : Keeps (launchNoted name (name :: rest) directory) :=
      stable.binds (stable.notes _ _) fun _ =>
        stable.binds (stable.keeps_launch _ directory) fun _ =>
          stable.binds (stable.notes _ _) fun _ => stable.gives _
    exact stable.binds (stable.attempts launched) stable.keeps_concludeRun

/-! ### Commands -/

variable (console : Console)

theorem keeps_writeLine (text : Text) : Keeps (console.writeLine text) :=
  stable.emits (console.calls_writing _)

theorem keeps_type (target : Text) : Keeps (Evaluation.type console target) := by
  unfold Evaluation.type
  dsimp only
  split
  · exact stable.gives _
  split
  · exact stable.keeps_writeLine console _
  refine stable.binds (stable.keeps_resolve _) fun found => ?_
  split <;> exact stable.keeps_writeLine console _

theorem keeps_pwd : Keeps (Evaluation.pwd console) := by
  refine stable.binds (stable.attempts stable.keeps_workingDirectory) fun outcome => ?_
  split
  · exact stable.keeps_writeLine console _
  · exact stable.binds (stable.notes _ _) fun _ => stable.keeps_writeLine console _

theorem keeps_changeDirectory (target : Text) : Keeps (changeDirectory target) :=
  stable.binds (stable.enters target) fun _ =>
    stable.binds stable.keeps_workingDirectory fun _ => stable.notes _ _

theorem keeps_cd (path : Option Text) : Keeps (Evaluation.cd console path) := by
  refine stable.looks (.target path) (fun first second same => by rw [same]) fun world => ?_
  cases Evaluation.cdTarget world.environment path with
  | none => exact stable.keeps_writeLine console _
  | some target =>
    refine stable.binds (stable.attempts (stable.keeps_changeDirectory target)) fun outcome => ?_
    split
    · exact stable.gives _
    · exact stable.binds (stable.notes _ _) fun _ => stable.keeps_writeLine console _
    · exact stable.fails _

theorem keeps_report (program : Text) (outcome : Except Failure Outcome) :
    Keeps (Evaluation.report console program outcome) := by
  unfold Evaluation.report
  split
  · split
    · exact stable.gives _
    · exact stable.keeps_writeLine console _
  · exact stable.keeps_writeLine console _
  · exact stable.keeps_writeLine console _
  · exact stable.fails _

theorem keeps_external (program : Text) (arguments : List Text) :
    Keeps (Evaluation.external console program arguments) := by
  refine stable.binds (stable.keeps_resolve program) fun found => ?_
  split
  · exact stable.keeps_writeLine console _
  · refine stable.looks .directory (fun first second same => by rw [same]) fun _ => ?_
    refine stable.binds (stable.emits console.calls_flushing) fun _ => ?_
    exact stable.binds (stable.attempts (stable.keeps_run _ _)) fun outcome =>
      stable.keeps_report console program outcome

theorem keeps_evaluate (command : Command) : Keeps (command.evaluate console) := by
  cases command with
  | exit code => exact stable.binds (stable.notes _ _) fun _ => stable.fails _
  | echo text => exact stable.keeps_writeLine console text
  | type target => exact stable.keeps_type console target
  | pwd => exact stable.keeps_pwd console
  | cd path => exact stable.keeps_cd console path
  | external program arguments => exact stable.keeps_external console program arguments
  | unrecognized line => exact stable.keeps_writeLine console _

/-- The property holds of every line that is carried out. -/
theorem keeps_evaluateLine (line : Text) : Keeps (evaluateLine console line) := by
  have understood : Keeps (readCommand line) := by
    refine stable.binds (stable.settles _) fun command => ?_
    split
    · exact stable.gives _
    · exact stable.binds (stable.emits rfl) fun _ => stable.gives _
  refine stable.binds understood fun command => ?_
  split
  · exact stable.gives _
  · exact stable.binds (stable.keeps_evaluate console _) fun _ => stable.gives _

end Action.Stable

end LineShell
