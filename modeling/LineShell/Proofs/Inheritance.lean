/-
This file compares naming the working directory with inheriting it. An external command names the
directory by its path, and before the program is started that path is walked from the root and the
directory is entered; a program that inherits the directory is started without either. Nothing else
in a command goes by the directory, and whatever follows the spawn goes by what the spawn came to.
So a walk to a directory that may be entered makes no difference, and any other walk is the reason
why nothing is started.
-/

import LineShell.Proofs.Output
import LineShell.Proofs.Running

namespace LineShell

open LineShell.Action Effect

/-! ### Places -/

/-- The call without the directory that it names. -/
def Call.placeless : Call → Call
  | .spawn program arguments _ => .spawn program arguments none
  | other => other

/-- The effect without the directory that it names. -/
def Effect.placeless : Effect → Effect
  | .called call => .called call.placeless
  | other => other

/-- Two steps that are the same but for the directories that they name for programs. -/
structure Step.SameButPlaces {α : Type} (first second : Step α) : Prop where
  result : first.result = second.result
  world : first.world = second.world
  effects : first.effects.map Effect.placeless = second.effects.map Effect.placeless

theorem Step.SameButPlaces.refl {α : Type} (step : Step α) : step.SameButPlaces step :=
  ⟨rfl, rfl, rfl⟩

theorem Step.SameButPlaces.after {α : Type} {first second : Step α}
    (same : first.SameButPlaces second) (earlier : List Effect) :
    (first.after earlier).SameButPlaces (second.after earlier) := by
  refine ⟨same.result, same.world, ?_⟩
  rw [effects_after, effects_after, List.map_append, List.map_append, same.effects]

section

variable {α β : Type} {first second : Action α} {world : World}

/-- What follows does not notice where programs have been started. -/
theorem Step.SameButPlaces.bind (same : (first world).SameButPlaces (second world))
    (next : α → Action β) :
    ((first >>= next) world).SameButPlaces ((second >>= next) world) := by
  rcases outcome : (first world).result with failure | value
  · rw [bind_of_error outcome, bind_of_error (same.result ▸ outcome)]
    exact ⟨rfl, same.world, same.effects⟩
  · rw [bind_of_ok outcome, bind_of_ok (same.result ▸ outcome), same.world]
    refine ⟨rfl, rfl, ?_⟩
    rw [effects_after, effects_after, List.map_append, List.map_append, same.effects]

theorem Step.SameButPlaces.attempt (same : (first world).SameButPlaces (second world)) :
    (Action.attempt first world).SameButPlaces (Action.attempt second world) :=
  ⟨congrArg Except.ok same.result, same.world, same.effects⟩

theorem sameButPlaces_bind (action : Action α) {next other : α → Action β}
    (same : ∀ value, (next value (action world).world).SameButPlaces
      (other value (action world).world)) :
    ((action >>= next) world).SameButPlaces ((action >>= other) world) := by
  rcases outcome : (action world).result with failure | value
  · rw [bind_of_error outcome, bind_of_error outcome]
    exact .refl _
  · rw [bind_of_ok outcome, bind_of_ok outcome]
    exact (same value).after _

end

/-- A user does not see where programs are started. -/
theorem Terminal.playAll_placeless (terminal : Terminal) (effects : List Effect) :
    terminal.playAll (effects.map Effect.placeless) = terminal.playAll effects := by
  induction effects generalizing terminal with
  | nil => rfl
  | cons first rest inductionHypothesis =>
    have same : terminal.play first.placeless = terminal.play first := by
      cases first <;> rfl
    rw [List.map_cons, playAll_cons, playAll_cons, same, inductionHypothesis]

theorem Step.SameButPlaces.playAll_eq {α : Type} {first second : Step α}
    (same : first.SameButPlaces second) (terminal : Terminal) :
    terminal.playAll first.effects = terminal.playAll second.effects := by
  rw [← terminal.playAll_placeless, same.effects, terminal.playAll_placeless]

/-! ### Spawns -/

/-- What the user is told of what keeps a program from being started in a directory. -/
def World.Obstacle.wording : World.Obstacle → Text
  | .embeddedNul => Failure.embeddedNul.message
  | .reason errno => Text.of errno.description

section

variable {directory : Text} {arguments : List Text} {world : World}

/-- A program starts in a directory that it can enter as it starts where the shell is. -/
theorem spawn_sameButPlaces (path : Text) (startable : world.entryObstacle directory = none) :
    (spawn path arguments (some directory) world).SameButPlaces
      (spawn path arguments none world) := by
  have checked : checkDirectory (some directory) world = checkDirectory none world := by
    rw [checkDirectory_some, startable]
    rfl
  unfold spawn
  rw [emit_bind, emit_bind]
  split
  · exact ⟨rfl, rfl, rfl⟩
  · rw [bind_apply, bind_apply, checked]
    exact ⟨rfl, rfl, rfl⟩

/-- A spawn that names another path is refused before it comes to the program. -/
theorem spawn_of_entryObstacle (path : Text) {obstacle : World.Obstacle}
    (whole : ∀ argument ∈ arguments, Glyph.nul ∉ argument)
    (barred : world.entryObstacle directory = some obstacle) :
    spawn path arguments (some directory) world =
      ⟨.error (obstacle.failure directory), world,
        [.called (.spawn path arguments (some directory))]⟩ := by
  have none : ¬arguments.any (Glyph.nul ∈ ·) := by
    rw [List.any_eq_true]
    rintro ⟨argument, listed, inside⟩
    exact whole argument listed (of_decide_eq_true inside)
  unfold spawn
  rw [emit_bind, if_neg none, bind_apply, checkDirectory_some, barred]
  rfl

end

/-! ### Runs -/

theorem run_sameButPlaces (program : Text) (arguments : List Text) {directory : Text}
    {world : World} (steady : world.Steady)
    (startable : world.entryObstacle directory = none) :
    (run (program :: arguments) (some directory) world).SameButPlaces
      (run (program :: arguments) none world) := by
  have spawned (path : Text) : (spawnAt path (program :: arguments) (some directory)
      world).SameButPlaces (spawnAt path (program :: arguments) none world) :=
    ((spawn_sameButPlaces path startable).attempt.bind _).after _
  have found (path : Option Text) : (launchFound program (program :: arguments) (some directory)
      path world).SameButPlaces (launchFound program (program :: arguments) none path world) := by
    cases path with
    | none => exact .refl _
    | some path => exact (spawned path).bind _
  have launched : (launch (program :: arguments) (some directory) world).SameButPlaces
      (launch (program :: arguments) none world) := by
    rw [launch_cons, launch_cons]
    refine sameButPlaces_bind _ fun path => ?_
    rw [resolve_world_of_steady steady]
    exact found path
  exact ((launched.bind _).after _).attempt.bind concludeRun

/-- Nothing is seen but one call, and what is quiet. -/
def Effect.OnlyCall (call : Call) (effects : List Effect) : Prop :=
  ∃ before after, Quiet before ∧ Quiet after ∧ effects = before ++ .called call :: after

namespace Effect.OnlyCall

variable {call : Call} {effects quiet : List Effect} (only : OnlyCall call effects)

include only

theorem quiet_append (still : Quiet quiet) : OnlyCall call (quiet ++ effects) := by
  obtain ⟨before, after, quietBefore, quietAfter, rfl⟩ := only
  exact ⟨quiet ++ before, after, Effect.quiet_append.mpr ⟨still, quietBefore⟩, quietAfter,
    (List.append_assoc ..).symm⟩

theorem append_quiet (still : Quiet quiet) : OnlyCall call (effects ++ quiet) := by
  obtain ⟨before, after, quietBefore, quietAfter, rfl⟩ := only
  exact ⟨before, after ++ quiet, quietBefore, Effect.quiet_append.mpr ⟨quietAfter, still⟩,
    List.append_assoc ..⟩

theorem texts_eq : texts effects = [] := by
  obtain ⟨before, after, quietBefore, quietAfter, rfl⟩ := only
  rw [texts_append, quietBefore.texts_eq, List.nil_append]
  exact quietAfter.texts_eq

theorem programBytes_eq : programBytes effects = [] := by
  obtain ⟨before, after, quietBefore, quietAfter, rfl⟩ := only
  rw [programBytes_append, quietBefore.programBytes_eq, List.nil_append]
  exact quietAfter.programBytes_eq

theorem spawns_eq (isSpawn : call.isSpawn) : spawns effects = [call] := by
  obtain ⟨before, after, quietBefore, quietAfter, rfl⟩ := only
  rw [← List.singleton_append, spawns_append, spawns_append, quietBefore.spawns_eq,
    quietAfter.spawns_eq]
  simp [spawns, calls, isSpawn]

end Effect.OnlyCall

section

variable {program file : Text} {arguments : List Text} {directory : Text} {world : World}
  {obstacle : World.Obstacle} (whole : ∀ argument ∈ program :: arguments, Glyph.nul ∉ argument)
  (barred : world.entryObstacle directory = some obstacle)

include whole barred

/-- A spawn that is refused for the directory ends in a failure that a run tells as the obstacle. -/
theorem spawnAt_of_entryObstacle (file : Text) : ∃ failure effects told,
    spawnAt file (program :: arguments) (some directory) world = ⟨.error failure, world, effects⟩ ∧
    OnlyCall (.spawn file (program :: arguments) (some directory)) effects ∧
    runFailure failure world = ⟨.error (.launchFailed obstacle.wording), world, told⟩ ∧
    Quiet told := by
  have spawned := spawn_of_entryObstacle file whole barred
  have noted (entry : Entry) : Quiet [.noted entry] := by simp [isQuiet]
  rw [spawnAt, note_bind, attempt_bind, spawned]
  cases obstacle with
  | embeddedNul =>
    exact ⟨_, _, [_], rfl, ⟨[_], [], noted _, quiet_nil, rfl⟩, rfl, noted _⟩
  | reason errno =>
    have explained : (Refusal.known errno (some directory)).explanation =
        (World.Obstacle.reason errno).wording := Refusal.explanation_known errno _
    exact ⟨_, _, [], rfl, ⟨[_], [_], noted _, noted _, rfl⟩, by rw [← explained]; rfl, quiet_nil⟩

/-- A run whose spawn is refused for the directory tells why, and does nothing else. -/
theorem run_of_entryObstacle (steady : world.Steady)
    (lookup : (resolve program world).result = .ok (some file)) : ∃ effects,
    run (program :: arguments) (some directory) world =
      ⟨.error (.launchFailed obstacle.wording), world, effects⟩ ∧
    OnlyCall (.spawn file (program :: arguments) (some directory)) effects := by
  obtain ⟨failure, effects, told, spawned, only, tells, quietTold⟩ :=
    spawnAt_of_entryObstacle whole barred file
  have failed : (spawnAt file (program :: arguments) (some directory) world).result =
      .error failure := by rw [spawned]
  have launched : launch (program :: arguments) (some directory) world =
      ⟨.error failure, world, (resolve program world).effects ++ effects⟩ := by
    rw [launch_cons, bind_of_ok lookup, resolve_world_of_steady steady, launchFound,
      bind_of_error failed, spawned]
    rfl
  have ended : (launch (program :: arguments) (some directory) world).result = .error failure := by
    rw [launched]
  have quietBefore : Quiet (.noted ⟨.info, Text.of "Running external program: " ++ program⟩ ::
      (resolve program world).effects) := by
    rw [quiet_cons]
    exact ⟨rfl, quiet_resolve program world⟩
  refine ⟨_, ?_, (only.append_quiet quietTold).quiet_append quietBefore⟩
  rw [run_cons, attempt_bind, launchNoted, note_bind, bind_of_error ended, launched]
  simp only [Step.after, concludeRun, tells, List.append_assoc, List.cons_append, List.nil_append]

end

/-! ### External commands -/

namespace Evaluation

/-- Carry out an external command that starts its program in a directory chosen for it, or where the
shell is. -/
def externalFrom (console : Console) (program : Text) (arguments : List Text)
    (choose : World → Option Text) : Action Unit := do
  match ← resolve program with
  | none => console.writeLine (commandNotFound program)
  | some _ =>
    let directory := choose (← look)
    console.flush
    let outcome ← attempt (run (program :: arguments) directory)
    report console program outcome

/-- An external command chooses the working directory, if its path can be told. -/
theorem external_eq (console : Console) (program : Text) (arguments : List Text) :
    external console program arguments =
      externalFrom console program arguments fun world => world.directoryPath.toOption := rfl

theorem externalFrom_sameButPlaces (console : Console) {program : Text} {arguments : List Text}
    {directory : Text} {world : World} {choose : World → Option Text} (steady : world.Steady)
    (chosen : choose world = some directory) (startable : world.entryObstacle directory = none) :
    (externalFrom console program arguments choose world).SameButPlaces
      (externalFrom console program arguments (fun _ => none) world) := by
  refine sameButPlaces_bind _ fun found => ?_
  rw [resolve_world_of_steady steady]
  cases found with
  | none => exact .refl _
  | some path =>
    have ran := run_sameButPlaces program arguments steady startable
    simp only [look_bind, chosen]
    exact (ran.attempt.bind _).after _

end Evaluation

/-- The working directory is the second of these nodes, in the first one. There is a program
elsewhere. -/
def roomWorld (above own : Node) : World :=
  (World.bare [Text.of "w", Text.of "d"]).changeAll
    [.set pathVariable (Text.of "/bin"), .place [Text.of "w"] above,
      .place [Text.of "w", Text.of "d"] own,
      .place [Text.of "bin", Text.of "tool"] (.regular 0o755 (fun _ => none)
        (.running (Text.bytes (Text.of "hi\n")) [] 0))]

/-- Both directories may be entered. -/
def openWorld : World := roomWorld .plainDirectory .plainDirectory

/-- The directory above the working directory may not be entered. -/
def lockedWorld : World := roomWorld (.unreachable .accessDenied) .plainDirectory

/-- The working directory itself may not be entered any more. -/
def guardedWorld : World :=
  roomWorld .plainDirectory (.directory (fun _ => none) none (some .accessDenied))

section

variable {above own : Node}

theorem steady_roomWorld (aboveSteady : above.openings.Steady) (ownSteady : own.openings.Steady) :
    (roomWorld above own).Steady :=
  (((World.steady_bare [Text.of "w", Text.of "d"]).place [Text.of "w"] aboveSteady).place
    [Text.of "w", Text.of "d"] ownSteady).place [Text.of "bin", Text.of "tool"] fun _ => rfl

theorem resolve_roomWorld (above own : Node) :
    (resolve (Text.of "tool") (roomWorld above own)).result =
      .ok (some (Text.of "/bin/tool")) := rfl

end

theorem nul_notMem_tool : ∀ argument ∈ [Text.of "tool"], Glyph.nul ∉ argument := by
  decide

end LineShell
