/-
This file proves that the calls of a session tell its whole story. Replaying the calls that were
made up to some point gives the world at that point: nothing but a call ever changes the world, and
what a call does depends on nothing but the world that it is made in. So one can speak of the moment
of a call by looking at the calls before it.
-/

import LineShell.Proofs.Order
import LineShell.Proofs.Rounds
import LineShell.Proofs.Traversal

namespace LineShell

open LineShell.Action Effect

/-! ### Replaying calls -/

namespace World

/-- The world that a call leaves. -/
def obey (world : World) : Call → World
  | .openFile path => (openFile path world).world
  | .enter path => (enterDirectory path world).world
  | .spawn program arguments directory => (spawn program arguments directory world).world

/-- The world that some calls in a row leave. -/
def replay (world : World) (calls : List Call) : World := calls.foldl obey world

theorem replay_append (world : World) (first second : List Call) :
    world.replay (first ++ second) = (world.replay first).replay second := List.foldl_append

theorem replay_openFile (world : World) (paths : List Text) :
    world.replay (paths.map Call.openFile) = world.openedAll paths := by
  have one (world : World) (path : Text) : world.obey (.openFile path) = world.opened path :=
    openFile_world path world
  simp only [replay, openedAll, List.foldl_map, one]

end World

/-! ### Actions that are told by their calls -/

theorem calls_enterDirectory (path : Text) (world : World) :
    calls (enterDirectory path world).effects = [.enter path] := by
  rcases enterDirectory_apply path world with ⟨_, _, shape⟩ | ⟨_, _, _, _, shape⟩ <;>
    · rw [shape]
      rfl

theorem calls_spawn (path : Text) (arguments : List Text) (directory : Option Text)
    (world : World) : calls (spawn path arguments directory world).effects =
      [.spawn path arguments directory] := by
  obtain ⟨output, written, shape⟩ := spawn_effects path arguments directory world
  rw [shape]
  rcases written with rfl | ⟨bytes, rfl⟩ <;> rfl

/-- The world that the action leaves is the replay of the calls that it makes. -/
def Action.Replayed {α : Type} (action : Action α) : Prop :=
  ∀ world, (action world).world = world.replay (calls (action world).effects)

theorem Action.Replayed.bind {α β : Type} {action : Action α} {next : α → Action β}
    (first : action.Replayed) (second : ∀ value, (next value).Replayed) :
    (action >>= next).Replayed := by
  intro world
  rcases outcome : (action world).result with failure | value
  · rw [bind_of_error outcome]
    exact first world
  · rw [bind_of_ok outcome, Step.world_after, Step.effects_after, calls_append,
      World.replay_append, ← first world]
    exact second value _

theorem stable_replayed : Stable Replayed where
  settles _ _ := rfl
  emits uncalled world := by
    rw [emit_apply, uncalled]
    rfl
  binds := Replayed.bind
  attempts replayed := replayed
  looks _ _ after world := after world world
  opens path world := by
    rw [calls_openFile]
    rfl
  enters path world := by
    rw [calls_enterDirectory]
    rfl
  spawns path arguments directory world := by
    rw [calls_spawn]
    rfl

/-! ### Sessions -/

/-- The calls of a round. -/
def Round.calls (console : Console) (round : Round) : List Call :=
  Effect.calls (round.step console).effects

namespace Session

variable (console : Console)

/-- A session makes the calls of its rounds and no others. -/
theorem calls_run (prompt : Text) (lines : List Text) (world : World) :
    calls (run console prompt lines world).effects =
      (rounds console lines world).flatMap (Round.calls console) := by
  have inRounds (all : List Round) : calls (all.flatMap (roundEffects console prompt)) =
      all.flatMap (Round.calls console) := by
    induction all with
    | nil => rfl
    | cons round rest inductionHypothesis =>
      rw [List.flatMap_cons, calls_append, inductionHypothesis, roundEffects, calls_append,
        console.calls_prompting]
      rfl
  have atEnd (broken : Option Failure) : calls (closing console prompt broken) = [] := by
    unfold closing
    split
    · rw [calls_append, console.calls_prompting]
      rfl
    · rfl
    · rfl
  rw [run_eq, ← List.singleton_append, calls_append, calls_append, inRounds, atEnd,
    List.append_nil]
  rfl

/-- A round starts in the world that the replay of all calls before it gives. -/
theorem world_of_rounds {lines : List Text} {world : World} {past future : List Round}
    {round : Round} (shape : rounds console lines world = past ++ round :: future) :
    round.world = world.replay (past.flatMap (Round.calls console)) := by
  induction past generalizing lines world with
  | nil =>
    cases lines with
    | nil => cases shape
    | cons line rest =>
      rw [rounds, List.nil_append, List.cons.injEq] at shape
      rw [← shape.1]
      rfl
  | cons first others inductionHypothesis =>
    cases lines with
    | nil => cases shape
    | cons line rest =>
      rcases outcome : (evaluateLine console line world).result with failure | command
      · rw [rounds_of_error outcome, List.cons_append, List.cons.injEq] at shape
        cases others <;> cases shape.2
      · rw [rounds_of_ok outcome, List.cons_append, List.cons.injEq] at shape
        rw [inductionHypothesis shape.2, ← shape.1, List.flatMap_cons, World.replay_append,
          stable_replayed.keeps_evaluateLine console line world]
        rfl

/-- A session leaves the world that the replay of all its calls gives. -/
theorem world_run (prompt : Text) (lines : List Text) (world : World) :
    (run console prompt lines world).world =
      world.replay (calls (run console prompt lines world).effects) := by
  rw [calls_run, run_eq]
  dsimp only
  induction lines generalizing world with
  | nil => rfl
  | cons line rest inductionHypothesis =>
    have first := stable_replayed.keeps_evaluateLine console line world
    rcases outcome : (evaluateLine console line world).result with failure | command
    · rw [lastWorld_of_error outcome, rounds_of_error outcome, List.flatMap_singleton]
      exact first
    · rw [lastWorld_of_ok outcome, rounds_of_ok outcome, List.flatMap_cons, World.replay_append,
        inductionHypothesis, first]
      rfl

end Session

end LineShell
