/-
This file says what running a program comes to. A run looks the program up and, where it finds
one, spawns it: there is no other spawn, and the result is told by the result of the lookup and
that of the spawn. An external command does nothing but to look its program up once more before.
Every failure of a run is one that the command reports, but for an interruption.
-/

import LineShell.Proofs.Order

namespace LineShell

open LineShell.Action Effect

/-! ### Spawns of a run -/

theorem spawns_spawn (path : Text) (arguments : List Text) (directory : Option Text)
    (world : World) : spawns (spawn path arguments directory world).effects =
      [.spawn path arguments directory] := by
  obtain ⟨output, written, shape⟩ := spawn_effects path arguments directory world
  rw [shape]
  rcases written with rfl | ⟨bytes, rfl⟩ <;> rfl

theorem spawns_spawnAt (path : Text) (arguments : List Text) (directory : Option Text)
    (world : World) : spawns (spawnAt path arguments directory world).effects =
      [.spawn path arguments directory] := by
  unfold spawnAt
  rw [note_bind, Step.after, spawns_append, spawns_bind_quiet (quiet_concludeSpawn path)]
  exact spawns_spawn path arguments directory world

/-- The spawns of a run, by what its lookup finds. -/
def foundSpawns (arguments : List Text) (directory : Option Text) :
    Except Failure (Option Text) → List Call
  | .ok (some path) => [.spawn path arguments directory]
  | _ => []

theorem launch_cons (name : Text) (rest : List Text) (directory : Option Text) :
    launch (name :: rest) directory =
      (resolve name >>= launchFound name (name :: rest) directory) := rfl

theorem run_cons (name : Text) (rest : List Text) (directory : Option Text) :
    run (name :: rest) directory =
      (attempt (launchNoted name (name :: rest) directory) >>= concludeRun) := rfl

theorem spawns_launch (name : Text) (rest : List Text) (directory : Option Text) (world : World) :
    spawns (launch (name :: rest) directory world).effects =
      foundSpawns (name :: rest) directory (resolve name world).result := by
  rw [launch_cons]
  rcases outcome : (resolve name world).result with failure | found
  · rw [bind_of_error outcome, (quiet_resolve name world).spawns_eq]
    rfl
  · rw [bind_of_ok outcome, Step.after, spawns_append, (quiet_resolve name world).spawns_eq]
    cases found with
    | none => rfl
    | some path =>
      rw [launchFound, List.nil_append, spawns_bind_quiet, spawns_spawnAt]
      · rfl
      · exact fun _ => quiet_bind (quiet_note _ _) fun _ => quiet_give _

/-- A run spawns what its lookup finds, once, and nothing else. -/
theorem spawns_run (name : Text) (rest : List Text) (directory : Option Text) (world : World) :
    spawns (run (name :: rest) directory world).effects =
      foundSpawns (name :: rest) directory (resolve name world).result := by
  rw [run_cons, spawns_bind_quiet quiet_concludeRun, attempt_apply]
  unfold launchNoted
  rw [note_bind, Step.after, spawns_append, spawns_bind_quiet]
  · exact spawns_launch name rest directory world
  · exact fun _ => quiet_bind (quiet_note _ _) fun _ => quiet_give _

/-! ### Failures of a spawn -/

theorem checkDirectory_error {directory : Option Text} {world : World} {failure : Failure}
    (failed : (checkDirectory directory world).result = .error failure) :
    (∃ refusal, failure = .refused refusal) ∨
    (failure = .embeddedNul ∧ ∃ path ∈ directory.toList, .nul ∈ path) := by
  cases directory with
  | none => cases failed
  | some path =>
    rw [checkDirectory_some] at failed
    cases barred : world.entryObstacle path with
    | none =>
      rw [barred] at failed
      cases failed
    | some obstacle =>
      rw [barred] at failed
      rw [← Except.error.inj failed]
      exact (World.failure_of_entryObstacle barred).imp_right fun held =>
        ⟨held.1, path, List.mem_cons_self, held.2⟩

/-- A spawn is refused, or its program goes wrong, or a text that it is given holds the character
that would end it. -/
theorem spawn_error {path : Text} {arguments : List Text} {directory : Option Text} {world : World}
    {failure : Failure}
    (failed : (spawn path arguments directory world).result = .error failure) :
    (∃ refusal, failure = .refused refusal) ∨ (∃ cause, failure = .mishap cause) ∨
    (failure = .embeddedNul ∧ ∃ text ∈ path :: (arguments ++ directory.toList), .nul ∈ text) := by
  unfold spawn at failed
  rw [emit_bind, Step.result_after] at failed
  split at failed
  · next held =>
    obtain ⟨argument, listed, inside⟩ := List.any_eq_true.mp held
    exact Or.inr (Or.inr ⟨(Except.error.inj failed).symm, argument,
      List.mem_cons_of_mem _ (List.mem_append_left _ listed), of_decide_eq_true inside⟩)
  rw [bind_error_iff] at failed
  rcases failed with failed | ⟨_, _, failed⟩
  · rcases checkDirectory_error failed with refused | ⟨same, text, listed, inside⟩
    · exact Or.inl refused
    · exact Or.inr (Or.inr ⟨same, text,
        List.mem_cons_of_mem _ (List.mem_append_right _ listed), inside⟩)
  rw [bind_error_iff] at failed
  rcases failed with failed | ⟨⟨_, node⟩, _, failed⟩
  · rcases reach_error failed with refused | ⟨same, inside⟩
    · exact Or.inl refused
    · exact Or.inr (Or.inr ⟨same, path, List.mem_cons_self, inside⟩)
  dsimp only at failed
  cases program : node.program with
  | running output changes code =>
    rw [program] at failed
    cases failed
  | refused | refusedWith =>
    rw [program] at failed
    exact Or.inl ⟨_, (Except.error.inj failed).symm⟩
  | failing output changes cause =>
    rw [program] at failed
    exact Or.inr (Or.inl ⟨_, (Except.error.inj failed).symm⟩)

/-! ### Failures of a run -/

/-- A mishap of a spawn is that of the program at the path. -/
theorem spawn_mishap {path : Text} {arguments : List Text} {directory : Option Text} {world : World}
    {cause : Mishap}
    (failed : (spawn path arguments directory world).result = .error (.mishap cause)) :
    ∃ location node output changes, world.walk path = .ok (location, node) ∧
      node.program = .failing output changes cause := by
  obtain ⟨result, checked, other⟩ := checkDirectory_apply directory world
  unfold spawn at failed
  rw [emit_bind, Step.result_after] at failed
  split at failed
  · cases failed
  rw [bind_error_iff, checked] at failed
  rcases failed with refused | ⟨value, _, failed⟩
  · exact absurd refused (other cause)
  rw [bind_error_iff, reach_apply] at failed
  cases outcome : world.walk path with
  | error obstacle =>
    rw [outcome] at failed
    rcases failed with failed | ⟨found, success, _⟩
    · cases obstacle <;> cases failed
    · cases success
  | ok found =>
    rw [outcome] at failed
    rcases failed with failed | ⟨arrived, success, failed⟩
    · cases failed
    have same : found = arrived := Except.ok.inj success
    subst same
    change (runProgram path found.2.program world).result = _ at failed
    cases program : found.2.program with
    | failing output changes mishap =>
      rw [program] at failed
      injection failed with same
      injection same with same
      exact ⟨found.1, found.2, output, changes, rfl, by rw [program, same]⟩
    | refused | refusedWith | running =>
      rw [program] at failed
      cases failed

section

variable {name path : Text} {rest : List Text} {directory : Option Text} {world : World}

theorem spawnAt_result (path : Text) (arguments : List Text) (directory : Option Text)
    (world : World) : (spawnAt path arguments directory world).result =
      (concludeSpawn path (spawn path arguments directory world).result
        (spawn path arguments directory world).world).result := by
  unfold spawnAt
  rw [note_bind, Step.result_after, attempt_bind, Step.result_after]

theorem concludeSpawn_refused (path : Text) (refusal : Refusal) (world : World) :
    (concludeSpawn path (.error (.refused refusal)) world).result =
      .error (.launchFailed refusal.explanation) := rfl

theorem concludeSpawn_error (path : Text) {failure : Failure}
    (other : ∀ refusal, failure ≠ .refused refusal) (world : World) :
    (concludeSpawn path (.error failure) world).result = .error failure := by
  cases failure with
  | refused refusal => exact absurd rfl (other refusal)
  | _ => rfl

/-- A launch that finds its program ends as the spawn does. -/
theorem launch_found (lookup : (resolve name world).result = .ok (some path)) :
    (launch (name :: rest) directory world).result =
      (spawnAt path (name :: rest) directory (resolve name world).world).result.map
        Outcome.ofCode := by
  rw [launch_cons, bind_of_ok lookup, Step.result_after, launchFound]
  rcases outcome : (spawnAt path (name :: rest) directory (resolve name world).world).result with
    failure | code
  · rw [bind_of_error outcome]
    rfl
  · rw [bind_of_ok outcome]
    rfl

theorem launch_not_found (lookup : (resolve name world).result = .ok none) :
    (launch (name :: rest) directory world).result = .error (.programNotFound name) := by
  rw [launch_cons, bind_of_ok lookup]
  rfl

theorem launch_lost {failure : Failure} (lookup : (resolve name world).result = .error failure) :
    (launch (name :: rest) directory world).result = .error failure := by
  rw [launch_cons, bind_of_error lookup]

/-- A mishap of a launch is one of its lookup or of its spawn. -/
theorem launch_mishap {cause : Mishap}
    (failed : (launch (name :: rest) directory world).result = .error (.mishap cause)) :
    (resolve name world).result = .error (.mishap cause) ∨
    ∃ path, (resolve name world).result = .ok (some path) ∧
      (spawn path (name :: rest) directory (resolve name world).world).result =
        .error (.mishap cause) := by
  rcases lookup : (resolve name world).result with failure | found
  · rw [launch_lost lookup] at failed
    injection failed with same
    exact Or.inl (congrArg Except.error same)
  cases found with
  | none =>
    rw [launch_not_found lookup] at failed
    cases failed
  | some path =>
    refine Or.inr ⟨path, rfl, ?_⟩
    rw [launch_found lookup, spawnAt_result] at failed
    rcases outcome : (spawn path (name :: rest) directory (resolve name world).world).result with
      failure | code
    · rw [outcome] at failed
      cases failure with
      | mishap other =>
        injection failed with same
        rw [same]
      | _ => cases failed
    · rw [outcome] at failed
      cases failed

theorem run_result (name : Text) (rest : List Text) (directory : Option Text) (world : World) :
    (run (name :: rest) directory world).result =
      (concludeRun (launch (name :: rest) directory world).result world).result := by
  have noted : (launchNoted name (name :: rest) directory world).result =
      (launch (name :: rest) directory world).result := by
    rw [launchNoted, note_bind, Step.result_after]
    rcases outcome : (launch (name :: rest) directory world).result with failure | ended
    · rw [bind_of_error outcome]
    · rw [bind_of_ok outcome]
      rfl
  rw [run_cons, attempt_bind, Step.result_after, noted]
  rcases (launch (name :: rest) directory world).result with failure | outcome
  · rw [concludeRun]
    unfold runFailure
    split <;> rfl
  · rfl

end

/-- A run fails in one of three ways; an interruption among them is one of its launch. -/
theorem run_error {name : Text} {rest : List Text} {directory : Option Text} {world : World}
    {failure : Failure} (failed : (run (name :: rest) directory world).result = .error failure) :
    (∃ name, failure = .programNotFound name) ∨ (∃ reason, failure = .launchFailed reason) ∨
    ∃ message, failure = .mishap (.interrupted message) ∧
      (launch (name :: rest) directory world).result = .error (.mishap (.interrupted message)) := by
  rw [run_result] at failed
  cases outcome : (launch (name :: rest) directory world).result with
  | ok value =>
    rw [outcome] at failed
    cases failed
  | error cause =>
    rw [outcome, concludeRun] at failed
    unfold runFailure at failed
    split at failed
    · exact Or.inl ⟨_, (Except.error.inj failed).symm⟩
    · exact Or.inr (Or.inl ⟨_, (Except.error.inj failed).symm⟩)
    · exact Or.inr (Or.inr ⟨_, (Except.error.inj failed).symm, rfl⟩)
    · exact Or.inr (Or.inl ⟨_, (Except.error.inj failed).symm⟩)

/-! ### External commands -/

variable {console : Console} {program : Text} {arguments : List Text} {world : World}

/-- The world after the first lookup of an external command, and the run that follows it. -/
def externalRun (program : Text) (arguments : List Text) (world : World) : Step Outcome :=
  let looked := (resolve program world).world
  run (program :: arguments) looked.directoryPath.toOption looked

theorem external_of_error {failure : Failure}
    (lookup : (resolve program world).result = .error failure) :
    Evaluation.external console program arguments world =
      ⟨.error failure, (resolve program world).world, (resolve program world).effects⟩ := by
  rw [Evaluation.external, bind_of_error lookup]

theorem external_of_none (lookup : (resolve program world).result = .ok none) :
    Evaluation.external console program arguments world =
      ⟨.ok (), (resolve program world).world,
        (resolve program world).effects ++
          console.writing (Console.lineOf (commandNotFound program))⟩ := by
  rw [Evaluation.external, bind_of_ok lookup]
  rfl

/-- A program that is found is run after the buffer is shown, and the run is reported. -/
theorem external_of_some {path : Text} (lookup : (resolve program world).result = .ok (some path)) :
    Evaluation.external console program arguments world =
      (Evaluation.report console program (externalRun program arguments world).result
        (externalRun program arguments world).world).after
        ((resolve program world).effects ++
          (console.flushing ++ (externalRun program arguments world).effects)) := by
  rw [Evaluation.external, bind_of_ok lookup]
  simp only [look_bind, Console.flush, emit_bind, attempt_bind, Step.after, List.append_assoc]
  rfl

namespace Evaluation

theorem texts_external_of_error {failure : Failure}
    (lookup : (resolve program world).result = .error failure) :
    texts (external console program arguments world).effects = [] := by
  rw [external_of_error lookup]
  exact (quiet_resolve program world).texts_eq

theorem texts_external_of_none (lookup : (resolve program world).result = .ok none) :
    texts (external console program arguments world).effects =
      [Console.lineOf (commandNotFound program)] := by
  rw [external_of_none lookup, texts_append, (quiet_resolve program world).texts_eq,
    List.nil_append]
  exact console.texts_writing _

theorem spawns_external_of_none (lookup : (resolve program world).result = .ok none) :
    spawns (external console program arguments world).effects = [] := by
  rw [external_of_none lookup, spawns_append, (quiet_resolve program world).spawns_eq,
    List.nil_append]
  exact console.spawns_saying (some (commandNotFound program))

/-- A program that is found is looked up once more, and what that finds is spawned. -/
theorem spawns_external_of_some {path : Text}
    (lookup : (resolve program world).result = .ok (some path)) :
    spawns (external console program arguments world).effects =
      foundSpawns (program :: arguments) (resolve program world).world.directoryPath.toOption
        (resolve program (resolve program world).world).result := by
  have silent := (quiet_resolve program world).spawns_eq
  have flushed : spawns console.flushing = [] := (quiet_flush console world).spawns_eq
  have reported := (speaks_report console program (externalRun program arguments world).result
    (externalRun program arguments world).world).spawns_eq
  rw [external_of_some lookup, Step.effects_after, spawns_append, spawns_append, spawns_append,
    silent, flushed, reported, externalRun, spawns_run, List.nil_append, List.nil_append,
    List.append_nil]

end Evaluation

end LineShell
