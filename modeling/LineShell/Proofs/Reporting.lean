/-
This file says how an external command is reported. Three parts of the shell turn failures into
words, and the program is looked up twice, in worlds that need not agree; but whatever the lookups,
the spawn and the program come to, it is one of the cases of `Reported`, and the user is told what
this case says and nothing else. Every case fixes what happens, so no two of them can hold at once.
-/

import LineShell.Proofs.Output
import LineShell.Proofs.Running

namespace LineShell

open LineShell.Action Effect Console

/-! ### Reasons -/

/-- What the user is told about a refusal: its reason, if it has one that is not empty, and else all
of it. -/
inductive Refusal.Explained (refusal : Refusal) : Text → Prop where
  | reason {reason : Text} (given : refusal.reason? = some reason) (nonempty : reason ≠ []) :
      Explained refusal reason
  | whole (silent : ∀ reason, refusal.reason? = some reason → reason = []) :
      Explained refusal refusal.message

theorem Refusal.explained_iff {refusal : Refusal} {text : Text} :
    refusal.Explained text ↔ text = refusal.explanation := by
  constructor
  · rintro (⟨given, nonempty⟩ | silent)
    · obtain ⟨glyph, rest, rfl⟩ := List.exists_cons_of_ne_nil nonempty
      rw [explanation, given]
    · unfold explanation
      split
      · next given => exact absurd (silent _ given) (List.cons_ne_nil _ _)
      · rfl
  · rintro rfl
    unfold explanation
    split
    · next given => exact .reason given (List.cons_ne_nil _ _)
    · next other =>
      refine .whole fun reason given => ?_
      cases reason with
      | nil => rfl
      | cons glyph rest => exact absurd given (other glyph rest)

/-! ### Cases of a report -/

section

variable (program : Text) (arguments : List Text) (world : World)

/-- The second lookup of an external command, in the world that the first one left. -/
def lookedAgain : Step (Option Text) := resolve program (resolve program world).world

/-- The spawn of the path that the second lookup found, in the directory of the world that the first
one left. -/
def spawnedAt (path : Text) : Step Int :=
  spawn path (program :: arguments) (resolve program world).world.directoryPath.toOption
    (lookedAgain program world).world

/-- The one call to spawn the path. -/
def spawnCall (path : Text) : Call :=
  .spawn path (program :: arguments) (resolve program world).world.directoryPath.toOption

end

/-- What the user is told about an external command, if anything, and what is spawned for it. -/
inductive Reported (program : Text) (arguments : List Text) (world : World) :
    Option Text → List Call → Prop where
  /-- The first lookup finds nothing. -/
  | unknown (lookup : (resolve program world).result = .ok none) :
      Reported program arguments world (some (program ++ Text.of ": command not found")) []
  /-- The second lookup does not find again what the first one found. -/
  | vanished {first : Text} (lookup : (resolve program world).result = .ok (some first))
      (again : (lookedAgain program world).result = .ok none) :
      Reported program arguments world (some (program ++ Text.of ": command not found")) []
  /-- The second lookup fails. -/
  | lost {first : Text} {failure : Failure}
      (lookup : (resolve program world).result = .ok (some first))
      (again : (lookedAgain program world).result = .error failure) :
      Reported program arguments world (some (program ++ Text.of ": " ++ failure.message)) []
  /-- The operating system refuses to spawn. -/
  | refused {first path reason : Text} {refusal : Refusal}
      (lookup : (resolve program world).result = .ok (some first))
      (again : (lookedAgain program world).result = .ok (some path))
      (spawned : (spawnedAt program arguments world path).result = .error (.refused refusal))
      (explained : refusal.Explained reason) :
      Reported program arguments world (some (program ++ Text.of ": " ++ reason))
        [spawnCall program arguments world path]
  /-- The spawn fails in another way, but is not interrupted. -/
  | failed {first path : Text} {failure : Failure}
      (lookup : (resolve program world).result = .ok (some first))
      (again : (lookedAgain program world).result = .ok (some path))
      (spawned : (spawnedAt program arguments world path).result = .error failure)
      (other : ∀ refusal, failure ≠ .refused refusal)
      (calm : ∀ message, failure ≠ .mishap (.interrupted message)) :
      Reported program arguments world (some (program ++ Text.of ": " ++ failure.message))
        [spawnCall program arguments world path]
  /-- The program ends well. -/
  | silent {first path : Text} (lookup : (resolve program world).result = .ok (some first))
      (again : (lookedAgain program world).result = .ok (some path))
      (spawned : (spawnedAt program arguments world path).result = .ok 0) :
      Reported program arguments world none [spawnCall program arguments world path]
  /-- The program ends with another status. -/
  | nonzero {first path : Text} {code : Int}
      (lookup : (resolve program world).result = .ok (some first))
      (again : (lookedAgain program world).result = .ok (some path))
      (spawned : (spawnedAt program arguments world path).result = .ok code)
      (positive : 0 < code) :
      Reported program arguments world
        (some (Text.of "Program exited with non-zero status code: " ++ Text.ofInt code))
        [spawnCall program arguments world path]
  /-- The program is killed. -/
  | killed {first path : Text} {code : Int}
      (lookup : (resolve program world).result = .ok (some first))
      (again : (lookedAgain program world).result = .ok (some path))
      (spawned : (spawnedAt program arguments world path).result = .ok code)
      (negative : code < 0) :
      Reported program arguments world (some (Text.of "Program terminated abnormally"))
        [spawnCall program arguments world path]

/-! ### Runs -/

/-- A failure that is neither known already nor the user's own doing keeps its message. -/
theorem runFailure_result {failure : Failure} (found : ∀ name, failure ≠ .programNotFound name)
    (calm : ∀ message, failure ≠ .mishap (.interrupted message)) (world : World) :
    (runFailure failure world).result = .error (.launchFailed failure.message) := by
  unfold runFailure
  split
  · exact absurd rfl (found _)
  · rfl
  · exact absurd rfl (calm _)
  · rfl

section

variable {program path : Text} {arguments : List Text} {world : World}

theorem externalRun_vanished (again : (lookedAgain program world).result = .ok none) :
    (externalRun program arguments world).result = .error (.programNotFound program) := by
  rw [externalRun, run_result, launch_not_found again]
  rfl

theorem externalRun_lost {failure : Failure}
    (again : (lookedAgain program world).result = .error failure) :
    (externalRun program arguments world).result = .error (.launchFailed failure.message) := by
  have found : ∀ name, failure ≠ .programNotFound name := by
    rintro name rfl
    rcases resolve_error again with ⟨_, different⟩ | different <;> cases different
  have calm : ∀ message, failure ≠ .mishap (.interrupted message) := by
    rintro message rfl
    rcases resolve_error again with ⟨_, different⟩ | different <;> cases different
  rw [externalRun, run_result, launch_lost again]
  exact runFailure_result found calm _

variable (again : (lookedAgain program world).result = .ok (some path))

include again

theorem externalRun_refused {refusal : Refusal}
    (spawned : (spawnedAt program arguments world path).result = .error (.refused refusal)) :
    (externalRun program arguments world).result =
      .error (.launchFailed refusal.explanation) := by
  unfold spawnedAt lookedAgain at spawned
  rw [externalRun, run_result, launch_found again, spawnAt_result, spawned, concludeSpawn_refused]
  rfl

theorem externalRun_failed {failure : Failure}
    (spawned : (spawnedAt program arguments world path).result = .error failure)
    (other : ∀ refusal, failure ≠ .refused refusal)
    (calm : ∀ message, failure ≠ .mishap (.interrupted message)) :
    (externalRun program arguments world).result = .error (.launchFailed failure.message) := by
  have found : ∀ name, failure ≠ .programNotFound name := by
    rintro name rfl
    rcases spawn_error spawned with ⟨_, different⟩ | ⟨_, different⟩ | ⟨different, _⟩ <;>
      cases different
  unfold spawnedAt lookedAgain at spawned
  rw [externalRun, run_result, launch_found again, spawnAt_result, spawned,
    concludeSpawn_error _ other]
  exact runFailure_result found calm _

theorem externalRun_ended {code : Int}
    (spawned : (spawnedAt program arguments world path).result = .ok code) :
    (externalRun program arguments world).result = .ok (Outcome.ofCode code) := by
  unfold spawnedAt lookedAgain at spawned
  rw [externalRun, run_result, launch_found again, spawnAt_result, spawned]
  rfl

end

/-! ### Reports -/

theorem Outcome.statusMessage_of_pos {code : Int} (positive : 0 < code) :
    (ofCode code).statusMessage =
      some (Text.of "Program exited with non-zero status code: " ++ Text.ofInt code) := by
  rw [ofCode, if_neg (by omega), statusMessage]
  exact if_neg (by omega)

theorem Outcome.statusMessage_of_neg {code : Int} (negative : code < 0) :
    (ofCode code).statusMessage = some (Text.of "Program terminated abnormally") := by
  rw [ofCode, if_pos negative]
  rfl

section

variable {console : Console} {program : Text} {arguments : List Text} {world : World}

theorem report_ended {outcome : Outcome} {told : Option Text}
    (message : outcome.statusMessage = told) :
    (Evaluation.report console program (.ok outcome) world).result = .ok () ∧
    texts (Evaluation.report console program (.ok outcome) world).effects =
      told.toList.map lineOf := by
  rw [Evaluation.report, message]
  cases told with
  | none => exact ⟨rfl, rfl⟩
  | some text => exact ⟨rfl, console.texts_writing _⟩

/-- After a lookup that finds something nothing is written but the report of the run. -/
theorem texts_external_of_some {path : Text}
    (lookup : (resolve program world).result = .ok (some path)) :
    texts (Evaluation.external console program arguments world).effects =
      texts (Evaluation.report console program (externalRun program arguments world).result
        (externalRun program arguments world).world).effects := by
  have silent := (quiet_resolve program world).texts_eq
  have flushed : texts console.flushing = [] := (Evaluation.quiet_flush console world).texts_eq
  have ran : texts (externalRun program arguments world).effects = [] :=
    (oneProgram_run _ _ _).texts_eq
  rw [external_of_some lookup, Step.effects_after, texts_append, texts_append, texts_append, silent,
    flushed, ran]
  rfl

/-- Where something is found, the result of the run tells everything. -/
theorem external_of_ran {first : Text} {outcome : Except Failure Outcome} {told : Option Text}
    (lookup : (resolve program world).result = .ok (some first))
    (ran : (externalRun program arguments world).result = outcome)
    (reports : ∀ after, (Evaluation.report console program outcome after).result = .ok () ∧
      texts (Evaluation.report console program outcome after).effects = told.toList.map lineOf) :
    (Evaluation.external console program arguments world).result = .ok () ∧
    texts (Evaluation.external console program arguments world).effects =
      told.toList.map lineOf := by
  rw [texts_external_of_some lookup, external_of_some lookup, ran]
  exact reports _

namespace Reported

variable {told : Option Text} {spawned : List Call}

/-- The command comes to its normal end, and the user is told what the case says. -/
theorem said (reported : Reported program arguments world told spawned) (console : Console) :
    (Evaluation.external console program arguments world).result = .ok () ∧
    texts (Evaluation.external console program arguments world).effects =
      told.toList.map lineOf := by
  cases reported with
  | unknown lookup =>
    rw [Evaluation.texts_external_of_none lookup, external_of_none lookup]
    exact ⟨rfl, rfl⟩
  | vanished lookup again =>
    exact external_of_ran lookup (externalRun_vanished again)
      fun _ => ⟨rfl, console.texts_writing _⟩
  | lost lookup again =>
    exact external_of_ran lookup (externalRun_lost again)
      fun _ => ⟨rfl, console.texts_writing _⟩
  | refused lookup again refuses explained =>
    rw [Refusal.explained_iff.mp explained]
    exact external_of_ran lookup (externalRun_refused again refuses)
      fun _ => ⟨rfl, console.texts_writing _⟩
  | failed lookup again fails other calm =>
    exact external_of_ran lookup (externalRun_failed again fails other calm)
      fun _ => ⟨rfl, console.texts_writing _⟩
  | silent lookup again ends =>
    exact external_of_ran lookup (externalRun_ended again ends)
      fun _ => report_ended ((Outcome.statusMessage_ofCode_eq_none_iff 0).mpr rfl)
  | nonzero lookup again ends positive =>
    exact external_of_ran lookup (externalRun_ended again ends)
      fun _ => report_ended (Outcome.statusMessage_of_pos positive)
  | killed lookup again ends negative =>
    exact external_of_ran lookup (externalRun_ended again ends)
      fun _ => report_ended (Outcome.statusMessage_of_neg negative)

theorem spawns_eq (reported : Reported program arguments world told spawned) (console : Console) :
    spawns (Evaluation.external console program arguments world).effects = spawned := by
  cases reported with
  | unknown lookup => exact Evaluation.spawns_external_of_none lookup
  | vanished lookup again | lost lookup again | refused lookup again | failed lookup again
  | silent lookup again | nonzero lookup again | killed lookup again =>
    unfold lookedAgain at again
    rw [Evaluation.spawns_external_of_some lookup, again]
    rfl

/-- What happens cannot be told in two ways. -/
theorem unique (reported : Reported program arguments world told spawned) {other : Option Text}
    {calls : List Call} (also : Reported program arguments world other calls) :
    other = told ∧ calls = spawned := by
  have wording : other.toList.map lineOf = told.toList.map lineOf :=
    (also.said Console.terminal).2.symm.trans (reported.said Console.terminal).2
  refine ⟨?_, (also.spawns_eq Console.terminal).symm.trans (reported.spawns_eq Console.terminal)⟩
  cases other <;> cases told
  · rfl
  · cases wording
  · cases wording
  · rw [lineOf_inj.mp (List.singleton_inj.mp wording)]

end Reported

/-! ### All outcomes -/

section

variable (calm : ∀ path message, (lookedAgain program world).result = .ok (some path) →
  (spawnedAt program arguments world path).result ≠ .error (.mishap (.interrupted message)))

include calm

/-- A run gives an outcome, or finds no program, or could not launch it; and it finds no program
exactly where the second lookup does not. -/
theorem externalRun_cases :
    ((∃ outcome, (externalRun program arguments world).result = .ok outcome) ∨
      (externalRun program arguments world).result = .error (.programNotFound program) ∨
      ∃ reason, (externalRun program arguments world).result = .error (.launchFailed reason)) ∧
    ((∃ name, (externalRun program arguments world).result = .error (.programNotFound name)) ↔
      (lookedAgain program world).result = .ok none) := by
  rcases again : (lookedAgain program world).result with failure | found
  · rw [externalRun_lost again]
    simp
  cases found with
  | none =>
    rw [externalRun_vanished again]
    simp
  | some path =>
    rcases spawned : (spawnedAt program arguments world path).result with failure | code
    · by_cases refusing : ∃ refusal, failure = .refused refusal
      · obtain ⟨refusal, rfl⟩ := refusing
        rw [externalRun_refused again spawned]
        simp
      · have other : ∀ refusal, failure ≠ .refused refusal := not_exists.mp refusing
        rw [externalRun_failed again spawned other fun message same =>
          calm path message again (same ▸ spawned)]
        simp
    · rw [externalRun_ended again spawned]
      simp

/-- Some case always holds. -/
theorem exists_reported (looksUp : ∀ failure, (resolve program world).result ≠ .error failure) :
    ∃ told spawned, Reported program arguments world told spawned := by
  rcases lookup : (resolve program world).result with failure | found
  · exact absurd lookup (looksUp failure)
  cases found with
  | none => exact ⟨_, _, .unknown lookup⟩
  | some first =>
    rcases again : (lookedAgain program world).result with failure | found
    · exact ⟨_, _, .lost lookup again⟩
    cases found with
    | none => exact ⟨_, _, .vanished lookup again⟩
    | some path =>
      rcases spawned : (spawnedAt program arguments world path).result with failure | code
      · by_cases refusing : ∃ refusal, failure = .refused refusal
        · obtain ⟨refusal, rfl⟩ := refusing
          exact ⟨_, _, .refused lookup again spawned (Refusal.explained_iff.mpr rfl)⟩
        · have other : ∀ refusal, failure ≠ .refused refusal := not_exists.mp refusing
          exact ⟨_, _, .failed lookup again spawned other fun message same =>
            calm path message again (same ▸ spawned)⟩
      · rcases Int.lt_trichotomy code 0 with negative | rfl | positive
        · exact ⟨_, _, .killed lookup again spawned negative⟩
        · exact ⟨_, _, .silent lookup again spawned⟩
        · exact ⟨_, _, .nonzero lookup again spawned positive⟩

end

end

/-- An external command whose first lookup comes to an end and whose program is not interrupted
comes to its normal end, and exactly one of the cases is reported: this and nothing else is written,
and what it says is spawned. The run within fails only in the two ways that are reported. -/
theorem external_reported (console : Console) {program : Text} {arguments : List Text}
    {world : World} (looksUp : ∀ failure, (resolve program world).result ≠ .error failure)
    (calm : ∀ path message, (lookedAgain program world).result = .ok (some path) →
      (spawnedAt program arguments world path).result ≠
        .error (.mishap (.interrupted message))) :
    ((Command.external program arguments).evaluate console world).result = .ok () ∧
    (∃ told spawned, Reported program arguments world told spawned ∧
      (∀ other calls, Reported program arguments world other calls →
        other = told ∧ calls = spawned) ∧
      texts ((Command.external program arguments).evaluate console world).effects =
        told.toList.map lineOf ∧
      spawns ((Command.external program arguments).evaluate console world).effects = spawned) ∧
    ((∃ outcome, (externalRun program arguments world).result = .ok outcome) ∨
      (externalRun program arguments world).result = .error (.programNotFound program) ∨
      ∃ reason, (externalRun program arguments world).result = .error (.launchFailed reason)) ∧
    ((∃ name, (externalRun program arguments world).result = .error (.programNotFound name)) ↔
      (lookedAgain program world).result = .ok none) := by
  obtain ⟨told, spawned, reported⟩ := exists_reported calm looksUp
  have said := reported.said console
  exact ⟨said.1, ⟨told, spawned, reported, fun _ _ also => reported.unique also, said.2,
    reported.spawns_eq console⟩, externalRun_cases calm⟩

/-- A program that is not run, with a refusal that has a number but no words. -/
def sulkyWorld : World :=
  (World.bare []).changeAll
    [.set pathVariable (Text.of "/bin"),
      .place [Text.of "bin", Text.of "tool"]
        (.regular 0o755 (fun _ => none) (.refusedWith (.told (Text.of "5") [] none)))]

theorem external_reported_sulkyWorld :
    texts ((Command.external (Text.of "tool") []).evaluate Console.terminal sulkyWorld).effects =
      [lineOf (Text.of "tool: [Errno 5] ")] := by
  have lookup : (resolve (Text.of "tool") sulkyWorld).result =
      .ok (some (Text.of "/bin/tool")) := by
    rfl
  have again : (lookedAgain (Text.of "tool") sulkyWorld).result =
      .ok (some (Text.of "/bin/tool")) := by
    rfl
  have spawned : (spawnedAt (Text.of "tool") [] sulkyWorld (Text.of "/bin/tool")).result =
      .error (.refused (.told (Text.of "5") [] none)) := by
    rfl
  have looksUp : ∀ failure, (resolve (Text.of "tool") sulkyWorld).result ≠ .error failure := by
    rw [lookup]
    exact fun _ => nofun
  have calm : ∀ path message, (lookedAgain (Text.of "tool") sulkyWorld).result = .ok (some path) →
      (spawnedAt (Text.of "tool") [] sulkyWorld path).result ≠
        .error (.mishap (.interrupted message)) := by
    intro path message found
    rw [again] at found
    cases found
    rw [spawned]
    exact nofun
  obtain ⟨_, ⟨told, calls, _, unique, written, _⟩, _⟩ :=
    external_reported Console.terminal looksUp calm
  have silent : ∀ reason, (Refusal.told (Text.of "5") [] none).reason? = some reason →
      reason = [] := by
    rintro reason ⟨⟩
    rfl
  have sulks := Reported.refused lookup again spawned (.whole silent)
  rw [written, ← (unique _ _ sulks).1]
  rfl

end LineShell
