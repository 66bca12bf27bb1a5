/-
This file proves that every spawn of a session is justified by the lookup just before it. An
external command looks its program up twice, and files may change between the two lookups; it is
the second one that counts. The last file that it opened is the one that is spawned, and that
opening showed a file that everyone may execute.
-/

import LineShell.Proofs.Failures
import LineShell.Proofs.History
import LineShell.Proofs.Output

namespace LineShell

open LineShell.Action Effect

/-! ### Calls of a run -/

theorem calls_bind_uncalled {α β : Type} {action : Action α} {next : α → Action β}
    (uncalled : ∀ value world, calls (next value world).effects = []) (world : World) :
    calls ((action >>= next) world).effects = calls (action world).effects := by
  rcases outcome : (action world).result with failure | value
  · rw [bind_of_error outcome]
  · rw [bind_of_ok outcome, Step.effects_after, calls_append, uncalled, List.append_nil]

theorem calls_concludeSpawn (path : Text) (outcome : Except Failure Int) (world : World) :
    calls (concludeSpawn path outcome world).effects = [] := by
  rcases outcome with failure | code
  · cases failure <;> rfl
  · rfl

theorem calls_concludeRun (outcome : Except Failure Outcome) (world : World) :
    calls (concludeRun outcome world).effects = [] := by
  rcases outcome with failure | outcome
  · cases failure with
    | mishap cause => cases cause <;> rfl
    | _ => rfl
  · rfl

theorem calls_spawnAt (path : Text) (arguments : List Text) (directory : Option Text)
    (world : World) : calls (spawnAt path arguments directory world).effects =
      [.spawn path arguments directory] := by
  rw [spawnAt, note_bind, Step.effects_after, calls_append,
    calls_bind_uncalled (calls_concludeSpawn path), attempt_apply, calls_spawn]
  rfl

theorem calls_launch (name : Text) (rest : List Text) (directory : Option Text) (world : World) :
    calls (launch (name :: rest) directory world).effects =
      calls (resolve name world).effects ++
        foundSpawns (name :: rest) directory (resolve name world).result := by
  rw [launch_cons]
  rcases outcome : (resolve name world).result with failure | found
  · rw [bind_of_error outcome, foundSpawns, List.append_nil]
    exact nofun
  · rw [bind_of_ok outcome, Step.effects_after, calls_append]
    cases found with
    | none => rfl
    | some path =>
      rw [launchFound, calls_bind_uncalled fun _ _ => rfl, calls_spawnAt]
      rfl

/-- A run looks its program up and spawns what it finds, at once and once only. -/
theorem calls_run_cons (name : Text) (rest : List Text) (directory : Option Text) (world : World) :
    calls (run (name :: rest) directory world).effects =
      calls (resolve name world).effects ++
        foundSpawns (name :: rest) directory (resolve name world).result := by
  rw [run_cons, calls_bind_uncalled calls_concludeRun, attempt_apply, launchNoted, note_bind,
    Step.effects_after, calls_append, calls_bind_uncalled fun _ _ => rfl, calls_launch]
  rfl

/-! ### Calls of a command -/

variable {console : Console} {world : World}

theorem calls_report (program : Text) (outcome : Except Failure Outcome) (world : World) :
    calls (Evaluation.report console program outcome world).effects = [] := by
  rcases outcome with failure | outcome
  · cases failure with
    | programNotFound _ | launchFailed _ => exact console.calls_writing _
    | _ => rfl
  · rw [Evaluation.report]
    cases outcome.statusMessage with
    | none => rfl
    | some message => exact console.calls_writing _

/-- An external command whose program is found looks it up twice and spawns what the second lookup
finds. -/
theorem calls_external {program : Text} {arguments : List Text} {path : Text}
    (lookup : (resolve program world).result = .ok (some path)) :
    let looked := (resolve program world).world
    calls (Evaluation.external console program arguments world).effects =
      calls (resolve program world).effects ++ (calls (resolve program looked).effects ++
        foundSpawns (program :: arguments) looked.directoryPath.toOption
          (resolve program looked).result) := by
  intro looked
  rw [external_of_some lookup, Step.effects_after, calls_append, calls_append, calls_append,
    console.calls_flushing, calls_report, List.nil_append, List.append_nil, externalRun,
    calls_run_cons]

theorem calls_pwd (console : Console) (world : World) :
    calls (Evaluation.pwd console world).effects = [] := by
  rw [Evaluation.pwd, attempt_bind, Step.effects_after, calls_append]
  cases (workingDirectory world).result with
  | ok directory => exact console.calls_writing _
  | error failure => exact console.calls_writing _

/-- The question about a name makes the calls of the lookup of that name, if there is one. -/
theorem calls_type (console : Console) (target : Text) (world : World) :
    calls (Evaluation.type console target world).effects =
      ((Command.type target).lookedUp.elim [] fun name => calls (resolve name world).effects) := by
  rw [Command.lookedUp]
  unfold Evaluation.type
  by_cases empty : Text.trim target = []
  · simp only [empty, if_true]
    rfl
  by_cases builtin : Text.trim target ∈ Command.builtinNames
  · simp only [empty, builtin, List.contains_eq_mem, decide_true, if_true, if_false]
    exact console.calls_writing _
  · simp only [empty, builtin, List.contains_eq_mem, decide_false, Bool.false_eq_true, if_false]
    refine calls_bind_uncalled (fun found world => ?_) world
    cases found <;> exact console.calls_writing _

theorem calls_goTo (console : Console) (target : Text) (world : World) :
    calls (Evaluation.goTo console target world).effects = [.enter target] := by
  have changed : calls (changeDirectory target world).effects = [.enter target] := by
    rw [changeDirectory, calls_bind_uncalled, calls_enterDirectory]
    intro _ here
    rw [calls_bind_uncalled fun _ _ => rfl]
    rfl
  rw [Evaluation.goTo, calls_bind_uncalled, attempt_apply, changed]
  intro outcome here
  rcases outcome with failure | value
  · cases failure with
    | refused refusal => exact console.calls_writing _
    | _ => rfl
  · rfl

theorem notMem_calls_of_quiet {effects : List Effect} {call : Call} (isSpawn : call.isSpawn)
    (still : Quiet effects) : call ∉ calls effects := by
  intro member
  have listed : call ∈ spawns effects := List.mem_filter.mpr ⟨member, isSpawn⟩
  rw [still.spawns_eq] at listed
  cases listed

theorem foundSpawns_eq_append_cons {arguments : List Text} {directory : Option Text}
    {result : Except Failure (Option Text)} {inner rest : List Call} {call : Call}
    (split : foundSpawns arguments directory result = inner ++ call :: rest) :
    ∃ path, result = .ok (some path) ∧ inner = [] ∧ call = .spawn path arguments directory := by
  match result with
  | .error failure => simp [foundSpawns] at split
  | .ok none => simp [foundSpawns] at split
  | .ok (some path) =>
    simp only [foundSpawns, List.singleton_eq_append_iff, List.cons.injEq] at split
    rcases split with ⟨empty, same, _⟩ | ⟨_, absurdity⟩
    · exact ⟨path, rfl, empty, same⟩
    · cases absurdity

/-- Only an external command spawns, and only if both of its lookups find a program. The calls
before its spawn are those of its lookups. -/
theorem evaluate_spawn {command : Command} {call : Call} (isSpawn : call.isSpawn)
    {inner rest : List Call}
    (split : calls (command.evaluate console world).effects = inner ++ call :: rest) :
    ∃ program arguments path, command = .external program arguments ∧
      let looked := (resolve program world).world
      (resolve program looked).result = .ok (some path) ∧
      inner = calls (resolve program world).effects ++ calls (resolve program looked).effects ∧
      call = .spawn path (program :: arguments) looked.directoryPath.toOption := by
  have listed : call ∈ spawns (command.evaluate console world).effects :=
    List.mem_filter.mpr ⟨by rw [split]; simp, isSpawn⟩
  have silent (speaks : (command.evaluate console world).Speaks console) : False := by
    rw [speaks.spawns_eq] at listed
    cases listed
  cases command with
  | exit code =>
    have still : (Evaluation.exit code).Leaves Quiet :=
      quiet_bind (quiet_note _ _) fun _ => quiet_fail _
    exact (silent (speaks_of_quiet still world)).elim
  | echo text => exact (silent (speaks_writeLine text world)).elim
  | type target => exact (silent (Evaluation.speaks_type console target world)).elim
  | pwd => exact (silent (Evaluation.speaks_pwd console world)).elim
  | cd path => exact (silent (Evaluation.speaks_cd console path world)).elim
  | unrecognized line => exact (silent (speaks_writeLine _ world)).elim
  | external program arguments =>
    have absent := notMem_calls_of_quiet isSpawn (quiet_resolve program world)
    rw [Command.evaluate] at split
    rcases lookup : (resolve program world).result with failure | (_ | _)
    · rw [external_of_error lookup] at split
      exact absurd (by rw [split]; simp) absent
    · rw [external_of_none lookup, calls_append, console.calls_writing, List.append_nil] at split
      exact absurd (by rw [split]; simp) absent
    · rw [calls_external lookup] at split
      obtain ⟨later, start, place⟩ := append_eq_append_cons_right split absent
      obtain ⟨nothing, middle, place⟩ := append_eq_append_cons_right place
        (notMem_calls_of_quiet isSpawn (quiet_resolve program _))
      obtain ⟨path, found, empty, same⟩ := foundSpawns_eq_append_cons place
      refine ⟨program, arguments, path, rfl, found, ?_, same⟩
      rw [start, middle, empty, List.append_nil]

/-! ### Spawns of a session -/

/-- A spawn, and the calls of the session before it, are justified by the line that they come from.
The last call before the spawn opened a candidate for the line's program, a field of the search path
joined with the program's name, as a file that everyone may execute. What is spawned is the absolute
form of that candidate with the arguments of the line, in the working directory if its path can be
told. -/
inductive Justified (world : World) (line : Text) : List Call → Call → Prop
  | intro {sofar : List Call} {program field path : Text} {arguments : List Text} {node : Node} :
      Command.ofLine line = .ok (some (.external program arguments)) →
      field ∈ (world.replay sofar).environment.searchPath → field ≠ [] →
      (openFile (Path.join field program) (world.replay sofar)).result = .ok node →
      node.isProgram →
      (world.replay sofar).absoluteForm (Path.join field program) = .ok path →
      Justified world line (sofar ++ [.openFile (Path.join field program)])
        (.spawn path (program :: arguments)
          (world.replay (sofar ++ [.openFile (Path.join field program)])).directoryPath.toOption)

theorem round_calls_cases (console : Console) (round : Round) :
    round.calls console = [] ∨ ∃ command, Command.ofLine round.line = .ok (some command) ∧
      round.calls console = calls (command.evaluate console round.world).effects := by
  rw [Round.calls, Round.step]
  rcases parsed : Command.ofLine round.line with failure | command
  · rw [evaluateLine_of_error parsed]
    exact Or.inl rfl
  cases command with
  | none =>
    rw [evaluateLine_of_none parsed]
    exact Or.inl rfl
  | some command =>
    rw [evaluateLine_of_some parsed]
    exact Or.inr ⟨command, rfl, rfl⟩

/-- A spawn in a round is justified. -/
theorem round_spawn_justified {round : Round} {past inner rest : List Call} {call : Call}
    (starts : round.world = world.replay past) (isSpawn : call.isSpawn)
    (split : round.calls console = inner ++ call :: rest) :
    Justified world round.line (past ++ inner) call := by
  rcases round_calls_cases console round with none | ⟨command, parsed, same⟩
  · rw [none] at split
    simp at split
  rw [same] at split
  obtain ⟨program, arguments, path, rfl, found, shape, rfl⟩ := evaluate_spawn isSpawn split
  obtain @⟨passed, _, candidate, node, listed, opens, _, opened, executable, form⟩ :=
    resolve_found found
  have member : candidate ∈
      (resolve program round.world).world.environment.candidates program := by
    rw [listed]
    simp
  obtain ⟨field, isField, rfl⟩ := List.mem_map.mp member
  -- The second lookup has reached its last candidate in this world.
  have moment : world.replay (past ++ calls (resolve program round.world).effects ++
      passed.map Call.openFile) = (resolve program round.world).world.openedAll passed := by
    rw [World.replay_append, World.replay_append, ← starts, ← stable_replayed.keeps_resolve,
      World.replay_openFile]
  have settles := World.settled_openedAll (resolve program round.world).world
  have whole : past ++ inner = past ++ calls (resolve program round.world).effects ++
      passed.map Call.openFile ++ [.openFile (Path.join field program)] := by
    rw [shape, opens]
    simp
  have told : (resolve program round.world).world.directoryPath =
      (world.replay (past ++ inner)).directoryPath := by
    rw [shape, ← List.append_assoc, World.replay_append, World.replay_append, ← starts,
      ← stable_replayed.keeps_resolve, ← stable_replayed.keeps_resolve]
    exact (World.directoryPath_of_settled_eq (settled_resolve program _)).symm
  rw [told, whole]
  refine .intro parsed ?_ ?_ ?_ executable ?_
  · rw [moment, World.environment_eq_of_settled_eq (settles passed)]
    exact isField
  · have kept := (List.mem_filter.mp isField).2
    intro empty
    rw [empty] at kept
    cases kept
  · rw [moment]
    exact opened
  · rw [moment, World.absoluteForm_of_settled_eq (settles passed)]
    exact form

/-- Every spawn of a session is justified by the lookup just before it. The calls of a session are
those of its rounds, in the order of the lines that were read, and replaying them tells the world
that each round starts in and the one that the session leaves. Each round spawns at most one
program, and each spawn, at its place among the calls, is justified by the line of its round and by
the calls before it. -/
theorem spawns_justified (console : Console) (prompt : Text) (lines : List Text) (world : World) :
    let rounds := Session.rounds console lines world
    let ending := Session.run console prompt lines world
    rounds.map Round.line ++ ending.unread = lines ∧
    calls ending.effects = rounds.flatMap (Round.calls console) ∧
    ending.world = world.replay (calls ending.effects) ∧
    (∀ past round future, rounds = past ++ round :: future →
      round.world = world.replay (past.flatMap (Round.calls console))) ∧
    (∀ round ∈ rounds, ((round.calls console).filter Call.isSpawn).length ≤ 1) ∧
    ∀ earlier call later, call.isSpawn → calls ending.effects = earlier ++ call :: later →
      ∃ past round future inner rest, rounds = past ++ round :: future ∧
        round.calls console = inner ++ call :: rest ∧
        earlier = past.flatMap (Round.calls console) ++ inner ∧
        Justified world round.line earlier call := by
  intro rounds ending
  refine ⟨?_, Session.calls_run console prompt lines world,
    Session.world_run console prompt lines world, ?_, ?_, ?_⟩
  · rw [show ending = _ from Session.run_eq console prompt lines world, Session.map_line_rounds]
    exact List.take_append_drop _ lines
  · exact fun past round future shape => Session.world_of_rounds console shape
  · exact fun round _ => (round.orderly console).length_spawns_le
  · intro earlier call later isSpawn split
    rw [Session.calls_run] at split
    obtain ⟨past, round, future, inner, rest, shape, place, whole⟩ :=
      flatMap_eq_append_cons split
    refine ⟨past, round, future, inner, rest, shape, place, whole, ?_⟩
    rw [whole]
    exact round_spawn_justified (Session.world_of_rounds console shape) isSpawn place

/-- Two tools, the first of which can be opened only once. -/
def vanishingWorld : World :=
  (World.bare []).changeAll
    [.set pathVariable (Text.of "/a:/b"),
      .place [Text.of "a", Text.of "tool"]
        (.regular 0o755 (Openings.ofList [none, some .noEntry]) (.running [] [] 0)),
      .place [Text.of "b", Text.of "tool"] (.regular 0o755 (fun _ => none) (.running [] [] 0))]

/-- The second lookup counts, although the first one found another tool. -/
example : calls (evaluateLine Console.terminal (Text.of "tool -x") vanishingWorld).effects =
    [.openFile (Text.of "/a/tool"), .openFile (Text.of "/a/tool"), .openFile (Text.of "/b/tool"),
      .spawn (Text.of "/b/tool") [Text.of "tool", Text.of "-x"] (some (Text.of "/"))] := by
  decide +kernel

end LineShell
