/-
This file says which commands fail, and why. A request to leave always fails, with its status. Of
the other commands only those that look a program up can fail, and they fail exactly where the
first candidate that the world offers is relative and the working directory has no path. What goes
wrong later, in the second lookup, in the spawn or in the program, is told to the user instead; the
exception is an interruption, which is the user's own doing.
-/

import LineShell.Proofs.Running
import LineShell.Proofs.Words

namespace LineShell

open LineShell.Action Effect

/-! ### Texts that the operating system takes -/

/-- No variable has a value with the character that ends texts. -/
def Environment.NulFree (environment : Environment) : Prop :=
  ∀ name value, environment name = some value → Glyph.nul ∉ value

/-- What the command looks up or enters is free of that character. Texts that it only writes, or
only hands to a program, may hold it. -/
def Command.NulFree : Command → Prop
  | .type target => Glyph.nul ∉ target
  | .cd (some path) => Glyph.nul ∉ path
  | .external program _ => Glyph.nul ∉ program
  | .exit _ | .echo _ | .pwd | .cd none | .unrecognized _ => True

theorem Environment.nulFree_empty : NulFree fun _ => none := nofun

theorem Environment.NulFree.set {environment : Environment} (whole : environment.NulFree)
    (name : Text) {value : Text} (free : Glyph.nul ∉ value) :
    NulFree fun other => if other = name then some value else environment other := by
  intro other text found
  dsimp only at found
  split at found
  · exact Option.some_inj.mp found ▸ free
  · exact whole other text found

/-- Candidates are free of that character if the search path and the name are. -/
theorem Environment.nul_notMem_candidates {environment : Environment} {name : Text}
    (whole : ∀ value ∈ environment pathVariable, .nul ∉ value) (named : .nul ∉ name) :
    ∀ candidate ∈ environment.candidates name, .nul ∉ candidate := by
  intro candidate member inside
  obtain ⟨directory, listed, rfl⟩ := List.mem_map.mp member
  have field := (List.mem_filter.mp listed).1
  rcases Path.mem_of_mem_join inside with inDirectory | isSlash | inName
  · have inValue := Text.mem_of_mem_splitOn field inDirectory
    cases value : environment pathVariable with
    | none =>
      rw [value] at inValue
      cases inValue
    | some text =>
      rw [value] at inValue
      exact whole text value inValue
  · exact absurd isSlash (by decide)
  · exact named inName

theorem Environment.NulFree.candidates {environment : Environment} (whole : environment.NulFree)
    {name : Text} (named : Glyph.nul ∉ name) :
    ∀ candidate ∈ environment.candidates name, Glyph.nul ∉ candidate :=
  nul_notMem_candidates (whole pathVariable) named

/-! ### Directories -/

theorem enterDirectory_error {path : Text} (whole : Glyph.nul ∉ path) {world : World}
    {failure : Failure} (failed : (enterDirectory path world).result = .error failure) :
    ∃ refusal, failure = .refused refusal := by
  rcases enterDirectory_apply path world with ⟨obstacle, barred, shape⟩ | ⟨_, _, _, _, shape⟩
  · rw [shape] at failed
    rw [← Except.error.inj failed]
    exact (World.failure_of_entryObstacle barred).resolve_right fun held => whole held.2
  · rw [shape] at failed
    cases failed

/-- A change of directory is only ever refused. -/
theorem changeDirectory_error {path : Text} (whole : Glyph.nul ∉ path) {world : World}
    {failure : Failure} (failed : (changeDirectory path world).result = .error failure) :
    ∃ refusal, failure = .refused refusal := by
  rw [changeDirectory, bind_error_iff] at failed
  rcases failed with failed | ⟨value, _, failed⟩
  · exact enterDirectory_error whole failed
  · rw [bind_error_iff] at failed
    rcases failed with failed | ⟨directory, _, failed⟩
    · exact World.directoryPath_error failed
    · cases failed

namespace Evaluation

variable {console : Console} {world : World}

theorem pwd_result : (pwd console world).result = .ok () := by
  rw [pwd, attempt_bind, Step.result_after]
  cases (workingDirectory world).result <;> rfl

theorem goTo_result {target : Text} (whole : Glyph.nul ∉ target) :
    (goTo console target world).result = .ok () := by
  rw [goTo, attempt_bind, Step.result_after]
  cases outcome : (changeDirectory target world).result with
  | ok value => rfl
  | error failure =>
    obtain ⟨refusal, rfl⟩ := changeDirectory_error whole outcome
    rfl

/-- Where a change of directory is to go is told without that character if the home directory and
the path are. -/
theorem nul_notMem_cdTarget {environment : Environment} {path : Option Text} {target : Text}
    (home : ∀ value, environment homeVariable = some value → Glyph.nul ∉ value)
    (whole : ∀ text, path = some text → Glyph.nul ∉ text)
    (heads : cdTarget environment path = some target) : Glyph.nul ∉ target := by
  unfold cdTarget at heads
  split at heads
  · exact home target (Option.eq_some_of_filter_eq_some heads)
  · exact whole target heads

theorem cd_result {path : Option Text} (values : world.environment.NulFree)
    (fields : (Command.cd path).NulFree) : (cd console path world).result = .ok () := by
  rw [cd, look_bind]
  cases heads : cdTarget world.environment path with
  | none => rfl
  | some target =>
    refine goTo_result (nul_notMem_cdTarget (values homeVariable) ?_ heads)
    rintro text rfl
    exact fields

end Evaluation

/-! ### Interruptions -/

/-- Whether a call spawns a program that the user interrupts. -/
def World.interrupts (world : World) : Call → Bool
  | .spawn path _ _ =>
    match world.walk path with
    | .ok (_, node) =>
      match node.program with
      | .failing _ _ (.interrupted _) => true
      | _ => false
    | .error _ => false
  | _ => false

/-- No program is spawned that the user interrupts. -/
def World.Spares (world : World) (effects : List Effect) : Prop :=
  ∀ call ∈ spawns effects, world.interrupts call = false

instance (world : World) (effects : List Effect) : Decidable (world.Spares effects) :=
  inferInstanceAs (Decidable (∀ call ∈ spawns effects, world.interrupts call = false))

theorem World.interrupts_settled (world : World) (call : Call) :
    world.settled.interrupts call = world.interrupts call := by
  cases call with
  | openFile | enter => rfl
  | spawn path arguments directory =>
    rw [interrupts, interrupts, walk_settled]
    cases world.walk path with
    | error obstacle => rfl
    | ok found => simp only [Except.map, Node.program_settled]

/-- What is interrupted does not depend on openings. -/
theorem World.interrupts_of_settled_eq {first second : World}
    (same : first.settled = second.settled) (call : Call) :
    first.interrupts call = second.interrupts call := by
  rw [← interrupts_settled first, same, interrupts_settled]

theorem resolve_refused {name : Text} {world : World} {failure : Failure}
    (values : world.environment.NulFree) (named : Glyph.nul ∉ name)
    (failed : (resolve name world).result = .error failure) :
    ∃ refusal, failure = .refused refusal := by
  by_cases empty : name = []
  · rw [resolve, if_pos empty] at failed
    cases failed
  · obtain ⟨_, _, _, lost⟩ := (resolve_error_iff empty (values.candidates named)).mp failed
    exact World.directoryPath_error lost

/-- A run that is interrupted has spawned the program that was. -/
theorem run_interrupted {name : Text} {rest : List Text} {directory : Option Text} {world : World}
    {message : Text} (values : world.environment.NulFree) (named : Glyph.nul ∉ name)
    (failed : (launch (name :: rest) directory world).result =
      .error (.mishap (.interrupted message))) :
    ¬ world.Spares (run (name :: rest) directory world).effects := by
  intro spared
  rcases launch_mishap failed with lookup | ⟨path, found, spawned⟩
  · obtain ⟨refusal, different⟩ := resolve_refused values named lookup
    cases different
  · obtain ⟨location, node, output, changes, leads, program⟩ := spawn_mishap spawned
    have listed : Call.spawn path (name :: rest) directory ∈
        spawns (run (name :: rest) directory world).effects := by
      rw [spawns_run, found]
      exact List.mem_singleton_self _
    have quiet := spared _ listed
    rw [← World.interrupts_of_settled_eq (settled_resolve name world)] at quiet
    simp only [World.interrupts, leads, program] at quiet
    cases quiet

/-! ### Lookups of a command -/

/-- The name that a command looks up first, if it looks one up. -/
def Command.lookedUp : Command → Option Text
  | .type target =>
    let name := Text.trim target
    if name = [] then none else if builtinNames.contains name then none else some name
  | .external program _ => if program = [] then none else some program
  | _ => none

/-- The name is not empty, and it is a part of the command. -/
theorem Command.lookedUp_cases {command : Command} {name : Text}
    (looks : command.lookedUp = some name) : name ≠ [] ∧
      ((∃ target, command = .type target ∧ name = Text.trim target) ∨
        ∃ arguments, command = .external name arguments) := by
  cases command with
  | type target =>
    simp only [lookedUp] at looks
    split at looks
    · cases looks
    next nonempty =>
    split at looks
    · cases looks
    · have same := Option.some_inj.mp looks
      exact ⟨same ▸ nonempty, Or.inl ⟨target, rfl, same.symm⟩⟩
  | external program arguments =>
    simp only [lookedUp] at looks
    split at looks
    · cases looks
    next nonempty =>
    have same := Option.some_inj.mp looks
    exact ⟨same ▸ nonempty, Or.inr ⟨arguments, by rw [same]⟩⟩
  | exit | echo | pwd | cd | unrecognized => cases looks

theorem Command.NulFree.lookedUp {command : Command} (fields : command.NulFree) {name : Text}
    (looks : command.lookedUp = some name) : Glyph.nul ∉ name := by
  rcases (Command.lookedUp_cases looks).2 with ⟨target, rfl, rfl⟩ | ⟨arguments, rfl⟩
  · exact fun inside => fields (Text.mem_of_mem_trim inside)
  · exact fields

namespace Evaluation

variable {console : Console} {world : World} {failure : Failure}

/-- Telling what a name stands for fails where the lookup of the name fails. -/
theorem type_error_iff {target : Text} :
    (type console target world).result = .error failure ↔
      ∃ name, (Command.type target).lookedUp = some name ∧
        (resolve name world).result = .error failure := by
  rw [Command.lookedUp]
  unfold type
  by_cases empty : Text.trim target = []
  · simp [empty, give]
  by_cases builtin : Text.trim target ∈ Command.builtinNames
  · simp [empty, builtin, Console.writeLine]
  · simp only [empty, builtin, List.contains_eq_mem, decide_eq_true_eq, if_false,
      Option.some.injEq, exists_eq_left', bind_error_iff]
    refine ⟨?_, Or.inl⟩
    rintro (lookup | ⟨found, _, told⟩)
    · exact lookup
    · cases found <;> cases told

/-- An external command that is not interrupted fails where its first lookup fails. -/
theorem external_error_iff {program : Text} {arguments : List Text}
    (values : world.environment.NulFree) (named : Glyph.nul ∉ program)
    (spared : world.Spares (external console program arguments world).effects) :
    (external console program arguments world).result = .error failure ↔
      (resolve program world).result = .error failure := by
  cases lookup : (resolve program world).result with
  | error cause =>
    rw [external_of_error lookup]
    simp
  | ok found =>
    cases found with
    | none =>
      rw [external_of_none lookup]
      exact ⟨nofun, nofun⟩
    | some path =>
      refine ⟨fun failed => ?_, nofun⟩
      rw [external_of_some lookup] at failed spared
      rw [Step.result_after] at failed
      cases outcome : (externalRun program arguments world).result with
      | ok ended =>
        rw [outcome, report] at failed
        cases message : ended.statusMessage <;> simp [message, give, Console.writeLine] at failed
      | error cause =>
        rw [outcome] at failed
        rcases run_error outcome with ⟨name, rfl⟩ | ⟨reason, rfl⟩ | ⟨message, rfl, launched⟩
        · cases failed
        · cases failed
        · have settles := settled_resolve program world
          have sameValues := World.environment_eq_of_settled_eq settles
          refine absurd ?_ (run_interrupted (sameValues ▸ values) named launched)
          intro call member
          rw [World.interrupts_of_settled_eq settles]
          refine spared call ?_
          simp only [Step.effects_after, spawns_append, List.mem_append]
          exact Or.inl (Or.inr (Or.inr member))

end Evaluation

/-- A command fails if it asks to leave, or if the lookup of its name fails. -/
theorem evaluate_error_iff_resolve {console : Console} {command : Command} {world : World}
    {failure : Failure} (values : world.environment.NulFree) (fields : command.NulFree)
    (spared : world.Spares (command.evaluate console world).effects) :
    (command.evaluate console world).result = .error failure ↔
      (∃ code, command = .exit code ∧ failure = .exit (Command.exitStatus code)) ∨
      ∃ name, command.lookedUp = some name ∧ (resolve name world).result = .error failure := by
  cases command with
  | exit code =>
    have leaves : ((Command.exit code).evaluate console world).result =
        .error (.exit (Command.exitStatus code)) := rfl
    rw [leaves]
    simp [Command.lookedUp, eq_comm]
  | echo | unrecognized => simp [Command.evaluate, Console.writeLine, Command.lookedUp]
  | pwd => simp [Command.evaluate, Evaluation.pwd_result, Command.lookedUp]
  | cd path => simp [Command.evaluate, Evaluation.cd_result values fields, Command.lookedUp]
  | type target =>
    rw [Command.evaluate, Evaluation.type_error_iff]
    simp
  | external program arguments =>
    rw [Command.evaluate, Evaluation.external_error_iff values fields spared]
    by_cases empty : program = []
    · simp [empty, Command.lookedUp, resolve, give]
    · simp [empty, Command.lookedUp]

/-- A command fails exactly if it asks to leave, or if the first candidate that the world offers for
the name it looks up is relative while the working directory has no path. -/
theorem evaluate_error_iff {console : Console} {command : Command} {world : World}
    {failure : Failure} (values : world.environment.NulFree) (fields : command.NulFree)
    (spared : world.Spares (command.evaluate console world).effects) :
    (command.evaluate console world).result = .error failure ↔
      (∃ code, command = .exit code ∧ failure = .exit (Command.exitStatus code)) ∨
      ∃ name candidate, command.lookedUp = some name ∧
        world.firstOffered (world.environment.candidates name) = some candidate ∧
        Path.isAbsolute candidate = false ∧ world.directoryPath = .error failure := by
  rw [evaluate_error_iff_resolve values fields spared]
  refine or_congr_right (exists_congr fun name => ?_)
  by_cases looks : command.lookedUp = some name
  · have whole := values.candidates (fields.lookedUp looks)
    rw [resolve_error_iff (Command.lookedUp_cases looks).1 whole]
    simp [looks]
  · simp [looks]

/-- A working directory whose path cannot be told, and a program below it that the search path
names from there. -/
def lostWorld : World :=
  (World.bare [Text.of "w"]).changeAll
    [.set pathVariable (Text.of "bin"),
      .place [Text.of "w"] (.directory (fun _ => none) (some .accessDenied) none),
      .place [Text.of "w", Text.of "bin", Text.of "ls"]
        (.regular 0o755 (fun _ => none) (.running [] [] 0))]

/-- The failure of a lost working directory goes through an external command. -/
theorem evaluate_error_lostWorld :
    lostWorld.environment.NulFree ∧ (Command.external (Text.of "ls") []).NulFree ∧
    lostWorld.Spares
      ((Command.external (Text.of "ls") []).evaluate Console.terminal lostWorld).effects ∧
    ((Command.external (Text.of "ls") []).evaluate Console.terminal lostWorld).result =
      .error (.refused (.known .accessDenied none)) := by
  have values : lostWorld.environment.NulFree :=
    Environment.nulFree_empty.set pathVariable (by decide)
  have fields : (Command.external (Text.of "ls") []).NulFree := by
    show Glyph.nul ∉ Text.of "ls"
    decide
  have spared : lostWorld.Spares
      ((Command.external (Text.of "ls") []).evaluate Console.terminal lostWorld).effects := by
    decide +kernel
  refine ⟨values, fields, spared, (evaluate_error_iff values fields spared).mpr (Or.inr ?_)⟩
  exact ⟨Text.of "ls", Text.of "bin/ls", rfl, by decide +kernel, by decide, rfl⟩

end LineShell
