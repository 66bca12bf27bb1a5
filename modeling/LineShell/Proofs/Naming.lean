/-
This file proves that asking what a name stands for tells what a line of that name would do. Both
look the name up in the same way, and in a world where openings have steady answers a lookup leaves
everything as it was, so the lookups of a line cannot come to anything else than the question did.
-/

import LineShell.Proofs.Parsing
import LineShell.Proofs.Rounds

namespace LineShell

open LineShell.Action Effect Console

/-! ### Texts -/

/-- What the question about a name tells, by what the lookup of the name finds. -/
def answer (name : Text) : Except Failure (Option Text) → List Text
  | .ok none => [lineOf (name ++ Text.of ": not found")]
  | .ok (some path) => [lineOf (name ++ Text.of " is " ++ path)]
  | .error _ => []

/-- The answer about a built-in command. -/
def builtinAnswer (name : Text) : Text := lineOf (name ++ Text.of " is a shell builtin")

section

variable {name : Text} {result : Except Failure (Option Text)}

/-- No file is taken for a built-in command, since its path is absolute. -/
theorem answer_ne_builtinAnswer
    (absolute : ∀ path, result = .ok (some path) → Path.isAbsolute path) :
    answer name result ≠ [builtinAnswer name] := by
  intro same
  match result with
  | .error failure => cases same
  | .ok none =>
    have wordings := lineOf_inj.mp (List.singleton_inj.mp same)
    exact absurd (List.append_cancel_left wordings) (by decide)
  | .ok (some path) =>
    have wordings := lineOf_inj.mp (List.singleton_inj.mp same)
    rw [List.append_assoc] at wordings
    have isFile : path = Text.of "a shell builtin" := List.append_cancel_left
      (show Text.of " is " ++ path = Text.of " is " ++ Text.of "a shell builtin" from
        List.append_cancel_left wordings)
    have start := absolute path rfl
    rw [isFile] at start
    exact absurd start (by decide)

theorem not_found_ne_found {path : Text} :
    lineOf (name ++ Text.of ": not found") ≠ lineOf (name ++ (Text.of " is " ++ path)) := by
  intro same
  have heads : some (Glyph.scalar ':') = some (Glyph.scalar ' ') :=
    congrArg List.head? (List.append_cancel_left (lineOf_inj.mp same))
  exact absurd heads (by decide)

theorem answer_eq_found_iff {path : Text} :
    answer name result = [lineOf (name ++ Text.of " is " ++ path)] ↔ result = .ok (some path) := by
  match result with
  | .error failure => simp [answer]
  | .ok none => simp [answer, not_found_ne_found]
  | .ok (some other) => simp [answer, lineOf_inj]

theorem answer_eq_not_found_iff :
    answer name result = [lineOf (name ++ Text.of ": not found")] ↔ result = .ok none := by
  match result with
  | .error failure => simp [answer]
  | .ok none => simp [answer]
  | .ok (some path) => simp [answer, not_found_ne_found.symm]

theorem foundSpawns_eq_iff {arguments : List Text} {directory : Option Text} {path : Text} :
    (∃ others place, foundSpawns arguments directory result = [.spawn path others place]) ↔
      result = .ok (some path) := by
  match result with
  | .error failure => simp [foundSpawns]
  | .ok none => simp [foundSpawns]
  | .ok (some other) => simp [foundSpawns]

end

theorem texts_carrying (console : Console) (line : Text) (command : Command) (world : World) :
    texts (carrying console line command world) =
      texts (command.evaluate console world).effects := rfl

theorem spawns_carrying (console : Console) (line : Text) (command : Command) (world : World) :
    spawns (carrying console line command world) =
      spawns (command.evaluate console world).effects := rfl

namespace Evaluation

variable {console : Console} {world : World} {name : Text}

theorem texts_type_of_builtin (trimmed : Text.trim name = name) (nonempty : name ≠ [])
    (builtin : name ∈ Command.builtinNames) :
    texts (type console name world).effects = [builtinAnswer name] := by
  simp only [type, trimmed]
  rw [if_neg nonempty, if_pos builtin]
  exact texts_writing console _

theorem texts_type_of_not_builtin (trimmed : Text.trim name = name) (nonempty : name ≠ [])
    (other : name ∉ Command.builtinNames) :
    texts (type console name world).effects = answer name (resolve name world).result := by
  simp only [type, trimmed]
  rw [if_neg nonempty, if_neg other]
  have silent := (quiet_resolve name world).texts_eq
  rcases outcome : (resolve name world).result with failure | found
  · rw [bind_of_error outcome]
    exact silent
  · rw [bind_of_ok outcome, Step.effects_after, texts_append, silent, List.nil_append]
    cases found with
    | none => exact texts_writing console _
    | some path => exact texts_writing console _

variable {program : Text} {arguments : List Text}

/-- In a steady world an external command spawns what the lookup of its program finds. -/
theorem spawns_external (steady : world.Steady) :
    spawns (external console program arguments world).effects =
      foundSpawns (program :: arguments) world.directoryPath.toOption
        (resolve program world).result := by
  cases lookup : (resolve program world).result with
  | error failure =>
    rw [external_of_error lookup]
    exact (quiet_resolve program world).spawns_eq
  | ok found =>
    cases found with
    | none => exact spawns_external_of_none lookup
    | some path =>
      rw [spawns_external_of_some lookup, resolve_world_of_steady steady program, lookup]

end Evaluation

/-! ### The question and the line -/

section

variable {name : Text} (isName : name.IsName)

include isName

/-- What the question about a name tells. -/
theorem texts_question (console : Console) (world : World) :
    texts (evaluateLine console (Text.of "type " ++ name) world).effects =
      if name ∈ Command.builtinNames then [builtinAnswer name]
      else answer name (resolve name world).result := by
  rw [evaluateLine_of_some isName.ofLine_type, texts_carrying, Command.evaluate]
  split
  · next builtin => exact Evaluation.texts_type_of_builtin isName.trim_eq isName.nonempty builtin
  · next other => exact Evaluation.texts_type_of_not_builtin isName.trim_eq isName.nonempty other

/-- A keyword is a name that no line asks for a program with. -/
theorem mem_keywords_iff : name ∈ Command.keywords ↔
    ∀ line, (Command.words (Text.trim line)).head? = some name →
      ∀ program arguments, Command.ofLine line ≠ .ok (some (.external program arguments)) := by
  constructor
  · intro builtin line first program arguments parsed
    have notEmpty := Command.trim_ne_nil_of_ofLine parsed
    rw [Command.head_words notEmpty (Text.head?_trim_ne_space line)] at first
    have trimmed := Command.ofTrimmed_of_ofLine parsed
    exact (Command.ofTrimmed_external_iff.mp trimmed).2.1 (Option.some_inj.mp first ▸ builtin)
  · intro never
    by_cases builtin : name ∈ Command.keywords
    · exact builtin
    · obtain ⟨arguments, parsed⟩ := isName.ofLine_external builtin (Or.inl rfl)
      refine absurd parsed (never name ?_ name arguments)
      rw [isName.trim_eq, isName.words_eq]
      rfl

end

/-- Asking what a name stands for tells the truth about lines of that name: whether they ask for a
program at all, and if so, which program they spawn, or that they spawn none and say so. -/
theorem question_tells_truth (console : Console) {world : World} (steady : world.Steady)
    {name : Text} (isName : name.IsName) (notHelp : name ≠ Text.of "help") :
    (texts (evaluateLine console (Text.of "type " ++ name) world).effects =
        [lineOf (name ++ Text.of " is a shell builtin")] ↔
      ∀ line, (Command.words (Text.trim line)).head? = some name →
        ∀ program arguments, Command.ofLine line ≠ .ok (some (.external program arguments))) ∧
    (name ∉ Command.keywords →
      ∀ line, Invokes name line →
        (∀ path, texts (evaluateLine console (Text.of "type " ++ name) world).effects =
            [lineOf (name ++ Text.of " is " ++ path)] ↔
          ∃ arguments directory, spawns (evaluateLine console line world).effects =
            [.spawn path arguments directory]) ∧
        (texts (evaluateLine console (Text.of "type " ++ name) world).effects =
            [lineOf (name ++ Text.of ": not found")] ↔
          spawns (evaluateLine console line world).effects = [] ∧
          texts (evaluateLine console line world).effects =
            [lineOf (name ++ Text.of ": command not found")])) := by
  have builtin_iff : name ∈ Command.builtinNames ↔ name ∈ Command.keywords := by
    simp [Command.builtinNames, Command.keywords, notHelp]
  rw [texts_question isName]
  refine ⟨?_, fun other line form => ?_⟩
  · rw [← mem_keywords_iff isName, ← builtin_iff]
    split
    · next builtin => exact ⟨fun _ => builtin, fun _ => rfl⟩
    · next other =>
      refine ⟨fun same => absurd same ?_, fun builtin => absurd builtin other⟩
      exact answer_ne_builtinAnswer fun path found => isAbsolute_of_resolve found
  · obtain ⟨arguments, parsed⟩ := isName.ofLine_external other form
    rw [if_neg fun builtin => other (builtin_iff.mp builtin), evaluateLine_of_some parsed]
    simp only [spawns_carrying, texts_carrying, Command.evaluate, Evaluation.spawns_external steady]
    refine ⟨fun path => answer_eq_found_iff.trans foundSpawns_eq_iff.symm, ?_⟩
    rw [answer_eq_not_found_iff]
    constructor
    · intro lookup
      exact ⟨by rw [lookup]; rfl, Evaluation.texts_external_of_none lookup⟩
    · rintro ⟨noSpawn, told⟩
      cases lookup : (resolve name world).result with
      | error failure =>
        rw [Evaluation.texts_external_of_error lookup] at told
        cases told
      | ok found =>
        cases found with
        | none => rfl
        | some path =>
          rw [lookup] at noSpawn
          cases noSpawn

/-- A search path of two directories. In the first one nobody may execute the tool. -/
def twoToolsWorld : World :=
  (World.bare []).changeAll
    [.set pathVariable (Text.of "/a:/b"),
      .place [Text.of "a", Text.of "tool"] (.regular 0o644 (fun _ => none) (.running [] [] 0)),
      .place [Text.of "b", Text.of "tool"] (.regular 0o755 (fun _ => none) (.running [] [] 0))]

theorem question_tells_truth_twoToolsWorld :
    twoToolsWorld.Steady ∧ (Text.of "tool").IsName ∧ Text.of "tool" ≠ Text.of "help" ∧
    Text.of "tool" ∉ Command.keywords ∧
    texts (evaluateLine Console.terminal (Text.of "type tool") twoToolsWorld).effects =
      [lineOf (Text.of "tool is /b/tool")] := by
  have steady : twoToolsWorld.Steady :=
    ((World.steady_bare []).place _ fun _ => rfl).place _ fun _ => rfl
  have isName : (Text.of "tool").IsName := ⟨by decide, by decide, by decide, by decide, by decide⟩
  have notHelp : Text.of "tool" ≠ Text.of "help" := by decide
  have notBuiltin : Text.of "tool" ∉ Command.keywords := by decide
  refine ⟨steady, isName, notHelp, notBuiltin, ?_⟩
  have truth := ((question_tells_truth Console.terminal steady isName notHelp).2 notBuiltin
    (Text.of "tool -x  ") (Or.inr ⟨Text.of "-x  ", by decide, rfl⟩)).1 (Text.of "/b/tool")
  exact truth.mpr ⟨[Text.of "tool", Text.of "-x"], some (Text.of "/"), by decide +kernel⟩

end LineShell
