/-
This file proves that only a request to leave or the end of the input ends a session. Up to that
point the session is a course over its lines: a blank line does nothing, and any other line is
carried out once, in the world that the line before it left. What a session needs for this is that
its rounds are fair: the texts of the environment can be given to the operating system, programs are
looked up in absolute directories, no program is interrupted, and no exit code has too many digits.
-/

import LineShell.Proofs.Parsing
import LineShell.Proofs.Rounds

namespace LineShell

open LineShell.Action Effect

/-! ### Lookups in absolute directories -/

/-- In absolute directories only absolute candidates are offered. -/
theorem firstOffered_isAbsolute {world : World} {name candidate : Text}
    (absolute : ∀ directory ∈ world.environment.searchPath, Path.isAbsolute directory)
    (first : world.firstOffered (world.environment.candidates name) = some candidate) :
    Path.isAbsolute candidate := by
  obtain ⟨directory, listed, rfl⟩ := List.mem_map.mp (World.mem_of_firstOffered first)
  exact Path.isAbsolute_join (absolute directory listed)

/-! ### Fair rounds -/

/-- Nothing that would break a session off can happen in the round. -/
structure Round.Fair (console : Console) (round : Round) : Prop where
  values : round.world.environment.NulFree
  absolute : ∀ directory ∈ round.world.environment.searchPath, Path.isAbsolute directory
  spared : round.world.Spares (round.step console).effects
  short : Command.Short (Text.trim round.line)

/-- No command but a request to leave fails in a fair round. -/
theorem Round.Fair.evaluate_result {console : Console} {round : Round} (fair : round.Fair console)
    {command : Command} (parsed : Command.ofLine round.line = .ok (some command))
    (stays : ∀ code, command ≠ .exit code) :
    (command.evaluate console round.world).result = .ok () := by
  rcases Command.ofTrimmed_cases (Command.ofTrimmed_of_ofLine parsed) with
    ⟨code, isExit, _⟩ | ⟨_, fields⟩
  · exact absurd isExit (stays code)
  have spared : round.world.Spares (command.evaluate console round.world).effects := by
    have whole := fair.spared
    rw [Round.step, evaluateLine_of_some parsed] at whole
    exact whole
  cases outcome : (command.evaluate console round.world).result with
  | ok value => rfl
  | error failure =>
    rcases (evaluate_error_iff_resolve fair.values fields spared).mp outcome with
      ⟨code, isExit, _⟩ | ⟨name, looks, failed⟩
    · exact absurd isExit (stays code)
    · have named := (Command.lookedUp_cases looks).1
      obtain ⟨candidate, first, relative, _⟩ :=
        (resolve_error_iff named (fair.values.candidates (fields.lookedUp looks))).mp failed
      rw [firstOffered_isAbsolute fair.absolute first] at relative
      cases relative

/-! ### Courses -/

namespace Session

/-- A course of a session over some lines, none of which asks to leave: what each line does, from
the world at the start to that at the end. A blank line does nothing, and any other one is carried
out once and comes to its normal end. -/
inductive Course (console : Console) : World → List Text → List (List Effect) → World → Prop
  | done (world : World) : Course console world [] [] world
  | blank {world final : World} {line : Text} {rest : List Text} {pieces : List (List Effect)} :
      Text.trim line = [] → Course console world rest pieces final →
      Course console world (line :: rest) ([] :: pieces) final
  | carried {world final : World} {line : Text} {rest : List Text} {pieces : List (List Effect)}
      {command : Command} :
      Command.ofLine line = .ok (some command) → (∀ code, command ≠ .exit code) →
      (command.evaluate console world).result = .ok () →
      Course console (command.evaluate console world).world rest pieces final →
      Course console world (line :: rest) (carrying console line command world :: pieces) final

theorem Course.length_eq {console : Console} {world final : World} {lines : List Text}
    {pieces : List (List Effect)} (course : Course console world lines pieces final) :
    pieces.length = lines.length := by
  induction course with
  | done => rfl
  | blank _ _ inductionHypothesis => rw [List.length_cons, List.length_cons, inductionHypothesis]
  | carried _ _ _ _ inductionHypothesis =>
    rw [List.length_cons, List.length_cons, inductionHypothesis]

/-- No line of a course asks to leave. -/
theorem Course.stays {console : Console} {world final : World} {lines : List Text}
    {pieces : List (List Effect)} (course : Course console world lines pieces final) :
    ∀ line ∈ lines, ∀ code, Command.ofLine line ≠ .ok (some (.exit code)) := by
  induction course with
  | done => exact fun _ member => absurd member List.not_mem_nil
  | blank empty _ inductionHypothesis =>
    intro line member code
    rcases List.mem_cons.mp member with rfl | inRest
    · rw [Command.ofLine_of_trim_eq_nil empty]
      exact nofun
    · exact inductionHypothesis line inRest code
  | carried parsed different _ _ inductionHypothesis =>
    intro line member code
    rcases List.mem_cons.mp member with rfl | inRest
    · rw [parsed]
      intro same
      exact different code (Option.some_inj.mp (Except.ok.inj same))
    · exact inductionHypothesis line inRest code

/-- A fair round either goes on with the course or asks to leave. -/
theorem fair_cases {console : Console} {round : Round} (fair : round.Fair console) :
    (∃ command next piece, round.step console = ⟨.ok command, next, piece⟩ ∧
      ∀ lines pieces final, Course console next lines pieces final →
        Course console round.world (round.line :: lines) (piece :: pieces) final) ∨
    (∃ code, Command.ofLine round.line = .ok (some (.exit code)) ∧
      0 ≤ Command.exitStatus code ∧ Command.exitStatus code ≤ ExitCode.largest ∧
      round.step console = ⟨.error (.exit (Command.exitStatus code)), round.world,
        carrying console round.line (.exit code) round.world⟩) := by
  rcases Command.ofLine_of_short fair.short with blank | ⟨command, parsed⟩
  · have nothing := evaluateLine_of_none (Command.ofLine_of_trim_eq_nil blank) console round.world
    exact Or.inl ⟨none, round.world, [], nothing, fun _ _ _ course => .blank blank course⟩
  · rcases Command.ofTrimmed_cases (Command.ofTrimmed_of_ofLine parsed) with
      ⟨code, rfl, low, high⟩ | ⟨stays, _⟩
    · exact Or.inr ⟨code, parsed, low, high, evaluateLine_of_some parsed console round.world⟩
    · have success := fair.evaluate_result parsed stays
      refine Or.inl ⟨some command, _, _, ?_,
        fun _ _ _ course => .carried parsed stays success course⟩
      rw [Round.step, evaluateLine_of_some parsed, success]
      rfl

/-- The effects of some turns, the prompt before each of them. -/
def prompted (console : Console) (prompt : Text) (pieces : List (List Effect)) : List Effect :=
  pieces.flatMap fun piece => console.prompting prompt ++ piece

theorem prompted_cons (console : Console) (prompt : Text) (piece : List Effect)
    (rest : List (List Effect)) : prompted console prompt (piece :: rest) =
      console.prompting prompt ++ piece ++ prompted console prompt rest := by
  rw [prompted, List.flatMap_cons]
  rfl

/-- What the end of the input does. -/
def runningOut : List Effect := [.noted Console.endOfInput, .noted exhausted]

/-- Fair turns are a course that ends where a line asks to leave or where no line is left. -/
theorem turns_of_fair {console : Console} (prompt : Text) {lines : List Text} {world : World}
    (fair : ∀ round ∈ rounds console lines world, round.Fair console) :
    (∃ before line after code pieces final, lines = before ++ line :: after ∧
      Course console world before pieces final ∧
      Command.ofLine line = .ok (some (.exit code)) ∧
      0 ≤ Command.exitStatus code ∧ Command.exitStatus code ≤ ExitCode.largest ∧
      turns console prompt lines world =
        { result := .ok (Command.exitStatus code)
          unread := after
          world := final
          effects :=
            prompted console prompt (pieces ++ [carrying console line (.exit code) final]) ++
              [.noted (ended (Command.exitStatus code))] }) ∨
    (∃ pieces final, Course console world lines pieces final ∧
      turns console prompt lines world =
        { result := .ok 0
          unread := []
          world := final
          effects := prompted console prompt (pieces ++ [runningOut]) }) := by
  induction lines generalizing world with
  | nil =>
    refine Or.inr ⟨[], world, .done world, ?_⟩
    rw [List.nil_append, prompted_cons]
    simp [turns, prompted, runningOut]
  | cons line rest inductionHypothesis =>
    have first : (⟨line, world⟩ : Round).Fair console := fair _ List.mem_cons_self
    rcases fair_cases first with
      ⟨command, next, piece, step, goesOn⟩ | ⟨code, parsed, low, high, step⟩
    · have turn : evaluateLine console line world = ⟨.ok command, next, piece⟩ := step
      have success : (evaluateLine console line world).result = .ok command := by rw [turn]
      have later : ∀ round ∈ rounds console rest next, round.Fair console := by
        intro round member
        refine fair round ?_
        rw [rounds_of_ok success, turn]
        exact List.mem_cons_of_mem _ member
      have whole : turns console prompt (line :: rest) world =
          (turns console prompt rest next).after (console.prompting prompt ++ piece) := by
        rw [turns, turn]
      rcases inductionHypothesis later with
        ⟨before, last, after, code, pieces, final, shape, course, parsed, low, high, ending⟩ |
        ⟨pieces, final, course, ending⟩
      · refine Or.inl ⟨line :: before, last, after, code, piece :: pieces, final, ?_,
          goesOn _ _ _ course, parsed, low, high, ?_⟩
        · rw [shape, List.cons_append]
        · rw [whole, ending, List.cons_append, prompted_cons, List.append_assoc]
          rfl
      · refine Or.inr ⟨piece :: pieces, final, goesOn _ _ _ course, ?_⟩
        rw [whole, ending, List.cons_append, prompted_cons]
        rfl
    · have turn : evaluateLine console line world = _ := step
      refine Or.inl ⟨[], line, rest, code, [], world, rfl, .done world, parsed, low, high, ?_⟩
      rw [turns, turn, List.nil_append, prompted_cons]
      simp [prompted]

/-- How a session over some lines may come to its end. It has a status, that of the first line that
asks to leave or zero where there is none; the lines before that one are carried out in order, those
after it are left unread; and each line that is read has its prompt, as has the end of the input. -/
inductive Ends (console : Console) (prompt : Text) (lines : List Text) (world : World) :
    Ending → Prop
  /-- A line asks to leave, and no line before it does. -/
  | left {before after : List Text} {line : Text} {code : Option Int} {pieces : List (List Effect)}
      {final : World} : lines = before ++ line :: after →
      (∀ earlier ∈ before, ∀ other, Command.ofLine earlier ≠ .ok (some (.exit other))) →
      Command.ofLine line = .ok (some (.exit code)) →
      0 ≤ Command.exitStatus code → Command.exitStatus code ≤ 255 →
      Course console world before pieces final →
      (pieces ++ [carrying console line (.exit code) final]).length = before.length + 1 →
      Ends console prompt lines world
        { result := .ok (Command.exitStatus code)
          unread := after
          world := final
          effects := .noted started ::
            (prompted console prompt (pieces ++ [carrying console line (.exit code) final]) ++
              [.noted (ended (Command.exitStatus code))]) }
  /-- No line asks to leave. -/
  | exhausted {pieces : List (List Effect)} {final : World} :
      (∀ line ∈ lines, ∀ code, Command.ofLine line ≠ .ok (some (.exit code))) →
      Course console world lines pieces final →
      (pieces ++ [runningOut]).length = lines.length + 1 →
      Ends console prompt lines world
        { result := .ok 0
          unread := []
          world := final
          effects := .noted started :: prompted console prompt (pieces ++ [runningOut]) }

/-- A world with one program, which changes the environment and ends with a code. -/
def toolWorld : World :=
  (World.bare []).changeAll
    [.set pathVariable (Text.of "/bin"),
      .place [Text.of "bin", Text.of "tool"]
        (.regular 0o755 (fun _ => none) (.running [] [.set homeVariable (Text.of "/")] 3))]

/-- A blank line, a program, a request to leave, and a line that is not read. -/
def toolLines : List Text := [Text.of " ", Text.of "tool", Text.of "exit 7", Text.of "pwd"]

end Session

end LineShell
