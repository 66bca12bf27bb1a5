/-
This file cuts a session into rounds, one for each line that it reads, and shows that the session
is nothing but its rounds: each starts with the prompt, in the world that the round before it
left, and the first one that fails is the last. What comes after the rounds depends only on that
failure.
-/

import LineShell.Session

namespace LineShell

open LineShell.Action

/-! ### One line -/

theorem readCommand_apply {line : Text} {command : Option Command}
    (parsed : Command.ofLine line = .ok command) (world : World) :
    readCommand line world = ⟨.ok command, world,
      command.toList.map fun command => .noted (lineEntry (Text.trim line) command)⟩ := by
  unfold readCommand
  rw [bind_of_ok (show (settle (Command.ofLine line) world).result = .ok command from parsed)]
  cases command <;> rfl

/-- A line that is not understood fails before anything is done. -/
theorem evaluateLine_of_error {line : Text} {failure : Failure}
    (refused : Command.ofLine line = .error failure) (console : Console) (world : World) :
    evaluateLine console line world = ⟨.error failure, world, []⟩ := by
  have unread : readCommand line world = ⟨.error failure, world, []⟩ :=
    bind_of_error (show (settle (Command.ofLine line) world).result = .error failure from refused) _
  unfold evaluateLine
  rw [bind_of_error (by rw [unread]), unread]

/-- A blank line does nothing. -/
theorem evaluateLine_of_none {line : Text} (parsed : Command.ofLine line = .ok none)
    (console : Console) (world : World) :
    evaluateLine console line world = ⟨.ok none, world, []⟩ := by
  unfold evaluateLine
  rw [bind_of_ok (by rw [readCommand_apply parsed]), readCommand_apply parsed]
  rfl

/-- What carrying a line's command out does, the entry about the line in front. -/
def carrying (console : Console) (line : Text) (command : Command) (world : World) : List Effect :=
  .noted (lineEntry (Text.trim line) command) :: (command.evaluate console world).effects

/-- Any other line that is understood is carried out. -/
theorem evaluateLine_of_some {line : Text} {command : Command}
    (parsed : Command.ofLine line = .ok (some command)) (console : Console) (world : World) :
    evaluateLine console line world =
      ⟨(command.evaluate console world).result.map fun _ => some command,
        (command.evaluate console world).world, carrying console line command world⟩ := by
  unfold evaluateLine
  rw [bind_of_ok (by rw [readCommand_apply parsed]), readCommand_apply parsed]
  dsimp only
  rcases outcome : (command.evaluate console world).result with failure | value
  · rw [bind_of_error outcome]
    rfl
  · rw [bind_of_ok outcome]
    simp [Step.after, carrying, give, Except.map]

/-! ### Rounds -/

/-- A line that a session reads, and the world that it is read in. -/
structure Round where
  line : Text
  world : World

/-- What comes of the line. -/
def Round.step (console : Console) (round : Round) : Step (Option Command) :=
  evaluateLine console round.line round.world

namespace Session

variable (console : Console)

/-- The rounds of a session over some lines. -/
def rounds : List Text → World → List Round
  | [], _ => []
  | line :: rest, world =>
    ⟨line, world⟩ ::
      match (evaluateLine console line world).result with
      | .ok _ => rounds rest (evaluateLine console line world).world
      | .error _ => []

/-- The failure that ends a session before its lines are used up, if there is one. -/
def breakOff : List Text → World → Option Failure
  | [], _ => none
  | line :: rest, world =>
    match (evaluateLine console line world).result with
    | .ok _ => breakOff rest (evaluateLine console line world).world
    | .error failure => some failure

/-- The world that the last round leaves. -/
def lastWorld : List Text → World → World
  | [], world => world
  | line :: rest, world =>
    match (evaluateLine console line world).result with
    | .ok _ => lastWorld rest (evaluateLine console line world).world
    | .error _ => (evaluateLine console line world).world

/-- What a session does after its rounds. -/
def closing (prompt : Text) : Option Failure → List Effect
  | none => console.prompting prompt ++ [.noted Console.endOfInput, .noted exhausted]
  | some (.exit status) => [.noted (ended status)]
  | some _ => []

/-- What a session comes to: a request to leave is no failure of the session. -/
def verdict : Option Failure → Except Failure Int
  | none => .ok 0
  | some (.exit status) => .ok status
  | some failure => .error failure

variable {console} {line : Text} {rest : List Text} {world : World}

section

variable {command : Option Command}
  (success : (evaluateLine console line world).result = .ok command)

include success

theorem rounds_of_ok : rounds console (line :: rest) world =
    ⟨line, world⟩ :: rounds console rest (evaluateLine console line world).world := by
  rw [rounds, success]

theorem breakOff_of_ok : breakOff console (line :: rest) world =
    breakOff console rest (evaluateLine console line world).world := by
  rw [breakOff, success]

theorem lastWorld_of_ok : lastWorld console (line :: rest) world =
    lastWorld console rest (evaluateLine console line world).world := by
  rw [lastWorld, success]

end

section

variable {failure : Failure} (failed : (evaluateLine console line world).result = .error failure)

include failed

theorem rounds_of_error : rounds console (line :: rest) world = [⟨line, world⟩] := by
  rw [rounds, failed]

theorem breakOff_of_error : breakOff console (line :: rest) world = some failure := by
  rw [breakOff, failed]

theorem lastWorld_of_error : lastWorld console (line :: rest) world =
    (evaluateLine console line world).world := by
  rw [lastWorld, failed]

end

/-- The effects of a round, the prompt in front. -/
def roundEffects (console : Console) (prompt : Text) (round : Round) : List Effect :=
  console.prompting prompt ++ (round.step console).effects

/-- The turns of a session are its rounds and what comes after them. -/
theorem turns_eq (console : Console) (prompt : Text) (lines : List Text) (world : World) :
    turns console prompt lines world =
      { result := verdict (breakOff console lines world)
        unread := lines.drop (rounds console lines world).length
        world := lastWorld console lines world
        effects := (rounds console lines world).flatMap (roundEffects console prompt) ++
          closing console prompt (breakOff console lines world) } := by
  induction lines generalizing world with
  | nil => rfl
  | cons line rest inductionHypothesis =>
    rw [turns]
    rcases outcome : (evaluateLine console line world).result with failure | command
    · rw [breakOff_of_error outcome, rounds_of_error outcome, lastWorld_of_error outcome]
      cases failure <;> simp [closing, verdict, roundEffects, Round.step]
    · rw [breakOff_of_ok outcome, rounds_of_ok outcome, lastWorld_of_ok outcome]
      simp only [inductionHypothesis, Ending.after, roundEffects, Round.step, List.length_cons,
        List.drop_succ_cons, List.flatMap_cons, List.append_assoc]

theorem run_eq (console : Console) (prompt : Text) (lines : List Text) (world : World) :
    run console prompt lines world =
      { result := verdict (breakOff console lines world)
        unread := lines.drop (rounds console lines world).length
        world := lastWorld console lines world
        effects := .noted started ::
          ((rounds console lines world).flatMap (roundEffects console prompt) ++
            closing console prompt (breakOff console lines world)) } := by
  rw [run, turns_eq]
  rfl

/-- The rounds are about the first lines, in order. -/
theorem map_line_rounds (console : Console) (lines : List Text) (world : World) :
    (rounds console lines world).map Round.line =
      lines.take (rounds console lines world).length := by
  induction lines generalizing world with
  | nil => rfl
  | cons line rest inductionHypothesis =>
    rcases outcome : (evaluateLine console line world).result with failure | command
    · rw [rounds_of_error outcome]
      rfl
    · rw [rounds_of_ok outcome, List.map_cons, inductionHypothesis, List.length_cons,
        List.take_succ_cons]

/-- A session that does not break off reads every line. -/
theorem length_rounds_of_breakOff_none {lines : List Text} {world : World}
    (whole : breakOff console lines world = none) :
    (rounds console lines world).length = lines.length := by
  induction lines generalizing world with
  | nil => rfl
  | cons line rest inductionHypothesis =>
    rcases outcome : (evaluateLine console line world).result with failure | command
    · rw [breakOff_of_error outcome] at whole
      cases whole
    · rw [breakOff_of_ok outcome] at whole
      rw [rounds_of_ok outcome, List.length_cons, inductionHypothesis whole, List.length_cons]

/-- A failure ends a session in its last round. -/
theorem rounds_of_breakOff {lines : List Text} {world : World} {failure : Failure}
    (broken : breakOff console lines world = some failure) :
    ∃ past round, rounds console lines world = past ++ [round] ∧
      (round.step console).result = .error failure := by
  induction lines generalizing world with
  | nil => cases broken
  | cons line rest inductionHypothesis =>
    rcases outcome : (evaluateLine console line world).result with other | command
    · rw [breakOff_of_error outcome, Option.some_inj] at broken
      exact ⟨[], ⟨line, world⟩, rounds_of_error outcome, broken ▸ outcome⟩
    · rw [breakOff_of_ok outcome] at broken
      obtain ⟨past, round, shape, failed⟩ := inductionHypothesis broken
      refine ⟨⟨line, world⟩ :: past, round, ?_, failed⟩
      rw [rounds_of_ok outcome, shape, List.cons_append]

end Session

end LineShell
