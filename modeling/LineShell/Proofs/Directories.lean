/-
This file says what a change of the working directory comes to. The shell enters the directory, and
then asks for its path, only to note it down. A refusal of that question is told to the user as if
the directory had not been entered, although the shell has moved. So a change of directory is all or
nothing exactly if the shell does not move to a directory whose path cannot be told.
-/

import LineShell.Proofs.Failures

namespace LineShell

open LineShell.Action Effect Console

/-! ### Entering a directory -/

/-- The path leads to a directory that can be entered, and this is the reason for which the
directory does not tell its path, if there is one. -/
def World.Admits (world : World) (path : Text) (location : Location) (naming : Option Errno) :
    Prop :=
  ∃ openings, world.walk path = .ok (location, .directory openings naming none)

theorem World.Admits.unique {world : World} {path : Text} {first second : Location}
    {naming other : Option Errno} (admits : world.Admits path first naming)
    (too : world.Admits path second other) : first = second ∧ naming = other := by
  obtain ⟨openings, leads⟩ := admits
  obtain ⟨_, leadsToo⟩ := too
  rw [leads, Except.ok.injEq, Prod.mk.injEq, Node.directory.injEq] at leadsToo
  exact ⟨leadsToo.1, leadsToo.2.2.1⟩

/-- A directory is entered if its path leads there and it can be. Otherwise nothing changes. -/
theorem enterDirectory_cases {path : Text} (whole : Glyph.nul ∉ path) (world : World) :
    (∃ location naming, world.Admits path location naming ∧
      enterDirectory path world =
        ⟨.ok (), { world with directory := location }, [.called (.enter path)]⟩) ∨
    ((∀ location naming, ¬ world.Admits path location naming) ∧
      ∃ refusal, enterDirectory path world =
        ⟨.error (.refused refusal), world, [.called (.enter path)]⟩) := by
  rcases enterDirectory_apply path world with
    ⟨obstacle, barred, shape⟩ | ⟨location, node, leads, barrier, shape⟩
  · refine Or.inr ⟨fun location naming admits => ?_, ?_⟩
    · obtain ⟨openings, leads⟩ := admits
      simp [World.entryObstacle, leads] at barred
    · obtain ⟨refusal, refused⟩ := (World.failure_of_entryObstacle barred).resolve_right
        fun held => whole held.2
      exact ⟨refusal, by rw [shape, refused]⟩
  · cases node with
    | directory openings naming entering =>
      obtain rfl : entering = none := barrier
      exact Or.inl ⟨location, naming, ⟨openings, leads⟩, shape⟩
    | regular | fifo | link | unreachable => cases barrier

/-- What the directory that is entered answers to the question for its path. -/
theorem directoryPath_of_admits {world : World} {path : Text} {location : Location}
    {naming : Option Errno} (admits : world.Admits path location naming) :
    { world with directory := location }.directoryPath =
      match naming with
      | none => .ok location.path
      | some errno => .error (.refused (.known errno none)) := by
  obtain ⟨openings, leads⟩ := admits
  have there : world.tree location = some (.directory openings naming none) :=
    World.walk_found leads
  simp only [World.directoryPath, there]
  cases naming <;> rfl

/-- A change of directory fails where the directory is not entered, and where it is entered and does
not tell its path. -/
theorem changeDirectory_of_admits {world : World} {path : Text} (whole : Glyph.nul ∉ path)
    {location : Location} {naming : Option Errno} (admits : world.Admits path location naming) :
    (changeDirectory path world).world = { world with directory := location } ∧
    (changeDirectory path world).result =
      match naming with
      | none => .ok ()
      | some errno => .error (.refused (.known errno none)) := by
  rcases enterDirectory_cases whole world with ⟨other, same, admitted, enters⟩ | ⟨barred, _⟩
  · obtain ⟨rfl, rfl⟩ := admits.unique admitted
    have told := directoryPath_of_admits admits
    rw [changeDirectory, bind_of_ok (by rw [enters]), enters]
    cases naming <;>
      simp [bind_apply, workingDirectory, told, Step.after]
  · exact absurd admits (barred location naming)

theorem changeDirectory_of_barred {world : World} {path : Text} (whole : Glyph.nul ∉ path)
    (barred : ∀ location naming, ¬ world.Admits path location naming) :
    (changeDirectory path world).world = world ∧
    ∃ refusal, (changeDirectory path world).result = .error (.refused refusal) := by
  rcases enterDirectory_cases whole world with ⟨location, naming, admits, _⟩ | ⟨_, refusal, stays⟩
  · exact absurd admits (barred location naming)
  · rw [changeDirectory, bind_of_error (by rw [stays]), stays]
    exact ⟨rfl, refusal, rfl⟩

/-! ### Going to a directory -/

/-- What the user is told about a directory that the shell does not go to. -/
def noSuchDirectory (target : Text) : Text :=
  Text.of "cd: " ++ target ++ Text.of ": No such file or directory"

namespace Evaluation

variable (console : Console) {world : World} {target : Text}

theorem goTo_of_ok (success : (changeDirectory target world).result = .ok ()) :
    (goTo console target world).result = .ok () ∧
    (goTo console target world).world = (changeDirectory target world).world ∧
    texts (goTo console target world).effects = [] := by
  rw [goTo, attempt_bind, success]
  refine ⟨rfl, rfl, ?_⟩
  rw [Step.effects_after, texts_append, (quiet_changeDirectory target world).texts_eq]
  rfl

theorem goTo_of_refused {refusal : Refusal}
    (refused : (changeDirectory target world).result = .error (.refused refusal)) :
    (goTo console target world).result = .ok () ∧
    (goTo console target world).world = (changeDirectory target world).world ∧
    texts (goTo console target world).effects = [lineOf (noSuchDirectory target)] := by
  rw [goTo, attempt_bind, refused]
  refine ⟨rfl, rfl, ?_⟩
  rw [Step.effects_after, texts_append, (quiet_changeDirectory target world).texts_eq,
    List.nil_append]
  exact console.texts_writing _

/-- How going to a target comes out: what is said, and where the shell is then. -/
inductive Going (world : World) (target : Text) : Option Text → Location → Prop
  /-- The shell moves, and nothing is said. -/
  | arrived {location : Location} : world.Admits target location none →
      Going world target none location
  /-- The target cannot be entered, and the shell stays. -/
  | barred : (∀ location naming, ¬ world.Admits target location naming) →
      Going world target (some (noSuchDirectory target)) world.directory
  /-- The shell moves, and the user is told that it did not. -/
  | unnamed {location : Location} {errno : Errno} : world.Admits target location (some errno) →
      Going world target (some (noSuchDirectory target)) location

/-- Going to a target comes to its normal end and changes nothing but the working directory. -/
theorem goTo_going (whole : Glyph.nul ∉ target) : ∃ said location,
    Going world target said location ∧
    (goTo console target world).result = .ok () ∧
    (goTo console target world).world = { world with directory := location } ∧
    texts (goTo console target world).effects = said.toList.map lineOf := by
  by_cases admitted : ∃ location naming, world.Admits target location naming
  · obtain ⟨location, naming, admits⟩ := admitted
    obtain ⟨moved, outcome⟩ := changeDirectory_of_admits whole admits
    cases naming with
    | none =>
      obtain ⟨success, left, silent⟩ := goTo_of_ok console outcome
      exact ⟨none, location, .arrived admits, success, left.trans moved, silent⟩
    | some errno =>
      obtain ⟨success, left, told⟩ := goTo_of_refused console outcome
      exact ⟨_, location, .unnamed admits, success, left.trans moved, told⟩
  · have barred : ∀ location naming, ¬ world.Admits target location naming :=
      fun location naming admits => admitted ⟨location, naming, admits⟩
    obtain ⟨stayed, refusal, refused⟩ := changeDirectory_of_barred whole barred
    obtain ⟨success, left, told⟩ := goTo_of_refused console refused
    exact ⟨_, world.directory, .barred barred, success, left.trans stayed, told⟩

/-! ### All or nothing -/

/-- A change of directory that is all or nothing, by the texts that are written and the place where
the shell is then. Either nothing is written and the shell is where the destination leads, or one
line is written and the shell is where it was. -/
inductive AllOrNothing (world : World) : Option Text → List Text → Location → Prop
  | moved {target : Text} {location : Location} {node : Node} :
      world.walk target = .ok (location, node) → node.isDirectory →
      AllOrNothing world (some target) [] location
  | homeless : AllOrNothing world none [lineOf (Text.of "cd: HOME not set")] world.directory
  | stayed {target : Text} :
      AllOrNothing world (some target) [lineOf (noSuchDirectory target)] world.directory

/-- Going to a target is all or nothing unless the shell moves to another directory that does not
tell its path. -/
theorem Going.allOrNothing_iff {said : Option Text} {location : Location}
    (going : Going world target said location) :
    AllOrNothing world (some target) (said.toList.map lineOf) location ↔
      ∀ place errno, world.Admits target place (some errno) → place = world.directory := by
  cases going with
  | arrived admits =>
    obtain ⟨openings, leads⟩ := id admits
    refine ⟨fun _ place errno other => ?_, fun _ => .moved leads rfl⟩
    cases (admits.unique other).2
  | barred barred =>
    exact ⟨fun _ place errno admits => absurd admits (barred place _), fun _ => .stayed⟩
  | unnamed admits =>
    constructor
    · rintro ⟨⟩ place errno other
      exact (other.unique admits).1
    · intro same
      rw [same _ _ admits]
      exact .stayed

/-- A change of directory is to go home if no path or `~` is given, and to the path otherwise. -/
theorem cdTarget_eq (environment : Environment) (path : Option Text) :
    cdTarget environment path = if path = none ∨ path = some (Text.of "~") then
      (environment homeVariable).filter fun home => !home.isEmpty else path :=
  if_congr decide_eq_true_iff rfl rfl

theorem cd_of_homeless {path : Option Text} (nowhere : cdTarget world.environment path = none) :
    cd console path world =
      ⟨.ok (), world, console.writing (lineOf (Text.of "cd: HOME not set"))⟩ := by
  rw [cd, look_bind, nowhere]
  rfl

theorem cd_of_target {path : Option Text}
    (heads : cdTarget world.environment path = some target) :
    cd console path world = goTo console target world := by
  rw [cd, look_bind, heads]

end Evaluation

/-- A change of directory comes to its normal end and leaves the variables and the files as they
are. It goes home if no path or `~` is given. It is all or nothing exactly if the shell does not
move to another directory that does not tell its path. Where it does, the user is told that there is
no such directory. -/
theorem cd_allOrNothing_iff (console : Console) {path : Option Text} {world : World}
    (home : ∀ value, world.environment homeVariable = some value → Glyph.nul ∉ value)
    (whole : ∀ text, path = some text → Glyph.nul ∉ text) :
    let step := (Command.cd path).evaluate console world
    let destination := if path = none ∨ path = some (Text.of "~") then
      (world.environment homeVariable).filter fun home => !home.isEmpty else path
    step.result = .ok () ∧
    step.world.environment = world.environment ∧ step.world.tree = world.tree ∧
    (Evaluation.AllOrNothing world destination (texts step.effects) step.world.directory ↔
      ∀ target location errno, destination = some target →
        world.Admits target location (some errno) → location = world.directory) ∧
    ∀ target location errno, destination = some target →
      world.Admits target location (some errno) →
      texts step.effects = [lineOf (noSuchDirectory target)] ∧
      step.world.directory = location := by
  intro step destination
  have same : Evaluation.cdTarget world.environment path = destination :=
    Evaluation.cdTarget_eq world.environment path
  cases chosen : destination with
  | none =>
    have heads := same.trans chosen
    have shape : step = _ := Evaluation.cd_of_homeless console heads
    have told : texts step.effects = [lineOf (Text.of "cd: HOME not set")] := by
      rw [shape]
      exact console.texts_writing _
    rw [told, shape]
    exact ⟨rfl, rfl, rfl, ⟨fun _ => nofun, fun _ => .homeless⟩, nofun⟩
  | some target =>
    have heads := same.trans chosen
    have shape : step = Evaluation.goTo console target world :=
      Evaluation.cd_of_target console heads
    obtain ⟨said, location, going, success, left, told⟩ :=
      Evaluation.goTo_going console (Evaluation.nul_notMem_cdTarget home whole heads)
    rw [← shape] at success left told
    rw [told, left]
    refine ⟨success, rfl, rfl, ?_, ?_⟩
    · rw [going.allOrNothing_iff]
      constructor
      · rintro stays other place errno same admits
        obtain rfl := Option.some_inj.mp same
        exact stays place errno admits
      · exact fun stays place errno admits => stays target place errno rfl admits
    · rintro other place errno same admits
      obtain rfl := Option.some_inj.mp same
      cases going with
      | arrived arrives => cases (arrives.unique admits).2
      | barred barred => exact absurd admits (barred place _)
      | unnamed arrives => exact ⟨rfl, (arrives.unique admits).1⟩

/-- A directory that can be entered and does not tell its path. -/
def blindWorld : World :=
  (World.bare [Text.of "w"]).change
    (.place [Text.of "blind"] (.directory (fun _ => none) (some .accessDenied) none))

/-- The shell moves there, and says that it does not. -/
theorem cd_blindWorld :
    let step := (Command.cd (some (Text.of "/blind"))).evaluate Console.terminal blindWorld
    (∀ value, blindWorld.environment homeVariable = some value → Glyph.nul ∉ value) ∧
    (∀ text, some (Text.of "/blind") = some text → Glyph.nul ∉ text) ∧
    ¬ Evaluation.AllOrNothing blindWorld (some (Text.of "/blind")) (texts step.effects)
      step.world.directory ∧
    texts step.effects = [lineOf (noSuchDirectory (Text.of "/blind"))] ∧
    blindWorld.directory = [Text.of "w"] ∧ step.world.directory = [Text.of "blind"] := by
  intro step
  have home : ∀ value, blindWorld.environment homeVariable = some value → Glyph.nul ∉ value := nofun
  have whole : ∀ text, some (Text.of "/blind") = some text → Glyph.nul ∉ text := by
    rintro _ ⟨⟩
    decide
  have admits : blindWorld.Admits (Text.of "/blind") [Text.of "blind"] (some .accessDenied) :=
    ⟨_, rfl⟩
  obtain ⟨_, _, _, atomic, otherwise⟩ := cd_allOrNothing_iff Console.terminal home whole
  obtain ⟨told, moved⟩ := otherwise _ _ _ rfl admits
  refine ⟨home, whole, fun all => ?_, told, rfl, moved⟩
  have same := atomic.mp all _ _ _ rfl admits
  exact absurd same (by decide)

end LineShell
