/-
This file puts the surroundings of the shell together: the environment variables, the working
directory and the file tree. A walk finds the node that a path leads to, name by name and through
symbolic links; a stretch of a walk is the part up to the next link, and since a walk follows
only so many links it always ends.
-/

import LineShell.System.Tree
import LineShell.Text.Utf8

namespace LineShell

/-- The environment: the value of each variable that is set. -/
abbrev Environment := Text → Option Text

/-- The surroundings of the shell. -/
@[ext] structure World where
  environment : Environment
  /-- The working directory. -/
  directory : Location
  tree : FileTree

namespace World

/-- A world with no variables and no files but the working directory and those it lies in. -/
def bare (directory : Location) : World where
  environment := fun _ => none
  directory := directory
  tree := (FileTree.empty.place [] .plainDirectory).place directory .plainDirectory

/-! ### Changes -/

/-- The world after one change. -/
def change (world : World) : Change → World
  | .set name value =>
    { world with
      environment := fun other => if other = name then some value else world.environment other }
  | .unset name =>
    { world with
      environment := fun other => if other = name then none else world.environment other }
  | .place location node => { world with tree := world.tree.place location node }
  | .clear location => { world with tree := world.tree.clear location }

/-- The world after some changes in a row. -/
def changeAll (world : World) (changes : List Change) : World := changes.foldl change world

/-- No change moves the working directory. -/
@[simp] theorem directory_change (world : World) (change : Change) :
    (world.change change).directory = world.directory := by
  cases change <;> rfl

@[simp] theorem changeAll_nil (world : World) : world.changeAll [] = world := rfl

@[simp] theorem changeAll_cons (world : World) (first : Change) (rest : List Change) :
    world.changeAll (first :: rest) = (world.change first).changeAll rest := rfl

@[simp] theorem directory_changeAll (world : World) (changes : List Change) :
    (world.changeAll changes).directory = world.directory := by
  induction changes generalizing world with
  | nil => rfl
  | cons first rest inductionHypothesis =>
    rw [changeAll_cons, inductionHypothesis, directory_change]

/-! ### Walks -/

/-- Where a stretch of a walk ends. -/
inductive Stretch where
  /-- All names are used up. -/
  | arrived (location : Location) (node : Node)
  /-- There is no way on. -/
  | blocked (errno : Errno)
  /-- A link sends the walk on from a location through other names. -/
  | detour (location : Location) (names : List Text)

/-- The length in bytes from which a path is too long. -/
def pathLimit : Nat := 4096

/-- The length in bytes that a name may have. -/
def nameLimit : Nat := 255

/-- The number of links that a walk may follow. -/
def linkLimit : Nat := 40

/-- The walk from a location through the names up to the first link. Every name is looked up in
a directory, also an empty one. -/
def stretch (tree : FileTree) : Location → List Text → Stretch
  | location, [] =>
    match tree location with
    | none => .blocked .noEntry
    | some node => .arrived location node
  | location, name :: rest =>
    match tree location with
    | none => .blocked .noEntry
    | some node =>
      if ¬ node.isDirectory then .blocked .notDirectory
      else if name = [] ∨ name = Path.here then stretch tree location rest
      else if name = Path.above then stretch tree location.parent rest
      else if nameLimit < (Text.bytes name).length then .blocked .nameTooLong
      else
        match tree (location ++ [name]) with
        | none => .blocked .noEntry
        | some (.unreachable errno) => .blocked errno
        | some (.link target) =>
          .detour (if Path.isAbsolute target then [] else location) (Path.names target ++ rest)
        | some _ => stretch tree (location ++ [name]) rest

/-- The walk from a location through the names, over at most so many links. -/
def follow (tree : FileTree) :
    (links : Nat) → Location → List Text → Except Errno (Location × Node)
  | links, location, names =>
    match stretch tree location names with
    | .arrived location node => .ok (location, node)
    | .blocked errno => .error errno
    | .detour location names =>
      match links with
      | 0 => .error .tooManyLinks
      | links + 1 => follow tree links location names

/-- Why a path leads nowhere. -/
inductive Obstacle where
  /-- The path holds the character that would end it. -/
  | embeddedNul
  /-- The operating system gives a reason. -/
  | reason (errno : Errno)
  deriving DecidableEq, Repr

/-- The failure of a call that was given a path. -/
def Obstacle.failure (path : Text) : Obstacle → Failure
  | .embeddedNul => .embeddedNul
  | .reason errno => .refused (.known errno (some path))

/-- Where a path leads, links followed to their ends. -/
def walk (world : World) (path : Text) : Except Obstacle (Location × Node) :=
  if Glyph.nul ∈ path then .error .embeddedNul
  else if path = [] then .error (.reason .noEntry)
  else if pathLimit ≤ (Text.bytes path).length then .error (.reason .nameTooLong)
  else
    let start := if Path.isAbsolute path then [] else world.directory
    (follow world.tree linkLimit start (Path.names path)).mapError .reason

end World

end LineShell
