/-
This file fixes the file tree that the shell works on. A tree gives each location a node or none;
a location is the list of names that leads to it from the root. What a file does when it is run
belongs to the file, and running it may change files and environment variables, so programs,
nodes and changes are defined together.
-/

import LineShell.Failure
import LineShell.System.Path

namespace LineShell

/-! ### Locations -/

/-- A place in the tree: the names on the way from the root. The way of a working directory that
was given with two leading slashes starts with an empty name. -/
abbrev Location := List Text

namespace Location

/-- The path of a location. -/
def path (location : Location) : Text := .slash :: Text.joined .slash location

/-- The location that an absolute path names, each of its names taken as it stands. -/
def ofPath (path : Text) : Location :=
  match path.tail with
  | [] => []
  | rest => Path.names rest

/-- The location above. The root is above itself, and nothing but the root is above a first name,
also where an empty name comes before it. -/
def parent (location : Location) : Location :=
  if location.dropLast = [[]] then [] else location.dropLast

/-- Whether a location lies on the way to another one, without being it. -/
def leadsTo (upper lower : Location) : Bool :=
  upper.isPrefixOf lower && upper.length < lower.length && upper ≠ [[]]

@[simp] theorem path_root : path [] = [.slash] := rfl

@[simp] theorem parent_root : parent [] = [] := rfl

end Location

/-! ### Nodes -/

/-- The answers to the next openings of a node, the first of them for the very next: a refusal or
none. -/
abbrev Openings := Nat → Option Errno

namespace Openings

/-- The answers as listed, the last of them for ever; without any, nothing is refused. -/
def ofList (answers : List (Option Errno)) : Openings :=
  fun turn => (answers[turn]?.getD (answers.getLast?.getD none))

/-- The answers that are left after one opening. -/
def afterOne (openings : Openings) : Openings := fun turn => openings (turn + 1)

/-- Every opening gets the same answer. -/
def Steady (openings : Openings) : Prop := ∀ turn, openings turn = openings 0

/-- Steady answers are not used up. -/
theorem Steady.afterOne_eq {openings : Openings} (steady : openings.Steady) :
    openings.afterOne = openings := by
  funext turn
  rw [afterOne, steady (turn + 1), steady turn]

end Openings

mutual

/-- What is found at a location. -/
inductive Node where
  /-- A file with its permission bits, its answers to openings, and what running it does. -/
  | regular (mode : Nat) (openings : Openings) (program : Program)
  /-- A directory with its answers to openings. Asking for its path, or making it a working
  directory, may be refused. -/
  | directory (openings : Openings) (naming entering : Option Errno)
  /-- A named pipe with its answers to openings. -/
  | fifo (openings : Openings)
  /-- A symbolic link. -/
  | link (target : Text)
  /-- Something that cannot be reached. -/
  | unreachable (errno : Errno)

/-- What running a file does. -/
inductive Program where
  /-- The operating system does not run it, for a known reason. -/
  | refused (errno : Errno)
  /-- The operating system does not run it, with a refusal of the program's own. -/
  | refusedWith (refusal : Refusal)
  /-- It writes and changes the world until it goes wrong in another way. -/
  | failing (output : List UInt8) (changes : List Change) (mishap : Mishap)
  /-- It writes, changes the world and ends with a code, which is negative if a signal killed
  it. -/
  | running (output : List UInt8) (changes : List Change) (code : Int)

/-- One change of the world. -/
inductive Change where
  /-- Set an environment variable. -/
  | set (name value : Text)
  /-- Remove an environment variable. -/
  | unset (name : Text)
  /-- Put a node at a location, and plain directories where the way to it is missing. -/
  | place (location : Location) (node : Node)
  /-- Remove a location and everything below it. -/
  | clear (location : Location)

end

namespace Node

/-- A directory that refuses nothing. -/
def plainDirectory : Node := .directory (fun _ => none) none none

/-- Whether a node is a directory. -/
def isDirectory : Node → Bool
  | .directory .. => true
  | _ => false

/-- Whether a node is a regular file that everyone may execute. -/
def isProgram : Node → Bool
  | .regular mode _ _ => mode % 2 = 1
  | _ => false

/-- The answers of a node to openings. -/
def openings : Node → Openings
  | .regular _ openings _ => openings
  | .directory openings _ _ => openings
  | .fifo openings => openings
  | .link _ => fun _ => none
  | .unreachable errno => fun _ => some errno

/-- The node after one opening. -/
def opened : Node → Node
  | .regular mode openings program => .regular mode openings.afterOne program
  | .directory openings naming entering => .directory openings.afterOne naming entering
  | .fifo openings => .fifo openings.afterOne
  | other => other

/-- Whether there is anyone who may execute a file with these permission bits. -/
def executable (mode : Nat) : Bool := mode % 2 = 1 ∨ mode / 8 % 2 = 1 ∨ mode / 64 % 2 = 1

/-- What running a node does. Only a regular file that someone may execute is run at all. -/
def program : Node → Program
  | .regular mode _ program => if executable mode then program else .refused .accessDenied
  | _ => .refused .accessDenied

/-- What keeps a node from being the working directory of the shell or of a program. -/
def barrier : Node → Option Errno
  | .directory _ _ entering => entering
  | _ => some .notDirectory

/-- An opening changes neither the kind of a node nor its permission bits. -/
@[simp] theorem isProgram_opened (node : Node) : node.opened.isProgram = node.isProgram := by
  cases node <;> rfl

@[simp] theorem isDirectory_opened (node : Node) : node.opened.isDirectory = node.isDirectory := by
  cases node <;> rfl

/-- A node with steady answers is the same after an opening. -/
theorem opened_eq {node : Node} (steady : node.openings.Steady) : node.opened = node := by
  cases node with
  | regular mode openings program =>
    exact congrArg (Node.regular mode · program) (Openings.Steady.afterOne_eq steady)
  | directory openings naming entering =>
    exact congrArg (Node.directory · naming entering) (Openings.Steady.afterOne_eq steady)
  | fifo openings => exact congrArg Node.fifo (Openings.Steady.afterOne_eq steady)
  | link target => rfl
  | unreachable errno => rfl

end Node

/-! ### Trees -/

/-- A file tree: the node at each location, if there is one. -/
abbrev FileTree := Location → Option Node

namespace FileTree

/-- The tree that holds nothing. -/
def empty : FileTree := fun _ => none

/-- The tree with another node at one location. -/
def replace (tree : FileTree) (location : Location) (node : Node) : FileTree :=
  fun other => if other = location then some node else tree other

/-- The tree with a node placed at a location, and plain directories on the way where nothing
was. -/
def place (tree : FileTree) (location : Location) (node : Node) : FileTree :=
  fun other =>
    if other = location then some node
    else if other.leadsTo location then some ((tree other).getD .plainDirectory)
    else tree other

/-- The tree without a location and what is below it. -/
def clear (tree : FileTree) (location : Location) : FileTree :=
  fun other => if location.isPrefixOf other then none else tree other

@[simp] theorem replace_self (tree : FileTree) (location : Location) (node : Node) :
    tree.replace location node location = some node := by
  simp [replace]

theorem replace_other (tree : FileTree) {location other : Location} (node : Node)
    (different : other ≠ location) : tree.replace location node other = tree other := by
  simp [replace, different]

/-- Replacing a node by itself changes nothing. -/
theorem replace_eq_self {tree : FileTree} {location : Location} {node : Node}
    (found : tree location = some node) : tree.replace location node = tree := by
  funext other
  by_cases same : other = location
  · subst same
    rw [replace_self, found]
  · exact replace_other tree node same

@[simp] theorem place_self (tree : FileTree) (location : Location) (node : Node) :
    tree.place location node location = some node := by
  simp [place]

/-- What is found after a node has been placed is that node, or a new directory on the way to it,
or what was there before. -/
theorem place_eq_some {tree : FileTree} {location other : Location} {node found : Node}
    (isFound : tree.place location node other = some found) :
    (other = location ∧ found = node) ∨
    (other.leadsTo location ∧ found = .plainDirectory) ∨
    (other ≠ location ∧ tree other = some found) := by
  unfold place at isFound
  split at isFound
  · next same => exact Or.inl ⟨same, (Option.some_inj.mp isFound).symm⟩
  next different =>
  split at isFound
  · next leads =>
    cases there : tree other with
    | none =>
      rw [there] at isFound
      exact Or.inr (Or.inl ⟨leads, (Option.some_inj.mp isFound).symm⟩)
    | some old =>
      rw [there] at isFound
      exact Or.inr (Or.inr ⟨different, isFound⟩)
  · exact Or.inr (Or.inr ⟨different, isFound⟩)

end FileTree

end LineShell
