/-
This file separates what an opening uses up from everything else in a world. The settled form of a
world forgets which openings are refused and keeps the rest. Walks, the path of the working
directory and the programs of the files are the same in two worlds with one settled form, so none
of them notices an opening. Where the answers to openings are steady, an opening changes nothing
at all.
-/

import LineShell.System.Calls

namespace LineShell

/-! ### Settled forms -/

namespace Node

/-- The node with no opening refused. -/
def settled : Node → Node
  | .regular mode _ program => .regular mode (fun _ => none) program
  | .directory _ naming entering => .directory (fun _ => none) naming entering
  | .fifo _ => .fifo fun _ => none
  | .link target => .link target
  | .unreachable errno => .unreachable errno

@[simp] theorem settled_opened (node : Node) : node.opened.settled = node.settled := by
  cases node <;> rfl

@[simp] theorem isDirectory_settled (node : Node) :
    node.settled.isDirectory = node.isDirectory := by
  cases node <;> rfl

@[simp] theorem isProgram_settled (node : Node) : node.settled.isProgram = node.isProgram := by
  cases node <;> rfl

@[simp] theorem program_settled (node : Node) : node.settled.program = node.program := by
  cases node <;> rfl

end Node

/-- The tree with no opening refused. -/
def FileTree.settled (tree : FileTree) : FileTree :=
  fun location => (tree location).map Node.settled

/-- Every node of the tree gives the same answer to each of its openings. -/
def FileTree.Steady (tree : FileTree) : Prop :=
  ∀ location node, tree location = some node → node.openings.Steady

theorem FileTree.steady_empty : FileTree.empty.Steady := nofun

theorem FileTree.Steady.place {tree : FileTree} (steady : tree.Steady) (location : Location)
    {node : Node} (answers : node.openings.Steady) : (tree.place location node).Steady := by
  intro other found isFound
  rcases FileTree.place_eq_some isFound with ⟨_, rfl⟩ | ⟨_, rfl⟩ | ⟨_, there⟩
  · exact answers
  · exact fun _ => rfl
  · exact steady other found there

/-- A node and the one it has become after an opening settle alike. -/
theorem FileTree.settled_replace_opened {tree : FileTree} {location : Location} {node : Node}
    (found : tree location = some node) :
    (tree.replace location node.opened).settled = tree.settled := by
  funext other
  by_cases same : other = location
  · subst same
    simp [FileTree.settled, found]
  · simp [FileTree.settled, FileTree.replace_other _ _ same]

namespace World

/-- The world with no opening refused. -/
def settled (world : World) : World := { world with tree := world.tree.settled }

@[simp] theorem environment_settled (world : World) :
    world.settled.environment = world.environment := rfl

/-- Two worlds that settle alike have the same variables. -/
theorem environment_eq_of_settled_eq {first second : World}
    (same : first.settled = second.settled) :
    first.environment = second.environment := by
  rw [← environment_settled first, same, environment_settled]

/-! ### Walks -/

/-- The end of a stretch with no opening refused. -/
def Stretch.settled : Stretch → Stretch
  | .arrived location node => .arrived location node.settled
  | .blocked errno => .blocked errno
  | .detour location names => .detour location names

theorem stretch_settled (tree : FileTree) (location : Location) (names : List Text) :
    stretch tree.settled location names = (stretch tree location names).settled := by
  induction names generalizing location with
  | nil =>
    simp only [stretch, FileTree.settled]
    cases tree location <;> rfl
  | cons name rest inductionHypothesis =>
    rw [stretch, stretch, FileTree.settled]
    cases tree location with
    | none => rfl
    | some node =>
      simp only [Option.map_some, Node.isDirectory_settled, inductionHypothesis]
      split
      · rfl
      split
      · rfl
      split
      · rfl
      split
      · rfl
      rw [FileTree.settled]
      cases below : tree (location ++ [name]) with
      | none => rfl
      | some next => cases next <;> rfl

theorem follow_settled (tree : FileTree) (links : Nat) (location : Location) (names : List Text) :
    follow tree.settled links location names =
      (follow tree links location names).map fun found => (found.1, found.2.settled) := by
  induction links generalizing location names with
  | zero =>
    rw [follow, follow, stretch_settled]
    cases stretch tree location names <;> rfl
  | succ links inductionHypothesis =>
    rw [follow, follow, stretch_settled]
    cases stretch tree location names with
    | arrived _ _ => rfl
    | blocked _ => rfl
    | detour next more => exact inductionHypothesis next more

/-- A walk leads to the same place however often nodes have been opened. -/
theorem walk_settled (world : World) (path : Text) :
    world.settled.walk path =
      (world.walk path).map fun found => (found.1, found.2.settled) := by
  unfold walk
  split
  · rfl
  split
  · rfl
  split
  · rfl
  simp only [settled, follow_settled]
  cases follow world.tree linkLimit (if Path.isAbsolute path then [] else world.directory)
    (Path.names path) <;> rfl

/-- The path of the working directory does not depend on openings. -/
theorem directoryPath_settled (world : World) :
    world.settled.directoryPath = world.directoryPath := by
  simp only [directoryPath, settled, FileTree.settled]
  cases world.tree world.directory with
  | none => rfl
  | some node =>
    cases node with
    | directory _ naming _ => cases naming <;> rfl
    | regular | fifo | link | unreachable => rfl

theorem directoryPath_of_settled_eq {first second : World} (same : first.settled = second.settled) :
    first.directoryPath = second.directoryPath := by
  rw [← directoryPath_settled first, same, directoryPath_settled]

theorem directoryPath_eq {world : World} {path : Text} (told : world.directoryPath = .ok path) :
    path = world.directory.path := by
  unfold directoryPath at told
  split at told
  · cases told
  · cases told
  · exact (Except.ok.inj told).symm

/-! ### What a walk finds is there -/

theorem stretch_arrived {tree : FileTree} {location : Location} {names : List Text}
    {arrival : Location} {node : Node}
    (arrives : stretch tree location names = .arrived arrival node) :
    tree arrival = some node := by
  fun_induction stretch tree location names with
  | case2 location here found =>
    injection arrives with sameLocation sameNode
    rw [← sameLocation, ← sameNode, found]
  | case5 _ _ _ _ _ _ _ inductionHypothesis => exact inductionHypothesis arrives
  | case6 _ _ _ _ _ _ inductionHypothesis => exact inductionHypothesis arrives
  | case11 _ _ _ _ _ _ _ _ _ _ _ _ _ inductionHypothesis => exact inductionHypothesis arrives
  | case1 | case3 | case4 | case7 | case8 | case9 | case10 => cases arrives

theorem follow_ok {tree : FileTree} {links : Nat} {location : Location} {names : List Text}
    {arrival : Location} {node : Node}
    (leads : follow tree links location names = .ok (arrival, node)) :
    tree arrival = some node := by
  fun_induction follow tree links location names with
  | case1 links location names found foundNode arrives =>
    injection leads with pair
    injection pair with sameLocation sameNode
    subst sameLocation sameNode
    exact stretch_arrived arrives
  | case2 | case3 => cases leads
  | case4 _ _ _ _ _ _ inductionHypothesis => exact inductionHypothesis leads

/-- A walk of a path that is not refused outright follows the names of the path. -/
theorem walk_cases (world : World) (path : Text) :
    (Glyph.nul ∈ path ∧ world.walk path = .error .embeddedNul) ∨
    (∃ errno, world.walk path = .error (.reason errno)) ∨
    (∃ found, world.walk path = .ok found ∧ follow world.tree linkLimit
      (if Path.isAbsolute path then [] else world.directory) (Path.names path) = .ok found) := by
  unfold walk
  split
  · exact Or.inl ⟨‹_›, rfl⟩
  split
  · exact Or.inr (Or.inl ⟨_, rfl⟩)
  split
  · exact Or.inr (Or.inl ⟨_, rfl⟩)
  dsimp only
  cases follow world.tree linkLimit (if Path.isAbsolute path then [] else world.directory)
    (Path.names path) with
  | error errno => exact Or.inr (Or.inl ⟨errno, rfl⟩)
  | ok found => exact Or.inr (Or.inr ⟨found, rfl, rfl⟩)

/-- The end of a walk is a place of the tree with its node. -/
theorem walk_found {world : World} {path : Text} {location : Location} {node : Node}
    (leads : world.walk path = .ok (location, node)) : world.tree location = some node := by
  rcases walk_cases world path with ⟨_, refused⟩ | ⟨_, refused⟩ | ⟨found, ended, followed⟩
  · rw [refused] at leads
    cases leads
  · rw [refused] at leads
    cases leads
  · rw [ended] at leads
    injection leads with same
    subst same
    exact follow_ok followed

/-- A path without the character that would end it is only ever refused for a reason. -/
theorem walk_reason {world : World} {path : Text} (whole : Glyph.nul ∉ path) {obstacle : Obstacle}
    (refused : world.walk path = .error obstacle) : ∃ errno, obstacle = .reason errno := by
  rcases walk_cases world path with ⟨ended, _⟩ | ⟨errno, reason⟩ | ⟨_, leads, _⟩
  · exact absurd ended whole
  · rw [reason] at refused
    exact ⟨errno, (Except.error.inj refused).symm⟩
  · rw [leads] at refused
    cases refused

/-! ### Openings -/

/-- The world after an opening of a path: the node it leads to, if any, has one answer less. -/
def opened (world : World) (path : Text) : World :=
  match world.walk path with
  | .ok (location, node) => { world with tree := world.tree.replace location node.opened }
  | .error _ => world

/-- An opening is forgotten in the settled form. -/
@[simp] theorem settled_opened (world : World) (path : Text) :
    (world.opened path).settled = world.settled := by
  unfold opened
  cases outcome : world.walk path with
  | error obstacle => rfl
  | ok found =>
    simp only [settled]
    rw [FileTree.settled_replace_opened (walk_found outcome)]

/-- The world after the openings of some paths in a row. -/
def openedAll (world : World) (paths : List Text) : World := paths.foldl opened world

theorem settled_openedAll (world : World) (paths : List Text) :
    (world.openedAll paths).settled = world.settled := by
  induction paths generalizing world with
  | nil => rfl
  | cons path rest inductionHypothesis =>
    exact (inductionHypothesis (world.opened path)).trans (settled_opened world path)

/-- Every node gives the same answer to each of its openings. -/
def Steady (world : World) : Prop := world.tree.Steady

/-- Without files every world is steady. -/
theorem steady_bare (directory : Location) : (bare directory).Steady :=
  ((FileTree.steady_empty.place [] fun _ => rfl).place directory fun _ => rfl)

/-- In a steady world an opening changes nothing. -/
theorem Steady.opened_eq {world : World} (steady : world.Steady) (path : Text) :
    world.opened path = world := by
  unfold opened
  cases outcome : world.walk path with
  | error obstacle => rfl
  | ok found =>
    have there := walk_found outcome
    simp only
    rw [Node.opened_eq (steady _ _ there), FileTree.replace_eq_self there]

theorem Steady.openedAll_eq {world : World} (steady : world.Steady) (paths : List Text) :
    world.openedAll paths = world := by
  induction paths with
  | nil => rfl
  | cons path rest inductionHypothesis =>
    rw [openedAll, List.foldl_cons, steady.opened_eq]
    exact inductionHypothesis

end World

end LineShell
