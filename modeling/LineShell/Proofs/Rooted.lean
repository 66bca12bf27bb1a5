/-
This file says what every file tree of an operating system is like: whatever is there lies in a
directory, although the directory may be out of reach. The trees here are only tables of nodes, so
this is a property that a tree can have. The shell itself never takes it away: an opening leaves
each node what it is, and entering a directory leaves the tree alone. So it lasts for a whole
session as long as no program that is run puts something else in the place of a directory that is
not empty.
-/

import LineShell.Proofs.History
import LineShell.Proofs.Telling

namespace LineShell

open Effect

/-! ### The way to a location -/

namespace Location

theorem leadsTo_iff {upper lower : Location} :
    upper.leadsTo lower ↔ upper <+: lower ∧ upper.length < lower.length ∧ upper ≠ [[]] := by
  simp [leadsTo, and_assoc]

theorem length_lt_of_leadsTo {upper lower : Location} (leads : upper.leadsTo lower) :
    upper.length < lower.length :=
  (leadsTo_iff.mp leads).2.1

/-- The way to a location goes through its parent, unless it is the root. -/
theorem parent_leadsTo {location : Location} (below : location ≠ []) :
    location.parent.leadsTo location := by
  have nonempty : 0 < location.length := List.length_pos_iff.mpr below
  rw [leadsTo_iff]
  unfold parent
  split
  · exact ⟨List.nil_prefix, nonempty, nofun⟩
  · next different =>
    refine ⟨List.dropLast_prefix location, ?_, different⟩
    rw [List.length_dropLast]
    omega

/-- The parent of what lies on the way lies on the way as well. -/
theorem parent_leadsTo_of_leadsTo {upper lower : Location} (leads : upper.leadsTo lower) :
    upper.parent.leadsTo lower := by
  by_cases below : upper = []
  · rw [below, parent_root, ← below]
    exact leads
  · obtain ⟨front, shorter, named⟩ := leadsTo_iff.mp (parent_leadsTo below)
    have whole := (leadsTo_iff.mp leads).1
    exact leadsTo_iff.mpr
      ⟨front.trans whole, shorter.trans (length_lt_of_leadsTo leads), named⟩

theorem length_parent_le (location : Location) : location.parent.length ≤ location.length := by
  by_cases below : location = []
  · rw [below, parent_root]
  · exact (length_lt_of_leadsTo (parent_leadsTo below)).le

end Location

/-! ### Trees -/

/-- Whether there may be something below a node: a directory, or one that is out of reach. -/
def Node.holdsOthers : Node → Bool
  | .directory .. | .unreachable _ => true
  | .regular .. | .fifo _ | .link _ => false

@[simp] theorem Node.holdsOthers_settled (node : Node) :
    node.settled.holdsOthers = node.holdsOthers := by
  cases node <;> rfl

theorem Node.not_isProgram_of_holdsOthers {node : Node} (holds : node.holdsOthers) :
    ¬node.isProgram := by
  cases node with
  | directory | unreachable => exact nofun
  | regular | fifo | link => cases holds

namespace FileTree

/-- Whatever is there lies in a directory, which may be out of reach. The root lies in itself. -/
def Rooted (tree : FileTree) : Prop :=
  ∀ location node upper, tree location = some node → tree location.parent = some upper →
    upper.holdsOthers

/-- A tree of nothing but directories is rooted. -/
theorem rooted_of_holdsOthers {tree : FileTree}
    (all : ∀ location node, tree location = some node → node.holdsOthers) : tree.Rooted :=
  fun location _ upper _ above => all location.parent upper above

/-- What can be opened and what is opened does not matter. -/
theorem rooted_settled_iff {tree : FileTree} : tree.settled.Rooted ↔ tree.Rooted := by
  constructor
  · intro rooted location node upper found above
    have settles := rooted location node.settled upper.settled (by rw [settled, found]; rfl)
      (by rw [settled, above]; rfl)
    rw [← Node.holdsOthers_settled, settles]
  · intro rooted location node upper found above
    obtain ⟨inner, there, rfl⟩ := Option.map_eq_some_iff.mp found
    obtain ⟨outer, overThere, rfl⟩ := Option.map_eq_some_iff.mp above
    rw [Node.holdsOthers_settled, rooted location inner outer there overThere]

variable {tree : FileTree}

/-- Nothing is left below a location that is cleared. -/
theorem Rooted.clear (rooted : tree.Rooted) (location : Location) :
    (tree.clear location).Rooted := by
  have kept {other : Location} {node : Node} (found : tree.clear location other = some node) :
      tree other = some node := by
    unfold FileTree.clear at found
    split at found
    · cases found
    · exact found
  exact fun other node upper found above => rooted other node upper (kept found) (kept above)

/-- A node can be placed where nothing but directories are on the way. If it is no directory itself
nothing may lie below its place. -/
theorem Rooted.place (rooted : tree.Rooted) {location : Location} {node : Node}
    (way : ∀ upper inner, upper.leadsTo location → tree upper = some inner → inner.holdsOthers)
    (fits : node.holdsOthers ∨ location ≠ [] ∧
      ∀ lower inner, tree lower = some inner → lower.parent ≠ location) :
    (tree.place location node).Rooted := by
  intro other inner upper found above
  rcases place_eq_some above with ⟨inPlace, rfl⟩ | ⟨_, rfl⟩ | ⟨outside, old⟩
  · -- The placed node is the parent, so there is something below its place.
    refine fits.resolve_right fun ⟨below, alone⟩ => ?_
    rcases place_eq_some found with ⟨rfl, _⟩ | ⟨leads, _⟩ | ⟨_, there⟩
    · have shorter := Location.length_lt_of_leadsTo (Location.parent_leadsTo below)
      rw [inPlace] at shorter
      exact lt_irrefl _ shorter
    · have shorter := Location.length_lt_of_leadsTo (Location.parent_leadsTo_of_leadsTo leads)
      rw [inPlace] at shorter
      exact lt_irrefl _ shorter
    · exact alone other inner there inPlace
  · rfl
  by_cases leads : other.parent.leadsTo location
  · exact way _ upper leads old
  · -- The parent is not on the way, so neither is what lies in it.
    rcases place_eq_some found with ⟨rfl, _⟩ | ⟨lower, _⟩ | ⟨_, there⟩
    · refine absurd (Location.parent_leadsTo fun isRoot => outside ?_) leads
      rw [isRoot, Location.parent_root]
    · exact absurd (Location.parent_leadsTo_of_leadsTo lower) leads
    · exact rooted other inner upper there old

end FileTree

namespace World

/-- In a bare world there is nothing but directories, none of them further from the root than the
working directory. -/
theorem bare_tree {directory location : Location} {node : Node}
    (found : (bare directory).tree location = some node) :
    node.holdsOthers ∧ location.length ≤ directory.length := by
  rcases FileTree.place_eq_some found with ⟨rfl, rfl⟩ | ⟨leads, rfl⟩ | ⟨_, inRoot⟩
  · exact ⟨rfl, le_rfl⟩
  · exact ⟨rfl, (Location.length_lt_of_leadsTo leads).le⟩
  rcases FileTree.place_eq_some inRoot with ⟨rfl, rfl⟩ | ⟨leads, _⟩ | ⟨_, there⟩
  · exact ⟨rfl, Nat.zero_le _⟩
  · exact absurd (Location.length_lt_of_leadsTo leads) (Nat.not_lt_zero _)
  · cases there

theorem rooted_bare (directory : Location) : (bare directory).tree.Rooted :=
  FileTree.rooted_of_holdsOthers fun _ _ found => (bare_tree found).1

/-! ### Calls and sessions -/

variable {world : World} (rooted : world.tree.Rooted)

include rooted

/-- No opening and no change of directory takes away that a tree is rooted. -/
theorem rooted_obey {call : Call} (shellCall : ¬call.isSpawn) :
    (world.obey call).tree.Rooted := by
  cases call with
  | openFile path =>
    rw [obey, openFile_world, ← FileTree.rooted_settled_iff]
    have same : (world.opened path).settled = world.settled := settled_opened world path
    rw [show (world.opened path).tree.settled = world.tree.settled from congrArg tree same]
    exact FileTree.rooted_settled_iff.mpr rooted
  | enter path =>
    rw [obey]
    rcases enterDirectory_world path world with same | ⟨location, same⟩ <;>
      · rw [same]
        exact rooted
  | spawn => exact absurd rfl shellCall

/-- Calls in a row keep a tree rooted if the spawns among them do. -/
theorem rooted_replay {made : List Call}
    (kept : ∀ before call after, made = before ++ call :: after → call.isSpawn →
      (world.replay before).tree.Rooted → ((world.replay before).obey call).tree.Rooted) :
    (world.replay made).tree.Rooted := by
  induction made generalizing world with
  | nil => exact rooted
  | cons first rest inductionHypothesis =>
    have next : (world.obey first).tree.Rooted := by
      by_cases isSpawn : first.isSpawn
      · exact kept [] first rest rfl isSpawn rooted
      · exact rooted_obey rooted isSpawn
    refine inductionHypothesis next fun before call after shape isSpawn still => ?_
    exact kept (first :: before) call after (by rw [shape]; rfl) isSpawn still

/-- A session keeps a tree rooted if the programs that it runs do. -/
theorem rooted_run (console : Console) (prompt : Text) (lines : List Text)
    (kept : ∀ before call after,
      calls (Session.run console prompt lines world).effects = before ++ call :: after →
      call.isSpawn → (world.replay before).tree.Rooted →
      ((world.replay before).obey call).tree.Rooted) :
    (Session.run console prompt lines world).world.tree.Rooted := by
  rw [Session.world_run]
  exact rooted_replay rooted kept

end World

end LineShell
