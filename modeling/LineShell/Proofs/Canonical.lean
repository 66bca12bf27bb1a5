/-
This file proves what the path of a program looks like. It is a normal form: plain names behind one
slash or two, which taking the absolute form once more leaves as they are. Its last name is the last
one of the name that was looked up, because a walk that ends with no name of its own, or with two
dots, ends at a directory: where there is something to go up from, there is no program above.
-/

import Mathlib.Data.List.Basic
import LineShell.Proofs.Denotation
import LineShell.Proofs.Rooted

namespace LineShell

/-! ### Last names -/

namespace Path

theorem getLast?_names_append_slash (front name : Text) :
    (names (front ++ .slash :: name)).getLast? = (names name).getLast? := by
  rw [names, List.splitOn_append_cons_self]
  exact List.getLast?_append_of_ne_nil _ (List.splitOn_ne_nil _ _)

/-- The last name of a path in a directory is that of the name that was put there. -/
theorem getLast?_names_join (directory name : Text) :
    (names (join directory name)).getLast? = (names name).getLast? := by
  unfold join
  split
  · rfl
  split
  · next ends =>
    rcases ends with rfl | last
    · rfl
    · obtain ⟨front, rfl⟩ := List.getLast?_eq_some_iff.mp last
      rw [List.append_assoc]
      exact getLast?_names_append_slash front name
  · exact getLast?_names_append_slash directory name

/-- A plain last name is kept. -/
theorem head?_foldl_descend {path last : Text} (isLast : (names path).getLast? = some last)
    (plain : Plain last) : ((names path).foldl descend []).head? = some last := by
  obtain ⟨front, shape⟩ := List.getLast?_eq_some_iff.mp isLast
  rw [shape, List.foldl_append, List.foldl_cons, descend_of_plain plain]
  rfl

/-! ### Normal forms of normal forms -/

theorem foldl_descend_of_nil {blanks : List Text} (empty : ∀ blank ∈ blanks, blank = [])
    (kept : List Text) : blanks.foldl descend kept = kept := by
  induction blanks with
  | nil => rfl
  | cons blank rest inductionHypothesis =>
    rw [List.foldl_cons, empty blank List.mem_cons_self, descend_nil,
      inductionHypothesis fun other member => empty other (List.mem_cons_of_mem blank member)]

/-- Slashes at the start are counted up to the first other glyph. -/
theorem root_append {slashes body : Text} (start : body.head? ≠ some .slash)
    (few : slashes = [.slash] ∨ slashes = [.slash, .slash]) : root (slashes ++ body) = slashes := by
  cases body with
  | nil => rcases few with rfl | rfl <;> rfl
  | cons glyph rest =>
    have other : glyph ≠ .scalar '/' := fun same => start (congrArg some same)
    rcases few with rfl | rfl <;> simp [root, Glyph.slash, other]

theorem root_eq (path : Text) : root path = [.slash] ∨ root path = [.slash, .slash] := by
  unfold root
  split
  · exact Or.inl rfl
  · exact Or.inr rfl
  · exact Or.inl rfl

theorem head?_joined_ne_slash {kept : List Text} (plain : ∀ name ∈ kept, Plain name) :
    (Text.joined .slash kept).head? ≠ some .slash := by
  cases kept with
  | nil => exact nofun
  | cons name others =>
    obtain ⟨named, _, _, unslashed⟩ := plain name List.mem_cons_self
    obtain ⟨glyph, rest, rfl⟩ := List.exists_cons_of_ne_nil named
    intro isSlash
    have same : glyph = .slash := by
      cases others <;> simpa [Text.joined, List.intercalate_cons_cons] using isSlash
    exact unslashed (same ▸ List.mem_cons_self)

/-- A path is the normal form of some names if they are plain and stand, with a slash between each
two of them, behind one slash or two. -/
structure IsNormal (names : List Text) (path : Text) : Prop where
  plain : ∀ name ∈ names, Plain name
  shape : path = .slash :: Text.joined .slash names ∨
    path = .slash :: .slash :: Text.joined .slash names

theorem isNormal_normal (path : Text) :
    IsNormal ((names path).foldl descend []).reverse (normal path) := by
  refine ⟨fun name member => ?_, ?_⟩
  · have none : ∀ name ∈ ([] : List Text), Plain name := nofun
    exact plain_of_mem_foldl_descend (slash_notMem_names path) none name
      (List.mem_reverse.mp member)
  · rw [normal]
    rcases root_eq path with one | two
    · rw [one]
      exact Or.inl rfl
    · rw [two]
      exact Or.inr rfl

/-- A normal form with a name ends in that name, not in a slash. -/
theorem IsNormal.getLast?_ne_slash {names : List Text} {path last : Text}
    (form : IsNormal names path) (isLast : names.getLast? = some last) :
    path.getLast? ≠ some .slash := by
  obtain ⟨front, rfl⟩ := List.getLast?_eq_some_iff.mp isLast
  obtain ⟨named, _, _, unslashed⟩ := form.plain last (List.mem_append_right front (.head _))
  have ending : ∃ start, path = start ++ last := by
    obtain ⟨first, others, parts⟩ := List.exists_cons_of_ne_nil
      (List.append_ne_nil_of_right_ne_nil front (List.cons_ne_nil last []))
    have joined : .slash :: Text.joined .slash (front ++ [last]) =
        (front.flatMap fun name => .slash :: name) ++ [.slash] ++ last := by
      rw [parts, slash_joined_cons, ← parts]
      simp
    rcases form.shape with one | two
    · exact ⟨_, one.trans joined⟩
    · exact ⟨.slash :: _, two.trans (congrArg (.slash :: ·) joined)⟩
  obtain ⟨start, rfl⟩ := ending
  rw [List.getLast?_append_of_ne_nil start named]
  exact fun isSlash => unslashed (List.mem_of_getLast? isSlash)

/-- A normal form is its own. -/
theorem normal_normal {path : Text} (absolute : isAbsolute path) :
    normal (normal path) = normal path := by
  have plain := (isNormal_normal path).plain
  obtain ⟨blanks, empty, parts⟩ := names_normal absolute
  have kept : (names (normal path)).foldl descend [] = (names path).foldl descend [] := by
    rw [parts, List.foldl_append, foldl_descend_of_nil empty, foldl_descend_of_plain plain,
      List.reverse_reverse, List.append_nil]
  have slashes : root (normal path) = root path :=
    root_append (head?_joined_ne_slash plain) (root_eq path)
  rw [normal, kept, slashes]
  rfl

end Path

namespace World

/-! ### How a walk to a program ends -/

theorem not_isProgram_of_directory {tree : FileTree} {location : Location} {node : Node}
    (directory : HasDirectory tree location) (found : tree location = some node) :
    ¬node.isProgram := by
  obtain ⟨other, isOther, isDirectory⟩ := directory
  obtain rfl : other = node := Option.some_inj.mp (isOther.symm.trans found)
  intro program
  cases other with
  | directory => cases program
  | regular | fifo | link | unreachable => cases isDirectory

/-- A walk to a program ends with a plain name. -/
theorem walk_last {world : World} {path last : Text} {location : Location} {node : Node}
    (rooted : world.tree.Rooted) (leads : world.walk path = .ok (location, node))
    (program : node.isProgram) (isLast : (Path.names path).getLast? = some last) :
    Path.Plain last := by
  obtain ⟨_, _, _, followed⟩ := walk_eq_ok_iff.mp leads
  obtain ⟨⟨links, _, route⟩, found⟩ := follow_eq_ok_iff.mp followed
  obtain ⟨front, shape⟩ := List.getLast?_eq_some_iff.mp isLast
  rw [shape] at route
  obtain ⟨middle, _, _, _, _, one⟩ := route.cut
  have unslashed : .slash ∉ last :=
    Path.slash_notMem_names path last (by rw [shape]; exact List.mem_append_right _ (.head _))
  rcases Path.descend_cases unslashed with ⟨here, _⟩ | ⟨rfl, _⟩ | plain
  · have stays := (Leads.cons_iff_of_zero (.stay one.directory here)).mp one
    cases stays
    exact absurd program (not_isProgram_of_directory one.directory found)
  · have goesUp := (Leads.cons_iff_of_zero (.up one.directory)).mp one
    cases goesUp
    -- The program would lie above the directory from which the walk goes up.
    obtain ⟨lower, there, _⟩ := one.directory
    exact absurd program (Node.not_isProgram_of_holdsOthers (rooted middle lower node there found))
  · exact plain

end World

/-! ### Absolute forms -/

/-- The absolute form of a path is the normal form of the names that are kept of the path itself or
of the path in the working directory. -/
theorem World.absoluteForm_eq {world : World} {path form : Text}
    (formed : world.absoluteForm path = .ok form) :
    ∃ whole, Path.isAbsolute whole ∧ (Path.names whole).getLast? = (Path.names path).getLast? ∧
      form = Path.normal whole := by
  unfold absoluteForm at formed
  split at formed
  · next absolute => exact ⟨path, absolute, rfl, (Except.ok.inj formed).symm⟩
  · cases told : world.directoryPath with
    | error failure =>
      rw [told] at formed
      cases formed
    | ok directory =>
      rw [told] at formed
      have start : Path.isAbsolute directory := by
        rw [directoryPath_eq told]
        rfl
      exact ⟨Path.join directory path, Path.isAbsolute_join start,
        Path.getLast?_names_join directory path, (Except.ok.inj formed).symm⟩

/-- A walk after some openings leads where it led before, to a program if it is one now. -/
theorem World.walk_program_of_settled_eq {first second : World}
    (same : first.settled = second.settled) {path : Text} {location : Location} {node : Node}
    (leads : first.walk path = .ok (location, node)) (program : node.isProgram) :
    ∃ other, second.walk path = .ok (location, other) ∧ other.isProgram := by
  have walks := walk_settled second path
  rw [← same, walk_settled, leads] at walks
  cases outcome : second.walk path with
  | error obstacle =>
    rw [outcome] at walks
    cases walks
  | ok found =>
    rw [outcome] at walks
    obtain ⟨there, other⟩ := found
    obtain ⟨rfl, sameNode⟩ := Prod.mk.inj (Except.ok.inj walks)
    refine ⟨other, rfl, ?_⟩
    rw [← Node.isProgram_settled, ← sameNode, Node.isProgram_settled, program]

/-- What a lookup hands out is the normal form of some names, and it is its own absolute form from
everywhere. The name that was looked up ends with a plain name, and so do they. Nothing but a tree
in which a program lies above something else could make the name end with two dots instead. -/
theorem resolve_isNormal {name path : Text} {world : World} (rooted : world.tree.Rooted)
    (found : (resolve name world).result = .ok (some path)) :
    ∃ names last, Path.IsNormal names path ∧ path.getLast? ≠ some .slash ∧
      (∀ directory, Path.absolute directory path = path) ∧
      (Path.names name).getLast? = some last ∧ names.getLast? = some last ∧ Path.Plain last := by
  obtain @⟨passed, rest, candidate, node, shape, _, _, opened, program, formed⟩ :=
    resolve_found found
  obtain ⟨location, walked, _⟩ := openFile_ok_iff.mp opened
  obtain ⟨there, walked, program⟩ :=
    World.walk_program_of_settled_eq (World.settled_openedAll world passed) walked program
  obtain ⟨whole, absolute, sameLast, rfl⟩ := World.absoluteForm_eq formed
  -- Every candidate is the name in some directory, so it ends as the name does.
  have candidateLast : (Path.names candidate).getLast? = (Path.names name).getLast? := by
    have member : candidate ∈ world.environment.candidates name := by
      rw [shape]
      exact List.mem_append_right passed List.mem_cons_self
    obtain ⟨directory, _, rfl⟩ := List.mem_map.mp member
    exact Path.getLast?_names_join directory name
  obtain ⟨last, isLast⟩ : ∃ last, (Path.names name).getLast? = some last :=
    ⟨_, List.getLast?_eq_some_getLast (List.splitOn_ne_nil Glyph.slash name)⟩
  have plain := World.walk_last rooted walked program (candidateLast.trans isLast)
  have normal := Path.isNormal_normal whole
  have kept := Path.head?_foldl_descend (sameLast.trans (candidateLast.trans isLast)) plain
  rw [← List.getLast?_reverse] at kept
  refine ⟨_, last, normal, normal.getLast?_ne_slash kept, fun directory => ?_, isLast, kept, plain⟩
  rw [Path.absolute_of_isAbsolute directory (Path.isAbsolute_normal whole),
    Path.normal_normal absolute]

theorem eq_ok_of_toOption {α : Type} {result : Except Failure α} {value : α}
    (told : result.toOption = some value) : result = .ok value := by
  cases result with
  | error failure => cases told
  | ok other => exact congrArg Except.ok (Option.some_inj.mp told)

/-- A search path of one field with two leading slashes, two dots and a slash at its end. -/
def windingWorld : World :=
  (World.bare [Text.of "opt"]).changeAll
    [.set pathVariable (Text.of "//opt/../lib/./bin/"),
      .place [Text.of "lib", Text.of "bin", Text.of "sub", Text.of "tool"]
        (.regular 0o755 (fun _ => none) (.running [] [] 0))]

theorem rooted_windingWorld : windingWorld.tree.Rooted := by
  have bare {location : Location} {node : Node} := @World.bare_tree [Text.of "opt"] location node
  refine FileTree.Rooted.place (World.rooted_bare _) (fun _ _ _ found => (bare found).1)
    (Or.inr ⟨nofun, fun lower _ found below => ?_⟩)
  have short := (Location.length_parent_le lower).trans (bare found).2
  rw [below] at short
  exact absurd short (by decide)

theorem resolve_isNormal_windingWorld :
    windingWorld.tree.Rooted ∧
    (resolve (Text.of "sub//tool") windingWorld).result =
      .ok (some (Text.of "//lib/bin/sub/tool")) ∧
    ∃ names, Path.IsNormal names (Text.of "//lib/bin/sub/tool") ∧
      names.getLast? = some (Text.of "tool") := by
  have found : (resolve (Text.of "sub//tool") windingWorld).result =
      .ok (some (Text.of "//lib/bin/sub/tool")) :=
    eq_ok_of_toOption (by decide +kernel)
  have named : (Path.names (Text.of "sub//tool")).getLast? = some (Text.of "tool") := by
    decide +kernel
  obtain ⟨names, last, normal, _, _, isLast, kept, _⟩ := resolve_isNormal rooted_windingWorld found
  obtain rfl := Option.some_inj.mp (named.symm.trans isLast)
  exact ⟨rooted_windingWorld, found, names, normal, kept⟩

end LineShell
