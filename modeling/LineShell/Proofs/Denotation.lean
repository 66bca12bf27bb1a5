/-
This file proves what the path that a lookup hands out denotes. The lookup opens a candidate by a
walk through the tree, but the path is found without looking at any file. The two lead to the same
node unless two dots take a symbolic link away, or the candidate is relative and the path of the
working directory is no way back to it.
-/

import LineShell.Proofs.Lookup
import LineShell.Proofs.Routes

namespace LineShell

open Effect

namespace World

/-! ### Trails -/

/-- The names that the normal form of a path keeps, the last of them in front, with the links that
they follow from the root and the location that they lead to. -/
inductive Trail (tree : FileTree) : Nat → List Text → Location → Prop
  | root : Trail tree 0 [] []
  | next {links more : Nat} {kept : List Text} {location final : Location} {name : Text} :
      Trail tree links kept location → Path.Plain name → Leads tree more location [name] final →
      Trail tree (links + more) (name :: kept) final

namespace Trail

variable {tree : FileTree} {links more : Nat} {kept names : List Text} {name : Text}
  {location final : Location}

theorem plain (trail : Trail tree links kept location) : ∀ name ∈ kept, Path.Plain name := by
  induction trail with
  | root => nofun
  | next _ plain _ inductionHypothesis =>
    intro other member
    rcases List.mem_cons.mp member with rfl | inKept
    · exact plain
    · exact inductionHypothesis other inKept

theorem leads (trail : Trail tree links kept location) :
    Leads tree links [] kept.reverse location := by
  induction trail with
  | root => exact .done
  | next _ _ one inductionHypothesis =>
    rw [List.reverse_cons]
    exact inductionHypothesis.append one

/-- Below a place that a trail leads to, the way up is the way back. -/
theorem parent_append (trail : Trail tree links kept location) (name : Text) :
    Location.parent (location ++ [name]) = location := by
  have named : location ≠ [[]] := by
    intro odd
    have absent := trail.leads.notMem List.not_mem_nil
    rw [odd] at absent
    exact absent List.mem_cons_self
  rw [Location.parent, List.dropLast_concat, if_neg named]

/-- The trail of a location, by its own names and over no link, goes up with it. -/
theorem parent (trail : Trail tree 0 location.reverse location) :
    Trail tree 0 location.parent.reverse location.parent := by
  generalize none : 0 = links at trail
  generalize shape : location.reverse = kept at trail
  cases trail with
  | root => exact .root
  | @next links more kept upper _ name trail plain one =>
    obtain ⟨rfl, below⟩ | ⟨some, _⟩ := one.single_cases plain
    · rw [below, List.reverse_append, List.reverse_singleton, List.singleton_append] at shape
      obtain rfl : links = 0 := by omega
      rw [below, trail.parent_append, (List.cons.inj shape).2]
      exact trail
    · omega

/-- A move by a name without slashes goes from a location whose own names are a trail over no link
to another one. -/
theorem of_move {next : Location} {others : List Text}
    (move : Move tree location name links next others) (unslashed : .slash ∉ name)
    (start : Trail tree 0 location.reverse location) : Trail tree 0 next.reverse next := by
  cases move with
  | stay => exact start
  | up => exact start.parent
  | down enterable found notLink reachable =>
    obtain ⟨named, notHere⟩ := not_or.mp enterable.named
    rw [List.reverse_append, List.reverse_singleton, List.singleton_append]
    exact .next start ⟨named, notHere, enterable.notAbove, unslashed⟩
      (.next (.down enterable found notLink reachable) .done)
  | link =>
    split
    · exact .root
    · exact start

theorem of_leads (route : Leads tree links location names final)
    (unslashed : ∀ name ∈ names, .slash ∉ name) (start : Trail tree 0 location.reverse location) :
    Trail tree 0 final.reverse final := by
  induction route with
  | done => exact start
  | next move _ inductionHypothesis =>
    refine inductionHypothesis (fun other member => ?_)
      (.of_move move (unslashed _ List.mem_cons_self) start)
    rcases List.mem_append.mp member with inMore | inRest
    · exact move.slash_notMem other inMore
    · exact unslashed other (List.mem_cons_of_mem _ inRest)

end Trail

/-! ### Lexical steps -/

/-- Whether the names, the last of them in front, lead from the root to a symbolic link. -/
def EndsAtLink (tree : FileTree) : List Text → Prop
  | [] => False
  | name :: above => ∃ location node target,
    follow tree linkLimit [] above.reverse = .ok (location, node) ∧
    tree (location ++ [name]) = some (.link target)

/-- No two dots among the names take a symbolic link away, the names that are kept before them given
as well. -/
def Direct (tree : FileTree) (kept : List Text) : List Text → Prop
  | [] => True
  | name :: rest =>
    (name = Path.above → ¬EndsAtLink tree kept) ∧ Direct tree (Path.descend kept name) rest

namespace Trail

variable {tree : FileTree} {links more : Nat} {kept names : List Text} {name : Text}
  {location final : Location}

/-- Keeping or taking away a name goes along with a step of the walk, unless two dots take a link
away. -/
theorem descend_one (trail : Trail tree links kept location)
    (one : Leads tree more location [name] final) (unslashed : .slash ∉ name)
    (within : links + more ≤ linkLimit) (direct : name = Path.above → ¬EndsAtLink tree kept) :
    ∃ total ≤ links + more, Trail tree total (Path.descend kept name) final := by
  have directory := one.directory
  rcases Path.descend_cases unslashed with ⟨here, same⟩ | ⟨rfl, upper⟩ | plain
  · have stays := (Leads.cons_iff_of_zero (.stay directory here)).mp one
    cases stays
    rw [same]
    exact ⟨links, Nat.le_refl links, trail⟩
  · have goesUp := (Leads.cons_iff_of_zero (.up directory)).mp one
    cases goesUp
    rw [upper]
    cases trail with
    | root => exact ⟨0, Nat.le_refl 0, .root⟩
    | @next fewer others kept upper _ last trail plain below =>
      obtain ⟨rfl, rfl⟩ | ⟨_, target, isLink⟩ := below.single_cases plain
      · rw [trail.parent_append]
        exact ⟨fewer, Nat.le_refl fewer, trail⟩
      · obtain ⟨there, isThere, _⟩ := below.directory
        have walked : follow tree linkLimit [] kept.reverse = .ok (upper, there) :=
          follow_eq_ok_iff.mpr ⟨⟨fewer, by omega, trail.leads⟩, isThere⟩
        exact absurd ⟨upper, there, target, walked, isLink⟩ (direct rfl)
  · rw [Path.descend_of_plain plain]
    exact ⟨links + more, Nat.le_refl _, .next trail plain one⟩

/-- The names that are kept of a route that takes no link away lead where the route leads. -/
theorem descend (trail : Trail tree links kept location)
    (route : Leads tree more location names final) (unslashed : ∀ name ∈ names, .slash ∉ name)
    (within : links + more ≤ linkLimit) (direct : Direct tree kept names) :
    ∃ total ≤ links + more, Trail tree total (names.foldl Path.descend kept) final := by
  induction names generalizing links more kept location with
  | nil =>
    cases route
    exact ⟨links, Nat.le_refl links, trail⟩
  | cons name rest inductionHypothesis =>
    obtain ⟨middle, before, after, rfl, one, others⟩ :=
      Leads.cut (show Leads tree more location ([name] ++ rest) final from route)
    obtain ⟨sofar, fewer, trail⟩ :=
      trail.descend_one one (unslashed name List.mem_cons_self) (by omega) direct.1
    obtain ⟨total, most, trail⟩ := inductionHypothesis trail others
      (fun other member => unslashed other (List.mem_cons_of_mem name member)) (by omega) direct.2
    exact ⟨total, by omega, trail⟩

end Trail

/-! ### Absolute forms -/

section

variable {world : World} {path : Text} {final : Location} {node : Node}

/-- The normal form of a path leads where the names that it keeps lead. -/
theorem walk_normal_of_trail {total : Nat} (absolute : Path.isAbsolute path)
    (whole : Glyph.nul ∉ path) (short : (Text.bytes (Path.normal path)).length < pathLimit)
    (root : HasDirectory world.tree [])
    (trail : Trail world.tree total ((Path.names path).foldl Path.descend []) final)
    (within : total ≤ linkLimit) (found : world.tree final = some node) :
    world.walk (Path.normal path) = .ok (final, node) := by
  have start := Path.isAbsolute_normal path
  have named : Path.normal path ≠ [] := by
    intro empty
    rw [empty] at start
    cases start
  obtain ⟨blanks, empty, parts⟩ := Path.names_normal absolute
  have route : Leads world.tree total [] (Path.names (Path.normal path)) final :=
    parts ▸ trail.leads.blanks_append root empty
  refine walk_eq_ok_iff.mpr ⟨fun inside => ?_, named, short, ?_⟩
  · exact whole ((Path.normal_sublist absolute).subset inside)
  · rw [if_pos start]
    exact follow_eq_ok_iff.mpr ⟨⟨total, within, route⟩, found⟩

theorem walk_normal (absolute : Path.isAbsolute path) (leads : world.walk path = .ok (final, node))
    (direct : Direct world.tree [] (Path.names path)) :
    world.walk (Path.normal path) = .ok (final, node) := by
  obtain ⟨whole, _, short, walked⟩ := walk_eq_ok_iff.mp leads
  rw [if_pos absolute] at walked
  obtain ⟨⟨links, within, route⟩, found⟩ := follow_eq_ok_iff.mp walked
  obtain ⟨total, most, trail⟩ := Trail.root.descend route
    (Path.slash_notMem_names _) (by omega) direct
  have root : HasDirectory world.tree [] := by
    obtain ⟨rest, rfl⟩ := Path.eq_slash_cons absolute
    exact route.directory
  exact walk_normal_of_trail absolute whole
    (Nat.lt_of_le_of_lt (Path.length_bytes_normal_le absolute) short) root trail (by omega) found

theorem walk_absolute {there : Node} (relative : Path.isAbsolute path = false)
    (leads : world.walk path = .ok (final, node))
    (back : world.walk world.directory.path = .ok (world.directory, there))
    (short : (Text.bytes (Path.absolute world.directory.path path)).length < pathLimit)
    (direct : Direct world.tree world.directory.reverse (Path.names path)) :
    world.walk (Path.absolute world.directory.path path) = .ok (final, node) := by
  obtain ⟨whole, _, _, walked⟩ := walk_eq_ok_iff.mp leads
  rw [relative, if_neg Bool.false_ne_true] at walked
  obtain ⟨⟨links, within, route⟩, found⟩ := follow_eq_ok_iff.mp walked
  obtain ⟨wholeDirectory, _, _, walkedBack⟩ := walk_eq_ok_iff.mp back
  obtain ⟨⟨_, _, routeBack⟩, _⟩ := follow_eq_ok_iff.mp walkedBack
  -- The names of the working directory are a trail to it, and the path goes on from there.
  have start : Trail world.tree 0 world.directory.reverse world.directory :=
    .of_leads routeBack (Path.slash_notMem_names _) .root
  obtain ⟨total, most, trail⟩ := start.descend route
    (Path.slash_notMem_names _) (by omega) direct
  have kept : (Path.names (Path.join world.directory.path path)).foldl Path.descend [] =
      (Path.names path).foldl Path.descend world.directory.reverse := by
    rw [Path.foldl_descend_join _ relative, Path.foldl_descend_path]
    exact fun name member => start.plain name (List.mem_reverse.mpr member)
  refine walk_normal_of_trail (Path.isAbsolute_join rfl) (fun inside => ?_) short
    routeBack.directory (kept ▸ trail) (by omega) found
  rcases Path.mem_of_mem_join inside with inDirectory | isSlash | inPath
  · exact wholeDirectory inDirectory
  · exact absurd isSlash (by decide)
  · exact whole inPath

end

/-- Nothing parts a candidate from its absolute form. -/
structure Traceable (world : World) (candidate form : Text) : Prop where
  /-- Where the candidate is relative, the path of the working directory leads back to it, and the
  form is not too long. -/
  anchored : Path.isAbsolute candidate = false →
    (∃ node, world.walk world.directory.path = .ok (world.directory, node)) ∧
    (Text.bytes form).length < pathLimit
  direct : Direct world.tree (if Path.isAbsolute candidate then [] else world.directory.reverse)
    (Path.names candidate)

/-- The absolute form of a traceable candidate leads where the candidate leads. -/
theorem walk_absoluteForm {world : World} {candidate form : Text} {found : Location × Node}
    (leads : world.walk candidate = .ok found) (formed : world.absoluteForm candidate = .ok form)
    (traceable : world.Traceable candidate form) : world.walk form = .ok found := by
  have direct := traceable.direct
  unfold absoluteForm at formed
  by_cases absolute : Path.isAbsolute candidate
  · rw [if_pos absolute] at formed direct
    rw [← Except.ok.inj formed]
    exact walk_normal absolute leads direct
  · rw [if_neg absolute] at formed direct
    have relative := Bool.eq_false_iff.mpr absolute
    obtain ⟨⟨there, back⟩, short⟩ := traceable.anchored relative
    cases told : world.directoryPath with
    | error failure =>
      rw [told] at formed
      cases formed
    | ok directory =>
      rw [told, directoryPath_eq told] at formed
      obtain rfl := Except.ok.inj formed
      exact walk_absolute relative leads back short direct

end World

/-- What a lookup hands out. The candidate that it opened last is a file that everyone may execute,
and the path is the absolute form of that candidate. If nothing parts the two, they lead to one
node: opening the path shows the file that the lookup saw. -/
theorem resolve_denotes {name path : Text} {world : World} (steady : world.Steady)
    (found : (resolve name world).result = .ok (some path)) :
    ∃ passed candidate rest location node,
      world.environment.candidates name = passed ++ candidate :: rest ∧
      calls (resolve name world).effects = (passed ++ [candidate]).map Call.openFile ∧
      world.walk candidate = .ok (location, node) ∧
      (openFile candidate world).result = .ok node ∧ node.isProgram ∧
      world.absoluteForm candidate = .ok path ∧
      (world.Traceable candidate path → world.walk path = .ok (location, node) ∧
        (openFile path world).result = .ok node) := by
  obtain @⟨passed, rest, candidate, node, shape, opens, _, opened, program, form⟩ :=
    resolve_found found
  rw [steady.openedAll_eq] at opened
  obtain ⟨location, walked, answer⟩ := openFile_ok_iff.mp opened
  refine ⟨passed, candidate, rest, location, node, shape, opens, walked, opened, program, form,
    fun traceable => ?_⟩
  have same := World.walk_absoluteForm walked form traceable
  exact ⟨same, openFile_ok_iff.mpr ⟨location, same, answer⟩⟩

/-- A relative directory of the search path that two dots lead to, past a plain directory, and that
is itself a symbolic link. -/
def branchWorld : World :=
  (World.bare [Text.of "work"]).changeAll
    [.set pathVariable (Text.of "sub/../bin"),
      .place [Text.of "work", Text.of "sub"] .plainDirectory,
      .place [Text.of "work", Text.of "bin"] (.link (Text.of "/opt")),
      .place [Text.of "opt", Text.of "tool"] (.regular 0o755 (fun _ => none) (.running [] [] 0))]

theorem resolve_denotes_branchWorld :
    branchWorld.Steady ∧
    (resolve (Text.of "tool") branchWorld).result = .ok (some (Text.of "/work/bin/tool")) ∧
    branchWorld.Traceable (Text.of "sub/../bin/tool") (Text.of "/work/bin/tool") ∧
    ∃ node, (openFile (Text.of "/work/bin/tool") branchWorld).result = .ok node ∧
      node.isProgram := by
  have steady : branchWorld.Steady :=
    (((World.steady_bare [Text.of "work"]).place [Text.of "work", Text.of "sub"]
      fun _ => rfl).place [Text.of "work", Text.of "bin"] fun _ => rfl).place
        [Text.of "opt", Text.of "tool"] fun _ => rfl
  have found : (resolve (Text.of "tool") branchWorld).result =
      .ok (some (Text.of "/work/bin/tool")) := by
    have told : (resolve (Text.of "tool") branchWorld).result.toOption =
        some (some (Text.of "/work/bin/tool")) := by
      decide +kernel
    rcases outcome : (resolve (Text.of "tool") branchWorld).result with failure | path
    · rw [outcome] at told
      cases told
    · rw [outcome] at told
      exact congrArg Except.ok (Option.some_inj.mp told)
  have traceable : branchWorld.Traceable (Text.of "sub/../bin/tool")
      (Text.of "/work/bin/tool") := by
    have parts : Path.names (Text.of "sub/../bin/tool") =
        [Text.of "sub", Path.above, Text.of "bin", Text.of "tool"] := by
      decide +kernel
    refine ⟨fun _ => ⟨⟨_, rfl⟩, by decide +kernel⟩, ?_⟩
    rw [if_neg (by decide), parts]
    refine ⟨fun isAbove => absurd isAbove (by decide), fun _ => ?_,
      fun isAbove => absurd isAbove (by decide), fun isAbove => absurd isAbove (by decide), trivial⟩
    rintro ⟨location, node, target, walked, isLink⟩
    have arrives : World.follow branchWorld.tree World.linkLimit [] [Text.of "work"] =
        .ok ([Text.of "work"], .plainDirectory) := rfl
    have isThere : branchWorld.tree [Text.of "work", Text.of "sub"] = some .plainDirectory := rfl
    cases arrives.symm.trans walked
    cases isThere.symm.trans isLink
  obtain ⟨passed, candidate, rest, _, node, shape, _, _, _, program, _, denotes⟩ :=
    resolve_denotes steady found
  have only : branchWorld.environment.candidates (Text.of "tool") =
      [Text.of "sub/../bin/tool"] := by
    decide +kernel
  rw [only] at shape
  obtain ⟨rfl, one⟩ | ⟨_, none⟩ := List.append_eq_singleton_iff.mp shape.symm
  · obtain ⟨rfl, _⟩ := List.cons.inj one
    exact ⟨steady, found, traceable, node, (denotes traceable).2, program⟩
  · cases none

/-- A directory of the search path that two dots lead to from the target of a symbolic link, and
another tool where the two dots seem to lead. -/
def detourWorld : World :=
  (World.bare []).changeAll
    [.set pathVariable (Text.of "/link/../bin"),
      .place [Text.of "link"] (.link (Text.of "/opt/kit")),
      .place [Text.of "opt", Text.of "kit"] .plainDirectory,
      .place [Text.of "opt", Text.of "bin", Text.of "tool"]
        (.regular 0o755 (fun _ => none) (.running [] [] 0)),
      .place [Text.of "bin", Text.of "tool"]
        (.regular 0o644 (fun _ => none) (.running [] [] 0))]

/-- Here the lookup hands out a path to a file that nobody may execute. -/
theorem resolve_detourWorld :
    (resolve (Text.of "tool") detourWorld).result.toOption = some (some (Text.of "/bin/tool")) ∧
    (openFile (Text.of "/link/../bin/tool") detourWorld).result.toOption.map Node.isProgram =
      some true ∧
    (openFile (Text.of "/bin/tool") detourWorld).result.toOption.map Node.isProgram =
      some false := by
  decide +kernel

end LineShell
