/-
This file says which candidates a lookup opens. It goes through them in their order and stops right
after the first match: the first that opens as a file that everyone may execute. Since an opening
uses up an answer of its node, every candidate is tried in the world that the openings before it
left, and a node that is met twice may answer differently. Nothing but the candidates is opened,
nothing else is called, and no refusal on the way makes the lookup fail.
-/

import LineShell.Proofs.Failures

namespace LineShell

open LineShell.Action Effect

namespace World

/-! ### The first match -/

/-- None of the paths opens as such a file, each tried in the world that those before it left. -/
def NoneOffered (world : World) (paths : List Text) : Prop :=
  ∀ earlier path later, paths = earlier ++ path :: later →
    (world.openedAll earlier).offers path = false

/-- The match is the first of the paths to open as such a file, and these are passed before it. -/
structure FirstMatch (world : World) (paths passed : List Text) (found : Text) : Prop where
  place : passed ++ [found] <+: paths
  misses : world.NoneOffered passed
  fits : (world.openedAll passed).offers found

theorem noneOffered_nil (world : World) : world.NoneOffered [] :=
  fun _ _ _ shape => absurd shape.symm (List.append_ne_nil_of_right_ne_nil _ (List.cons_ne_nil _ _))

theorem noneOffered_cons_iff {world : World} {path : Text} {rest : List Text} :
    world.NoneOffered (path :: rest) ↔
      world.offers path = false ∧ (world.opened path).NoneOffered rest := by
  constructor
  · exact fun none => ⟨none [] path rest rfl,
      fun earlier other later shape => none (path :: earlier) other later (congrArg _ shape)⟩
  · rintro ⟨miss, none⟩ earlier other later shape
    cases earlier with
    | nil => exact (List.cons.inj shape).1 ▸ miss
    | cons first others =>
      obtain ⟨rfl, following⟩ := List.cons.inj shape
      exact none others other later following

theorem not_firstMatch_nil {world : World} {passed : List Text} {found : Text} :
    ¬world.FirstMatch [] passed found :=
  fun first => List.append_ne_nil_of_right_ne_nil _ (List.cons_ne_nil _ _)
    (List.prefix_nil.mp first.place)

/-- The first match is the first path, or it is that of the others when the first is missed. -/
theorem firstMatch_cons_iff {world : World} {path found : Text} {rest passed : List Text} :
    world.FirstMatch (path :: rest) passed found ↔
      (passed = [] ∧ found = path ∧ world.offers path) ∨
      ∃ others, passed = path :: others ∧ world.offers path = false ∧
        (world.opened path).FirstMatch rest others found := by
  constructor
  · intro first
    cases passed with
    | nil =>
      obtain ⟨rfl, _⟩ := List.cons_prefix_cons.mp first.place
      exact Or.inl ⟨rfl, rfl, first.fits⟩
    | cons head others =>
      obtain ⟨rfl, place⟩ := List.cons_prefix_cons.mp first.place
      obtain ⟨miss, misses⟩ := noneOffered_cons_iff.mp first.misses
      exact Or.inr ⟨others, rfl, miss, place, misses, first.fits⟩
  · rintro (⟨rfl, rfl, fits⟩ | ⟨others, rfl, miss, first⟩)
    · exact ⟨List.cons_prefix_cons.mpr ⟨rfl, List.nil_prefix⟩, noneOffered_nil world, fits⟩
    · exact ⟨List.cons_prefix_cons.mpr ⟨rfl, first.place⟩,
        noneOffered_cons_iff.mpr ⟨miss, first.misses⟩, first.fits⟩

theorem firstOffered_eq_none_iff {world : World} {paths : List Text} :
    world.firstOffered paths = none ↔ world.NoneOffered paths := by
  induction paths generalizing world with
  | nil => exact ⟨fun _ => noneOffered_nil world, fun _ => rfl⟩
  | cons path rest inductionHypothesis =>
    rw [noneOffered_cons_iff, firstOffered, ← inductionHypothesis]
    cases world.offers path <;> simp

theorem firstOffered_eq_some_iff {world : World} {paths : List Text} {found : Text} :
    world.firstOffered paths = some found ↔ ∃ passed, world.FirstMatch paths passed found := by
  induction paths generalizing world with
  | nil =>
    refine ⟨nofun, ?_⟩
    rintro ⟨passed, first⟩
    exact absurd first not_firstMatch_nil
  | cons path rest inductionHypothesis =>
    simp only [firstMatch_cons_iff, firstOffered]
    cases offered : world.offers path with
    | true => simp [eq_comm]
    | false =>
      simp only [Bool.false_eq_true, if_false, inductionHypothesis, and_false, false_or, true_and]
      constructor
      · rintro ⟨others, first⟩
        exact ⟨path :: others, others, rfl, first⟩
      · rintro ⟨_, others, _, first⟩
        exact ⟨others, first⟩

theorem exists_firstMatch_iff {world : World} {paths : List Text} {property : Text → Prop} :
    (∃ passed found, world.FirstMatch paths passed found ∧ property found) ↔
      ∃ found, world.firstOffered paths = some found ∧ property found := by
  simp only [firstOffered_eq_some_iff]
  exact ⟨fun ⟨passed, found, first, holds⟩ => ⟨found, ⟨passed, first⟩, holds⟩,
    fun ⟨found, ⟨passed, first⟩, holds⟩ => ⟨passed, found, first, holds⟩⟩

end World

/-! ### Searches -/

/-- A search opens the candidates up to the first match, or all of them without one. -/
theorem firstExecutable_opens {name : Text} {candidates : List Text}
    (whole : ∀ candidate ∈ candidates, .nul ∉ candidate) (world : World) :
    ∃ opened, calls (firstExecutable name candidates world).effects = opened.map Call.openFile ∧
      (firstExecutable name candidates world).world = world.openedAll opened ∧
      (world.NoneOffered candidates → opened = candidates) ∧
      ∀ passed found, world.FirstMatch candidates passed found → opened = passed ++ [found] := by
  induction candidates generalizing world with
  | nil =>
    exact ⟨[], rfl, rfl, fun _ => rfl, fun _ _ first => absurd first World.not_firstMatch_nil⟩
  | cons candidate rest inductionHypothesis =>
    have inRest := fun other member => whole other (List.mem_cons_of_mem candidate member)
    have outcome := isExecutable_result (whole candidate List.mem_cons_self) world
    rw [firstExecutable, bind_of_ok outcome, Step.effects_after, Step.world_after, calls_append,
      calls_isExecutable, isExecutable_world]
    simp only [World.noneOffered_cons_iff, World.firstMatch_cons_iff]
    cases offered : world.offers candidate with
    | true =>
      refine ⟨[candidate], ?_, ?_, fun none => absurd none.1 (by decide), ?_⟩
      · simp only [if_true, bind_apply, absolutePath_apply]
        cases World.absoluteForm _ candidate <;> rfl
      · simp only [if_true, bind_apply, absolutePath_apply]
        cases World.absoluteForm _ candidate <;> rfl
      · rintro passed found (⟨rfl, rfl, _⟩ | ⟨_, _, miss, _⟩)
        · rfl
        · cases miss
    | false =>
      obtain ⟨opened, opens, leaves, all, upTo⟩ :=
        inductionHypothesis inRest (world.opened candidate)
      refine ⟨candidate :: opened, congrArg _ opens, leaves,
        fun none => congrArg _ (all none.2), ?_⟩
      rintro passed found (⟨_, _, fits⟩ | ⟨others, rfl, _, first⟩)
      · cases fits
      · exact congrArg _ (upTo others found first)

/-! ### Lookups -/

/-- Where a name is looked for: the empty one nowhere, and any other in all directories of the
search path. -/
def World.sought (world : World) (name : Text) : List Text :=
  if name = [] then [] else world.environment.candidates name

theorem World.nul_notMem_sought {world : World} {name : Text}
    (whole : ∀ value ∈ world.environment pathVariable, .nul ∉ value) (named : .nul ∉ name) :
    ∀ candidate ∈ world.sought name, .nul ∉ candidate := by
  unfold sought
  split
  · exact nofun
  · exact Environment.nul_notMem_candidates whole named

theorem resolve_opens {name : Text} {world : World}
    (whole : ∀ candidate ∈ world.sought name, .nul ∉ candidate) :
    ∃ opened, calls (resolve name world).effects = opened.map Call.openFile ∧
      (resolve name world).world = world.openedAll opened ∧
      (world.NoneOffered (world.sought name) → opened = world.sought name) ∧
      ∀ passed found, world.FirstMatch (world.sought name) passed found →
        opened = passed ++ [found] := by
  unfold resolve World.sought at *
  split
  · exact ⟨[], rfl, rfl, fun _ => rfl, fun _ _ first => absurd first World.not_firstMatch_nil⟩
  · next nonempty =>
    rw [if_neg nonempty] at whole
    exact firstExecutable_opens whole world

theorem resolve_result_sought {name : Text} {world : World}
    (whole : ∀ candidate ∈ world.sought name, .nul ∉ candidate) :
    (resolve name world).result =
      match world.firstOffered (world.sought name) with
      | none => .ok none
      | some candidate => (world.absoluteForm candidate).map some := by
  by_cases empty : name = []
  · rw [empty]
    rfl
  · rw [World.sought, if_neg empty] at whole ⊢
    exact resolve_result empty whole

/-- A lookup is a search for the first match, in the order of the search path and no further. It
gives the absolute form of the match, or nothing where there is none, and fails only where a
relative match has no absolute form. -/
theorem resolve_first_match {name : Text} {world : World}
    (path : ∀ value ∈ world.environment pathVariable, .nul ∉ value) (named : .nul ∉ name) :
    (∃ opened, calls (resolve name world).effects = opened.map Call.openFile ∧
      (resolve name world).world = world.openedAll opened ∧
      (world.NoneOffered (world.sought name) → opened = world.sought name) ∧
      ∀ passed found, world.FirstMatch (world.sought name) passed found →
        opened = passed ++ [found]) ∧
    (resolve name world).world.settled = world.settled ∧
    ((resolve name world).result = .ok none ↔ world.NoneOffered (world.sought name)) ∧
    (∀ program, (resolve name world).result = .ok (some program) ↔
      ∃ passed found, world.FirstMatch (world.sought name) passed found ∧
        world.absoluteForm found = .ok program) ∧
    ∀ failure, (resolve name world).result = .error failure ↔
      ∃ passed found, world.FirstMatch (world.sought name) passed found ∧
        Path.isAbsolute found = false ∧ world.directoryPath = .error failure := by
  have whole := World.nul_notMem_sought path named
  refine ⟨resolve_opens whole, settled_resolve name world, ?_⟩
  simp only [World.exists_firstMatch_iff, ← World.firstOffered_eq_none_iff,
    ← World.absoluteForm_error_iff, resolve_result_sought whole]
  cases world.firstOffered (world.sought name) with
  | none => simp
  | some found =>
    cases form : world.absoluteForm found <;> simp [form, Except.map]

/-- A search path with empty, relative and repeated directories, where the program refuses to be
opened for the first time and a directory has its name. -/
def hesitantWorld : World :=
  (World.bare [Text.of "work"]).changeAll
    [.set pathVariable (Text.of ":/a:bin::/a/:/b"),
      .place [Text.of "a", Text.of "tool"]
        (.regular 0o755 (Openings.ofList [some .accessDenied, none]) (.running [] [] 0)),
      .place [Text.of "work", Text.of "bin", Text.of "tool"] .plainDirectory,
      .place [Text.of "b", Text.of "tool"] (.regular 0o755 (fun _ => none) (.running [] [] 0))]

/-- The third candidate is the first one again, and now it is the match. -/
theorem resolve_first_match_hesitantWorld :
    (resolve (Text.of "tool") hesitantWorld).result = .ok (some (Text.of "/a/tool")) ∧
    calls (resolve (Text.of "tool") hesitantWorld).effects =
      [.openFile (Text.of "/a/tool"), .openFile (Text.of "bin/tool"),
        .openFile (Text.of "/a/tool")] := by
  have path : ∀ value ∈ hesitantWorld.environment pathVariable, Glyph.nul ∉ value := by decide
  have first : hesitantWorld.FirstMatch (hesitantWorld.sought (Text.of "tool"))
      [Text.of "/a/tool", Text.of "bin/tool"] (Text.of "/a/tool") := by
    refine ⟨by decide +kernel, ?_, by decide +kernel⟩
    rw [World.noneOffered_cons_iff, World.noneOffered_cons_iff]
    exact ⟨by decide +kernel, by decide +kernel, World.noneOffered_nil _⟩
  have named : Glyph.nul ∉ Text.of "tool" := by decide
  obtain ⟨⟨opened, opens, _, _, upTo⟩, _, _, gives, _⟩ := resolve_first_match path named
  refine ⟨(gives _).mpr ⟨_, _, first, by decide +kernel⟩, ?_⟩
  rw [opens, upTo _ _ first]
  rfl

end LineShell
