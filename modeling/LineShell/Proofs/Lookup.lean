/-
This file says what looking a program up comes to. A lookup is quiet, and all it does to the world
is to open paths. Its result is told by two functions of the world alone: which candidate is the
first to open as a file that everyone may execute, and what the absolute form of a path is. A
lookup can only fail where that candidate is relative and the working directory has no path.
-/

import LineShell.Proofs.Effects
import LineShell.Proofs.Settled
import LineShell.Search

namespace LineShell

open LineShell.Action Effect

/-! ### What the world offers -/

namespace World

/-- Whether a path opens as a file that everyone may execute. -/
def offers (world : World) (path : Text) : Bool :=
  match world.walk path with
  | .ok (_, node) => (node.openings 0).isNone && node.isProgram
  | .error _ => false

/-- The first of some paths that opens as such a file, each of them opened in the world that the
openings before it left. -/
def firstOffered : World → List Text → Option Text
  | _, [] => none
  | world, path :: rest =>
    if world.offers path then some path else (world.opened path).firstOffered rest

theorem mem_of_firstOffered {world : World} {candidates : List Text} {candidate : Text}
    (first : world.firstOffered candidates = some candidate) : candidate ∈ candidates := by
  induction candidates generalizing world with
  | nil => cases first
  | cons path rest inductionHypothesis =>
    rw [firstOffered] at first
    split at first
    · rw [Option.some_inj.mp first]
      exact List.mem_cons_self
    · exact List.mem_cons_of_mem path (inductionHypothesis first)

/-- The absolute form of a path seen from the working directory. -/
def absoluteForm (world : World) (path : Text) : Except Failure Text :=
  if Path.isAbsolute path then .ok (Path.normal path)
  else world.directoryPath.map fun directory => Path.absolute directory path

theorem absoluteForm_of_settled_eq {first second : World} (same : first.settled = second.settled)
    (path : Text) : first.absoluteForm path = second.absoluteForm path := by
  unfold absoluteForm
  rw [directoryPath_of_settled_eq same]

/-- Openings do not matter to absolute forms. -/
theorem absoluteForm_opened (world : World) (opening path : Text) :
    (world.opened opening).absoluteForm path = world.absoluteForm path :=
  absoluteForm_of_settled_eq (settled_opened world opening) path

theorem isAbsolute_of_absoluteForm {world : World} {path form : Text}
    (formed : world.absoluteForm path = .ok form) : Path.isAbsolute form := by
  unfold absoluteForm at formed
  split at formed
  · exact Except.ok.inj formed ▸ Path.isAbsolute_normal path
  · cases outcome : world.directoryPath with
    | error failure =>
      rw [outcome] at formed
      cases formed
    | ok directory =>
      rw [outcome] at formed
      exact Except.ok.inj formed ▸ Path.isAbsolute_normal _

/-- The working directory is only ever refused. -/
theorem directoryPath_error {world : World} {failure : Failure}
    (failed : world.directoryPath = .error failure) : ∃ refusal, failure = .refused refusal := by
  unfold directoryPath at failed
  split at failed
  · exact ⟨_, (Except.error.inj failed).symm⟩
  · exact ⟨_, (Except.error.inj failed).symm⟩
  · cases failed

/-- Only a relative path can be without an absolute form. -/
theorem absoluteForm_error_iff {world : World} {path : Text} {failure : Failure} :
    world.absoluteForm path = .error failure ↔
      Path.isAbsolute path = false ∧ world.directoryPath = .error failure := by
  unfold absoluteForm
  by_cases start : Path.isAbsolute path
  · simp [start]
  · cases world.directoryPath <;> simp [start, Except.map]

end World

/-! ### One candidate -/

theorem reach_apply (path : Text) (world : World) :
    reach path world =
      match world.walk path with
      | .ok found => ⟨.ok found, world, []⟩
      | .error obstacle => ⟨.error (obstacle.failure path), world, []⟩ := by
  unfold reach
  rw [look_bind]
  cases world.walk path <;> rfl

/-- A path that leads nowhere is refused, unless it holds the character that would end it. -/
theorem reach_error {path : Text} {world : World} {failure : Failure}
    (failed : (reach path world).result = .error failure) :
    (∃ refusal, failure = .refused refusal) ∨ (failure = .embeddedNul ∧ .nul ∈ path) := by
  rw [reach_apply] at failed
  rcases World.walk_cases world path with ⟨held, leads⟩ | ⟨errno, leads⟩ | ⟨found, leads, _⟩ <;>
    rw [leads] at failed
  · exact Or.inr ⟨(Except.error.inj failed).symm, held⟩
  · exact Or.inl ⟨_, (Except.error.inj failed).symm⟩
  · cases failed

theorem quiet_reach (path : Text) : (reach path).Leaves Quiet := by
  intro world
  rw [reach_apply]
  cases world.walk path <;> exact quiet_nil

/-- What an opening comes to, by where the path leads. -/
theorem openFile_apply (path : Text) (world : World) :
    openFile path world =
      match world.walk path with
      | .error obstacle =>
        ⟨.error (obstacle.failure path), world.opened path, [.called (.openFile path)]⟩
      | .ok (_, node) =>
        ⟨match node.openings 0 with
          | some errno => .error (.refused (.known errno (some path)))
          | none => .ok node,
          world.opened path, [.called (.openFile path)]⟩ := by
  unfold openFile World.opened
  simp only [bind_apply, emit_apply, reach_apply]
  cases world.walk path with
  | error obstacle => rfl
  | ok found =>
    simp only [alter_apply]
    cases found.2.openings 0 <;> rfl

theorem openFile_world (path : Text) (world : World) :
    (openFile path world).world = world.opened path := by
  rw [openFile_apply]
  cases world.walk path <;> rfl

/-- A path without the character that would end it either opens as something or is refused. -/
theorem openFile_result {path : Text} (whole : Glyph.nul ∉ path) (world : World) :
    (∃ node, (openFile path world).result = .ok node ∧ node.isProgram = world.offers path) ∨
    (∃ refusal, (openFile path world).result = .error (.refused refusal) ∧
      world.offers path = false) := by
  rw [openFile_apply]
  unfold World.offers
  cases outcome : world.walk path with
  | error obstacle =>
    obtain ⟨errno, rfl⟩ := World.walk_reason whole outcome
    exact Or.inr ⟨_, rfl, rfl⟩
  | ok found =>
    cases answer : found.2.openings 0 with
    | none => exact Or.inl ⟨found.2, by simp only [answer], by simp [answer]⟩
    | some errno => exact Or.inr ⟨.known errno (some path), by simp only [answer], by simp [answer]⟩

/-- A path opens as the node that it leads to, if that node does not refuse. -/
theorem openFile_ok_iff {path : Text} {world : World} {node : Node} :
    (openFile path world).result = .ok node ↔
      ∃ location, world.walk path = .ok (location, node) ∧ node.openings 0 = none := by
  rw [openFile_apply]
  cases world.walk path with
  | error obstacle => simp
  | ok found =>
    obtain ⟨location, other⟩ := found
    cases answer : other.openings 0 with
    | none =>
      simp only [answer, Except.ok.injEq, Prod.mk.injEq]
      exact ⟨fun same => ⟨location, ⟨rfl, same⟩, same ▸ answer⟩, fun ⟨_, ⟨_, same⟩, _⟩ => same⟩
    | some errno =>
      simp only [answer, Except.ok.injEq, Prod.mk.injEq]
      refine ⟨nofun, fun ⟨_, ⟨_, same⟩, opens⟩ => ?_⟩
      rw [← same, answer] at opens
      cases opens

/-- An opening fails as the way to the path does, or it is refused. -/
theorem openFile_error {path : Text} {world : World} {failure : Failure}
    (failed : (openFile path world).result = .error failure) :
    (∃ refusal, failure = .refused refusal) ∨ (failure = .embeddedNul ∧ .nul ∈ path) := by
  unfold openFile at failed
  rw [emit_bind, Step.result_after, bind_error_iff] at failed
  rcases failed with failed | ⟨found, _, failed⟩
  · exact reach_error failed
  · rw [bind_error_iff] at failed
    rcases failed with failed | ⟨_, _, failed⟩
    · cases failed
    · cases answer : found.2.openings 0 with
      | none =>
        rw [answer] at failed
        cases failed
      | some errno =>
        rw [answer] at failed
        exact Or.inl ⟨_, (Except.error.inj failed).symm⟩

theorem quiet_openFile (path : Text) : (openFile path).Leaves Quiet := by
  refine quiet_bind (quiet_emit (by simp [isQuiet, Call.isSpawn])) fun _ => ?_
  refine quiet_bind (quiet_reach path) fun found => quiet_bind (quiet_alter _) fun _ => ?_
  cases found.2.openings 0
  · exact quiet_give _
  · exact quiet_fail _

theorem isExecutable_world (candidate : Text) (world : World) :
    (isExecutable candidate world).world = world.opened candidate := by
  unfold isExecutable
  rw [attempt_bind, ← openFile_world]
  cases (openFile candidate world).result with
  | ok node => rfl
  | error failure => cases failure <;> rfl

theorem isExecutable_result {candidate : Text} (whole : Glyph.nul ∉ candidate) (world : World) :
    (isExecutable candidate world).result = .ok (world.offers candidate) := by
  unfold isExecutable
  rw [attempt_bind]
  rcases openFile_result whole world with ⟨node, opens, same⟩ | ⟨refusal, refused, no⟩
  · rw [opens, ← same]
    rfl
  · rw [refused, no]
    rfl

/-- A refusal counts as no, so only the character that ends texts is left as a reason to fail. -/
theorem isExecutable_error {candidate : Text} {world : World} {failure : Failure}
    (failed : (isExecutable candidate world).result = .error failure) : failure = .embeddedNul := by
  unfold isExecutable at failed
  rw [attempt_bind, Step.result_after] at failed
  rcases outcome : (openFile candidate world).result with cause | node
  · rw [outcome] at failed
    rcases openFile_error outcome with ⟨refusal, rfl⟩ | ⟨rfl, _⟩
    · cases failed
    · exact (Except.error.inj failed).symm
  · rw [outcome] at failed
    cases failed

theorem quiet_isExecutable (candidate : Text) : (isExecutable candidate).Leaves Quiet := by
  refine quiet_bind (quiet_openFile candidate).attempt fun outcome => ?_
  rcases outcome with failure | node
  · cases failure with
    | refused refusal => exact quiet_bind (quiet_note _ _) fun _ => quiet_give _
    | _ => exact quiet_fail _
  · exact quiet_give _

theorem absolutePath_apply (path : Text) (world : World) :
    absolutePath path world = ⟨world.absoluteForm path, world, []⟩ := by
  unfold absolutePath World.absoluteForm
  split
  · rfl
  · cases outcome : world.directoryPath with
    | error failure =>
      rw [bind_of_error (show (workingDirectory world).result = .error failure from outcome)]
      rfl
    | ok directory =>
      rw [bind_of_ok (show (workingDirectory world).result = .ok directory from outcome)]
      rfl

theorem quiet_absolutePath (path : Text) : (absolutePath path).Leaves Quiet := by
  intro world
  rw [absolutePath_apply]
  exact quiet_nil

/-! ### All candidates -/

/-- A search does nothing to the world but open paths. -/
theorem firstExecutable_world (name : Text) (candidates : List Text) (world : World) :
    ∃ paths, (firstExecutable name candidates world).world = world.openedAll paths := by
  induction candidates generalizing world with
  | nil => exact ⟨[], rfl⟩
  | cons candidate rest inductionHypothesis =>
    rw [firstExecutable]
    rcases outcome : (isExecutable candidate world).result with failure | found
    · rw [bind_of_error outcome, isExecutable_world]
      exact ⟨[candidate], rfl⟩
    rw [bind_of_ok outcome, isExecutable_world]
    cases found with
    | false =>
      obtain ⟨paths, same⟩ := inductionHypothesis (world.opened candidate)
      exact ⟨candidate :: paths, same⟩
    | true =>
      refine ⟨[candidate], ?_⟩
      simp only [Step.after, if_true, bind_apply, absolutePath_apply]
      cases (world.opened candidate).absoluteForm candidate <;> rfl

/-- A search gives the absolute form of the first candidate that the world offers. -/
theorem firstExecutable_result {name : Text} {candidates : List Text}
    (whole : ∀ candidate ∈ candidates, Glyph.nul ∉ candidate) (world : World) :
    (firstExecutable name candidates world).result =
      match world.firstOffered candidates with
      | none => .ok none
      | some candidate => (world.absoluteForm candidate).map some := by
  induction candidates generalizing world with
  | nil => rfl
  | cons candidate rest inductionHypothesis =>
    have inRest := fun other member => whole other (List.mem_cons_of_mem candidate member)
    have outcome := isExecutable_result (whole candidate List.mem_cons_self) world
    rw [firstExecutable, bind_of_ok outcome, isExecutable_world, World.firstOffered]
    cases world.offers candidate with
    | false =>
      simp only [Bool.false_eq_true, if_false, Step.after]
      rw [inductionHypothesis inRest]
      cases (world.opened candidate).firstOffered rest with
      | none => rfl
      | some found => simp only [World.absoluteForm_opened]
    | true =>
      simp only [if_true, Step.after, bind_apply, absolutePath_apply, World.absoluteForm_opened]
      cases world.absoluteForm candidate <;> rfl

/-- What a search finds is an absolute path. -/
theorem isAbsolute_of_firstExecutable {name : Text} {candidates : List Text} {world : World}
    {path : Text} (found : (firstExecutable name candidates world).result = .ok (some path)) :
    Path.isAbsolute path := by
  induction candidates generalizing world with
  | nil => cases found
  | cons candidate rest inductionHypothesis =>
    rw [firstExecutable, bind_ok_iff] at found
    obtain ⟨executable, _, found⟩ := found
    cases executable with
    | false => exact inductionHypothesis found
    | true =>
      rw [if_pos rfl, bind_ok_iff] at found
      obtain ⟨form, formed, found⟩ := found
      rw [absolutePath_apply] at formed
      have same : form = path := Option.some_inj.mp (Except.ok.inj found)
      exact same ▸ World.isAbsolute_of_absoluteForm formed

theorem quiet_firstExecutable (name : Text) (candidates : List Text) :
    (firstExecutable name candidates).Leaves Quiet := by
  induction candidates with
  | nil => exact quiet_bind (quiet_note _ _) fun _ => quiet_give _
  | cons candidate rest inductionHypothesis =>
    refine quiet_bind (quiet_isExecutable candidate) fun found => ?_
    cases found with
    | false => exact inductionHypothesis
    | true =>
      exact quiet_bind (quiet_absolutePath candidate) fun _ =>
        quiet_bind (quiet_note _ _) fun _ => quiet_give _

/-! ### Lookups -/

theorem quiet_resolve (name : Text) : (resolve name).Leaves Quiet := by
  unfold resolve
  split
  · exact quiet_give _
  · exact quiet_bind quiet_look fun world => quiet_firstExecutable name _

/-- A lookup of a name whose candidates can be given to the operating system finds the absolute
form of the first one that the world offers. -/
theorem resolve_result {name : Text} {world : World} (named : name ≠ [])
    (whole : ∀ candidate ∈ world.environment.candidates name, Glyph.nul ∉ candidate) :
    (resolve name world).result =
      match world.firstOffered (world.environment.candidates name) with
      | none => .ok none
      | some candidate => (world.absoluteForm candidate).map some := by
  unfold resolve
  rw [if_neg named, look_bind]
  exact firstExecutable_result whole world

/-- Such a lookup fails exactly where the first candidate that the world offers is relative and the
working directory has no path. -/
theorem resolve_error_iff {name : Text} {world : World} {failure : Failure} (named : name ≠ [])
    (whole : ∀ candidate ∈ world.environment.candidates name, Glyph.nul ∉ candidate) :
    (resolve name world).result = .error failure ↔
      ∃ candidate, world.firstOffered (world.environment.candidates name) = some candidate ∧
        Path.isAbsolute candidate = false ∧ world.directoryPath = .error failure := by
  simp only [resolve_result named whole, ← World.absoluteForm_error_iff]
  cases world.firstOffered (world.environment.candidates name) with
  | none => simp
  | some candidate => cases outcome : world.absoluteForm candidate <;> simp [outcome, Except.map]

/-- Whatever the search path and the name hold, a lookup fails in one of two ways. -/
theorem resolve_error {name : Text} {world : World} {failure : Failure}
    (failed : (resolve name world).result = .error failure) :
    (∃ refusal, failure = .refused refusal) ∨ failure = .embeddedNul := by
  unfold resolve at failed
  split at failed
  · cases failed
  rw [look_bind] at failed
  generalize world.environment.candidates name = candidates at failed
  induction candidates generalizing world with
  | nil => cases failed
  | cons candidate rest inductionHypothesis =>
    rw [firstExecutable, bind_error_iff] at failed
    rcases failed with failed | ⟨executable, _, failed⟩
    · exact Or.inr (isExecutable_error failed)
    cases executable with
    | false => exact inductionHypothesis failed
    | true =>
      rw [if_pos rfl, bind_error_iff, absolutePath_apply] at failed
      rcases failed with failed | ⟨_, _, failed⟩
      · exact Or.inl (World.directoryPath_error (World.absoluteForm_error_iff.mp failed).2)
      · cases failed

/-- A lookup does nothing to the world but open paths. -/
theorem resolve_world (name : Text) (world : World) :
    ∃ paths, (resolve name world).world = world.openedAll paths := by
  unfold resolve
  split
  · exact ⟨[], rfl⟩
  · exact firstExecutable_world name _ world

/-- What a lookup finds is an absolute path. -/
theorem isAbsolute_of_resolve {name : Text} {world : World} {path : Text}
    (found : (resolve name world).result = .ok (some path)) : Path.isAbsolute path := by
  unfold resolve at found
  split at found
  · cases found
  · exact isAbsolute_of_firstExecutable found

/-- After a lookup everything but the answers to openings is as before. -/
theorem settled_resolve (name : Text) (world : World) :
    (resolve name world).world.settled = world.settled := by
  obtain ⟨paths, same⟩ := resolve_world name world
  rw [same, World.settled_openedAll]

/-- A lookup leaves a steady world as it was. -/
theorem resolve_world_of_steady {world : World} (steady : world.Steady) (name : Text) :
    (resolve name world).world = world := by
  obtain ⟨paths, same⟩ := resolve_world name world
  rw [same, steady.openedAll_eq]

/-! ### Lookups that find a program -/

theorem calls_openFile (path : Text) (world : World) :
    calls (openFile path world).effects = [.openFile path] := by
  rw [openFile_apply]
  cases world.walk path <;> rfl

theorem calls_isExecutable (candidate : Text) (world : World) :
    calls (isExecutable candidate world).effects = [.openFile candidate] := by
  unfold isExecutable
  rw [attempt_bind, Step.effects_after, calls_append, calls_openFile]
  cases (openFile candidate world).result with
  | ok node => rfl
  | error failure => cases failure <;> rfl

/-- A search opens candidates in their order, from the first one on, and makes no other call. -/
theorem calls_firstExecutable (name : Text) (candidates : List Text) (world : World) :
    ∃ opened, opened <+: candidates ∧
      calls (firstExecutable name candidates world).effects = opened.map Call.openFile := by
  induction candidates generalizing world with
  | nil => exact ⟨[], List.nil_prefix, rfl⟩
  | cons candidate rest inductionHypothesis =>
    rw [firstExecutable]
    rcases outcome : (isExecutable candidate world).result with failure | found
    · rw [bind_of_error outcome, calls_isExecutable]
      exact ⟨[candidate], ⟨rest, rfl⟩, rfl⟩
    rw [bind_of_ok outcome, Step.effects_after, calls_append, calls_isExecutable]
    cases found with
    | false =>
      obtain ⟨opened, ⟨others, shape⟩, opens⟩ :=
        inductionHypothesis (isExecutable candidate world).world
      exact ⟨candidate :: opened, ⟨others, congrArg _ shape⟩, congrArg _ opens⟩
    | true =>
      refine ⟨[candidate], ⟨rest, rfl⟩, congrArg _ ?_⟩
      simp only [if_true, bind_apply, absolutePath_apply]
      cases World.absoluteForm _ candidate <;> rfl

/-- A lookup opens candidates for the name in their order and makes no other call. -/
theorem calls_resolve (name : Text) (world : World) :
    ∃ opened, opened <+: world.environment.candidates name ∧
      calls (resolve name world).effects = opened.map Call.openFile := by
  unfold resolve
  split
  · exact ⟨[], List.nil_prefix, rfl⟩
  · exact calls_firstExecutable name _ world

theorem isExecutable_true {candidate : Text} {world : World}
    (executable : (isExecutable candidate world).result = .ok true) :
    ∃ node, (openFile candidate world).result = .ok node ∧ node.isProgram := by
  unfold isExecutable at executable
  rw [attempt_bind, Step.result_after] at executable
  rcases outcome : (openFile candidate world).result with failure | node
  · rw [outcome] at executable
    cases failure <;> cases executable
  · rw [outcome] at executable
    exact ⟨node, rfl, Except.ok.inj executable⟩

/-- How a search over some candidates finds a program. It opens the candidates up to the one that is
the program, and nothing else; that one opens as a file that everyone may execute, and its absolute
form is what the search gives. -/
inductive Found (candidates : List Text) (world : World) (path : Text) (step : Step (Option Text)) :
    Prop
  | intro (passed : List Text) {rest : List Text} {candidate : Text} {node : Node} :
      candidates = passed ++ candidate :: rest →
      calls step.effects = (passed ++ [candidate]).map Call.openFile →
      step.world = world.openedAll (passed ++ [candidate]) →
      (openFile candidate (world.openedAll passed)).result = .ok node → node.isProgram →
      world.absoluteForm candidate = .ok path → Found candidates world path step

theorem firstExecutable_found {name : Text} {candidates : List Text} {world : World} {path : Text}
    (found : (firstExecutable name candidates world).result = .ok (some path)) :
    Found candidates world path (firstExecutable name candidates world) := by
  induction candidates generalizing world with
  | nil => cases found
  | cons candidate rest inductionHypothesis =>
    rw [firstExecutable] at found ⊢
    obtain ⟨executable, outcome, found⟩ := bind_ok_iff.mp found
    rw [bind_of_ok outcome]
    rw [isExecutable_world] at found ⊢
    cases executable with
    | false =>
      rw [if_neg Bool.false_ne_true] at found ⊢
      obtain ⟨passed, shape, opens, leaves, opened, program, form⟩ := inductionHypothesis found
      rw [World.absoluteForm_opened] at form
      refine .intro (candidate :: passed) (by rw [shape, List.cons_append]) ?_ leaves opened
        program form
      rw [Step.effects_after, calls_append, calls_isExecutable, opens]
      rfl
    | true =>
      obtain ⟨node, opened, program⟩ := isExecutable_true outcome
      obtain ⟨form, formed, given⟩ := bind_ok_iff.mp found
      have same : form = path := Option.some_inj.mp (Except.ok.inj given)
      rw [if_pos rfl, bind_of_ok formed, absolutePath_apply]
      rw [absolutePath_apply, World.absoluteForm_opened] at formed
      refine .intro [] rfl ?_ rfl opened program (same ▸ formed)
      rw [Step.effects_after, calls_append, calls_isExecutable]
      rfl

theorem resolve_found {name : Text} {world : World} {path : Text}
    (found : (resolve name world).result = .ok (some path)) :
    Found (world.environment.candidates name) world path (resolve name world) := by
  unfold resolve at found ⊢
  split at found
  · cases found
  · next named =>
    rw [if_neg named]
    exact firstExecutable_found found

end LineShell
