/-
This file proves that a session takes no notice of variables other than the search path and the home
directory. In two worlds that are the same but for other variables every action does the same and
comes to the same, and it leaves worlds that are the same but for these variables, whatever the
programs do that it runs. Programs get the variables by themselves; what they make of them is a
matter of the files.
-/

import LineShell.Proofs.Rounds
import LineShell.Proofs.Traversal

namespace LineShell

open LineShell.Action

/-! ### Worlds with other variables -/

/-- Two worlds that are the same but for these variables. -/
structure World.SameBut (hidden : List Text) (first second : World) : Prop where
  directory : first.directory = second.directory
  tree : first.tree = second.tree
  environment : ∀ name, name ∉ hidden → first.environment name = second.environment name

/-- Two steps that do the same and come to the same, in such worlds. -/
structure Step.SameBut {α : Type} (hidden : List Text) (first second : Step α) : Prop where
  result : first.result = second.result
  world : first.world.SameBut hidden second.world
  effects : first.effects = second.effects

/-- Two endings that are the same but for these variables. -/
structure Ending.SameBut (hidden : List Text) (first second : Ending) : Prop where
  result : first.result = second.result
  unread : first.unread = second.unread
  world : first.world.SameBut hidden second.world
  effects : first.effects = second.effects

theorem Step.SameBut.after {α : Type} {hidden : List Text} {first second : Step α}
    (same : first.SameBut hidden second) (earlier : List Effect) :
    (first.after earlier).SameBut hidden (second.after earlier) :=
  ⟨same.result, same.world, congrArg (earlier ++ ·) same.effects⟩

theorem Ending.SameBut.after {hidden : List Text} {first second : Ending}
    (same : first.SameBut hidden second) (earlier : List Effect) :
    (first.after earlier).SameBut hidden (second.after earlier) :=
  ⟨same.result, same.unread, same.world, congrArg (earlier ++ ·) same.effects⟩

/-- The action takes no notice of these variables. -/
def Action.Overlooks {α : Type} (hidden : List Text) (action : Action α) : Prop :=
  ∀ first second : World, first.SameBut hidden second →
    (action first).SameBut hidden (action second)

section

variable {hidden : List Text}

namespace World.SameBut

variable {first second : World}

theorem refl (world : World) : world.SameBut hidden world := ⟨rfl, rfl, fun _ _ => rfl⟩

/-- Without a hidden variable the worlds are the same. -/
theorem eq_of_nil (same : first.SameBut [] second) : first = second :=
  World.ext (funext fun name => same.environment name List.not_mem_nil) same.directory same.tree

variable (same : first.SameBut hidden second)

include same

theorem walk (path : Text) : first.walk path = second.walk path := by
  simp only [World.walk, same.directory, same.tree]

theorem directoryPath : first.directoryPath = second.directoryPath := by
  simp only [World.directoryPath, same.directory, same.tree]

theorem change (change : Change) : (first.change change).SameBut hidden (second.change change) := by
  cases change with
  | set name value =>
    refine ⟨same.directory, same.tree, fun other shown => ?_⟩
    simp only [World.change, same.environment other shown]
  | unset name =>
    refine ⟨same.directory, same.tree, fun other shown => ?_⟩
    simp only [World.change, same.environment other shown]
  | place location node =>
    exact ⟨same.directory, congrArg (·.place location node) same.tree, same.environment⟩
  | clear location =>
    exact ⟨same.directory, congrArg (·.clear location) same.tree, same.environment⟩

theorem changeAll (changes : List Change) :
    (first.changeAll changes).SameBut hidden (second.changeAll changes) := by
  induction changes generalizing first second with
  | nil => exact same
  | cons next rest inductionHypothesis => exact inductionHypothesis (same.change next)

end World.SameBut

/-! ### Actions -/

theorem Action.Overlooks.bind {α β : Type} {action : Action α} {next : α → Action β}
    (before : action.Overlooks hidden) (after : ∀ value, (next value).Overlooks hidden) :
    (action >>= next).Overlooks hidden := by
  intro first second same
  obtain ⟨result, world, effects⟩ := before first second same
  rcases outcome : (action first).result with failure | value
  · rw [bind_of_error outcome, bind_of_error (result ▸ outcome)]
    exact ⟨rfl, world, effects⟩
  · rw [bind_of_ok outcome, bind_of_ok (result ▸ outcome), effects]
    exact (after value _ _ world).after _

theorem overlooks_settle {α : Type} (result : Except Failure α) :
    (settle result).Overlooks hidden :=
  fun _ _ same => ⟨rfl, same, rfl⟩

theorem overlooks_emit (effects : List Effect) : (emit effects).Overlooks hidden :=
  fun _ _ same => ⟨rfl, same, rfl⟩

theorem overlooks_alter {change : World → World} (changes : ∀ first second : World,
    first.SameBut hidden second → (change first).SameBut hidden (change second)) :
    (alter change).Overlooks hidden :=
  fun first second same => ⟨rfl, changes first second same, rfl⟩

/-- What an action goes by is not in the variables that it overlooks. -/
theorem overlooks_look_bind {β : Type} {next : World → Action β}
    (sees : ∀ first second : World, first.SameBut hidden second → next first = next second)
    (after : ∀ world, (next world).Overlooks hidden) : (look >>= next).Overlooks hidden := by
  intro first second same
  rw [look_bind, look_bind, sees first second same]
  exact after second first second same

/-! ### Calls -/

theorem overlooks_reach (path : Text) : (reach path).Overlooks hidden := by
  refine overlooks_look_bind (fun first second same => ?_) fun world => ?_
  · rw [same.walk]
  · split <;> exact overlooks_settle _

theorem overlooks_openFile (path : Text) : (openFile path).Overlooks hidden := by
  refine (overlooks_emit _).bind fun _ => (overlooks_reach path).bind fun ⟨location, node⟩ => ?_
  refine (overlooks_alter fun first second same => ?_).bind fun _ => ?_
  · exact ⟨same.directory, congrArg (·.replace location node.opened) same.tree, same.environment⟩
  · split <;> exact overlooks_settle _

theorem overlooks_enterDirectory (path : Text) : (enterDirectory path).Overlooks hidden := by
  refine (overlooks_emit _).bind fun _ => (overlooks_reach path).bind fun ⟨location, node⟩ => ?_
  dsimp only
  split
  · exact overlooks_settle _
  · exact overlooks_alter fun first second same => ⟨rfl, same.tree, same.environment⟩

theorem overlooks_checkDirectory (directory : Option Text) :
    (checkDirectory directory).Overlooks hidden := by
  cases directory with
  | none => exact overlooks_settle _
  | some path =>
    refine (overlooks_reach path).bind fun ⟨_, node⟩ => ?_
    dsimp only
    split <;> exact overlooks_settle _

theorem overlooks_spawn (path : Text) (arguments : List Text) (directory : Option Text) :
    (spawn path arguments directory).Overlooks hidden := by
  refine (overlooks_emit _).bind fun _ => ?_
  split
  · exact overlooks_settle _
  refine (overlooks_checkDirectory directory).bind fun _ =>
    (overlooks_reach path).bind fun ⟨_, node⟩ => ?_
  dsimp only
  have acts (output : List UInt8) (changes : List Change) :
      (letAct output changes).Overlooks hidden :=
    (overlooks_emit _).bind fun _ => overlooks_alter fun _ _ same => same.changeAll changes
  cases node.program with
  | refused | refusedWith => exact overlooks_settle _
  | failing output changes | running output changes =>
    exact (acts output changes).bind fun _ => overlooks_settle _

/-! ### Lines -/

variable (search : pathVariable ∉ hidden) (home : homeVariable ∉ hidden)

include search home

/-- What actions look at is not in other variables than the search path and the home directory. -/
theorem World.SameBut.view {first second : World} (same : first.SameBut hidden second) {γ : Type}
    {see : World → γ} (view : World.View see) : see first = see second := by
  cases view with
  | candidates name =>
    simp only [Environment.candidates, Environment.searchPath, same.environment _ search]
  | target path => simp only [Evaluation.cdTarget, same.environment _ home]
  | directory => exact same.directoryPath

theorem stable_overlooks : Stable (Overlooks hidden) where
  settles := overlooks_settle
  emits _ := overlooks_emit _
  binds := Overlooks.bind
  attempts overlooks first second same := by
    obtain ⟨result, world, effects⟩ := overlooks first second same
    exact ⟨congrArg Except.ok result, world, effects⟩
  looks view sees after :=
    overlooks_look_bind
      (fun first second same => sees first second (same.view search home view)) after
  opens := overlooks_openFile
  enters := overlooks_enterDirectory
  spawns := overlooks_spawn

/-! ### Sessions -/

namespace Session

theorem turns_sameBut (console : Console) (prompt : Text) (lines : List Text) {first second : World}
    (same : first.SameBut hidden second) :
    (turns console prompt lines first).SameBut hidden (turns console prompt lines second) := by
  induction lines generalizing first second with
  | nil => exact ⟨rfl, rfl, same, rfl⟩
  | cons line rest inductionHypothesis =>
    obtain ⟨result, world, effects⟩ :=
      (stable_overlooks search home).keeps_evaluateLine console line first second same
    simp only [turns]
    rw [result, effects]
    cases (evaluateLine console line second).result with
    | ok command =>
      -- The rest starts in worlds that are the same but for these variables again.
      exact (inductionHypothesis world).after _
    | error failure => cases failure <;> exact ⟨rfl, rfl, world, rfl⟩

/-- In worlds that are the same but for other variables a session is the same. -/
theorem run_sameBut (console : Console) (prompt : Text) (lines : List Text) {first second : World}
    (same : first.SameBut hidden second) :
    (run console prompt lines first).SameBut hidden (run console prompt lines second) :=
  (turns_sameBut search home console prompt lines same).after _

end Session

end

end LineShell
