/-
This file defines actions. An action starts in a world, ends with a result or a failure, leaves a
world, and on its way does things that can be seen from outside: calls to the operating system,
journal entries, and bytes written. These effects are kept in the order in which they happened,
and the effects of two actions in a row are those of the first followed by those of the second.
An action reads nothing but the world it starts in, so what an action does never depends on what
has been seen of earlier ones.
-/

import LineShell.System.World

namespace LineShell

/-! ### Effects -/

/-- A call to the operating system that outsiders can see, successful or not. -/
inductive Call where
  /-- Open the file at a path. -/
  | openFile (path : Text)
  /-- Make the directory at a path the working directory. -/
  | enter (path : Text)
  /-- Run the program at a path with arguments, in a directory or where the shell is. -/
  | spawn (program : Text) (arguments : List Text) (directory : Option Text)
  deriving DecidableEq, Repr

/-- Something an action does that can be seen. -/
inductive Effect where
  /-- A call to the operating system. -/
  | called (call : Call)
  /-- An entry of the journal. -/
  | noted (entry : Entry)
  /-- A text given to the console, and the bytes that go into its buffer for it. -/
  | written (text : Text) (bytes : List UInt8)
  /-- The console's buffer is emptied into the raw output. -/
  | flushed
  /-- Bytes that a program wrote to the raw output, past the console's buffer. -/
  | emitted (bytes : List UInt8)
  deriving DecidableEq, Repr

/-- The calls among some effects, in order. -/
def Effect.calls (effects : List Effect) : List Call :=
  effects.filterMap fun
    | .called call => some call
    | _ => none

/-- The journal entries among some effects, in order. -/
def Effect.entries (effects : List Effect) : List Entry :=
  effects.filterMap fun
    | .noted entry => some entry
    | _ => none

@[simp] theorem Effect.calls_append (first second : List Effect) :
    calls (first ++ second) = calls first ++ calls second := by
  simp [calls]

@[simp] theorem Effect.entries_append (first second : List Effect) :
    entries (first ++ second) = entries first ++ entries second := by
  simp [entries]

/-! ### Actions -/

/-- What an action came to. -/
structure Step (α : Type) where
  result : Except Failure α
  world : World
  effects : List Effect

/-- The step with effects before its own. -/
def Step.after {α : Type} (earlier : List Effect) (step : Step α) : Step α :=
  { step with effects := earlier ++ step.effects }

@[simp] theorem Step.result_after {α : Type} (earlier : List Effect) (step : Step α) :
    (step.after earlier).result = step.result := rfl

@[simp] theorem Step.world_after {α : Type} (earlier : List Effect) (step : Step α) :
    (step.after earlier).world = step.world := rfl

@[simp] theorem Step.effects_after {α : Type} (earlier : List Effect) (step : Step α) :
    (step.after earlier).effects = earlier ++ step.effects := rfl

/-- An action, by what it comes to in each world. -/
def Action (α : Type) : Type := World → Step α

namespace Action

variable {α β γ : Type}

/-- The action that only gives a value. -/
def give (value : α) : Action α := fun world => ⟨.ok value, world, []⟩

/-- One action and then another, which does not start if the first one fails. -/
def andThen (action : Action α) (next : α → Action β) : Action β := fun world =>
  let first := action world
  match first.result with
  | .ok value => (next value first.world).after first.effects
  | .error failure => ⟨.error failure, first.world, first.effects⟩

instance : Monad Action where
  pure := give
  bind := andThen

@[simp] theorem pure_apply (value : α) (world : World) :
    (pure value : Action α) world = ⟨.ok value, world, []⟩ := rfl

theorem bind_apply (action : Action α) (next : α → Action β) (world : World) :
    (action >>= next) world =
      match (action world).result with
      | .ok value => (next value (action world).world).after (action world).effects
      | .error failure => ⟨.error failure, (action world).world, (action world).effects⟩ := rfl

/-- The second action goes on where the first one ended. -/
theorem bind_of_ok {action : Action α} {world : World} {value : α}
    (success : (action world).result = .ok value) (next : α → Action β) :
    (action >>= next) world = (next value (action world).world).after (action world).effects := by
  rw [bind_apply, success]

/-- A failure is the end. -/
theorem bind_of_error {action : Action α} {world : World} {failure : Failure}
    (failed : (action world).result = .error failure) (next : α → Action β) :
    (action >>= next) world = ⟨.error failure, (action world).world, (action world).effects⟩ := by
  rw [bind_apply, failed]

/-- Two joined actions fail where the first one fails, or the second one after it. -/
theorem bind_error_iff {action : Action α} {next : α → Action β} {world : World}
    {failure : Failure} : ((action >>= next) world).result = .error failure ↔
      (action world).result = .error failure ∨ ∃ value, (action world).result = .ok value ∧
        (next value (action world).world).result = .error failure := by
  rw [bind_apply]
  cases (action world).result <;> simp [Step.after]

/-- They come to their normal end where both of them do. -/
theorem bind_ok_iff {action : Action α} {next : α → Action β} {world : World} {value : β} :
    ((action >>= next) world).result = .ok value ↔ ∃ first, (action world).result = .ok first ∧
      (next first (action world).world).result = .ok value := by
  rw [bind_apply]
  cases (action world).result <;> simp [Step.after]

/-- Joining actions does not depend on how they are grouped, and giving a value adds nothing. -/
instance : LawfulMonad Action := LawfulMonad.mk' Action
  (by
    intro α action
    funext world
    show andThen action (fun value => give (id value)) world = action world
    rcases equal : action world with ⟨result, _, _⟩
    cases result <;> simp [andThen, equal, give, Step.after])
  (by intro α β value next; rfl)
  (by
    intro α β γ action next later
    funext world
    simp only [bind_apply]
    cases (action world).result with
    | error failure => rfl
    | ok value =>
      simp only [Step.after]
      cases (next value (action world).world).result with
      | error failure => rfl
      | ok value => simp [List.append_assoc])

/-- The action that fails. -/
def fail (failure : Failure) : Action α := fun world => ⟨.error failure, world, []⟩

/-- The action that does something visible. -/
def emit (effects : List Effect) : Action Unit := fun world => ⟨.ok (), world, effects⟩

/-- The action that adds an entry to the journal. -/
def note (level : Level) (message : Text) : Action Unit := emit [.noted ⟨level, message⟩]

/-- The action that looks at the world. -/
def look : Action World := fun world => ⟨.ok world, world, []⟩

/-- The action that changes the world. -/
def alter (change : World → World) : Action Unit := fun world => ⟨.ok (), change world, []⟩

/-- The action whose result tells whether another one failed. It never fails itself. -/
def attempt (action : Action α) : Action (Except Failure α) := fun world =>
  let step := action world
  ⟨.ok step.result, step.world, step.effects⟩

/-- The action that ends as a result tells. -/
def settle (result : Except Failure α) : Action α := fun world => ⟨result, world, []⟩

@[simp] theorem fail_apply (failure : Failure) (world : World) :
    (fail failure : Action α) world = ⟨.error failure, world, []⟩ := rfl

@[simp] theorem emit_apply (effects : List Effect) (world : World) :
    emit effects world = ⟨.ok (), world, effects⟩ := rfl

@[simp] theorem note_apply (level : Level) (message : Text) (world : World) :
    note level message world = ⟨.ok (), world, [.noted ⟨level, message⟩]⟩ := rfl

@[simp] theorem look_apply (world : World) : look world = ⟨.ok world, world, []⟩ := rfl

@[simp] theorem alter_apply (change : World → World) (world : World) :
    alter change world = ⟨.ok (), change world, []⟩ := rfl

@[simp] theorem attempt_apply (action : Action α) (world : World) :
    attempt action world = ⟨.ok (action world).result, (action world).world,
      (action world).effects⟩ := rfl

@[simp] theorem settle_apply (result : Except Failure α) (world : World) :
    settle result world = ⟨result, world, []⟩ := rfl

theorem emit_bind (effects : List Effect) (next : Unit → Action β) (world : World) :
    (emit effects >>= next) world = (next () world).after effects := rfl

theorem note_bind (level : Level) (message : Text) (next : Unit → Action β) (world : World) :
    (note level message >>= next) world = (next () world).after [.noted ⟨level, message⟩] := rfl

theorem look_bind (next : World → Action β) (world : World) :
    (look >>= next) world = next world world := rfl

theorem attempt_bind (action : Action α) (next : Except Failure α → Action β) (world : World) :
    (attempt action >>= next) world =
      (next (action world).result (action world).world).after (action world).effects := rfl

end Action

end LineShell
