/-
This file says how the effects of an action are looked at. A view keeps one kind of effect: the
texts given to the console, the bytes that went into its buffer, the bytes that programs wrote,
the programs that were spawned. An action always has a property if its step has it in every
world, and the rule for joined actions shows such a property part by part. Most of what the shell
does is quiet: it writes nothing and spawns nothing.
-/

import LineShell.Console.Basic

namespace LineShell

/-- Whether a call spawns a program. -/
def Call.isSpawn : Call → Bool
  | .spawn .. => true
  | _ => false

namespace Effect

/-! ### Views -/

/-- The texts that were given to the console, in order. -/
def texts (effects : List Effect) : List Text :=
  effects.filterMap fun
    | .written text _ => some text
    | _ => none

/-- The bytes that went into the console's buffer. -/
def consoleBytes (effects : List Effect) : List UInt8 :=
  effects.flatMap fun
    | .written _ bytes => bytes
    | _ => []

/-- The bytes that programs wrote past the console. -/
def programBytes (effects : List Effect) : List UInt8 :=
  effects.flatMap fun
    | .emitted bytes => bytes
    | _ => []

/-- The calls that spawn programs, in order. -/
def spawns (effects : List Effect) : List Call := (calls effects).filter Call.isSpawn

@[simp] theorem texts_append (first second : List Effect) :
    texts (first ++ second) = texts first ++ texts second := by
  simp [texts]

@[simp] theorem consoleBytes_append (first second : List Effect) :
    consoleBytes (first ++ second) = consoleBytes first ++ consoleBytes second := by
  simp [consoleBytes]

@[simp] theorem programBytes_append (first second : List Effect) :
    programBytes (first ++ second) = programBytes first ++ programBytes second := by
  simp [programBytes]

@[simp] theorem spawns_append (first second : List Effect) :
    spawns (first ++ second) = spawns first ++ spawns second := by
  simp [spawns]

@[simp] theorem consoleBytes_called (call : Call) (rest : List Effect) :
    consoleBytes (.called call :: rest) = consoleBytes rest := rfl

@[simp] theorem programBytes_called (call : Call) (rest : List Effect) :
    programBytes (.called call :: rest) = programBytes rest := rfl

/-- The spawns are those calls among the effects that spawn. -/
theorem mem_spawns {effects : List Effect} {call : Call} :
    call ∈ spawns effects ↔ .called call ∈ effects ∧ call.isSpawn := by
  simp only [spawns, calls, List.mem_filter, List.mem_filterMap]
  constructor
  · rintro ⟨⟨effect, member, kept⟩, isSpawn⟩
    cases effect <;> simp_all
  · rintro ⟨member, isSpawn⟩
    exact ⟨⟨_, member, rfl⟩, isSpawn⟩

/-! ### Quiet effects -/

/-- Whether an effect writes nothing and spawns nothing. Showing what waits in the buffer counts
as quiet: it adds nothing to what has been written. -/
def isQuiet : Effect → Bool
  | .called call => !call.isSpawn
  | .noted _ | .flushed => true
  | .written .. | .emitted _ => false

/-- Only quiet effects. -/
def Quiet (effects : List Effect) : Prop := ∀ effect ∈ effects, effect.isQuiet

@[simp] theorem quiet_nil : Quiet [] := fun _ member => absurd member List.not_mem_nil

@[simp] theorem quiet_cons {first : Effect} {rest : List Effect} :
    Quiet (first :: rest) ↔ first.isQuiet ∧ Quiet rest := by
  simp [Quiet]

@[simp] theorem quiet_append {first second : List Effect} :
    Quiet (first ++ second) ↔ Quiet first ∧ Quiet second := by
  simp only [Quiet, List.mem_append]
  constructor
  · exact fun both => ⟨fun effect member => both effect (Or.inl member),
      fun effect member => both effect (Or.inr member)⟩
  · rintro ⟨inFirst, inSecond⟩ effect (member | member)
    · exact inFirst effect member
    · exact inSecond effect member

theorem Quiet.texts_eq {effects : List Effect} (quiet : Quiet effects) : texts effects = [] := by
  rw [texts, List.filterMap_eq_nil_iff]
  intro effect member
  have silent := quiet effect member
  cases effect with
  | written => cases silent
  | called | noted | flushed | emitted => rfl

theorem Quiet.consoleBytes_eq {effects : List Effect} (quiet : Quiet effects) :
    consoleBytes effects = [] := by
  rw [consoleBytes, List.flatMap_eq_nil_iff]
  intro effect member
  have silent := quiet effect member
  cases effect with
  | written => cases silent
  | called | noted | flushed | emitted => rfl

theorem Quiet.programBytes_eq {effects : List Effect} (quiet : Quiet effects) :
    programBytes effects = [] := by
  rw [programBytes, List.flatMap_eq_nil_iff]
  intro effect member
  have silent := quiet effect member
  cases effect with
  | emitted => cases silent
  | called | noted | written | flushed => rfl

theorem Quiet.spawns_eq {effects : List Effect} (quiet : Quiet effects) : spawns effects = [] := by
  rw [List.eq_nil_iff_forall_not_mem]
  intro call member
  obtain ⟨called, isSpawn⟩ := mem_spawns.mp member
  have silent := quiet _ called
  simp [isQuiet, isSpawn] at silent

end Effect

namespace Action

open Effect

variable {α β : Type}

/-! ### Properties of every step -/

/-- In every world the action's step has the property. -/
def Always (property : Step α → Prop) (action : Action α) : Prop := ∀ world, property (action world)

/-- In every world the action's effects have the shape. -/
def Leaves (shape : List Effect → Prop) (action : Action α) : Prop :=
  action.Always fun step => shape step.effects

/-- A property of two joined actions, from the shape of the first one's effects and a property of
the second one's step. The first one may also be the end. -/
theorem Always.bind {shape : List Effect → Prop} {property : Step β → Prop}
    {whole : Step β → Prop} {action : Action α} {next : α → Action β}
    (first : action.Leaves shape) (second : ∀ value, (next value).Always property)
    (joined : ∀ effects step, shape effects → property step → whole (step.after effects))
    (broken : ∀ failure world effects, shape effects → whole ⟨.error failure, world, effects⟩) :
    (action >>= next).Always whole := by
  intro world
  rcases outcome : (action world).result with failure | value
  · rw [bind_of_error outcome]
    exact broken failure _ _ (first world)
  · rw [bind_of_ok outcome]
    exact joined _ _ (first world) (second value _)

/-- The shape of the effects of two joined actions. -/
theorem Leaves.bind {shape later whole : List Effect → Prop} {action : Action α}
    {next : α → Action β} (first : action.Leaves shape)
    (second : ∀ value, (next value).Leaves later)
    (joined : ∀ before after, shape before → later after → whole (before ++ after))
    (broken : ∀ effects, shape effects → whole effects) : (action >>= next).Leaves whole :=
  Always.bind first second (fun effects step => joined effects step.effects)
    fun _ _ effects => broken effects

theorem Leaves.attempt {shape : List Effect → Prop} {action : Action α}
    (leaves : action.Leaves shape) : (attempt action).Leaves shape := leaves

/-! ### Quiet actions -/

theorem quiet_give (value : α) : (give value).Leaves Quiet := fun _ => quiet_nil

theorem quiet_fail (failure : Failure) : (fail failure : Action α).Leaves Quiet :=
  fun _ => quiet_nil

theorem quiet_settle (result : Except Failure α) : (settle result).Leaves Quiet :=
  fun _ => quiet_nil

theorem quiet_look : look.Leaves Quiet := fun _ => quiet_nil

theorem quiet_alter (change : World → World) : (alter change).Leaves Quiet := fun _ => quiet_nil

theorem quiet_emit {effects : List Effect} (quiet : Quiet effects) : (emit effects).Leaves Quiet :=
  fun _ => quiet

theorem quiet_note (level : Level) (message : Text) : (note level message).Leaves Quiet :=
  quiet_emit (by simp [isQuiet])

/-- Quiet actions in a row are quiet. -/
theorem quiet_bind {action : Action α} {next : α → Action β} (first : action.Leaves Quiet)
    (second : ∀ value, (next value).Leaves Quiet) : (action >>= next).Leaves Quiet :=
  Leaves.bind first second (fun _ _ before after => quiet_append.mpr ⟨before, after⟩)
    fun _ quiet => quiet

/-- A quiet action spawns nothing after another one. -/
theorem spawns_bind_quiet {action : Action α} {next : α → Action β}
    (quiet : ∀ value, (next value).Leaves Quiet) (world : World) :
    spawns ((action >>= next) world).effects = spawns (action world).effects := by
  rcases outcome : (action world).result with failure | value
  · rw [bind_of_error outcome]
  · rw [bind_of_ok outcome, Step.after, spawns_append, (quiet value _).spawns_eq, List.append_nil]

end Action

end LineShell
