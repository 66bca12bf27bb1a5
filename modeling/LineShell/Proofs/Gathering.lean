/-
This file follows a request for one part. To make a part, the parts it works with are gathered
first, and each of them may have to be made in the same way; a part that was gathered early keeps
its number while the others are gathered. The parts that are touched on the way are of lower ranks
than the part itself, so it is still missing when its turn comes. A session also needs settings,
and only for want of them does a request fail.
-/

import LineShell.Proofs.Growth

namespace LineShell

/-- Only an unknown level keeps settings from being chosen. -/
theorem Settings.choose_error {choices : Choices} {environment : Environment} {failure : Failure}
    (refusal : Settings.choose choices environment = .error failure) :
    failure = .unknownLevel (Settings.chooseLevel choices environment) := by
  simp only [Settings.choose] at refusal
  split at refusal
  · exact (Except.error.inj refusal).symm
  · cases refusal

namespace Assembly

/-! ### Asking for a part -/

/-- An action that hands out a part under the number it is kept under, and adds no part above it. -/
def Provides (part : Part) (action : StateM Assembly Nat) : Prop :=
  ∀ assembly, Grown (part.rank + 1) assembly (action assembly).2 ∧
    (action assembly).2.number part = some (action assembly).1

/-- What an action comes to in any assembly that has grown from `start` and keeps some parts under
numbers that are known. -/
def Reaches {α : Type} (limit : Nat) (start : Assembly) (known : List (Part × Nat))
    (action : StateM Assembly α) (outcome : α → Assembly → Prop) : Prop :=
  ∀ assembly, Grown limit start assembly →
    (∀ entry ∈ known, assembly.number entry.1 = some entry.2) →
    outcome (action assembly).1 (action assembly).2

/-- The number of a part that was handed out is known to all that follows. -/
theorem reaches_bind {α : Type} {limit : Nat} {start : Assembly} {known : List (Part × Nat)}
    {part : Part} {action : StateM Assembly Nat} {next : Nat → StateM Assembly α}
    {outcome : α → Assembly → Prop} (provides : Provides part action) (below : part.rank < limit)
    (rest : ∀ number, Reaches limit start ((part, number) :: known) (next number) outcome) :
    Reaches limit start known (action >>= next) outcome := by
  intro assembly grown numbers
  obtain ⟨more, kept⟩ := provides assembly
  refine rest _ _ (grown.trans (more.mono below)) fun entry member => ?_
  rcases List.mem_cons.mp member with rfl | before
  · exact kept
  · exact more.number (numbers entry before)

theorem reaches_supplied {limit : Nat} {start : Assembly} {part : Part}
    {known collaborators : List (Part × Nat)} (parts : collaborators.map Prod.fst = part.needs)
    (within : collaborators ⊆ known) :
    Reaches limit start known (pure collaborators) fun found assembly =>
      Grown limit start assembly ∧ assembly.Supplies part found :=
  fun _ grown numbers => ⟨grown, parts, fun entry member => numbers entry (within member)⟩

theorem obtain_apply (part : Part) (gather : StateM Assembly (List (Part × Nat)))
    (assembly : Assembly) :
    Assembly.obtain part gather assembly =
      match assembly.built part with
      | some known => (known.identity, assembly)
      | none => build part (gather assembly).1 (gather assembly).2 := by
  show (match assembly.built part with
    | some known => pure known.identity
    | none => _ : StateM Assembly Nat) assembly = _
  rcases assembly.built part with _ | known <;> rfl

/-- A part is provided as soon as what it needs can be gathered from below. -/
theorem provides_obtain {part : Part} {gather : StateM Assembly (List (Part × Nat))}
    (different : part ≠ .session)
    (gathers : ∀ start, Reaches part.rank start [] gather fun found assembly =>
      Grown part.rank start assembly ∧ assembly.Supplies part found) :
    Provides part (Assembly.obtain part gather) := by
  intro assembly
  rw [obtain_apply]
  rcases kept : assembly.built part with _ | known
  · obtain ⟨grown, supplied⟩ := gathers assembly assembly .refl (List.forall_mem_nil _)
    -- Gathering stays below the part, which is therefore as it was.
    have missing := (grown.built_eq (Nat.le_refl _)).trans kept
    exact ⟨(grown.mono (Nat.le_succ _)).build (Nat.lt_succ_self _) missing supplied
      (absurd · different), number_build_self⟩
  · exact ⟨.refl, congrArg (Option.map Instance.identity) kept⟩

theorem provides_alone {part : Part} (different : part ≠ .session) (alone : part.needs = []) :
    Provides part (Assembly.obtain part (pure [])) :=
  provides_obtain different fun _ => reaches_supplied alone.symm (List.Subset.refl _)

theorem console_provides : Provides .console console := provides_alone nofun rfl

theorem environment_provides : Provides .environment environment := provides_alone nofun rfl

theorem workingDirectory_provides : Provides .workingDirectory workingDirectory :=
  provides_alone nofun rfl

theorem parser_provides : Provides .parser parser := provides_alone nofun rfl

theorem resolver_provides : Provides .resolver resolver :=
  provides_obtain nofun fun _ =>
    reaches_bind environment_provides (by decide) fun _ =>
    reaches_supplied rfl (by simp)

theorem launcher_provides : Provides .launcher launcher :=
  provides_obtain nofun fun _ =>
    reaches_bind resolver_provides (by decide) fun _ =>
    reaches_supplied rfl (by simp)

theorem runner_provides : Provides .runner runner :=
  provides_obtain nofun fun _ =>
    reaches_bind launcher_provides (by decide) fun _ =>
    reaches_supplied rfl (by simp)

theorem dispatcher_provides : Provides .dispatcher dispatcher :=
  provides_obtain nofun fun _ =>
    reaches_bind console_provides (by decide) fun _ =>
    reaches_bind resolver_provides (by decide) fun _ =>
    reaches_bind workingDirectory_provides (by decide) fun _ =>
    reaches_bind environment_provides (by decide) fun _ =>
    reaches_bind runner_provides (by decide) fun _ =>
    reaches_supplied rfl (by simp)

/-! ### Asking for the session -/

/-- Settings can be chosen in an environment. -/
def Configurable (inherited : Environment) : Prop :=
  ∃ settings, Settings.choose .none inherited = .ok settings

theorem settings_apply (inherited : Environment) (assembly : Assembly) :
    settings inherited assembly =
      match assembly.chosen, Settings.choose .none inherited with
      | some known, _ => (.ok known, assembly)
      | none, .error failure => (.error failure, assembly)
      | none, .ok settings => (.ok (assembly.next, settings), assembly.choose settings) := by
  obtain ⟨chosen, built, next⟩ := assembly
  unfold settings
  rcases chosen with _ | known
  · rcases Settings.choose .none inherited with failure | settings <;> rfl
  · rfl

/-- Either there are settings afterwards, and nothing else is new, or there are none and the
environment does not give any. -/
theorem settings_cases (inherited : Environment) (assembly : Assembly) :
    (∃ known later, settings inherited assembly = (.ok known, later) ∧
      Grown (Part.session.rank + 1) assembly later ∧ later.built = assembly.built ∧
      later.chosen.isSome ∧ (assembly.chosen.isSome ∨ Configurable inherited)) ∨
    ∃ failure, settings inherited assembly = (.error failure, assembly) ∧
      assembly.chosen = none ∧ Settings.choose .none inherited = .error failure := by
  rw [settings_apply]
  rcases chosen : assembly.chosen with _ | known
  · rcases choice : Settings.choose .none inherited with failure | settings
    · exact .inr ⟨failure, rfl, rfl, rfl⟩
    · exact .inl ⟨_, _, rfl, Grown.refl.choose (Nat.lt_succ_self _) chosen, rfl, rfl,
        .inr ⟨settings, choice⟩⟩
  · exact .inl ⟨known, assembly, rfl, .refl, rfl, Option.isSome_of_eq_some chosen, .inl rfl⟩

/-- What is left to do once the parts of a session are gathered. -/
def openSession (inherited : Environment) (collaborators : List (Part × Nat)) :
    StateM Assembly (Except Failure Nat) := do
  match ← settings inherited with
  | .error failure => pure (.error failure)
  | .ok _ => .ok <$> build .session collaborators

theorem session_apply (inherited : Environment) (assembly : Assembly) :
    session inherited assembly =
      match assembly.built .session with
      | some known => (.ok known.identity, assembly)
      | none => (do
          let console ← console
          let parser ← parser
          let dispatcher ← dispatcher
          openSession inherited [(.console, console), (.parser, parser),
            (.dispatcher, dispatcher)]) assembly := by
  show (match assembly.built .session with
    | some known => pure (.ok known.identity)
    | none => _ : StateM Assembly (Except Failure Nat)) assembly = _
  rcases assembly.built .session with _ | known <;> rfl

theorem openSession_apply (inherited : Environment) (collaborators : List (Part × Nat))
    (assembly : Assembly) :
    openSession inherited collaborators assembly =
      match settings inherited assembly with
      | (.error failure, later) => (.error failure, later)
      | (.ok _, later) => (.ok later.next, (build .session collaborators later).2) := by
  show (match (settings inherited assembly).1 with
    | .error failure => pure (.error failure)
    | .ok _ => _ : StateM Assembly (Except Failure Nat)) (settings inherited assembly).2 = _
  rcases settings inherited assembly with ⟨failure | known, later⟩ <;> rfl

/-! ### What comes of a request -/

/-- What comes of asking an assembly for a part: the number under which the part is kept from then
on, or, for a session without settings, the reason why there are none. -/
inductive Answered (assembly : Assembly) (inherited : Environment) (part : Part) :
    Except Failure Nat → Assembly → Prop
  | given {number : Nat} {later : Assembly} (grown : Grown (part.rank + 1) assembly later)
      (kept : later.number part = some number)
      (configured : part = .session → assembly.chosen.isSome ∨ Configurable inherited) :
      Answered assembly inherited part (.ok number) later
  | refused {failure : Failure} {later : Assembly} (grown : Grown part.rank assembly later)
      (session : part = .session) (unchosen : assembly.chosen = none)
      (refusal : Settings.choose .none inherited = .error failure) :
      Answered assembly inherited part (.error failure) later

theorem answered_of_provides {part : Part} {action : StateM Assembly Nat}
    (provides : Provides part action) (different : part ≠ .session) (assembly : Assembly)
    (inherited : Environment) :
    Answered assembly inherited part (.ok (action assembly).1) (action assembly).2 :=
  .given (provides assembly).1 (provides assembly).2 (absurd · different)

theorem answered_openSession {assembly : Assembly} {collaborators known : List (Part × Nat)}
    (missing : assembly.built .session = none) (inherited : Environment)
    (parts : collaborators.map Prod.fst = Part.session.needs) (within : collaborators ⊆ known) :
    Reaches Part.session.rank assembly known (openSession inherited collaborators)
      (Answered assembly inherited .session) := by
  intro gathered grown numbers
  rw [openSession_apply]
  have chosen_eq : gathered.chosen = assembly.chosen := grown.chosen_eq (Nat.le_refl _)
  rcases settings_cases inherited gathered with
    ⟨_, later, done, more, untouched, configured, source⟩ | ⟨failure, done, unchosen, refusal⟩
  · have unbuilt : later.built .session = none := by
      rw [untouched, grown.built_eq (Nat.le_refl _), missing]
    have supplied : later.Supplies .session collaborators :=
      more.supplies ⟨parts, fun entry member => numbers entry (within member)⟩
    rw [done]
    refine .given (((grown.mono (Nat.le_succ _)).trans more).build (Nat.lt_succ_self _) unbuilt
      supplied fun _ => configured) number_build_self fun _ => ?_
    rw [← chosen_eq]
    exact source
  · rw [done]
    exact .refused grown rfl (chosen_eq.symm.trans unchosen) refusal

theorem answered_session {assembly : Assembly} (sound : assembly.Sound) (inherited : Environment) :
    Answered assembly inherited .session (session inherited assembly).1
      (session inherited assembly).2 := by
  rw [session_apply]
  rcases kept : assembly.built .session with _ | known
  · exact reaches_bind console_provides (by decide) (fun _ =>
      reaches_bind parser_provides (by decide) fun _ =>
      reaches_bind dispatcher_provides (by decide) fun _ =>
      answered_openSession kept inherited rfl (by simp)) assembly .refl (List.forall_mem_nil _)
  · have numbered : assembly.number .session = some known.identity :=
      congrArg (Option.map Instance.identity) kept
    exact .given .refl numbered fun _ => .inl (sound.configured _ numbered)

theorem answered_request {assembly : Assembly} (sound : assembly.Sound) (inherited : Environment)
    (part : Part) :
    Answered assembly inherited part (request inherited part assembly).1
      (request inherited part assembly).2 := by
  cases part with
  | console => exact answered_of_provides console_provides nofun assembly inherited
  | environment => exact answered_of_provides environment_provides nofun assembly inherited
  | workingDirectory =>
    exact answered_of_provides workingDirectory_provides nofun assembly inherited
  | resolver => exact answered_of_provides resolver_provides nofun assembly inherited
  | launcher => exact answered_of_provides launcher_provides nofun assembly inherited
  | runner => exact answered_of_provides runner_provides nofun assembly inherited
  | parser => exact answered_of_provides parser_provides nofun assembly inherited
  | dispatcher => exact answered_of_provides dispatcher_provides nofun assembly inherited
  | session => exact answered_session sound inherited

namespace Answered

variable {assembly later : Assembly} {inherited : Environment} {part : Part}
  {result : Except Failure Nat}

theorem grown (answered : Answered assembly inherited part result later) :
    Grown (part.rank + 1) assembly later := by
  cases answered with
  | given grown => exact grown
  | refused grown => exact grown.mono (Nat.le_succ _)

theorem kept {number : Nat} (answered : Answered assembly inherited part (.ok number) later) :
    later.number part = some number := by
  cases answered with
  | given _ kept => exact kept

theorem refusal {failure : Failure}
    (answered : Answered assembly inherited part (.error failure) later) :
    part = .session ∧ failure = .unknownLevel (Settings.chooseLevel .none inherited) := by
  cases answered with
  | refused _ session _ refusal => exact ⟨session, Settings.choose_error refusal⟩

/-- A part is handed out unless it is the session and there are no settings for it. -/
theorem ok_iff (answered : Answered assembly inherited part result later) :
    (∃ number, result = .ok number) ↔
      (part = .session → assembly.chosen.isSome ∨ Configurable inherited) := by
  cases answered with
  | @given number _ _ _ configured => exact iff_of_true ⟨number, rfl⟩ configured
  | refused _ session unchosen refusal =>
    refine iff_of_false nofun fun configured => ?_
    rcases configured session with chosen | ⟨settings, choice⟩
    · rw [unchosen] at chosen
      cases chosen
    · rw [refusal] at choice
      cases choice

/-- Only a request for the session may bring settings. -/
theorem chosen_iff (sound : assembly.Sound)
    (answered : Answered assembly inherited part result later) :
    later.chosen.isSome ↔ assembly.chosen.isSome ∨ (part = .session ∧ Configurable inherited) := by
  by_cases session : part = .session
  · subst session
    cases answered with
    | given grown kept configured =>
      exact iff_of_true ((sound.grown grown).configured _ kept)
        ((configured rfl).imp_right (And.intro rfl))
    | refused grown _ unchosen refusal =>
      rw [grown.chosen_eq (Nat.le_refl _)]
      refine (or_iff_left ?_).symm
      rintro ⟨-, settings, choice⟩
      rw [refusal] at choice
      cases choice
  · have below : part.rank + 1 ≤ Part.session.rank := by
      cases part <;> first | decide | exact absurd rfl session
    rw [answered.grown.chosen_eq below]
    exact (or_iff_left fun both => session both.1).symm

end Answered

end Assembly

end LineShell
