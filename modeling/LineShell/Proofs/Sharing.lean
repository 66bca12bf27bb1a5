/-
This file proves that the parts of an assembly belong together. Whatever was asked of an assembly,
in whatever order, the parts that it keeps work with each other and with no part that was forgotten,
and a part is handed out unchanged until the assembly is cleared. Between two clearings an assembly
only grows; what it keeps after a clearing has numbers that were not used before it.
-/

import LineShell.Proofs.Gathering

namespace LineShell

namespace Assembly

/-! ### Requests in a row -/

/-- What may be asked of an assembly: to clear it, or to hand out a part in some environment. -/
inductive Demand where
  | clear
  | part (inherited : Environment) (part : Part)

/-- The answer to a request for a part. -/
def answer (assembly : Assembly) (inherited : Environment) (part : Part) : Except Failure Nat :=
  (request inherited part assembly).1

/-- The assembly after a demand was met. -/
def meet (assembly : Assembly) : Demand → Assembly
  | .clear => assembly.clear
  | .part inherited part => (request inherited part assembly).2

/-- The assembly after demands were met one after another. -/
def meetAll (assembly : Assembly) (demands : List Demand) : Assembly :=
  demands.foldl meet assembly

theorem meetAll_cons (assembly : Assembly) (demand : Demand) (rest : List Demand) :
    assembly.meetAll (demand :: rest) = (assembly.meet demand).meetAll rest := rfl

theorem meetAll_append (assembly : Assembly) (first second : List Demand) :
    assembly.meetAll (first ++ second) = (assembly.meetAll first).meetAll second :=
  List.foldl_append

theorem Sound.meet {assembly : Assembly} (sound : assembly.Sound) (demand : Demand) :
    (assembly.meet demand).Sound := by
  cases demand with
  | clear => exact sound_clear assembly
  | part inherited part => exact sound.grown (answered_request sound inherited part).grown

theorem Sound.meetAll {assembly : Assembly} (sound : assembly.Sound) (demands : List Demand) :
    (assembly.meetAll demands).Sound := by
  induction demands generalizing assembly with
  | nil => exact sound
  | cons demand rest inductionHypothesis => exact inductionHypothesis (sound.meet demand)

/-- An assembly that is not cleared only grows. -/
theorem grown_meetAll {assembly : Assembly} (sound : assembly.Sound) {demands : List Demand}
    (uncleared : .clear ∉ demands) :
    Grown (Part.session.rank + 1) assembly (assembly.meetAll demands) := by
  induction demands generalizing assembly with
  | nil => exact .refl
  | cons demand rest inductionHypothesis =>
    obtain ⟨other, unclearedRest⟩ := List.ne_and_not_mem_of_not_mem_cons uncleared
    cases demand with
    | clear => exact absurd rfl other
    | part inherited part =>
      have within : part.rank + 1 ≤ Part.session.rank + 1 := by cases part <;> decide
      exact ((answered_request sound inherited part).grown.mono within).trans
        (inductionHypothesis (sound.meet (.part inherited part)) unclearedRest)

/-- What is kept once an assembly was cleared has a number that was not used before. The bound is
that of the start; it holds of all that is kept from the moment at which nothing is. -/
theorem le_number_meetAll {assembly : Assembly} (sound : assembly.Sound) {demands : List Demand}
    {bound : Nat} (within : bound ≤ assembly.next)
    (cleared : .clear ∈ demands ∨
      ∀ part number, assembly.number part = some number → bound ≤ number)
    {part : Part} {number : Nat} (kept : (assembly.meetAll demands).number part = some number) :
    bound ≤ number := by
  induction demands generalizing assembly with
  | nil =>
    rcases cleared with impossible | above
    · cases impossible
    · exact above part number kept
  | cons demand rest inductionHypothesis =>
    cases demand with
    | clear => exact inductionHypothesis (sound.meet .clear) within (.inr nofun) kept
    | part inherited other =>
      have grown := (answered_request sound inherited other).grown
      refine inductionHypothesis (sound.meet (.part inherited other))
        (Nat.le_trans within grown.next_le) ?_ kept
      rcases cleared with member | above
      · exact .inl ((List.mem_cons.mp member).resolve_left nofun)
      · refine .inr fun part number kept => ?_
        rcases grown.number_cases kept with before | new
        · exact above part number before
        · exact Nat.le_trans within new

/-- There are settings once the session was asked for where settings can be chosen. -/
theorem chosen_meetAll {assembly : Assembly} (sound : assembly.Sound) (demands : List Demand) :
    (assembly.meetAll demands).chosen.isSome ↔ assembly.chosen.isSome ∨
      ∃ inherited, .part inherited .session ∈ demands ∧ Configurable inherited := by
  induction demands generalizing assembly with
  | nil => simp [meetAll]
  | cons demand rest inductionHypothesis =>
    rw [meetAll_cons, inductionHypothesis (sound.meet demand)]
    cases demand with
    | clear => simp [meet, Assembly.clear]
    | part inherited part =>
      have first : (assembly.meet (.part inherited part)).chosen.isSome ↔ _ :=
        (answered_request sound inherited part).chosen_iff sound
      rw [first, @eq_comm _ part]
      simp only [List.mem_cons, Demand.part.injEq, or_and_right, exists_or, and_assoc,
        exists_eq_left, or_assoc]

/-! ### Asking again -/

section Again

variable {assembly : Assembly} (sound : assembly.Sound) {first : Environment} {part : Part}
  {number : Nat} (answered : assembly.answer first part = .ok number) {between : List Demand}

include sound answered

theorem number_meet : (assembly.meet (.part first part)).number part = some number := by
  have outcome := answered_request sound first part
  rw [show (request first part assembly).1 = .ok number from answered] at outcome
  exact outcome.kept

/-- A part that was handed out is handed out again as long as the assembly is not cleared. -/
theorem answer_again (uncleared : .clear ∉ between) (second : Environment) :
    (assembly.meetAll (.part first part :: between)).answer second part = .ok number := by
  have soundMiddle := sound.meet (.part first part)
  have soundLater := soundMiddle.meetAll between
  have kept := (grown_meetAll soundMiddle uncleared).number (number_meet sound answered)
  have outcome := answered_request soundLater second part
  obtain ⟨other, again⟩ := outcome.ok_iff.mpr fun session =>
    .inl (soundLater.configured number (session ▸ kept))
  rw [again] at outcome
  obtain rfl := Option.some_inj.mp ((outcome.grown.number kept).symm.trans outcome.kept)
  exact again

/-- A number that was handed out stands for that part alone, and for no part that is built after
the assembly was cleared. -/
theorem answer_again_iff (second : Environment) (other : Part) :
    (assembly.meetAll (.part first part :: between)).answer second other = .ok number ↔
      other = part ∧ .clear ∉ between := by
  constructor
  · intro again
    have soundMiddle := sound.meet (.part first part)
    have kept := number_meet sound answered
    have keptOther := number_meet (soundMiddle.meetAll between) again
    have soundLater := (soundMiddle.meetAll between).meet (.part second other)
    have uncleared : .clear ∉ between := by
      intro member
      -- The second request belongs to the row: its part may be built only then.
      have row : Demand.clear ∈ between ++ [.part second other] := List.mem_append_left _ member
      have new := le_number_meetAll soundMiddle (Nat.le_refl _) (.inl row)
        (by rw [meetAll_append]; exact keptOther)
      exact absurd (soundMiddle.numbered part number kept) (Nat.not_lt_of_le new)
    have keptStill := (answered_request (soundMiddle.meetAll between) second other).grown.number
      ((grown_meetAll soundMiddle uncleared).number kept)
    exact ⟨soundLater.apart _ _ _ keptOther keptStill, uncleared⟩
  · rintro ⟨rfl, uncleared⟩
    exact answer_again sound answered uncleared second

end Again

/-- There are settings for a session: they were given, or the session was asked for where they can
be chosen. -/
def Configured (given : Option Settings) (demands : List Demand) : Prop :=
  given.isSome ∨ ∃ inherited, .part inherited .session ∈ demands ∧ Configurable inherited

theorem configured_iff (given : Option Settings) (demands : List Demand) :
    ((start given).meetAll demands).chosen.isSome ↔ Configured given demands := by
  have atStart : (start given).chosen.isSome = given.isSome := by cases given <;> rfl
  rw [chosen_meetAll (sound_start given), atStart]
  rfl

theorem exists_answer_iff (given : Option Settings) (demands : List Demand)
    (inherited : Environment) (part : Part) :
    (∃ number, ((start given).meetAll demands).answer inherited part = .ok number) ↔
      (part = .session → Configured given (demands ++ [.part inherited part])) := by
  refine (answered_request ((sound_start given).meetAll demands) inherited part).ok_iff.trans
    (forall_congr' ?_)
  rintro rfl
  rw [configured_iff]
  simp only [Configured, List.mem_append, List.mem_singleton, Demand.part.injEq, and_true,
    or_and_right, exists_or, exists_eq_left, or_assoc]

end Assembly

open Assembly in
/-- The parts of an assembly belong together, whatever was asked of it before. A part that is asked
for is handed out, except for a session without settings, which fails for the level that was found.
Two requests are answered by one and the same part exactly if they ask for the same, the first is
answered by a part at all, and the assembly was not cleared between them. At any time the parts that
are kept were built with just the parts that they need and that are kept with them, so that a
session and its dispatcher have one console, and the launcher and the dispatcher one resolver. -/
theorem parts_belong_together (given : Option Settings) (before between : List Demand)
    (first second : Environment) (part other : Part) :
    let earlier := (start given).meetAll before
    let later := earlier.meetAll (.part first part :: between)
    ((∃ number, earlier.answer first part = .ok number) ↔
      (part = .session → Configured given (before ++ [.part first part]))) ∧
    (∀ failure, earlier.answer first part = .error failure →
      part = .session ∧ failure = .unknownLevel (Settings.chooseLevel .none first)) ∧
    ((∃ number, earlier.answer first part = .ok number ∧ later.answer second other = .ok number) ↔
      other = part ∧ .clear ∉ between ∧
        (part = .session → Configured given (before ++ [.part first part]))) ∧
    earlier.Wired ∧
    (∀ session, earlier.built .session = some session →
      ∃ dispatcher console, earlier.built .dispatcher = some dispatcher ∧
        session.partner .dispatcher = some dispatcher.identity ∧
        session.partner .console = some console ∧ dispatcher.partner .console = some console) ∧
    (∀ launcher dispatcher, earlier.built .launcher = some launcher →
      earlier.built .dispatcher = some dispatcher →
      ∃ resolver, launcher.partner .resolver = some resolver ∧
        dispatcher.partner .resolver = some resolver) := by
  intro earlier later
  have sound : earlier.Sound := (sound_start given).meetAll before
  have handed := exists_answer_iff given before first part
  refine ⟨handed, fun failure refused => ?_, ⟨?_, ?_⟩, sound.wired, fun session kept => ?_,
    fun launcher dispatcher keptLauncher keptDispatcher =>
      sound.wired.shared keptLauncher keptDispatcher (by decide) (by decide)⟩
  · have outcome := answered_request sound first part
    rw [show (request first part earlier).1 = .error failure from refused] at outcome
    exact outcome.refusal
  · rintro ⟨number, answered, again⟩
    obtain ⟨same, uncleared⟩ := (answer_again_iff sound answered second other).mp again
    exact ⟨same, uncleared, handed.mp ⟨number, answered⟩⟩
  · rintro ⟨same, uncleared, configured⟩
    obtain ⟨number, answered⟩ := handed.mpr configured
    exact ⟨number, answered, (answer_again_iff sound answered second other).mpr ⟨same, uncleared⟩⟩
  · obtain ⟨number, partner, keptNumber⟩ :=
      (sound.wired _ _ kept).partner (show Part.dispatcher ∈ Part.session.needs by decide)
    obtain ⟨dispatcher, keptDispatcher, rfl⟩ := Option.map_eq_some_iff.mp keptNumber
    have needed : Part.console ∈ Part.session.needs ∧ Part.console ∈ Part.dispatcher.needs := by
      decide
    obtain ⟨console, shared⟩ := sound.wired.shared kept keptDispatcher needed.1 needed.2
    exact ⟨dispatcher, console, keptDispatcher, partner, shared⟩

open Assembly in
/-- A launcher is forgotten, and the resolver that is asked for next serves the dispatcher. -/
example (settings : Settings) (inherited : Environment) :
    ((start (some settings)).meetAll [.part inherited .launcher, .clear,
      .part inherited .resolver, .part inherited .session]).built .dispatcher =
    some ⟨11, [(.console, 6), (.resolver, 5), (.workingDirectory, 8), (.environment, 4),
      (.runner, 10)]⟩ :=
  rfl

/-- An environment with a level that does not exist. -/
def misnamed : Environment :=
  ((World.bare []).change (.set Settings.levelVariable (Text.of "nope"))).environment

open Assembly in
/-- Here the session is asked for twice in a row, and no session is handed out. -/
theorem answer_session_misnamed :
    let later := (start none).meetAll [.part misnamed .session]
    ¬ ((∃ number, (start none).answer misnamed .session = .ok number ∧
      later.answer misnamed .session = .ok number) ↔ Demand.clear ∉ ([] : List Demand)) := by
  intro later
  have refused : Level.ofText (Text.of "nope") = none := by decide +kernel
  have unconfigured : ¬ Configured none [.part misnamed .session] := by
    rintro (given | ⟨inherited, member, settings, choice⟩)
    · cases given
    · obtain rfl : inherited = misnamed := by simpa using member
      have failed : Settings.choose .none misnamed = .error (.unknownLevel (Text.of "nope")) := by
        have name : Settings.chooseLevel .none misnamed = Text.of "nope" := rfl
        simp only [Settings.choose, name, refused]
      rw [failed] at choice
      cases choice
  intro same
  obtain ⟨number, answered, -⟩ := same.mpr List.not_mem_nil
  exact unconfigured ((exists_answer_iff none [] misnamed .session).mp ⟨number, answered⟩ rfl)

end LineShell
