/-
This file says how an assembly grows and what stays true of it. An assembly grows by one missing
part after another, each added when the parts it works with are there, and by the settings, which
are chosen for the session alone. What was built is not built again until the assembly is cleared,
so a part keeps its number and its partners; what is added has a number that was not used. Whatever
holds of every assembly is shown for one such addition and carried along a row of them.
-/

import LineShell.Assembly

namespace LineShell

/-! ### What a part works with -/

/-- The parts that a part works with, in the order in which it names them. -/
def Part.needs : Part → List Part
  | .console | .environment | .workingDirectory | .parser => []
  | .resolver => [.environment]
  | .launcher => [.resolver]
  | .runner => [.launcher]
  | .dispatcher => [.console, .resolver, .workingDirectory, .environment, .runner]
  | .session => [.console, .parser, .dispatcher]

/-- The rank of a part. To gather what a part works with touches parts of lower ranks only. -/
def Part.rank : Part → Nat
  | .console | .environment | .workingDirectory | .parser => 0
  | .resolver => 1
  | .launcher => 2
  | .runner => 3
  | .dispatcher => 4
  | .session => 5

/-- The number of the part of a kind that an instance was built with. -/
def Instance.partner (known : Instance) (part : Part) : Option Nat :=
  known.collaborators.lookup part

namespace Assembly

/-- The number of a part that is kept. -/
def number (assembly : Assembly) (part : Part) : Option Nat :=
  (assembly.built part).map Instance.identity

/-- What a part is built with is just what it needs, each under the number that is kept. -/
structure Supplies (assembly : Assembly) (part : Part) (collaborators : List (Part × Nat)) :
    Prop where
  parts : collaborators.map Prod.fst = part.needs
  numbers : ∀ entry ∈ collaborators, assembly.number entry.1 = some entry.2

/-- Every part that is kept works with the parts that are kept. -/
def Wired (assembly : Assembly) : Prop :=
  ∀ part known, assembly.built part = some known → assembly.Supplies part known.collaborators

/-- The assembly after settings were chosen. -/
def choose (settings : Settings) (assembly : Assembly) : Assembly :=
  { assembly with chosen := some (assembly.next, settings), next := assembly.next + 1 }

section Build

variable {assembly : Assembly} {part : Part} {collaborators : List (Part × Nat)}

theorem built_build_self : (build part collaborators assembly).2.built part =
    some ⟨assembly.next, collaborators⟩ :=
  if_pos rfl

theorem built_build_other {other : Part} (different : other ≠ part) :
    (build part collaborators assembly).2.built other = assembly.built other :=
  if_neg different

theorem number_build_self :
    (build part collaborators assembly).2.number part = some assembly.next :=
  congrArg (Option.map Instance.identity) built_build_self

/-- A part that is kept after another one was built is that one, or was kept before. -/
theorem built_build_cases {other : Part} {known : Instance}
    (kept : (build part collaborators assembly).2.built other = some known) :
    (other = part ∧ known = ⟨assembly.next, collaborators⟩) ∨
      assembly.built other = some known := by
  by_cases same : other = part
  · subst same
    exact .inl ⟨rfl, Option.some_inj.mp (kept.symm.trans built_build_self)⟩
  · exact .inr ((built_build_other same).symm.trans kept)

theorem number_build_cases {other : Part} {known : Nat}
    (kept : (build part collaborators assembly).2.number other = some known) :
    (other = part ∧ known = assembly.next) ∨ assembly.number other = some known := by
  obtain ⟨record, found, rfl⟩ := Option.map_eq_some_iff.mp kept
  rcases built_build_cases found with ⟨same, rfl⟩ | before
  · exact .inl ⟨same, rfl⟩
  · exact .inr (congrArg (Option.map Instance.identity) before)

end Build

/-! ### How an assembly grows -/

/-- How an assembly grows as long as it is not cleared. Only parts below some rank are added, each
missing so far and supplied with what it needs, and settings are chosen once, for a session. -/
inductive Grown (limit : Nat) (start : Assembly) : Assembly → Prop
  | refl : Grown limit start start
  | build {assembly : Assembly} {part : Part} {collaborators : List (Part × Nat)}
      (earlier : Grown limit start assembly) (below : part.rank < limit)
      (missing : assembly.built part = none) (supplied : assembly.Supplies part collaborators)
      (configured : part = .session → assembly.chosen.isSome) :
      Grown limit start (build part collaborators assembly).2
  | choose {assembly : Assembly} {settings : Settings} (earlier : Grown limit start assembly)
      (below : Part.session.rank < limit) (unchosen : assembly.chosen = none) :
      Grown limit start (assembly.choose settings)

namespace Grown

variable {limit : Nat} {start middle assembly : Assembly}

theorem trans (first : Grown limit start middle) (second : Grown limit middle assembly) :
    Grown limit start assembly := by
  induction second with
  | refl => exact first
  | build _ below missing supplied configured inductionHypothesis =>
    exact inductionHypothesis.build below missing supplied configured
  | choose _ below unchosen inductionHypothesis => exact inductionHypothesis.choose below unchosen

theorem mono {more : Nat} (within : limit ≤ more) (grown : Grown limit start assembly) :
    Grown more start assembly := by
  induction grown with
  | refl => exact .refl
  | build _ below missing supplied configured inductionHypothesis =>
    exact inductionHypothesis.build (Nat.lt_of_lt_of_le below within) missing supplied configured
  | choose _ below unchosen inductionHypothesis =>
    exact inductionHypothesis.choose (Nat.lt_of_lt_of_le below within) unchosen

/-- What was built stays as it is. -/
theorem built (grown : Grown limit start assembly) {part : Part} {known : Instance}
    (kept : start.built part = some known) : assembly.built part = some known := by
  induction grown with
  | refl => exact kept
  | build _ _ missing _ _ inductionHypothesis =>
    rw [built_build_other, inductionHypothesis]
    -- Only a missing part is built, and this one is there.
    rintro rfl
    rw [inductionHypothesis] at missing
    cases missing
  | choose _ _ _ inductionHypothesis => exact inductionHypothesis

theorem number (grown : Grown limit start assembly) {part : Part} {known : Nat}
    (kept : start.number part = some known) : assembly.number part = some known := by
  obtain ⟨record, found, same⟩ := Option.map_eq_some_iff.mp kept
  exact Option.map_eq_some_iff.mpr ⟨record, grown.built found, same⟩

theorem supplies (grown : Grown limit start assembly) {part : Part}
    {collaborators : List (Part × Nat)} (supplied : start.Supplies part collaborators) :
    assembly.Supplies part collaborators :=
  ⟨supplied.parts, fun entry member => grown.number (supplied.numbers entry member)⟩

/-- Parts that are not below the limit are left alone. -/
theorem built_eq (grown : Grown limit start assembly) {part : Part} (above : limit ≤ part.rank) :
    assembly.built part = start.built part := by
  induction grown with
  | refl => rfl
  | @build _ other _ _ below _ _ _ inductionHypothesis =>
    have different : part ≠ other := by
      rintro rfl
      exact Nat.lt_irrefl _ (Nat.lt_of_lt_of_le below above)
    rw [built_build_other different, inductionHypothesis]
  | choose _ _ _ inductionHypothesis => exact inductionHypothesis

/-- Below the session no settings are chosen. -/
theorem chosen_eq (grown : Grown limit start assembly) (above : limit ≤ Part.session.rank) :
    assembly.chosen = start.chosen := by
  induction grown with
  | refl => rfl
  | build _ _ _ _ _ inductionHypothesis => exact inductionHypothesis
  | choose _ below => exact absurd (Nat.lt_of_lt_of_le below above) (Nat.lt_irrefl _)

theorem next_le (grown : Grown limit start assembly) : start.next ≤ assembly.next := by
  induction grown with
  | refl => exact Nat.le_refl _
  | build _ _ _ _ _ inductionHypothesis => exact Nat.le_succ_of_le inductionHypothesis
  | choose _ _ _ inductionHypothesis => exact Nat.le_succ_of_le inductionHypothesis

/-- A part that is kept was kept before, or its number was not used before. -/
theorem number_cases (grown : Grown limit start assembly) {part : Part} {known : Nat}
    (kept : assembly.number part = some known) :
    start.number part = some known ∨ start.next ≤ known := by
  induction grown with
  | refl => exact .inl kept
  | build earlier _ _ _ _ inductionHypothesis =>
    rcases number_build_cases kept with ⟨-, rfl⟩ | before
    · exact .inr earlier.next_le
    · exact inductionHypothesis before
  | choose _ _ _ inductionHypothesis => exact inductionHypothesis kept

end Grown

/-! ### What holds of every assembly -/

/-- What holds of an assembly at any time. -/
structure Sound (assembly : Assembly) : Prop where
  wired : assembly.Wired
  /-- There is a session only with settings. -/
  configured : ∀ known, assembly.number .session = some known → assembly.chosen.isSome
  numbered : ∀ part known, assembly.number part = some known → known < assembly.next
  /-- No two parts have one number. -/
  apart : ∀ part other known,
    assembly.number part = some known → assembly.number other = some known → part = other

/-- Nothing is wrong where nothing is built. -/
theorem sound_of_nothing {assembly : Assembly} (nothing : ∀ part, assembly.built part = none) :
    assembly.Sound := by
  have unnumbered (part : Part) (known : Nat) : assembly.number part ≠ some known := by
    rw [number, nothing]
    nofun
  refine ⟨fun part known kept => ?_, fun known kept => absurd kept (unnumbered _ known),
    fun part known kept => absurd kept (unnumbered part known),
    fun part _ known kept => absurd kept (unnumbered part known)⟩
  rw [nothing] at kept
  cases kept

theorem sound_start (given : Option Settings) : (start given).Sound :=
  sound_of_nothing fun _ => by cases given <;> rfl

theorem sound_clear (assembly : Assembly) : assembly.clear.Sound :=
  sound_of_nothing fun _ => rfl

theorem Sound.build {assembly : Assembly} {part : Part} {collaborators : List (Part × Nat)}
    (sound : assembly.Sound) (missing : assembly.built part = none)
    (supplied : assembly.Supplies part collaborators)
    (configured : part = .session → assembly.chosen.isSome) :
    (build part collaborators assembly).2.Sound := by
  have grown : Grown (part.rank + 1) assembly (Assembly.build part collaborators assembly).2 :=
    Grown.refl.build (Nat.lt_succ_self _) missing supplied configured
  constructor
  · intro other known kept
    rcases built_build_cases kept with ⟨rfl, rfl⟩ | before
    · exact grown.supplies supplied
    · exact grown.supplies (sound.wired other known before)
  · intro known kept
    rcases number_build_cases kept with ⟨same, -⟩ | before
    · exact configured same.symm
    · exact sound.configured known before
  · intro other known kept
    rcases number_build_cases kept with ⟨-, rfl⟩ | before
    · exact Nat.lt_succ_self _
    · exact Nat.lt_succ_of_lt (sound.numbered other known before)
  · intro first second known keptFirst keptSecond
    -- The part that was built has the next number, which no part had before.
    rcases number_build_cases keptFirst with ⟨rfl, rfl⟩ | beforeFirst <;>
      rcases number_build_cases keptSecond with ⟨rfl, new⟩ | beforeSecond
    · rfl
    · exact absurd (sound.numbered _ _ beforeSecond) (Nat.lt_irrefl _)
    · exact absurd (new ▸ sound.numbered _ _ beforeFirst) (Nat.lt_irrefl _)
    · exact sound.apart _ _ _ beforeFirst beforeSecond

theorem Sound.choose {assembly : Assembly} (sound : assembly.Sound) (settings : Settings) :
    (assembly.choose settings).Sound :=
  ⟨fun part known kept =>
      ⟨(sound.wired part known kept).parts, (sound.wired part known kept).numbers⟩,
    fun _ _ => rfl,
    fun part known kept => Nat.lt_succ_of_lt (sound.numbered part known kept),
    sound.apart⟩

theorem Sound.grown {limit : Nat} {start assembly : Assembly} (sound : start.Sound)
    (grown : Grown limit start assembly) : assembly.Sound := by
  induction grown with
  | refl => exact sound
  | build _ _ missing supplied configured inductionHypothesis =>
    exact inductionHypothesis.build missing supplied configured
  | choose _ _ _ inductionHypothesis => exact inductionHypothesis.choose _

/-! ### Partners -/

theorem Supplies.partner {assembly : Assembly} {part other : Part} {known : Instance}
    (supplied : assembly.Supplies part known.collaborators) (needed : other ∈ part.needs) :
    ∃ number, known.partner other = some number ∧ assembly.number other = some number := by
  rw [← supplied.parts] at needed
  obtain ⟨entry, member, rfl⟩ := List.mem_map.mp needed
  obtain ⟨number, found⟩ := Option.isSome_iff_exists.mp
    (List.lookup_isSome_iff.mpr ⟨entry, member, beq_self_eq_true _⟩)
  obtain ⟨before, after, shape, -⟩ := List.lookup_eq_some_iff.mp found
  refine ⟨number, found, supplied.numbers (entry.1, number) ?_⟩
  rw [shape]
  exact List.mem_append_right _ List.mem_cons_self

/-- Two parts that need a third one work with the same one. -/
theorem Wired.shared {assembly : Assembly} (wired : assembly.Wired) {first second common : Part}
    {one another : Instance} (keptOne : assembly.built first = some one)
    (keptAnother : assembly.built second = some another) (neededFirst : common ∈ first.needs)
    (neededSecond : common ∈ second.needs) :
    ∃ number, one.partner common = some number ∧ another.partner common = some number := by
  obtain ⟨number, partner, kept⟩ := (wired _ _ keptOne).partner neededFirst
  obtain ⟨other, partnerOther, keptOther⟩ := (wired _ _ keptAnother).partner neededSecond
  obtain rfl := Option.some_inj.mp (kept.symm.trans keptOther)
  exact ⟨number, partner, partnerOther⟩

end Assembly

end LineShell
