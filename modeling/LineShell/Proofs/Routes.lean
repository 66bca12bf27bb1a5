/-
This file looks at a walk through the tree as a route of moves, one for each name. Routes in a row
are one route, and a route can be cut behind any of its names, although a link puts other names in
the place of its own. A walk arrives where a route leads that does not follow too many links.
-/

import LineShell.Proofs.Forms
import LineShell.Proofs.Settled

namespace LineShell

namespace World

/-! ### Moves -/

/-- There is a directory at a location. -/
def HasDirectory (tree : FileTree) (location : Location) : Prop :=
  ∃ node, tree location = some node ∧ node.isDirectory

/-- A name can be looked up at a location: there is a directory, and the name is an ordinary one
that is not too long. -/
structure Enterable (tree : FileTree) (location : Location) (name : Text) : Prop where
  directory : HasDirectory tree location
  named : ¬(name = [] ∨ name = Path.here)
  notAbove : name ≠ Path.above
  short : (Text.bytes name).length ≤ nameLimit

/-- What a name comes to at a location: so many links, the location where the walk goes on, and the
names that it is to follow there first. -/
inductive Move (tree : FileTree) (location : Location) :
    Text → Nat → Location → List Text → Prop
  | stay {name : Text} : HasDirectory tree location → name = [] ∨ name = Path.here →
      Move tree location name 0 location []
  | up : HasDirectory tree location → Move tree location Path.above 0 location.parent []
  | down {name : Text} {node : Node} : Enterable tree location name →
      tree (location ++ [name]) = some node → (∀ target, node ≠ .link target) →
      (∀ errno, node ≠ .unreachable errno) → Move tree location name 0 (location ++ [name]) []
  | link {name target : Text} : Enterable tree location name →
      tree (location ++ [name]) = some (.link target) →
      Move tree location name 1 (if Path.isAbsolute target then [] else location)
        (Path.names target)

namespace Move

variable {tree : FileTree} {location next : Location} {name : Text} {cost : Nat}
  {more : List Text}

theorem directory (move : Move tree location name cost next more) :
    HasDirectory tree location := by
  cases move with
  | stay directory => exact directory
  | up directory => exact directory
  | down enterable => exact enterable.directory
  | link enterable => exact enterable.directory

/-- There is one move at most. -/
theorem unique {otherCost : Nat} {otherNext : Location} {others : List Text}
    (move : Move tree location name cost next more)
    (other : Move tree location name otherCost otherNext others) :
    otherCost = cost ∧ otherNext = next ∧ others = more := by
  cases move with
  | stay _ here =>
    cases other with
    | stay => exact ⟨rfl, rfl, rfl⟩
    | up => exact absurd here (by decide)
    | down enterable => exact absurd here enterable.named
    | link enterable => exact absurd here enterable.named
  | up =>
    cases other with
    | stay _ here => exact absurd here (by decide)
    | up => exact ⟨rfl, rfl, rfl⟩
    | down enterable => exact absurd rfl enterable.notAbove
    | link enterable => exact absurd rfl enterable.notAbove
  | down enterable found notLink =>
    cases other with
    | stay _ here => exact absurd here enterable.named
    | up => exact absurd rfl enterable.notAbove
    | down => exact ⟨rfl, rfl, rfl⟩
    | link _ isLink => exact absurd (Option.some_inj.mp (found.symm.trans isLink)) (notLink _)
  | link enterable isLink =>
    cases other with
    | stay _ here => exact absurd here enterable.named
    | up => exact absurd rfl enterable.notAbove
    | down _ found notLink =>
      exact absurd (Option.some_inj.mp (found.symm.trans isLink)) (notLink _)
    | link _ alsoLink =>
      cases Option.some_inj.mp (isLink.symm.trans alsoLink)
      exact ⟨rfl, rfl, rfl⟩

/-- An ordinary name leads below or is a link. -/
theorem found (move : Move tree location name cost next more)
    (named : ¬(name = [] ∨ name = Path.here)) (notAbove : name ≠ Path.above) :
    (Text.bytes name).length ≤ nameLimit ∧
      ∃ node, tree (location ++ [name]) = some node ∧ ∀ errno, node ≠ .unreachable errno := by
  cases move with
  | stay _ here => exact absurd here named
  | up => exact absurd rfl notAbove
  | down enterable found _ reachable => exact ⟨enterable.short, _, found, reachable⟩
  | link enterable isLink => exact ⟨enterable.short, _, isLink, nofun⟩

/-- No move goes below the oddity of an empty first name. -/
theorem notMem (move : Move tree location name cost next more) (named : [] ∉ location) :
    [] ∉ next := by
  cases move with
  | stay => exact named
  | up =>
    intro member
    unfold Location.parent at member
    split at member
    · cases member
    · exact named ((List.dropLast_sublist location).subset member)
  | down enterable =>
    intro member
    rcases List.mem_append.mp member with inLocation | isName
    · exact named inLocation
    · exact enterable.named (Or.inl (List.mem_singleton.mp isName).symm)
  | link =>
    intro member
    split at member
    · cases member
    · exact named member

/-- The names of a link hold no slash. -/
theorem slash_notMem (move : Move tree location name cost next more) :
    ∀ other ∈ more, .slash ∉ other := by
  cases move with
  | stay => nofun
  | up => nofun
  | down => nofun
  | link => exact Path.slash_notMem_names _

end Move

/-! ### Routes -/

/-- The names lead from one location to another over so many links. -/
inductive Leads (tree : FileTree) : Nat → Location → List Text → Location → Prop
  | done {location : Location} : Leads tree 0 location [] location
  | next {cost links : Nat} {location middle final : Location} {name : Text}
      {more rest : List Text} : Move tree location name cost middle more →
      Leads tree links middle (more ++ rest) final →
      Leads tree (cost + links) location (name :: rest) final

namespace Leads

variable {tree : FileTree} {links more : Nat} {location middle final : Location}
  {first second : List Text}

/-- Routes in a row are one route. -/
theorem append (leads : Leads tree links location first middle)
    (leadsOn : Leads tree more middle second final) :
    Leads tree (links + more) location (first ++ second) final := by
  induction leads with
  | done => rwa [Nat.zero_add]
  | next move _ inductionHypothesis =>
    have whole := inductionHypothesis leadsOn
    rw [List.append_assoc] at whole
    rw [Nat.add_assoc]
    exact .next move whole

/-- A route can be cut behind any of its names. -/
theorem cut (leads : Leads tree links location (first ++ second) final) :
    ∃ middle before after, links = before + after ∧ Leads tree before location first middle ∧
      Leads tree after middle second final := by
  generalize whole : first ++ second = names at leads
  induction leads generalizing first with
  | done =>
    obtain ⟨rfl, rfl⟩ := List.append_eq_nil_iff.mp whole
    exact ⟨_, 0, 0, rfl, .done, .done⟩
  | @next cost links location _ _ name more rest move leads inductionHypothesis =>
    cases first with
    | nil =>
      cases whole
      exact ⟨location, 0, cost + links, (Nat.zero_add _).symm, .done, .next move leads⟩
    | cons head others =>
      obtain ⟨rfl, remaining⟩ := List.cons.inj whole
      have inside : (more ++ others) ++ second = more ++ rest :=
        (List.append_assoc ..).trans (congrArg (more ++ ·) remaining)
      obtain ⟨middle, before, after, sum, start, finish⟩ := inductionHypothesis inside
      exact ⟨middle, cost + before, after, by omega, .next move start, finish⟩

theorem directory {name : Text} {rest : List Text}
    (leads : Leads tree links location (name :: rest) final) : HasDirectory tree location := by
  cases leads with
  | next move => exact move.directory

theorem notMem {names : List Text} (leads : Leads tree links location names final)
    (named : [] ∉ location) : [] ∉ final := by
  induction leads with
  | done => exact named
  | next move _ inductionHypothesis => exact inductionHypothesis (move.notMem named)

/-- A route whose first move is known goes on from there. -/
theorem cons_iff {cost : Nat} {name : Text} {names rest : List Text}
    (move : Move tree location name cost middle names) :
    Leads tree links location (name :: rest) final ↔
      ∃ fewer, links = cost + fewer ∧ Leads tree fewer middle (names ++ rest) final := by
  constructor
  · intro leads
    cases leads with
    | next other leads =>
      obtain ⟨rfl, rfl, rfl⟩ := move.unique other
      exact ⟨_, rfl, leads⟩
  · rintro ⟨fewer, rfl, leads⟩
    exact .next move leads

/-- The case of a move over no link. -/
theorem cons_iff_of_zero {name : Text} {rest : List Text}
    (move : Move tree location name 0 middle []) :
    Leads tree links location (name :: rest) final ↔ Leads tree links middle rest final := by
  rw [cons_iff move]
  constructor
  · rintro ⟨fewer, rfl, leads⟩
    rwa [Nat.zero_add]
  · exact fun leads => ⟨links, (Nat.zero_add links).symm, leads⟩

/-- Empty names stay where they are. -/
theorem blanks_append {blanks : List Text} (leads : Leads tree links location second final)
    (directory : HasDirectory tree location) (empty : ∀ blank ∈ blanks, blank = []) :
    Leads tree links location (blanks ++ second) final := by
  induction blanks with
  | nil => exact leads
  | cons blank rest inductionHypothesis =>
    exact (cons_iff_of_zero (.stay directory (Or.inl (empty blank List.mem_cons_self)))).mpr
      (inductionHypothesis fun other member => empty other (List.mem_cons_of_mem blank member))

/-- A single plain name leads below, over no link, or is a link. -/
theorem single_cases {name : Text} (leads : Leads tree links location [name] final)
    (plain : Path.Plain name) :
    (links = 0 ∧ final = location ++ [name]) ∨
    (0 < links ∧ ∃ target, tree (location ++ [name]) = some (.link target)) := by
  cases leads with
  | next move leads =>
    cases move with
    | stay _ here => exact absurd here (not_or.mpr ⟨plain.named, plain.notHere⟩)
    | up => exact absurd rfl plain.notAbove
    | down =>
      cases leads
      exact Or.inl ⟨rfl, rfl⟩
    | link _ isLink => exact Or.inr ⟨by omega, _, isLink⟩

end Leads

/-! ### Walks and routes -/

/-- Where a stretch ends, so many links lead on to a location. -/
def Stretch.LeadsOn (tree : FileTree) (links : Nat) (final : Location) : Stretch → Prop
  | .arrived there _ => links = 0 ∧ there = final
  | .blocked _ => False
  | .detour next more => ∃ fewer, links = 1 + fewer ∧ Leads tree fewer next more final

/-- A route to a place of the tree goes where its first stretch goes, and on from there. -/
theorem leads_iff_stretch {tree : FileTree} {location final : Location} {names : List Text}
    {links : Nat} {node : Node} (found : tree final = some node) :
    Leads tree links location names final ↔
      (stretch tree location names).LeadsOn tree links final := by
  fun_induction stretch tree location names with
  | case1 location none =>
    refine ⟨fun leads => ?_, False.elim⟩
    cases leads
    rw [none] at found
    cases found
  | case2 location =>
    constructor
    · intro leads
      cases leads
      exact ⟨rfl, rfl⟩
    · rintro ⟨zero, same⟩
      rw [zero, same]
      exact .done
  | case3 location name rest none =>
    refine ⟨fun leads => ?_, False.elim⟩
    obtain ⟨node, some, _⟩ := leads.directory
    rw [none] at some
    cases some
  | case4 location name rest here isThere notDirectory =>
    refine ⟨fun leads => notDirectory ?_, False.elim⟩
    obtain ⟨node, some, isDirectory⟩ := leads.directory
    rw [isThere, Option.some_inj] at some
    rwa [some]
  | case5 location name rest here isThere isDirectory stays inductionHypothesis =>
    have directory : HasDirectory tree location := ⟨here, isThere, Classical.not_not.mp isDirectory⟩
    rw [Leads.cons_iff_of_zero (.stay directory stays), inductionHypothesis]
  | case6 location rest here isThere isDirectory _ inductionHypothesis =>
    have directory : HasDirectory tree location := ⟨here, isThere, Classical.not_not.mp isDirectory⟩
    rw [Leads.cons_iff_of_zero (.up directory), inductionHypothesis]
  | case7 location name rest here isThere isDirectory named notAbove long =>
    refine ⟨fun leads => ?_, False.elim⟩
    cases leads with
    | next move => exact absurd (move.found named notAbove).1 (Nat.not_le.mpr long)
  | case8 location name rest here isThere isDirectory named notAbove short none =>
    refine ⟨fun leads => ?_, False.elim⟩
    cases leads with
    | next move =>
      obtain ⟨_, _, some, _⟩ := move.found named notAbove
      rw [none] at some
      cases some
  | case9 location name rest here isThere isDirectory named notAbove short errno away =>
    refine ⟨fun leads => ?_, False.elim⟩
    cases leads with
    | next move =>
      obtain ⟨_, _, some, reachable⟩ := move.found named notAbove
      rw [away, Option.some_inj] at some
      exact reachable errno some.symm
  | case10 location name rest here isThere isDirectory named notAbove short target isLink =>
    have enterable : Enterable tree location name :=
      ⟨⟨here, isThere, Classical.not_not.mp isDirectory⟩, named, notAbove, Nat.not_lt.mp short⟩
    exact Leads.cons_iff (.link enterable isLink)
  | case11 location name rest here isThere isDirectory named notAbove short next reachable notLink
      isNext inductionHypothesis =>
    have enterable : Enterable tree location name :=
      ⟨⟨here, isThere, Classical.not_not.mp isDirectory⟩, named, notAbove, Nat.not_lt.mp short⟩
    rw [Leads.cons_iff_of_zero (.down enterable isNext notLink reachable), inductionHypothesis]

/-- A walk arrives exactly where a route leads that follows no more links than the walk may. -/
theorem follow_eq_ok_iff {tree : FileTree} {limit : Nat} {location final : Location}
    {names : List Text} {node : Node} :
    follow tree limit location names = .ok (final, node) ↔
      (∃ links ≤ limit, Leads tree links location names final) ∧ tree final = some node := by
  constructor
  · intro arrives
    have found := follow_ok arrives
    refine ⟨?_, found⟩
    fun_induction follow tree limit location names with
    | case1 limit location names there foundNode arrived =>
      cases arrives
      exact ⟨0, Nat.zero_le limit,
        (leads_iff_stretch found).mpr (by rw [arrived]; exact ⟨rfl, rfl⟩)⟩
    | case2 | case3 => cases arrives
    | case4 location names next more detour limit inductionHypothesis =>
      obtain ⟨links, within, leads⟩ := inductionHypothesis arrives
      exact ⟨1 + links, by omega,
        (leads_iff_stretch found).mpr (by rw [detour]; exact ⟨links, rfl, leads⟩)⟩
  · rintro ⟨⟨links, within, leads⟩, found⟩
    fun_induction follow tree limit location names generalizing links with
    | case1 limit location names there foundNode arrived =>
      have same := (leads_iff_stretch found).mp leads
      rw [arrived] at same
      have isThere := stretch_arrived arrived
      rw [same.2] at isThere ⊢
      rw [found, Option.some_inj] at isThere
      rw [isThere]
    | case2 limit location names errno blocked =>
      have none := (leads_iff_stretch found).mp leads
      rw [blocked] at none
      exact none.elim
    | case3 location names next more detour =>
      have goesOn := (leads_iff_stretch found).mp leads
      rw [detour] at goesOn
      obtain ⟨fewer, sum, _⟩ := goesOn
      omega
    | case4 location names next more detour limit inductionHypothesis =>
      have goesOn := (leads_iff_stretch found).mp leads
      rw [detour] at goesOn
      obtain ⟨fewer, sum, leads⟩ := goesOn
      exact inductionHypothesis fewer (by omega) leads

/-- A path that is not refused outright is walked along its names. -/
theorem walk_eq_ok_iff {world : World} {path : Text} {found : Location × Node} :
    world.walk path = .ok found ↔ Glyph.nul ∉ path ∧ path ≠ [] ∧
      (Text.bytes path).length < pathLimit ∧
      follow world.tree linkLimit (if Path.isAbsolute path then [] else world.directory)
        (Path.names path) = .ok found := by
  unfold walk
  split
  · next ended => simp [ended]
  split
  · next empty => simp [empty]
  split
  · next long => simp [Nat.not_lt.mpr long]
  · next whole named short =>
    simp only [whole, named, Nat.not_le.mp short, not_false_eq_true, ne_eq, true_and]
    cases follow world.tree linkLimit (if Path.isAbsolute path then [] else world.directory)
      (Path.names path) <;> simp [Except.mapError]

end World

end LineShell
