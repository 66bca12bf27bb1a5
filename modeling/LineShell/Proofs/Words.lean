/-
This file proves what trimming and splitting do to a text. Neither of them invents a glyph, so a
text without the character that ends texts has no piece with it. Trimming leaves a text alone that
has no blanks at its ends, and blanks put around any text are all it takes away besides those at
the ends. A name that can stand as the first word of a line comes through both unchanged, whatever
follows it after a space.
-/

import LineShell.Command.Parser
import LineShell.System.Path
import Mathlib.Data.List.TakeWhile

namespace LineShell

namespace Text

/-! ### Glyphs of a piece -/

theorem mem_of_mem_dropEndWhile {test : Glyph → Bool} {text : Text} {glyph : Glyph}
    (member : glyph ∈ text.dropEndWhile test) : glyph ∈ text := by
  rw [dropEndWhile, List.mem_reverse] at member
  exact List.mem_reverse.mp ((List.dropWhile_sublist test).subset member)

theorem mem_of_mem_trim {text : Text} {glyph : Glyph} (member : glyph ∈ trim text) :
    glyph ∈ text :=
  (List.dropWhile_sublist Glyph.isBlank).subset (mem_of_mem_dropEndWhile member)

theorem mem_of_mem_splitOn {separator glyph : Glyph} {text piece : Text}
    (member : piece ∈ text.splitOn separator) (inside : glyph ∈ piece) : glyph ∈ text := by
  induction text generalizing piece with
  | nil =>
    rw [List.splitOn_nil, List.mem_singleton] at member
    rwa [member] at inside
  | cons first rest inductionHypothesis =>
    rw [List.splitOn_cons_eq_if_modifyHead] at member
    split at member
    · rcases List.mem_cons.mp member with empty | inRest
      · rw [empty] at inside
        cases inside
      · exact List.mem_cons_of_mem first (inductionHypothesis inRest inside)
    · cases pieces : rest.splitOn separator with
      | nil => exact absurd pieces (List.splitOn_ne_nil separator rest)
      | cons head others =>
        rw [pieces, List.modifyHead_cons, List.mem_cons] at member
        rcases member with same | inOthers
        · rw [same, List.mem_cons] at inside
          rcases inside with isFirst | inHead
          · exact isFirst ▸ List.mem_cons_self
          · exact List.mem_cons_of_mem first
              (inductionHypothesis (pieces ▸ List.mem_cons_self) inHead)
        · exact List.mem_cons_of_mem first
            (inductionHypothesis (pieces ▸ List.mem_cons_of_mem head inOthers) inside)

/-- A piece between separators holds none of them. -/
theorem separator_notMem_splitOn {separator : Glyph} {text piece : Text}
    (member : piece ∈ text.splitOn separator) : separator ∉ piece := by
  induction text generalizing piece with
  | nil =>
    rw [List.splitOn_nil, List.mem_singleton] at member
    rw [member]
    exact List.not_mem_nil
  | cons first rest inductionHypothesis =>
    rw [List.splitOn_cons_eq_if_modifyHead] at member
    split at member
    · rcases List.mem_cons.mp member with empty | inRest
      · rw [empty]
        exact List.not_mem_nil
      · exact inductionHypothesis inRest
    · next other =>
      cases pieces : rest.splitOn separator with
      | nil => exact absurd pieces (List.splitOn_ne_nil separator rest)
      | cons head others =>
        rw [pieces] at inductionHypothesis
        rw [pieces, List.modifyHead_cons, List.mem_cons] at member
        rcases member with isFirst | inOthers
        · rw [isFirst, List.mem_cons, not_or]
          exact ⟨fun same => other (by rw [← same]; exact BEq.rfl),
            inductionHypothesis List.mem_cons_self⟩
        · exact inductionHypothesis (List.mem_cons_of_mem head inOthers)

/-! ### Trimming -/

theorem isPrefix_dropEndWhile (test : Glyph → Bool) (text : Text) :
    text.dropEndWhile test <+: text := by
  rw [dropEndWhile, ← List.reverse_suffix, List.reverse_reverse]
  exact List.dropWhile_suffix test

theorem dropWhile_eq_self {test : Glyph → Bool} {text : Text}
    (starts : ∀ glyph ∈ text.head?, test glyph = false) : text.dropWhile test = text := by
  cases text with
  | nil => rfl
  | cons glyph rest => rw [List.dropWhile_cons, if_neg (by simp [starts glyph rfl])]

/-- A final run does not reach beyond a glyph that is not of it. -/
theorem dropEndWhile_append {test : Glyph → Bool} {first : Text}
    (ends : ∀ glyph ∈ first.getLast?, test glyph = false) (second : Text) :
    (first ++ second).dropEndWhile test = first ++ second.dropEndWhile test := by
  have stops : first.reverse.dropWhile test = first.reverse := by
    refine dropWhile_eq_self fun glyph isHead => ends glyph ?_
    rwa [List.head?_reverse] at isHead
  rw [dropEndWhile, List.reverse_append, List.dropWhile_append, stops, dropEndWhile]
  split
  · next empty =>
    rw [List.isEmpty_iff.mp empty, List.reverse_reverse, List.reverse_nil, List.append_nil]
  · rw [List.reverse_append, List.reverse_reverse]

theorem dropEndWhile_eq_self {test : Glyph → Bool} {text : Text}
    (ends : ∀ glyph ∈ text.getLast?, test glyph = false) : text.dropEndWhile test = text := by
  have whole := dropEndWhile_append ends []
  rw [List.append_nil] at whole
  rw [whole]
  exact List.append_nil text

theorem dropEndWhile_append_of_all {test : Glyph → Bool} {second : Text}
    (all : ∀ glyph ∈ second, test glyph) (first : Text) :
    (first ++ second).dropEndWhile test = first.dropEndWhile test := by
  rw [dropEndWhile, List.reverse_append, List.dropWhile_append_of_pos]
  · rfl
  · exact fun glyph inside => all glyph (List.mem_reverse.mp inside)

/-- A trimmed text does not start with a blank. -/
theorem isBlank_head_trim {text : Text} {glyph : Glyph} (isHead : (trim text).head? = some glyph) :
    glyph.isBlank = false := by
  obtain ⟨rest, whole⟩ := isPrefix_dropEndWhile Glyph.isBlank (text.dropWhile Glyph.isBlank)
  have stop := List.head?_dropWhile_not Glyph.isBlank text
  cases trimmed : trim text with
  | nil =>
    rw [trimmed] at isHead
    cases isHead
  | cons first others =>
    rw [trimmed] at isHead
    have shape : text.dropWhile Glyph.isBlank = first :: (others ++ rest) := by
      rw [← whole]
      exact congrArg (· ++ rest) trimmed
    rw [shape] at stop
    rw [← Option.some_inj.mp isHead]
    simpa using stop

theorem head?_trim_ne_space (text : Text) : (trim text).head? ≠ some .space :=
  fun isSpace => absurd (isBlank_head_trim isSpace) (by decide)

theorem isBlank_getLast_trim {text : Text} {glyph : Glyph}
    (isLast : (trim text).getLast? = some glyph) : glyph.isBlank = false := by
  have stop := List.head?_dropWhile_not Glyph.isBlank (text.dropWhile Glyph.isBlank).reverse
  rw [trim, trimEnd, dropEndWhile, List.getLast?_reverse] at isLast
  rw [isLast] at stop
  simpa using stop

/-- A text without blanks at its ends stays as it is. -/
theorem trim_of_ends {text : Text} (starts : ∀ glyph ∈ text.head?, glyph.isBlank = false)
    (ends : ∀ glyph ∈ text.getLast?, glyph.isBlank = false) : trim text = text := by
  rw [trim, dropWhile_eq_self starts]
  exact dropEndWhile_eq_self ends

theorem trim_trim (text : Text) : trim (trim text) = trim text :=
  trim_of_ends (fun _ isHead => isBlank_head_trim isHead)
    fun _ isLast => isBlank_getLast_trim isLast

/-- Nothing is left of a text exactly if it is blank all through. -/
theorem trim_eq_nil_iff {text : Text} : trim text = [] ↔ ∀ glyph ∈ text, glyph.isBlank := by
  constructor
  · intro empty
    have blanks : ∀ glyph ∈ (text.dropWhile Glyph.isBlank).reverse, glyph.isBlank :=
      List.dropWhile_eq_nil_iff.mp (List.reverse_eq_nil_iff.mp empty)
    have stop := List.head?_dropWhile_not Glyph.isBlank text
    cases left : text.dropWhile Glyph.isBlank with
    | nil => exact List.dropWhile_eq_nil_iff.mp left
    | cons first rest =>
      rw [left] at stop blanks
      have blank := blanks first (List.mem_reverse.mpr List.mem_cons_self)
      simp [blank] at stop
  · intro blanks
    rw [trim, List.dropWhile_eq_nil_iff.mpr blanks]
    rfl

/-- Blanks around a text are trimmed with those that it has at its ends. -/
theorem trim_surrounded {before after : Text} (blankBefore : ∀ glyph ∈ before, glyph.isBlank)
    (blankAfter : ∀ glyph ∈ after, glyph.isBlank) (text : Text) :
    trim (before ++ text ++ after) = trim text := by
  rw [List.append_assoc, trim, List.dropWhile_append_of_pos blankBefore, List.dropWhile_append]
  split
  · next empty =>
    rw [List.dropWhile_eq_nil_iff.mpr blankAfter, trim, List.isEmpty_iff.mp empty]
  · exact dropEndWhile_append_of_all blankAfter _

/-! ### Names -/

/-- A text that can stand as the first word of a line. -/
structure IsName (name : Text) : Prop where
  nonempty : name ≠ []
  unspaced : .space ∉ name
  whole : .nul ∉ name
  starts : ∀ glyph ∈ name.head?, glyph.isBlank = false
  ends : ∀ glyph ∈ name.getLast?, glyph.isBlank = false

/-- A text that can stand at the end of a line. -/
structure IsTail (tail : Text) : Prop where
  whole : .nul ∉ tail
  ends : ∀ glyph ∈ tail.getLast?, glyph.isBlank = false

theorem IsName.isTail {name : Text} (isName : name.IsName) : name.IsTail :=
  ⟨isName.whole, isName.ends⟩

/-- Only what follows a name is trimmed. -/
theorem IsName.trim_append {name : Text} (isName : name.IsName) (tail : Text) :
    trim (name ++ tail) = name ++ trimEnd tail := by
  have starts : ∀ glyph ∈ (name ++ tail).head?, glyph.isBlank = false := by
    intro glyph isHead
    refine isName.starts glyph ?_
    cases name with
    | nil => exact absurd rfl isName.nonempty
    | cons first others => exact isHead
  rw [trim, dropWhile_eq_self starts]
  exact dropEndWhile_append isName.ends tail

/-- Nothing is trimmed from a tail that does not end in a blank. -/
theorem IsName.trim_append_eq {name tail : Text} (isName : name.IsName)
    (ends : ∀ glyph ∈ tail.getLast?, glyph.isBlank = false) :
    trim (name ++ tail) = name ++ tail := by
  rw [isName.trim_append, trimEnd, dropEndWhile_eq_self ends]

theorem IsName.trim_eq {name : Text} (isName : name.IsName) : trim name = name :=
  trim_of_ends isName.starts isName.ends

/-- What is left of arguments after a space is nothing or still starts with the space. -/
theorem trimEnd_space (arguments : Text) :
    trimEnd (.space :: arguments) = [] ∨
    ∃ rest, trimEnd (.space :: arguments) = .space :: rest ∧ rest <+: arguments := by
  rcases List.prefix_cons_iff.mp (isPrefix_dropEndWhile Glyph.isBlank (.space :: arguments)) with
    empty | ⟨rest, shape, isPrefix⟩
  · exact Or.inl empty
  · exact Or.inr ⟨rest, shape, isPrefix⟩

end Text

/-! ### Glyphs of a path -/

theorem Path.mem_of_mem_join {directory name : Text} {glyph : Glyph}
    (member : glyph ∈ join directory name) : glyph ∈ directory ∨ glyph = .slash ∨ glyph ∈ name := by
  unfold join at member
  split at member
  · exact Or.inr (Or.inr member)
  split at member
  · rcases List.mem_append.mp member with inDirectory | inName
    · exact Or.inl inDirectory
    · exact Or.inr (Or.inr inName)
  · rcases List.mem_append.mp member with inDirectory | after
    · exact Or.inl inDirectory
    · exact Or.inr (List.mem_cons.mp after)

end LineShell
