/-
This file says which commands lines ask for and how they are spelled. A command comes from some line
exactly if it is well-formed, and then every spelling of it is understood as this command: its
plainest line, with any blanks around it, and for a program also with any number of spaces between
the words. Words and lines meet in `Spaced`, which describes a line by its words and gaps: from
there the words can be read back, and the ends of the line are the ends of its first and last word.
-/

import LineShell.Proofs.Numerals
import LineShell.Proofs.Parsing
import Mathlib.Data.List.Basic

namespace LineShell

/-! ### Words and tails -/

/-- A text that can stand among the words of a line. -/
structure Text.IsWord (word : Text) : Prop where
  nonempty : word ≠ []
  unspaced : .space ∉ word
  whole : .nul ∉ word

/-- What a line ends with can stand at the end of a line if the line can. -/
theorem Text.IsTail.of_suffix {line tail : Text} (isTail : line.IsTail) (suffix : tail <:+ line) :
    tail.IsTail := by
  refine ⟨fun inside => isTail.whole (suffix.subset inside), fun glyph isLast => ?_⟩
  obtain ⟨before, rfl⟩ := suffix
  refine isTail.ends glyph ?_
  rw [List.getLast?_append, isLast]
  rfl

theorem Text.isTail_trim {line : Text} (whole : .nul ∉ Text.trim line) : (Text.trim line).IsTail :=
  ⟨whole, fun _ isLast => Text.isBlank_getLast_trim isLast⟩

namespace Command

theorem isWord_of_mem_words {line word : Text} (whole : .nul ∉ line) (listed : word ∈ words line) :
    word.IsWord := by
  obtain ⟨piece, nonempty⟩ := List.mem_filter.mp listed
  exact
    { nonempty := by simpa using nonempty
      unspaced := Text.separator_notMem_splitOn piece
      whole := fun inside => whole (Text.mem_of_mem_splitOn piece inside) }

/-- The last word of a line is what it ends with, unless that is a space. -/
theorem getLast?_words {line : Text} (notEmpty : line ≠ [])
    (ends : line.getLast? ≠ some .space) : ∃ word, (words line).getLast? = some word ∧
      word <:+ line := by
  by_cases spaced : Glyph.space ∈ line
  · -- The last space of the line is the first one of the reversed line.
    obtain ⟨after, before, shape, absent⟩ :=
      List.eq_append_cons_of_mem (List.mem_reverse.mpr spaced)
    have cut : line = before.reverse ++ .space :: after.reverse := by
      rw [← List.reverse_reverse line, shape]
      simp
    have named : after.reverse ≠ [] := by
      intro empty
      rw [cut, empty] at ends
      exact ends (by simp)
    have unspaced : Glyph.space ∉ after.reverse := fun inside => absent (List.mem_reverse.mp inside)
    refine ⟨after.reverse, ?_, before.reverse ++ [.space], ?_⟩
    · rw [cut, words_append_space, words_of_unspaced named unspaced]
      exact List.getLast?_concat
    · rw [cut, List.append_assoc]
      rfl
  · exact ⟨line, by rw [words_of_unspaced notEmpty spaced]; rfl, List.suffix_refl line⟩

/-! ### Words with gaps -/

/-- The line is made of these words, with one space or more between each and the next. -/
inductive Spaced : List Text → Text → Prop where
  | last (word : Text) : Spaced [word] word
  | more (word : Text) (gap : Nat) {following : List Text} {line : Text}
      (spaced : Spaced following line) :
      Spaced (word :: following) (word ++ List.replicate (gap + 1) .space ++ line)

/-- Words put together with single spaces are spaced. -/
theorem spaced_joined (first : Text) (others : List Text) :
    Spaced (first :: others) (Text.joined .space (first :: others)) := by
  induction others generalizing first with
  | nil =>
    rw [Text.joined, List.intercalate_singleton]
    exact .last first
  | cons second rest inductionHypothesis =>
    have spaced := Spaced.more first 0 (inductionHypothesis second)
    rw [Text.joined, List.intercalate_cons_cons]
    exact spaced

theorem words_replicate_space (gap : Nat) (line : Text) :
    words (List.replicate gap .space ++ line) = words line := by
  induction gap with
  | zero => rfl
  | succ gap inductionHypothesis =>
    have part := words_append_space [] (List.replicate gap .space ++ line)
    rw [inductionHypothesis] at part
    exact part

namespace Spaced

variable {listed : List Text} {line : Text}

/-- The words of a spaced line are read back, however wide the gaps are. -/
theorem words_eq (spaced : Spaced listed line) (isWord : ∀ word ∈ listed, word.IsWord) :
    words line = listed := by
  induction spaced with
  | last word =>
    have only := isWord word List.mem_cons_self
    exact words_of_unspaced only.nonempty only.unspaced
  | more word gap _ inductionHypothesis =>
    rw [List.forall_mem_cons] at isWord
    rw [List.append_assoc, List.replicate_succ, List.cons_append, words_append_space,
      words_of_unspaced isWord.1.nonempty isWord.1.unspaced, words_replicate_space,
      inductionHypothesis isWord.2]
    rfl

theorem nul_notMem (spaced : Spaced listed line) (isWord : ∀ word ∈ listed, word.IsWord) :
    .nul ∉ line := by
  induction spaced with
  | last word => exact (isWord word List.mem_cons_self).whole
  | more word gap _ inductionHypothesis =>
    rw [List.forall_mem_cons] at isWord
    rw [List.mem_append, List.mem_append, List.mem_replicate, not_or, not_or]
    exact ⟨⟨isWord.1.whole, fun inGap => absurd inGap.2 (by decide)⟩, inductionHypothesis isWord.2⟩

theorem isPrefix {first : Text} {others : List Text} (spaced : Spaced (first :: others) line) :
    first <+: line := by
  cases spaced with
  | last => exact List.prefix_refl _
  | more _ gap _ => exact ⟨_, (List.append_assoc _ _ _).symm⟩

theorem isSuffix {word : Text} (spaced : Spaced listed line)
    (isLast : listed.getLast? = some word) : word <:+ line := by
  induction spaced with
  | last only =>
    rw [← Option.some_inj.mp isLast]
    exact List.suffix_refl _
  | more first gap following inductionHypothesis =>
    refine (inductionHypothesis ?_).trans (List.suffix_append _ _)
    cases following <;> exact isLast

end Spaced

/-! ### Well-formed commands -/

/-- These words make a line of their own that asks for a program. -/
structure Callable (program : Text) (arguments : List Text) : Prop where
  isWord : ∀ word ∈ program :: arguments, word.IsWord
  starts : ∀ glyph ∈ program.head?, glyph.isBlank = false
  other : program ∉ keywords
  ends : ∀ word ∈ (program :: arguments).getLast?, ∀ glyph ∈ word.getLast?, glyph.isBlank = false

/-- A line that is neither empty nor has a blank at its ends makes up its words. -/
theorem callable_words {line : Text} (notEmpty : line ≠ [])
    (starts : ∀ glyph ∈ line.head?, glyph.isBlank = false) (isTail : line.IsTail)
    (other : (line.cut .space).1 ∉ keywords) :
    Callable (line.cut .space).1 (words line).tail := by
  have isSpaceBlank : Glyph.space.isBlank ≠ false := by decide
  have start : line.head? ≠ some .space := fun isSpace => isSpaceBlank (starts _ isSpace)
  have last : line.getLast? ≠ some .space := fun isSpace => isSpaceBlank (isTail.ends _ isSpace)
  have shape := words_eq_cons notEmpty start
  refine ⟨?_, ?_, other, ?_⟩
  · rw [← shape]
    exact fun word listed => isWord_of_mem_words isTail.whole listed
  · intro glyph isHead
    obtain ⟨rest, whole⟩ : (line.cut .space).1 <+: line := List.takeWhile_prefix _
    refine starts glyph ?_
    rw [← whole, List.head?_append, isHead]
    rfl
  · rw [← shape]
    obtain ⟨word, isLast, suffix⟩ := getLast?_words notEmpty last
    rw [isLast]
    rintro other ⟨⟩
    exact (isTail.of_suffix suffix).ends

/-- The form of the commands that lines ask for. -/
def WellFormed : Command → Prop
  | .exit code => ∀ number ∈ code, 0 ≤ number ∧ number ≤ ExitCode.largest
  | .echo text => text.IsTail
  | .type target => target.IsTail
  | .pwd => True
  | .cd path => ∀ text ∈ path, text.IsWord
  | .external program arguments => Callable program arguments
  | .unrecognized line => .nul ∈ line ∧ Text.trim line = line

theorem wellFormed_of_ofLine {line : Text} {command : Command}
    (parsed : ofLine line = .ok (some command)) : command.WellFormed := by
  have afterKeyword : (((Text.trim line).cut .space).2 <:+ Text.trim line) :=
    (List.tail_suffix _).trans (List.dropWhile_suffix _)
  cases ofTrimmed_eq_iff.mp (ofTrimmed_of_ofLine parsed) with
  | unrecognized held => exact ⟨held, Text.trim_trim line⟩
  | exit whole leaving reads =>
    obtain ⟨code, rfl, bounds⟩ := bounds_of_exitOfLine reads
    rintro number ⟨⟩
    exact bounds
  | echo whole keyword => exact (Text.isTail_trim whole).of_suffix afterKeyword
  | type whole keyword => exact (Text.isTail_trim whole).of_suffix afterKeyword
  | pwd whole keyword => trivial
  | cd whole keyword =>
    exact fun path second => isWord_of_mem_words whole (List.mem_of_getElem? second)
  | external whole other =>
    exact callable_words (trim_ne_nil_of_ofLine parsed)
      (fun _ isHead => Text.isBlank_head_trim isHead) (Text.isTail_trim whole) other

/-! ### Spellings -/

/-- The line is a spelling of the command: for a program its words with any gaps between them, else
the plainest line of the command. -/
def WrittenAs : Command → Text → Prop
  | .external program arguments, line => Spaced (program :: arguments) line
  | command, line => line = command.line

theorem writtenAs_line (command : Command) : command.WrittenAs command.line := by
  cases command with
  | external program arguments => exact spaced_joined program arguments
  | _ => rfl

/-- A status is understood when it is written out. -/
theorem ofLine_exit {code : Int} (lower : 0 ≤ code) (upper : code ≤ ExitCode.largest) :
    ofLine (keywordLine "exit" (Text.ofInt code)) = .ok (some (.exit (some code))) := by
  have listed : Text.of "exit" ∈ keywords := by decide
  have token := Text.isName_ofInt lower
  have leaving := congrArg Prod.fst (cut_keywordLine listed (Text.ofInt code))
  have reads : exitOfLine (keywordLine "exit" (Text.ofInt code)) = .ok (.exit (some code)) := by
    rw [exitOfLine, codeToken_keywordLine listed token.nonempty token.unspaced]
    dsimp only
    rw [ExitCode.read_ofInt lower upper]
    rfl
  exact ofLine_keywordLine listed token.isTail
    (.exit (nul_notMem_keywordLine listed token.whole) leaving reads)

/-- The dot keeps the blanks at the end of the path, and is not read itself. -/
theorem ofLine_cd {path : Text} (isWord : path.IsWord) :
    ofLine (keywordLine "cd" (path ++ Text.of " .")) = .ok (some (.cd (some path))) := by
  have listed : Text.of "cd" ∈ keywords := by decide
  have nonempty : path ++ Text.of " ." ≠ [] := List.append_ne_nil_of_left_ne_nil isWord.nonempty _
  have isTail : (path ++ Text.of " .").IsTail := by
    refine ⟨fun inside => ?_, fun glyph isLast => ?_⟩
    · rcases List.mem_append.mp inside with inPath | inDot
      · exact isWord.whole inPath
      · exact absurd inDot (by decide)
    · rw [List.getLast?_append] at isLast
      cases isLast
      rfl
  have parts : words (keywordLine "cd" (path ++ Text.of " .")) =
      words (Text.of "cd") ++ (words path ++ words (Text.of ".")) := by
    rw [keywordLine, if_neg nonempty, words_append_space]
    exact congrArg _ (words_append_space path (Text.of "."))
  rw [words_of_unspaced isWord.nonempty isWord.unspaced] at parts
  have reading := Reading.cd (nul_notMem_keywordLine listed isTail.whole)
    (congrArg Prod.fst (cut_keywordLine listed (path ++ Text.of " .")))
  rw [parts] at reading
  exact ofLine_keywordLine listed isTail reading

/-- A program is called by its words, however wide the gaps are. -/
theorem ofLine_spaced {program line : Text} {arguments : List Text}
    (callable : Callable program arguments) (spaced : Spaced (program :: arguments) line) :
    ofLine line = .ok (some (.external program arguments)) := by
  have named := (callable.isWord program List.mem_cons_self).nonempty
  have notEmpty : line ≠ [] := fun empty => named (List.prefix_nil.mp (empty ▸ spaced.isPrefix))
  have starts : ∀ glyph ∈ line.head?, glyph.isBlank = false := by
    obtain ⟨rest, rfl⟩ := spaced.isPrefix
    rw [List.head?_append_of_ne_nil _ named]
    exact callable.starts
  have ends : ∀ glyph ∈ line.getLast?, glyph.isBlank = false := by
    have isLast := List.getLast?_eq_some_getLast (List.cons_ne_nil program arguments)
    have listed := callable.isWord _ (List.mem_of_getLast? isLast)
    obtain ⟨before, rfl⟩ := spaced.isSuffix isLast
    rw [List.getLast?_append_of_ne_nil _ listed.nonempty]
    exact callable.ends _ isLast
  have start : line.head? ≠ some .space := fun isSpace => absurd (starts _ isSpace) (by decide)
  have parts := spaced.words_eq callable.isWord
  have keyword : (line.cut .space).1 = program := by
    have first := head_words notEmpty start
    rw [parts] at first
    exact (Option.some_inj.mp first).symm
  have parsed : ofTrimmed line = .ok (.external program arguments) := by
    refine ofTrimmed_external_iff.mpr ⟨spaced.nul_notMem callable.isWord, ?_, keyword.symm, ?_⟩
    · rw [keyword]
      exact callable.other
    · rw [parts, List.tail_cons]
  exact ofLine_of_reading (Text.trim_of_ends starts ends) notEmpty (ofTrimmed_eq_iff.mp parsed)

theorem ofLine_of_writtenAs {command : Command} (wellFormed : command.WellFormed) {line : Text}
    (written : command.WrittenAs line) : ofLine line = .ok (some command) := by
  cases command with
  | exit code =>
    cases code with
    | none => rw [written]; rfl
    | some number =>
      obtain ⟨lower, upper⟩ := wellFormed number rfl
      rw [written]
      exact ofLine_exit lower upper
  | echo text =>
    rw [written]
    exact ofLine_keywordLine (by decide) wellFormed (reading_echo wellFormed.whole)
  | type target =>
    rw [written]
    exact ofLine_keywordLine (by decide) wellFormed (reading_type wellFormed.whole)
  | pwd => rw [written]; rfl
  | cd path =>
    cases path with
    | none => rw [written]; rfl
    | some path =>
      rw [written]
      exact ofLine_cd (wellFormed path rfl)
  | external program arguments => exact ofLine_spaced wellFormed written
  | unrecognized text =>
    obtain ⟨held, trimmed⟩ := wellFormed
    rw [written]
    exact ofLine_of_reading trimmed (List.ne_nil_of_mem held) (.unrecognized held)

/-- Lines ask for exactly the well-formed commands. The plainest line of such a command is one of
its spellings, and every spelling is understood as it, with any blanks around it. -/
theorem ofLine_image (command : Command) :
    ((∃ line, ofLine line = .ok (some command)) ↔ command.WellFormed) ∧
    command.WrittenAs command.line ∧
    (command.WellFormed → ∀ line before after : Text, command.WrittenAs line →
      (∀ glyph ∈ before, glyph.isBlank) → (∀ glyph ∈ after, glyph.isBlank) →
        ofLine (before ++ line ++ after) = .ok (some command)) := by
  refine ⟨⟨fun ⟨_, parsed⟩ => wellFormed_of_ofLine parsed, fun wellFormed => ?_⟩,
    writtenAs_line command, ?_⟩
  · exact ⟨command.line, ofLine_of_writtenAs wellFormed (writtenAs_line command)⟩
  · intro wellFormed line before after written blankBefore blankAfter
    rw [ofLine_congr (Text.trim_surrounded blankBefore blankAfter line)]
    exact ofLine_of_writtenAs wellFormed written

/-- A program whose name ends in a tab, with two gaps of different width and blanks around all. -/
theorem ofLine_image_tabbed :
    WellFormed (.external (Text.of "my\t") [Text.of "-v", Text.of "\tlog"]) ∧
      ofLine (Text.of "\t my\t   -v \tlog \n") =
        .ok (some (.external (Text.of "my\t") [Text.of "-v", Text.of "\tlog"])) := by
  have callable : Callable (Text.of "my\t") [Text.of "-v", Text.of "\tlog"] := by
    refine ⟨?_, by decide, by decide, by decide⟩
    simp only [List.forall_mem_cons]
    exact ⟨⟨by decide, by decide, by decide⟩, ⟨by decide, by decide, by decide⟩,
      ⟨by decide, by decide, by decide⟩, nofun⟩
  have spaced : Spaced [Text.of "my\t", Text.of "-v", Text.of "\tlog"]
      (Text.of "my\t   -v \tlog") :=
    .more (Text.of "my\t") 2 (.more (Text.of "-v") 0 (.last (Text.of "\tlog")))
  have image := ofLine_image (.external (Text.of "my\t") [Text.of "-v", Text.of "\tlog"])
  exact ⟨callable, image.2.2 callable _ (Text.of "\t ") (Text.of " \n") spaced
    (by decide) (by decide)⟩

end Command

end LineShell
