/-
This file says what lines are understood as. A trimmed line is read by its keyword, and everything
here is a look at the cases of that reading. Every line is understood unless it asks to leave with a
code of too many digits, and the status of a request to leave always fits a byte. What a command
looks up or enters is a piece of its line, so it is free of the character that ends texts.
-/

import LineShell.Command.Printer
import LineShell.Proofs.Failures

namespace LineShell

/-! ### Exit codes -/

/-- If the line asks to leave, its exit code has no more digits than a number may have. -/
def Command.Short (line : Text) : Prop :=
  (line.cut .space).1 = Text.of "exit" → ∀ token ∈ codeToken line,
    ExitCode.wellFormed token → (ExitCode.digits token).length ≤ Failure.digitLimit

instance (line : Text) : Decidable (Command.Short line) :=
  inferInstanceAs (Decidable ((line.cut .space).1 = Text.of "exit" →
    ∀ token ∈ Command.codeToken line,
      ExitCode.wellFormed token → (ExitCode.digits token).length ≤ Failure.digitLimit))

/-- A code that is read is a status. -/
theorem ExitCode.bounds_of_read {token : Text} {code : Option Int} (reads : read token = .ok code) :
    0 ≤ Command.exitStatus code ∧ Command.exitStatus code ≤ largest := by
  have zero : 0 ≤ Command.exitStatus none ∧ Command.exitStatus none ≤ largest := by decide
  unfold read at reads
  split at reads
  · split at reads
    · cases reads
    · rw [← Except.ok.inj reads]
      split
      · next small =>
        exact ⟨Int.natCast_nonneg _, Int.ofNat_le.mpr small⟩
      · exact zero
  · rw [← Except.ok.inj reads]
    exact zero

/-- The only reason not to read a code is that it has too many digits. -/
theorem ExitCode.read_error_iff {token : Text} {failure : Failure} :
    read token = .error failure ↔
      wellFormed token ∧ Failure.digitLimit < (digits token).length ∧
        failure = .tooManyDigits (digits token).length := by
  unfold read
  split
  · next form =>
    split
    · next long =>
      exact ⟨fun failed => ⟨form, long, (Except.error.inj failed).symm⟩,
        fun overlong => congrArg Except.error overlong.2.2.symm⟩
    · next short =>
      exact ⟨nofun, fun overlong => absurd overlong.2.1 short⟩
  · next other =>
    exact ⟨nofun, fun overlong => absurd overlong.1 other⟩

/-! ### Keywords -/

namespace Command

/-- The keywords of the built-in commands. -/
def keywords : List Text :=
  [Text.of "exit", Text.of "echo", Text.of "type", Text.of "pwd", Text.of "cd"]

/-- What a trimmed line comes to, by its keyword. -/
inductive Reading (line : Text) : Except Failure Command → Prop where
  | unrecognized (held : .nul ∈ line) : Reading line (.ok (.unrecognized line))
  | exit {result : Except Failure Command} (whole : .nul ∉ line)
      (keyword : (line.cut .space).1 = Text.of "exit") (reads : exitOfLine line = result) :
      Reading line result
  | echo (whole : .nul ∉ line) (keyword : (line.cut .space).1 = Text.of "echo") :
      Reading line (.ok (.echo (line.cut .space).2))
  | type (whole : .nul ∉ line) (keyword : (line.cut .space).1 = Text.of "type") :
      Reading line (.ok (.type (line.cut .space).2))
  | pwd (whole : .nul ∉ line) (keyword : (line.cut .space).1 = Text.of "pwd") :
      Reading line (.ok .pwd)
  | cd (whole : .nul ∉ line) (keyword : (line.cut .space).1 = Text.of "cd") :
      Reading line (.ok (.cd (words line)[1]?))
  | external (whole : .nul ∉ line) (other : (line.cut .space).1 ∉ keywords) :
      Reading line (.ok (.external (line.cut .space).1 (words line).tail))

theorem ofTrimmed_eq_iff {line : Text} {result : Except Failure Command} :
    ofTrimmed line = result ↔ Reading line result := by
  constructor
  · rintro rfl
    rw [ofTrimmed]
    split
    · next held => exact .unrecognized held
    next whole =>
    dsimp only
    split
    · next isExit => exact .exit whole isExit rfl
    next notExit =>
    split
    · next isEcho => exact .echo whole isEcho
    next notEcho =>
    split
    · next isType => exact .type whole isType
    next notType =>
    split
    · next isPwd => exact .pwd whole isPwd
    next notPwd =>
    split
    · next isCd => exact .cd whole isCd
    next notCd =>
    refine .external whole ?_
    simp only [keywords, List.mem_cons, List.not_mem_nil, or_false, not_or]
    exact ⟨notExit, notEcho, notType, notPwd, notCd⟩
  · intro reading
    unfold ofTrimmed
    cases reading with
    | unrecognized held => exact if_pos held
    | exit whole keyword reads =>
      rw [if_neg whole, ← reads]
      exact if_pos keyword
    | echo whole keyword | type whole keyword | pwd whole keyword | cd whole keyword =>
      rw [if_neg whole]
      simp only [keyword]
      rfl
    | external whole other =>
      simp only [keywords, List.mem_cons, List.not_mem_nil, or_false, not_or] at other
      rw [if_neg whole]
      dsimp only
      rw [if_neg other.1, if_neg other.2.1, if_neg other.2.2.1, if_neg other.2.2.2.1,
        if_neg other.2.2.2.2]

/-! ### Requests to leave -/

/-- A line asks to leave with this code, which has more digits than a number may have. -/
structure Overlong (line token : Text) : Prop where
  whole : .nul ∉ line
  leaving : (line.cut .space).1 = Text.of "exit"
  code : codeToken line = some token
  form : ExitCode.wellFormed token
  long : Failure.digitLimit < (ExitCode.digits token).length

/-- The only reason not to understand a line is an exit code of too many digits. -/
theorem ofTrimmed_error_iff {line : Text} {failure : Failure} :
    ofTrimmed line = .error failure ↔
      ∃ token, Overlong line token ∧
        failure = .tooManyDigits (ExitCode.digits token).length := by
  constructor
  · intro failed
    cases ofTrimmed_eq_iff.mp failed with
    | exit whole leaving reads =>
      unfold exitOfLine at reads
      cases code : codeToken line with
      | none => simp [code] at reads
      | some token =>
        cases outcome : ExitCode.read token with
        | ok value => simp [code, outcome, Except.map] at reads
        | error other =>
          simp only [code, outcome] at reads
          obtain ⟨form, long, rfl⟩ := ExitCode.read_error_iff.mp outcome
          exact ⟨token, ⟨whole, leaving, code, form, long⟩, (Except.error.inj reads).symm⟩
  · rintro ⟨token, overlong, rfl⟩
    have fails := ExitCode.read_error_iff.mpr ⟨overlong.form, overlong.long, rfl⟩
    refine ofTrimmed_eq_iff.mpr (.exit overlong.whole overlong.leaving ?_)
    rw [exitOfLine, overlong.code]
    dsimp only
    rw [fails]
    rfl

/-- A line without a code of too many digits is understood. -/
theorem ofTrimmed_of_short {line : Text} (short : Short line) :
    ∃ command, ofTrimmed line = .ok command := by
  cases outcome : ofTrimmed line with
  | ok command => exact ⟨command, rfl⟩
  | error failure =>
    obtain ⟨token, overlong, _⟩ := ofTrimmed_error_iff.mp outcome
    have limit := short overlong.leaving token overlong.code overlong.form
    exact absurd overlong.long (Nat.not_lt.mpr limit)

/-- A request to leave that comes from a line has a status that fits a byte. -/
theorem bounds_of_exitOfLine {line : Text} {command : Command}
    (parsed : exitOfLine line = .ok command) : ∃ code, command = .exit code ∧
      0 ≤ exitStatus code ∧ exitStatus code ≤ ExitCode.largest := by
  unfold exitOfLine at parsed
  cases token : codeToken line with
  | none =>
    rw [token] at parsed
    exact ⟨none, (Except.ok.inj parsed).symm, by decide⟩
  | some text =>
    rw [token] at parsed
    cases reads : ExitCode.read text with
    | error failure =>
      simp only [reads] at parsed
      cases parsed
    | ok code =>
      simp only [reads] at parsed
      exact ⟨code, (Except.ok.inj parsed).symm, ExitCode.bounds_of_read reads⟩

/-! ### Commands -/

/-- What a line is understood as: a request to leave has a status that fits a byte, and what any
other command looks up or enters is free of the character that ends texts. -/
theorem ofTrimmed_cases {line : Text} {command : Command} (parsed : ofTrimmed line = .ok command) :
    (∃ code, command = .exit code ∧ 0 ≤ exitStatus code ∧ exitStatus code ≤ ExitCode.largest) ∨
    ((∀ code, command ≠ .exit code) ∧ command.NulFree) := by
  cases ofTrimmed_eq_iff.mp parsed with
  | unrecognized held => exact Or.inr ⟨nofun, trivial⟩
  | exit whole leaving reads => exact Or.inl (bounds_of_exitOfLine reads)
  | echo whole keyword => exact Or.inr ⟨nofun, trivial⟩
  | type whole keyword =>
    refine Or.inr ⟨nofun, fun inside => whole ?_⟩
    exact (List.dropWhile_sublist _).subset (List.mem_of_mem_tail inside)
  | pwd whole keyword => exact Or.inr ⟨nofun, trivial⟩
  | cd whole keyword =>
    refine Or.inr ⟨nofun, ?_⟩
    cases second : (words line)[1]? with
    | none => trivial
    | some path =>
      have listed : path ∈ words line := List.mem_of_getElem? second
      exact fun inside => whole (Text.mem_of_mem_splitOn (List.mem_filter.mp listed).1 inside)
  | external whole other =>
    exact Or.inr ⟨nofun, fun inside => whole ((List.takeWhile_sublist _).subset inside)⟩

/-- What any command of a line looks up or enters is free of that character. -/
theorem ofTrimmed_nulFree {line : Text} {command : Command}
    (parsed : ofTrimmed line = .ok command) : command.NulFree := by
  rcases ofTrimmed_cases parsed with ⟨code, rfl, _⟩ | ⟨_, fields⟩
  · trivial
  · exact fields

/-- A line asks for a program exactly if its keyword is none of a built-in command. -/
theorem ofTrimmed_external_iff {line program : Text} {arguments : List Text} :
    ofTrimmed line = .ok (.external program arguments) ↔
      .nul ∉ line ∧ (line.cut .space).1 ∉ keywords ∧
        program = (line.cut .space).1 ∧ arguments = (words line).tail := by
  constructor
  · intro parsed
    cases ofTrimmed_eq_iff.mp parsed with
    | exit whole leaving reads =>
      obtain ⟨code, different, _⟩ := bounds_of_exitOfLine reads
      cases different
    | external whole other => exact ⟨whole, other, rfl, rfl⟩
  · rintro ⟨whole, other, rfl, rfl⟩
    exact ofTrimmed_eq_iff.mpr (.external whole other)

/-- What follows the name of a program is free of the character that ends texts. -/
theorem nul_notMem_arguments {line program : Text} {arguments : List Text}
    (parsed : ofTrimmed line = .ok (.external program arguments)) :
    ∀ argument ∈ arguments, Glyph.nul ∉ argument := by
  obtain ⟨whole, _, _, rfl⟩ := ofTrimmed_external_iff.mp parsed
  intro argument member inside
  have word := (List.mem_filter.mp (List.mem_of_mem_tail member)).1
  exact whole (Text.mem_of_mem_splitOn word inside)

/-! ### Words -/

theorem words_of_unspaced {word : Text} (nonempty : word ≠ []) (unspaced : .space ∉ word) :
    words word = [word] := by
  rw [words, List.splitOn_eq_singleton unspaced]
  exact List.filter_cons_of_pos (by simpa using nonempty)

/-- A space parts the words before it from those after it. -/
theorem words_append_space (before after : Text) :
    words (before ++ .space :: after) = words before ++ words after := by
  rw [words, List.splitOn_append_cons_self, List.filter_append]
  rfl

/-- The keyword of a line that does not start with a space is its first word. -/
theorem head_words {line : Text} (notEmpty : line ≠ []) (start : line.head? ≠ some .space) :
    (words line).head? = some (line.cut .space).1 := by
  by_cases spaced : Glyph.space ∈ line
  · obtain ⟨before, after, shape, absent⟩ := List.eq_append_cons_of_mem spaced
    have named : before ≠ [] := by
      intro empty
      rw [shape, empty] at start
      exact start rfl
    rw [shape, words_append_space, words_of_unspaced named absent, Text.cut_append_cons absent]
    rfl
  · rw [words_of_unspaced notEmpty spaced, Text.cut_of_notMem spaced]
    rfl

theorem words_eq_cons {line : Text} (notEmpty : line ≠ []) (start : line.head? ≠ some .space) :
    words line = (line.cut .space).1 :: (words line).tail := by
  obtain ⟨others, shape⟩ := List.head?_eq_some_iff.mp (head_words notEmpty start)
  rw [shape, List.tail_cons]

/-! ### Whole lines -/

theorem trim_ne_nil_of_ofLine {line : Text} {command : Command}
    (parsed : ofLine line = .ok (some command)) : Text.trim line ≠ [] := by
  intro empty
  rw [ofLine_of_trim_eq_nil empty] at parsed
  cases parsed

theorem ofTrimmed_of_ofLine {line : Text} {command : Command}
    (parsed : ofLine line = .ok (some command)) : ofTrimmed (Text.trim line) = .ok command := by
  rw [ofLine_of_trim_ne_nil (trim_ne_nil_of_ofLine parsed)] at parsed
  cases outcome : ofTrimmed (Text.trim line) with
  | error failure =>
    rw [outcome] at parsed
    cases parsed
  | ok other =>
    rw [outcome] at parsed
    rw [Option.some_inj.mp (Except.ok.inj parsed)]

/-- A line without blanks at its ends is read as it is. -/
theorem ofLine_of_reading {line : Text} {command : Command} (trimmed : Text.trim line = line)
    (notEmpty : line ≠ []) (reading : Reading line (.ok command)) :
    ofLine line = .ok (some command) := by
  rw [ofLine_of_trim_ne_nil (by rw [trimmed]; exact notEmpty), trimmed,
    ofTrimmed_eq_iff.mpr reading]
  rfl

theorem ofLine_error_iff {line : Text} {failure : Failure} :
    ofLine line = .error failure ↔ ofTrimmed (Text.trim line) = .error failure := by
  by_cases blank : Text.trim line = []
  · rw [ofLine_of_trim_eq_nil blank, blank]
    exact ⟨nofun, nofun⟩
  · rw [ofLine_of_trim_ne_nil blank]
    cases outcome : ofTrimmed (Text.trim line) with
    | error other =>
      exact ⟨fun failed => congrArg Except.error (Except.error.inj failed),
        fun failed => congrArg Except.error (Except.error.inj failed)⟩
    | ok command => exact ⟨nofun, nofun⟩

theorem ofLine_of_short {line : Text} (short : Short (Text.trim line)) :
    Text.trim line = [] ∨ ∃ command, ofLine line = .ok (some command) := by
  by_cases blank : Text.trim line = []
  · exact Or.inl blank
  · obtain ⟨command, parsed⟩ := ofTrimmed_of_short short
    exact Or.inr ⟨command, by rw [ofLine_of_trim_ne_nil blank, parsed]; rfl⟩

end Command

/-! ### Lines of a keyword -/

namespace Command

theorem isName_of_mem_keywords {keyword : Text} (listed : keyword ∈ keywords) :
    keyword.IsName := by
  simp only [keywords, List.mem_cons, List.not_mem_nil, or_false] at listed
  rcases listed with rfl | rfl | rfl | rfl | rfl <;>
    exact ⟨by decide, by decide, by decide, by decide, by decide⟩

section

variable {keyword : String} {rest : Text} (listed : Text.of keyword ∈ keywords)

include listed

theorem cut_keywordLine (rest : Text) :
    (keywordLine keyword rest).cut .space = (Text.of keyword, rest) := by
  have unspaced := (isName_of_mem_keywords listed).unspaced
  unfold keywordLine
  split
  · next empty => rw [empty, Text.cut_of_notMem unspaced]
  · rw [Text.cut_append_cons unspaced]

theorem keywordLine_ne_nil (rest : Text) : keywordLine keyword rest ≠ [] := by
  have named := (isName_of_mem_keywords listed).nonempty
  unfold keywordLine
  split
  · exact named
  · exact List.append_ne_nil_of_left_ne_nil named _

theorem nul_notMem_keywordLine (whole : .nul ∉ rest) : .nul ∉ keywordLine keyword rest := by
  have free := (isName_of_mem_keywords listed).whole
  unfold keywordLine
  split
  · exact free
  · rw [List.mem_append, List.mem_cons, not_or, not_or]
    exact ⟨free, by decide, whole⟩

/-- With or without a rest, the line is what trimming leaves of keyword, space and rest. -/
theorem trim_keyword_append (ends : ∀ glyph ∈ rest.getLast?, glyph.isBlank = false) :
    Text.trim (Text.of keyword ++ .space :: rest) = keywordLine keyword rest := by
  have isName := isName_of_mem_keywords listed
  rw [keywordLine]
  cases rest with
  | nil =>
    rw [if_pos rfl, isName.trim_append]
    exact List.append_nil _
  | cons first others =>
    rw [if_neg (List.cons_ne_nil first others)]
    exact isName.trim_append_eq ends

theorem trim_keywordLine (ends : ∀ glyph ∈ rest.getLast?, glyph.isBlank = false) :
    Text.trim (keywordLine keyword rest) = keywordLine keyword rest := by
  rw [← trim_keyword_append listed ends, Text.trim_trim]

/-- Between the keyword and the end of the line stands the code, if it is one word. -/
theorem codeToken_keywordLine (nonempty : rest ≠ []) (unspaced : .space ∉ rest) :
    codeToken (keywordLine keyword rest) = some rest := by
  have isName := isName_of_mem_keywords listed
  rw [codeToken, keywordLine, if_neg nonempty,
    List.splitOn_append_cons_self_of_not_mem isName.unspaced, List.splitOn_eq_singleton unspaced]
  rfl

variable (isTail : rest.IsTail) {command : Command}
  (reading : Reading (keywordLine keyword rest) (.ok command))

include isTail reading

theorem ofLine_keywordLine : ofLine (keywordLine keyword rest) = .ok (some command) :=
  ofLine_of_reading (trim_keywordLine listed isTail.ends) (keywordLine_ne_nil listed rest) reading

/-- What follows the keyword and a space reaches the keyword's command as it is, blanks at its start
too. -/
theorem ofLine_keyword_append :
    ofLine (Text.of keyword ++ .space :: rest) = .ok (some command) := by
  rw [← ofLine_keywordLine listed isTail reading]
  refine ofLine_congr ?_
  rw [trim_keyword_append listed isTail.ends, trim_keywordLine listed isTail.ends]

end

theorem reading_echo {rest : Text} (whole : .nul ∉ rest) :
    Reading (keywordLine "echo" rest) (.ok (.echo rest)) := by
  have listed : Text.of "echo" ∈ keywords := by decide
  have parts := cut_keywordLine listed rest
  have reading := Reading.echo (nul_notMem_keywordLine listed whole) (congrArg Prod.fst parts)
  rwa [parts] at reading

theorem reading_type {rest : Text} (whole : .nul ∉ rest) :
    Reading (keywordLine "type" rest) (.ok (.type rest)) := by
  have listed : Text.of "type" ∈ keywords := by decide
  have parts := cut_keywordLine listed rest
  have reading := Reading.type (nul_notMem_keywordLine listed whole) (congrArg Prod.fst parts)
  rwa [parts] at reading

end Command

/-! ### Lines of a name -/

/-- The line is the name, alone or with arguments after a space. -/
def Invokes (name line : Text) : Prop :=
  line = name ∨ ∃ arguments, Glyph.nul ∉ arguments ∧ line = name ++ .space :: arguments

namespace Text.IsName

open Command

variable {name : Text} (isName : name.IsName)

include isName

theorem words_eq : words name = [name] :=
  words_of_unspaced isName.nonempty isName.unspaced

/-- The keyword of a line of the name is the name. -/
theorem cut_trim {line : Text} (form : Invokes name line) :
    ((trim line).cut .space).1 = name ∧ Glyph.nul ∉ trim line ∧ trim line ≠ [] := by
  rcases form with rfl | ⟨arguments, whole, rfl⟩
  · rw [isName.trim_eq, cut_of_notMem isName.unspaced]
    exact ⟨rfl, isName.whole, isName.nonempty⟩
  · rw [isName.trim_append]
    refine ⟨?_, ?_, fun empty => isName.nonempty (List.append_eq_nil_iff.mp empty).1⟩
    · rcases trimEnd_space arguments with empty | ⟨rest, shape, _⟩
      · rw [empty, List.append_nil, cut_of_notMem isName.unspaced]
      · rw [shape, cut_append_cons isName.unspaced]
    · intro inside
      rcases List.mem_append.mp inside with inName | inTail
      · exact isName.whole inName
      · rcases List.mem_cons.mp (mem_of_mem_dropEndWhile inTail) with isSpace | inArguments
        · exact absurd isSpace (by decide)
        · exact whole inArguments

/-- Where the name is no keyword the line asks for the program of that name. -/
theorem ofLine_external (other : name ∉ keywords) {line : Text} (form : Invokes name line) :
    ∃ arguments, ofLine line = .ok (some (.external name arguments)) := by
  obtain ⟨keyword, whole, notEmpty⟩ := isName.cut_trim form
  refine ⟨(words (trim line)).tail, ?_⟩
  rw [← keyword] at other
  have parsed := ofTrimmed_external_iff.mpr ⟨whole, other, rfl, rfl⟩
  rw [ofLine_of_trim_ne_nil notEmpty, parsed, keyword]
  rfl

/-- Asking what the name stands for is a line of its own. -/
theorem ofLine_type : ofLine (Text.of "type " ++ name) = .ok (some (.type name)) := by
  have listed : Text.of "type" ∈ keywords := by decide
  exact ofLine_keyword_append listed isName.isTail (reading_type isName.whole)

end Text.IsName

end LineShell
