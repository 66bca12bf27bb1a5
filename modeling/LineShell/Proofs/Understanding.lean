/-
This file says what becomes of a line, whatever stands in it. A blank line asks for nothing, and any
other one for exactly one command, with one exception: where the place of the exit code is taken by
a number of more digits than a number may have, the line is not understood at all. A command of a
line is sound: its exit code fits a byte, and where it is a program, all words of the line are the
program's arguments, its name in front.
-/

import LineShell.Proofs.Numerals
import LineShell.Proofs.Parsing

namespace LineShell

namespace Command

/-! ### What a line comes to -/

theorem ofLine_eq_none_iff {line : Text} :
    ofLine line = .ok none ↔ ∀ glyph ∈ line, glyph.isBlank := by
  rw [← Text.trim_eq_nil_iff]
  refine ⟨fun parsed => ?_, ofLine_of_trim_eq_nil⟩
  by_contra notBlank
  rw [ofLine_of_trim_ne_nil notBlank] at parsed
  cases outcome : ofTrimmed (Text.trim line) <;> rw [outcome] at parsed <;> cases parsed

theorem ofLine_eq_error_iff {line : Text} {failure : Failure} :
    ofLine line = .error failure ↔ ∃ token, Overlong (Text.trim line) token ∧
      failure = .tooManyDigits (ExitCode.digits token).length :=
  ofLine_error_iff.trans ofTrimmed_error_iff

theorem exists_ofLine_iff {line : Text} : (∃ command, ofLine line = .ok (some command)) ↔
    (¬∀ glyph ∈ line, glyph.isBlank) ∧ ¬∃ token, Overlong (Text.trim line) token := by
  constructor
  · rintro ⟨command, parsed⟩
    refine ⟨fun blank => ?_, fun ⟨token, overlong⟩ => ?_⟩
    · rw [ofLine_eq_none_iff.mpr blank] at parsed
      cases parsed
    · rw [ofLine_eq_error_iff.mpr ⟨token, overlong, rfl⟩] at parsed
      cases parsed
  · rintro ⟨notBlank, notOverlong⟩
    rcases outcome : ofLine line with failure | command
    · obtain ⟨token, overlong, _⟩ := ofLine_eq_error_iff.mp outcome
      exact absurd ⟨token, overlong⟩ notOverlong
    · cases command with
      | none => exact absurd (ofLine_eq_none_iff.mp outcome) notBlank
      | some command => exact ⟨command, rfl⟩

/-! ### Soundness -/

/-- The words of a trimmed line of a program begin with its name, so they make up the command. -/
theorem ofArguments_words {line program : Text} {arguments : List Text}
    (parsed : ofLine line = .ok (some (.external program arguments))) :
    ofArguments program (words (Text.trim line)) = .ok (.external program arguments) := by
  have notEmpty := trim_ne_nil_of_ofLine parsed
  obtain ⟨_, _, rfl, rfl⟩ := ofTrimmed_external_iff.mp (ofTrimmed_of_ofLine parsed)
  rw [words_eq_cons notEmpty (Text.head?_trim_ne_space line)]
  exact ofArguments_cons_self _ _

/-- Every line is understood as nothing or as one sound command, except exactly where it asks to
leave with a code of too many digits. -/
theorem ofLine_outcome (line : Text) :
    (ofLine line = .ok none ↔ ∀ glyph ∈ line, glyph.isBlank) ∧
    (∀ failure, ofLine line = .error failure ↔
      ∃ token, Overlong (Text.trim line) token ∧
        failure = .tooManyDigits (ExitCode.digits token).length) ∧
    ((∃ command, ofLine line = .ok (some command)) ↔
      (¬∀ glyph ∈ line, glyph.isBlank) ∧ ¬∃ token, Overlong (Text.trim line) token) ∧
    (∀ code, ofLine line = .ok (some (.exit (some code))) →
      0 ≤ code ∧ code ≤ ExitCode.largest) ∧
    ∀ program arguments, ofLine line = .ok (some (.external program arguments)) →
      ofArguments program (words (Text.trim line)) = .ok (.external program arguments) := by
  refine ⟨ofLine_eq_none_iff, fun _ => ofLine_eq_error_iff, exists_ofLine_iff,
    fun code parsed => ?_, fun _ _ => ofArguments_words⟩
  rcases ofTrimmed_cases (ofTrimmed_of_ofLine parsed) with ⟨_, same, bounds⟩ | ⟨other, _⟩
  · cases same
    exact bounds
  · exact absurd rfl (other _)

/-- A row of too many digits after the keyword is such a code. -/
theorem overlong_of_digits {characters : List Char}
    (digits : ∀ character ∈ characters, character.isDigit)
    (long : Failure.digitLimit < characters.length) :
    Overlong (Text.trim (Text.of "exit" ++ .space :: characters.map .scalar))
      (characters.map .scalar) := by
  have nonempty : characters ≠ [] := by
    rintro rfl
    exact absurd long (by decide)
  obtain ⟨form, count, _⟩ := ExitCode.read_of_digits nonempty digits
  have listed : Text.of "exit" ∈ keywords := by decide
  have isName := Text.isName_of_digits nonempty digits
  rw [trim_keyword_append listed isName.ends]
  exact
    { whole := nul_notMem_keywordLine listed isName.whole
      leaving := by rw [cut_keywordLine listed]
      code := codeToken_keywordLine listed isName.nonempty isName.unspaced
      form := form
      long := by rw [count]; exact long }

/-- One digit too many, and a line of a program with a tab in its name and several spaces. -/
theorem ofLine_outcome_ones :
    ofLine (Text.of "exit" ++ .space :: (List.replicate 4301 '1').map .scalar) =
        .error (.tooManyDigits 4301) ∧
      ofArguments (Text.of "my\ttool") (words (Text.trim (Text.of " my\ttool  -v "))) =
        .ok (.external (Text.of "my\ttool") [Text.of "-v"]) := by
  have digits : ∀ character ∈ List.replicate 4301 '1', character.isDigit := by
    intro character listed
    rw [List.eq_of_mem_replicate listed]
    rfl
  have long : Failure.digitLimit < (List.replicate 4301 '1').length := by
    rw [List.length_replicate]
    decide
  have count := (ExitCode.read_of_digits (List.ne_nil_of_length_pos (Nat.zero_lt_of_lt long))
    digits).2.1
  rw [List.length_replicate] at count
  have overlong := overlong_of_digits digits long
  refine ⟨((ofLine_outcome _).2.1 _).mpr ⟨_, overlong, by rw [count]⟩, ?_⟩
  exact (ofLine_outcome (Text.of " my\ttool  -v ")).2.2.2.2 _ _ (by decide)

end Command

end LineShell
