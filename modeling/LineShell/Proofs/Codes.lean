/-
This file says which texts are exit codes and what they stand for. A code is written as groups of
digits with an underscore between each and the next, perhaps behind a plus sign, and it stands for
the number that all its digits make together. So neither the sign nor the place of the underscores
matters, nor do zeros in front, as long as there are not too many digits to be read.
-/

import Mathlib.Data.Nat.Digits.Defs
import LineShell.Proofs.Parsing

namespace LineShell

namespace ExitCode

/-! ### Written forms -/

/-- A row of digits as a text. -/
def row (digits : List (Fin 10)) : Text :=
  digits.map fun digit : Fin 10 => .scalar (Nat.digitChar digit)

/-- Groups of digits with an underscore between each and the next, perhaps behind a plus sign. -/
def spelling (signed : Bool) (groups : List (List (Fin 10))) : Text :=
  (if signed then [.scalar '+'] else []) ++ Text.joined (.scalar '_') (groups.map row)

/-- There is at least one group, and none of them is empty. -/
structure Grouped (groups : List (List (Fin 10))) : Prop where
  nonempty : groups ≠ []
  full : ∀ group ∈ groups, group ≠ []

/-- The number that a row of digits stands for. -/
def number (digits : List (Fin 10)) : Nat := Nat.ofDigits 10 (digits.reverse.map Fin.val)

/-! ### Digits -/

theorem digit?_digitChar (digit : Fin 10) :
    (Glyph.scalar (Nat.digitChar digit)).digit? = some digit.val := by
  revert digit
  decide

/-- The glyphs that have a value are the ten digits. -/
theorem eq_digitChar_of_digit? {glyph : Glyph} (valued : glyph.digit?.isSome) :
    ∃ digit : Fin 10, glyph = .scalar (Nat.digitChar digit) := by
  cases glyph with
  | octet offset => cases valued
  | scalar character =>
    have bounds : '0' ≤ character ∧ character ≤ '9' := by
      by_contra outside
      rw [Glyph.digit?, if_neg outside] at valued
      cases valued
    have low : 48 ≤ character.toNat := bounds.1
    have high : character.toNat ≤ 57 := bounds.2
    refine ⟨⟨character.toNat - 48, by omega⟩, congrArg Glyph.scalar (Char.toNat_inj.mp ?_)⟩
    rw [Nat.toNat_digitChar_of_lt_ten (by dsimp only; omega)]
    dsimp only
    omega

theorem filterMap_row (digits : List (Fin 10)) :
    (row digits).filterMap Glyph.digit? = digits.map Fin.val := by
  induction digits with
  | nil => rfl
  | cons digit rest inductionHypothesis =>
    rw [row, List.map_cons, List.filterMap_cons, digit?_digitChar, List.map_cons]
    exact congrArg _ inductionHypothesis

/-- A row has no glyph but digits. -/
theorem scalar_notMem_row {mark : Char} (other : ∀ digit : Fin 10, Nat.digitChar digit ≠ mark)
    (digits : List (Fin 10)) : Glyph.scalar mark ∉ row digits := by
  intro member
  obtain ⟨digit, _, same⟩ := List.mem_map.mp member
  exact other digit (Glyph.scalar.inj same)

theorem exists_row {part : Text} (valued : ∀ glyph ∈ part, glyph.digit?.isSome) :
    ∃ digits, part = row digits := by
  induction part with
  | nil => exact ⟨[], rfl⟩
  | cons glyph rest inductionHypothesis =>
    rw [List.forall_mem_cons] at valued
    obtain ⟨digit, rfl⟩ := eq_digitChar_of_digit? valued.1
    obtain ⟨digits, rfl⟩ := inductionHypothesis valued.2
    exact ⟨digit :: digits, rfl⟩

/-- Texts of digits only, none of them empty, are rows. -/
theorem exists_rows {parts : List Text}
    (valued : ∀ part ∈ parts, part ≠ [] ∧ ∀ glyph ∈ part, glyph.digit?.isSome) :
    ∃ groups : List (List (Fin 10)), (∀ group ∈ groups, group ≠ []) ∧ parts = groups.map row := by
  induction parts with
  | nil => exact ⟨[], nofun, rfl⟩
  | cons part rest inductionHypothesis =>
    rw [List.forall_mem_cons] at valued
    obtain ⟨group, rfl⟩ := exists_row valued.1.2
    obtain ⟨groups, full, rfl⟩ := inductionHypothesis valued.2
    have nonempty : group ≠ [] := by
      rintro rfl
      exact valued.1.1 rfl
    exact ⟨group :: groups, List.forall_mem_cons.mpr ⟨nonempty, full⟩, rfl⟩

/-! ### The form and the value of a code -/

theorem afterSign_of_head {text : Text} (unsigned : text.head? ≠ some (.scalar '+')) :
    afterSign text = text := by
  unfold afterSign
  split
  · exact absurd rfl unsigned
  · rfl

section

variable {signed : Bool} {groups : List (List (Fin 10))} (grouped : Grouped groups)

include grouped

theorem afterSign_spelling :
    afterSign (spelling signed groups) = Text.joined (.scalar '_') (groups.map row) := by
  cases signed with
  | true => rfl
  | false =>
    obtain ⟨first, others, rfl⟩ := List.exists_cons_of_ne_nil grouped.nonempty
    obtain ⟨digit, rest, rfl⟩ :=
      List.exists_cons_of_ne_nil (grouped.full first List.mem_cons_self)
    have start : (Text.joined (.scalar '_') (((digit :: rest) :: others).map row)).head? =
        some (.scalar (Nat.digitChar digit)) := by
      cases others <;> simp [Text.joined, row, List.intercalate_cons_cons]
    refine afterSign_of_head fun isPlus => ?_
    have plus : Nat.digitChar digit = '+' :=
      Glyph.scalar.inj (Option.some_inj.mp (start.symm.trans isPlus))
    have other : ∀ digit : Fin 10, Nat.digitChar digit ≠ '+' := by decide
    exact other digit plus

theorem groups_spelling : ExitCode.groups (spelling signed groups) = groups.map row := by
  rw [ExitCode.groups, afterSign_spelling grouped]
  refine List.splitOn_intercalate _ (fun part member => ?_) (by simpa using grouped.nonempty)
  obtain ⟨digits, _, rfl⟩ := List.mem_map.mp member
  exact scalar_notMem_row (by decide) digits

theorem wellFormed_spelling : wellFormed (spelling signed groups) := by
  rw [wellFormed, groups_spelling grouped, List.all_map, List.all_eq_true]
  intro group listed
  have nonempty : row group ≠ [] := by simpa [row] using grouped.full group listed
  simp only [Function.comp_apply, Bool.and_eq_true, List.all_eq_true]
  refine ⟨by simpa using nonempty, fun glyph member => ?_⟩
  obtain ⟨digit, _, rfl⟩ := List.mem_map.mp member
  rw [digit?_digitChar]
  rfl

theorem digits_spelling : digits (spelling signed groups) = groups.flatten.map Fin.val := by
  rw [digits, groups_spelling grouped, List.filterMap_flatten, List.map_map, List.map_flatten]
  exact congrArg List.flatten (List.map_congr_left fun group _ => filterMap_row group)

/-- What a spelling is read as: a status, if it is one and not too long to be read. -/
theorem read_spelling : read (spelling signed groups) =
    if Failure.digitLimit < groups.flatten.length then
      .error (.tooManyDigits groups.flatten.length)
    else
      .ok (if number groups.flatten ≤ largest then some (number groups.flatten : Int)
        else none) := by
  have value : Text.valueOf (groups.flatten.map Fin.val) = number groups.flatten := by
    rw [Text.valueOf, number, Nat.ofDigits_eq_foldr, List.map_reverse, List.foldr_reverse]
    refine congrArg (fun step => List.foldl step 0 _) ?_
    funext value digit
    rw [Nat.mul_comm, Nat.add_comm]
    rfl
  rw [read, if_pos (wellFormed_spelling grouped), digits_spelling grouped, List.length_map, value]

end

/-- A text in the form of a code is a spelling. -/
theorem exists_spelling {token : Text} (form : wellFormed token) :
    ∃ signed groups, Grouped groups ∧ token = spelling signed groups := by
  rw [wellFormed, List.all_eq_true] at form
  obtain ⟨rows, full, parts⟩ := exists_rows fun part member => by
    have valued := form part member
    rw [Bool.and_eq_true, List.all_eq_true] at valued
    exact ⟨by simpa using valued.1, valued.2⟩
  have grouped : Grouped rows := by
    refine ⟨?_, full⟩
    rintro rfl
    exact List.splitOn_ne_nil _ _ parts
  have whole : afterSign token = Text.joined (.scalar '_') (rows.map row) := by
    rw [← parts]
    exact (List.intercalate_splitOn _).symm
  unfold afterSign at whole
  split at whole
  · exact ⟨true, rows, grouped, by rw [whole]; rfl⟩
  · exact ⟨false, rows, grouped, whole⟩

/-- Zeros in front add nothing. -/
theorem number_replicate_append (zeros : Nat) (digits : List (Fin 10)) :
    number (List.replicate zeros 0 ++ digits) = number digits := by
  rw [number, List.reverse_append, List.reverse_replicate, List.map_append, List.map_replicate]
  exact Nat.ofDigits_append_replicate_zero _

end ExitCode

/-! ### Lines that ask to leave -/

namespace Command

theorem codeToken_append {token after : Text} (unspaced : .space ∉ token)
    (isEnd : after = [] ∨ after.head? = some .space) :
    codeToken (Text.of "exit" ++ .space :: (token ++ after)) = some token := by
  have keyword : Glyph.space ∉ Text.of "exit" := by decide
  rw [codeToken, List.splitOn_append_cons_self_of_not_mem keyword]
  rcases isEnd with rfl | isSpace
  · rw [List.append_nil, List.splitOn_eq_singleton unspaced]
    rfl
  · obtain ⟨others, rfl⟩ := List.head?_eq_some_iff.mp isSpace
    rw [List.splitOn_append_cons_self_of_not_mem unspaced]
    rfl

theorem ofLine_exit_alone {line : Text} (alone : Text.trim line = Text.of "exit") :
    ofLine line = .ok (some (.exit none)) := by
  rw [ofLine_of_trim_ne_nil (by rw [alone]; decide), alone]
  rfl

/-- The code of a line that asks to leave is read from its place, whatever follows it. -/
theorem ofLine_exit_append {line token after : Text} (whole : .nul ∉ Text.trim line)
    (unspaced : .space ∉ token) (isEnd : after = [] ∨ after.head? = some .space)
    (form : Text.trim line = Text.of "exit" ++ .space :: (token ++ after)) :
    ofLine line = (ExitCode.read token).map fun code => some (.exit code) := by
  have keyword : ((Text.trim line).cut .space).1 = Text.of "exit" := by
    rw [form, Text.cut_append_cons (by decide)]
  have reads : exitOfLine (Text.trim line) = (ExitCode.read token).map .exit := by
    rw [exitOfLine, form, codeToken_append unspaced isEnd]
  have notEmpty : Text.trim line ≠ [] := by
    rw [form]
    exact List.append_ne_nil_of_left_ne_nil (by decide) _
  rw [ofLine_of_trim_ne_nil notEmpty, ofTrimmed_eq_iff.mpr (.exit whole keyword reads)]
  cases ExitCode.read token <;> rfl

end Command

/-- What an exit code is. A text that is no spelling of groups of digits is none; a spelling with no
more digits than a number may have stands for its number if that is a status, and for no code
otherwise; and two spellings with the same digits stand for the same, however they are signed and
grouped and whatever zeros one of them has in front. A line that asks to leave has the code that is
read from between its first space and the next one. -/
theorem exit_code_exact :
    (∀ token, (∀ signed groups, ExitCode.Grouped groups →
        token ≠ ExitCode.spelling signed groups) →
      ExitCode.read token = .ok none) ∧
    (∀ signed groups, ExitCode.Grouped groups → groups.flatten.length ≤ Failure.digitLimit →
      ExitCode.read (ExitCode.spelling signed groups) =
        .ok (if ExitCode.number groups.flatten ≤ 255 then
          some (ExitCode.number groups.flatten : Int) else none)) ∧
    (∀ signed other groups others zeros, ExitCode.Grouped groups → ExitCode.Grouped others →
      others.flatten = List.replicate zeros 0 ++ groups.flatten →
      others.flatten.length ≤ Failure.digitLimit →
      ExitCode.read (ExitCode.spelling other others) =
        ExitCode.read (ExitCode.spelling signed groups)) ∧
    ∀ line, .nul ∉ Text.trim line →
      (Text.trim line = Text.of "exit" → Command.ofLine line = .ok (some (.exit none))) ∧
      ∀ token after, .space ∉ token → after = [] ∨ after.head? = some .space →
        Text.trim line = Text.of "exit" ++ .space :: (token ++ after) →
        Command.ofLine line = (ExitCode.read token).map fun code => some (.exit code) := by
  refine ⟨fun token other => ?_, fun signed groups grouped short => ?_,
    fun signed other groups others zeros grouped alsoGrouped same short => ?_,
    fun line whole => ⟨fun alone => ?_, fun token after unspaced isEnd form => ?_⟩⟩
  · refine ExitCode.read_of_not_wellFormed (Bool.eq_false_iff.mpr fun form => ?_)
    obtain ⟨signed, groups, grouped, spelled⟩ := ExitCode.exists_spelling form
    exact other signed groups grouped spelled
  · rw [ExitCode.read_spelling grouped, if_neg (Nat.not_lt.mpr short)]
    rfl
  · have fewer : groups.flatten.length ≤ others.flatten.length := by
      rw [same, List.length_append]
      exact Nat.le_add_left _ _
    rw [ExitCode.read_spelling grouped, ExitCode.read_spelling alsoGrouped,
      if_neg (Nat.not_lt.mpr short), if_neg (Nat.not_lt.mpr (Nat.le_trans fewer short)), same,
      ExitCode.number_replicate_append]
  · exact Command.ofLine_exit_alone alone
  · exact Command.ofLine_exit_append whole unspaced isEnd form

/-- The largest status behind a sign, a zero and underscores, and a code that two spaces leave
empty. -/
theorem exit_code_exact_largest :
    Command.ofLine (Text.of "exit +02_5_5 now") = .ok (some (.exit (some 255))) ∧
    Command.ofLine (Text.of "exit  5") = .ok (some (.exit none)) := by
  obtain ⟨noCode, status, _, lines⟩ := exit_code_exact
  have grouped : ExitCode.Grouped [[0, 2], [5], [5]] := ⟨by decide, by decide⟩
  have largest : ExitCode.read (Text.of "+02_5_5") = .ok (some 255) :=
    status true [[0, 2], [5], [5]] grouped (by decide)
  have empty : ExitCode.read [] = .ok none := by
    refine noCode [] fun signed groups grouped same => ?_
    have form : ExitCode.wellFormed [] := same ▸ ExitCode.wellFormed_spelling grouped
    exact absurd form (by decide)
  constructor
  · refine ((lines _ (by decide)).2 (Text.of "+02_5_5") (Text.of " now") (by decide)
      (Or.inr (by decide)) (by decide)).trans ?_
    rw [largest]
    rfl
  · refine ((lines _ (by decide)).2 [] (Text.of " 5") (by decide) (Or.inr (by decide))
      (by decide)).trans ?_
    rw [empty]
    rfl

end LineShell
