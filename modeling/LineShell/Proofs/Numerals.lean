/-
This file reads numbers back that are written in ASCII digits. Such a text is one group without a
sign, so as an exit code it stands for the number that its digits make, unless it is too long to be
read at all. A status that is written out therefore stands for itself.
-/

import LineShell.Proofs.Words

namespace LineShell

/-! ### Digits -/

theorem Glyph.digit?_of_isDigit {character : Char} (isDigit : character.isDigit) :
    (Glyph.scalar character).digit? = some (character.toNat - '0'.toNat) := by
  have bounds : '0' ≤ character ∧ character ≤ '9' := by
    simpa [Char.isDigit, Char.le_def, UInt32.le_iff_toNat_le] using isDigit
  exact if_pos bounds

theorem Glyph.isBlank_of_isDigit {character : Char} (isDigit : character.isDigit) :
    (Glyph.scalar character).isBlank = false := by
  have bounds : 48 ≤ character.toNat ∧ character.toNat ≤ 57 := by
    simpa [Char.isDigit, UInt32.le_iff_toNat_le] using isDigit
  rw [isBlank, inRanges, List.any_eq_false]
  intro range listed
  simp only [blankRanges, List.mem_cons, List.not_mem_nil, or_false] at listed
  simp only [Bool.and_eq_true, decide_eq_true_eq]
  rcases listed with rfl | rfl | rfl | rfl | rfl | rfl | rfl | rfl | rfl | rfl <;> omega

namespace Text

variable {characters : List Char}

theorem scalar_notMem_map {mark : Char} (digits : ∀ character ∈ characters, character.isDigit)
    (other : mark.isDigit = false) : Glyph.scalar mark ∉ characters.map Glyph.scalar := by
  intro member
  obtain ⟨character, listed, same⟩ := List.mem_map.mp member
  rw [← Glyph.scalar.inj same, digits character listed] at other
  cases other

/-- A row of digits can stand as the first word of a line, so anywhere in it. -/
theorem isName_of_digits (nonempty : characters ≠ [])
    (digits : ∀ character ∈ characters, character.isDigit) :
    IsName (characters.map Glyph.scalar) := by
  have plain : ∀ glyph ∈ characters.map Glyph.scalar, glyph.isBlank = false := by
    intro glyph member
    obtain ⟨character, listed, rfl⟩ := List.mem_map.mp member
    exact Glyph.isBlank_of_isDigit (digits character listed)
  exact
    { nonempty := by simpa using nonempty
      unspaced := scalar_notMem_map digits rfl
      whole := scalar_notMem_map digits rfl
      starts := fun glyph isHead => plain glyph (List.mem_of_head? isHead)
      ends := fun glyph isLast => plain glyph (List.mem_of_getLast? isLast) }

theorem isName_ofInt {code : Int} (lower : 0 ≤ code) : IsName (ofInt code) := by
  obtain ⟨number, rfl⟩ := Int.eq_ofNat_of_zero_le lower
  exact isName_of_digits Nat.toDigits_ne_nil
    fun character => Nat.isDigit_of_mem_toDigits (by decide) (by decide)

theorem filterMap_digit? (digits : ∀ character ∈ characters, character.isDigit) :
    (characters.map Glyph.scalar).filterMap Glyph.digit? =
      characters.map fun character => character.toNat - '0'.toNat := by
  induction characters with
  | nil => rfl
  | cons first rest inductionHypothesis =>
    rw [List.forall_mem_cons] at digits
    rw [List.map_cons, List.filterMap_cons, Glyph.digit?_of_isDigit digits.1,
      inductionHypothesis digits.2, List.map_cons]

/-- The number that a row of digits stands for is the one of which it is the decimal form. -/
theorem valueOf_map (characters : List Char) :
    valueOf (characters.map fun character => character.toNat - '0'.toNat) =
      Nat.ofDigitChars 10 characters 0 := by
  rw [valueOf, List.foldl_map, Nat.ofDigitChars]
  refine congrArg (fun step => characters.foldl step 0) ?_
  funext value character
  rw [Nat.mul_comm]

end Text

/-! ### Exit codes -/

namespace ExitCode

variable {characters : List Char}

theorem groups_of_digits (digits : ∀ character ∈ characters, character.isDigit) :
    groups (characters.map Glyph.scalar) = [characters.map Glyph.scalar] := by
  have unsigned : afterSign (characters.map Glyph.scalar) = characters.map Glyph.scalar := by
    unfold afterSign
    split
    · next shape =>
      exact absurd (shape ▸ List.mem_cons_self) (Text.scalar_notMem_map digits rfl)
    · rfl
  rw [groups, unsigned, List.splitOn_eq_singleton (Text.scalar_notMem_map digits rfl)]

/-- A row of digits stands for its number if that is a status, unless the row is too long. -/
theorem read_of_digits (nonempty : characters ≠ [])
    (digits : ∀ character ∈ characters, character.isDigit) :
    wellFormed (characters.map Glyph.scalar) ∧
    (ExitCode.digits (characters.map Glyph.scalar)).length = characters.length ∧
    (characters.length ≤ Failure.digitLimit →
      read (characters.map Glyph.scalar) =
        .ok (if Nat.ofDigitChars 10 characters 0 ≤ largest then
          some (Nat.ofDigitChars 10 characters 0 : Int) else none)) := by
  have form : wellFormed (characters.map Glyph.scalar) := by
    rw [wellFormed, groups_of_digits digits, List.all_cons, List.all_nil, Bool.and_true,
      Bool.and_eq_true, List.all_eq_true]
    refine ⟨by simpa using nonempty, fun glyph member => ?_⟩
    obtain ⟨character, listed, rfl⟩ := List.mem_map.mp member
    rw [Glyph.digit?_of_isDigit (digits character listed)]
    rfl
  have values : ExitCode.digits (characters.map Glyph.scalar) =
      characters.map fun character => character.toNat - '0'.toNat := by
    rw [ExitCode.digits, groups_of_digits digits, List.flatten_singleton,
      Text.filterMap_digit? digits]
  refine ⟨form, by rw [values, List.length_map], fun short => ?_⟩
  rw [read, if_pos form, values, List.length_map, if_neg (Nat.not_lt.mpr short), Text.valueOf_map]

/-- A status that is written out stands for itself. -/
theorem read_ofInt {code : Int} (lower : 0 ≤ code) (upper : code ≤ largest) :
    read (Text.ofInt code) = .ok (some code) := by
  obtain ⟨number, rfl⟩ := Int.eq_ofNat_of_zero_le lower
  have small : number ≤ largest := Int.ofNat_le.mp upper
  have short : (Nat.toDigits 10 number).length ≤ 3 :=
    (Nat.length_toDigits_le_iff (by decide) (by decide)).mpr (by unfold largest at small; omega)
  have nonempty : Nat.toDigits 10 number ≠ [] := Nat.toDigits_ne_nil
  have reads := (read_of_digits nonempty
    fun character => Nat.isDigit_of_mem_toDigits (by decide) (by decide)).2.2
    (Nat.le_trans short (by decide))
  rw [Nat.ofDigitChars_toDigits (by decide) (by decide), if_pos small] at reads
  exact reads

end ExitCode

end LineShell
