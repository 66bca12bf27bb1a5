/-
This file proves what the normal form of a path keeps of the path. Its names are those that are
left when two dots have taken away the name before them, its glyphs stand in the path in the same
order, so it is never longer, and seen from a directory it starts with the names of the directory.
-/

import Mathlib.Data.List.Flatten
import LineShell.Proofs.Words
import LineShell.System.World

namespace LineShell

namespace Path

/-! ### Plain names -/

/-- A name that stands for itself in a path. -/
structure Plain (name : Text) : Prop where
  named : name ≠ []
  notHere : name ≠ here
  notAbove : name ≠ above
  unslashed : .slash ∉ name

theorem slash_notMem_names (path : Text) : ∀ name ∈ names path, .slash ∉ name :=
  fun _ member => Text.separator_notMem_splitOn member

theorem names_slash_cons (path : Text) : names (.slash :: path) = [] :: names path := rfl

/-! ### Names that are kept -/

theorem descend_nil (kept : List Text) : descend kept [] = kept := if_pos (Or.inl rfl)

theorem descend_of_plain {name : Text} (plain : Plain name) (kept : List Text) :
    descend kept name = name :: kept := by
  rw [descend, if_neg (not_or.mpr ⟨plain.named, plain.notHere⟩), if_neg plain.notAbove]

/-- A name is dropped, takes another one away, or is plain. -/
theorem descend_cases {name : Text} (unslashed : .slash ∉ name) :
    ((name = [] ∨ name = here) ∧ ∀ kept, descend kept name = kept) ∨
    (name = above ∧ ∀ kept, descend kept name = kept.tail) ∨ Plain name := by
  by_cases dropped : name = [] ∨ name = here
  · exact Or.inl ⟨dropped, fun kept => if_pos dropped⟩
  by_cases up : name = above
  · exact Or.inr (Or.inl ⟨up, fun kept => (if_neg dropped).trans (if_pos up)⟩)
  · rw [not_or] at dropped
    exact Or.inr (Or.inr ⟨dropped.1, dropped.2, up, unslashed⟩)

theorem foldl_descend_of_plain {names : List Text} (plain : ∀ name ∈ names, Plain name)
    (kept : List Text) : names.foldl descend kept = names.reverse ++ kept := by
  induction names generalizing kept with
  | nil => rfl
  | cons name rest inductionHypothesis =>
    rw [List.foldl_cons, descend_of_plain (plain name List.mem_cons_self),
      inductionHypothesis fun other member => plain other (List.mem_cons_of_mem name member),
      List.reverse_cons, List.append_assoc, List.singleton_append]

theorem plain_of_mem_foldl_descend {names kept : List Text}
    (unslashed : ∀ name ∈ names, .slash ∉ name) (plain : ∀ name ∈ kept, Plain name) :
    ∀ name ∈ names.foldl descend kept, Plain name := by
  induction names generalizing kept with
  | nil => exact plain
  | cons first rest inductionHypothesis =>
    refine inductionHypothesis
      (fun name member => unslashed name (List.mem_cons_of_mem first member)) ?_
    rcases descend_cases (unslashed first List.mem_cons_self) with
      ⟨_, same⟩ | ⟨_, upper⟩ | plainFirst
    · rwa [same]
    · rw [upper]
      exact fun name member => plain name (List.mem_of_mem_tail member)
    · rw [descend_of_plain plainFirst]
      intro name member
      rcases List.mem_cons.mp member with rfl | inKept
      · exact plainFirst
      · exact plain name inKept

/-- The names that are kept stand in the order they came in. -/
theorem foldl_descend_sublist {names : List Text} (unslashed : ∀ name ∈ names, .slash ∉ name)
    (kept : List Text) :
    List.Sublist (names.foldl descend kept).reverse (kept.reverse ++ names) := by
  induction names generalizing kept with
  | nil =>
    rw [List.append_nil]
    exact List.Sublist.refl _
  | cons first rest inductionHypothesis =>
    refine (inductionHypothesis
      (fun name member => unslashed name (List.mem_cons_of_mem first member))
      (descend kept first)).trans ?_
    rcases descend_cases (unslashed first List.mem_cons_self) with ⟨_, same⟩ | ⟨_, upper⟩ | plain
    · rw [same]
      exact List.Sublist.append_left (List.sublist_cons_self first rest) _
    · rw [upper]
      exact ((List.tail_sublist kept).reverse).append (List.sublist_cons_self first rest)
    · rw [descend_of_plain plain, List.reverse_cons, List.append_assoc]
      exact List.Sublist.refl _

/-- A relative path seen from a directory goes on from the names of the directory. -/
theorem foldl_descend_join (directory : Text) {path : Text} (relative : isAbsolute path = false)
    (kept : List Text) : (names (join directory path)).foldl descend kept =
      (names path).foldl descend ((names directory).foldl descend kept) := by
  rw [join, if_neg (by rw [relative]; exact Bool.false_ne_true)]
  split
  · next ends =>
    rcases ends with rfl | last
    · rw [List.nil_append, names, names, List.splitOn_nil, List.foldl_cons, descend_nil,
        List.foldl_nil]
    · obtain ⟨front, rfl⟩ := List.getLast?_eq_some_iff.mp last
      rw [List.append_assoc, List.singleton_append, names, names, names,
        List.splitOn_append_cons_self, List.splitOn_append_cons_self, List.splitOn_nil,
        List.foldl_append, List.foldl_append, List.foldl_cons, descend_nil, List.foldl_nil]
  · rw [names, names, names, List.splitOn_append_cons_self, List.foldl_append]

/-- The path of a location with plain names keeps them all. -/
theorem foldl_descend_path {location : Location} (plain : ∀ name ∈ location, Plain name) :
    (names location.path).foldl descend [] = location.reverse := by
  rw [Location.path, names_slash_cons, List.foldl_cons, descend_nil]
  cases location with
  | nil => rfl
  | cons first others =>
    have parts : names (Text.joined .slash (first :: others)) = first :: others :=
      List.splitOn_intercalate Glyph.slash (fun name member => (plain name member).unslashed)
        (List.cons_ne_nil first others)
    rw [parts, foldl_descend_of_plain plain, List.append_nil]

/-! ### Normal forms -/

/-- The leading slashes of a normal form are one or two, and two only if the path has two. -/
theorem root_cases (path : Text) : root (.slash :: path) = [.slash] ∨
    ∃ rest, path = .slash :: rest ∧ root (.slash :: path) = [.slash, .slash] := by
  unfold root
  split
  · exact Or.inl rfl
  · next rest _ shape => exact Or.inr ⟨_, (List.cons.inj shape).2, rfl⟩
  · exact Or.inl rfl

theorem eq_slash_cons {path : Text} (absolute : isAbsolute path) :
    ∃ rest, path = .slash :: rest := by
  cases path with
  | nil => cases absolute
  | cons glyph rest =>
    have start : some glyph = some .slash := of_decide_eq_true absolute
    exact ⟨rest, congrArg (· :: rest) (Option.some_inj.mp start)⟩

/-- The names of a normal form, but for the empty ones that its slashes make, are the names that are
kept of the path. -/
theorem names_normal {path : Text} (absolute : isAbsolute path) :
    ∃ blanks, (∀ blank ∈ blanks, blank = []) ∧
      names (normal path) = blanks ++ ((names path).foldl descend []).reverse := by
  have plain : ∀ name ∈ (names path).foldl descend [], Plain name :=
    plain_of_mem_foldl_descend (slash_notMem_names _) nofun
  have kept : ∃ blanks, (∀ blank ∈ blanks, blank = []) ∧
      names (Text.joined .slash ((names path).foldl descend []).reverse) =
        blanks ++ ((names path).foldl descend []).reverse := by
    cases shape : ((names path).foldl descend []).reverse with
    | nil => exact ⟨[[]], by simp, rfl⟩
    | cons first others =>
      refine ⟨[], by simp, List.splitOn_intercalate Glyph.slash (fun name member => ?_) (by simp)⟩
      rw [← shape, List.mem_reverse] at member
      exact (plain name member).unslashed
  obtain ⟨blanks, empty, parts⟩ := kept
  obtain ⟨rest, rfl⟩ := eq_slash_cons absolute
  rcases root_cases rest with one | ⟨_, _, two⟩
  · refine ⟨[] :: blanks, by simpa using empty, ?_⟩
    rw [normal, one, List.singleton_append, names_slash_cons, parts, List.cons_append]
  · refine ⟨[] :: [] :: blanks, by simpa using empty, ?_⟩
    rw [normal, two, List.cons_append, List.singleton_append, names_slash_cons, names_slash_cons,
      parts, List.cons_append, List.cons_append]

theorem slash_joined_cons (first : Text) (others : List Text) :
    .slash :: Text.joined .slash (first :: others) =
      (first :: others).flatMap fun name => .slash :: name := by
  induction others generalizing first with
  | nil => simp [Text.joined]
  | cons second rest inductionHypothesis =>
    have following := inductionHypothesis second
    simp only [Text.joined] at following
    rw [Text.joined, List.intercalate_cons_cons, List.flatMap_cons, ← following]
    simp

/-- The glyphs of a normal form stand in the path, in the same order. -/
theorem normal_sublist {path : Text} (absolute : isAbsolute path) :
    List.Sublist (normal path) path := by
  have part {kept : List Text} {rest : Text} (sub : kept.Sublist (names rest)) :
      List.Sublist (.slash :: Text.joined .slash kept) (.slash :: rest) := by
    cases kept with
    | nil => exact List.cons_sublist_cons.mpr (List.nil_sublist rest)
    | cons first others =>
      have whole : .slash :: rest = (names rest).flatMap fun name => .slash :: name := by
        cases shape : names rest with
        | nil => exact absurd shape (List.splitOn_ne_nil Glyph.slash rest)
        | cons head tail =>
          rw [← slash_joined_cons, ← shape]
          exact congrArg _ (List.intercalate_splitOn Glyph.slash).symm
      rw [slash_joined_cons, whole]
      exact sub.flatMap _
  have sub (rest : Text) : ((names rest).foldl descend []).reverse.Sublist (names rest) :=
    foldl_descend_sublist (slash_notMem_names _) []
  obtain ⟨rest, rfl⟩ := eq_slash_cons absolute
  rcases root_cases rest with one | ⟨after, rfl, two⟩
  · rw [normal, one]
    exact part (sub rest)
  · rw [normal, two]
    exact List.cons_sublist_cons.mpr (part (sub after))

theorem length_bytes_normal_le {path : Text} (absolute : isAbsolute path) :
    (Text.bytes (normal path)).length ≤ (Text.bytes path).length :=
  ((normal_sublist absolute).flatMap (Glyph.encode .preserve)).length_le

end Path

end LineShell
