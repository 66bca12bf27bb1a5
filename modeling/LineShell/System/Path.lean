/-
This file treats paths as texts. Joining puts a name below a directory; the absolute form of a
path is found without looking at any file: empty names and single dots are dropped, and two dots
take away the name before them. A path that starts with exactly two slashes keeps both, since
such a path may mean something else than one with a single slash.
-/

import LineShell.Text.Basic

namespace LineShell

namespace Path

/-- The name of a directory inside itself. -/
def here : Text := Text.of "."

/-- The name of the directory above, inside a directory. -/
def above : Text := Text.of ".."

/-- Whether a path starts at the root. -/
def isAbsolute (path : Text) : Bool := path.head? = some .slash

/-- The path of a name in a directory. An absolute name forgets the directory, and a directory
that ends in a slash gets no second one. -/
def join (directory name : Text) : Text :=
  if isAbsolute name then name
  else if directory = [] ∨ directory.getLast? = some .slash then directory ++ name
  else directory ++ .slash :: name

/-- The names between the slashes of a path, empty ones included. -/
def names (path : Text) : List Text := path.splitOn .slash

/-- One more name after the names already kept, the last of them in front. Above the root there
is nothing to take away. -/
def descend (kept : List Text) (name : Text) : List Text :=
  if name = [] ∨ name = here then kept
  else if name = above then kept.tail
  else name :: kept

/-- The slashes that the normal form of an absolute path starts with. -/
def root (path : Text) : Text :=
  match path with
  | .scalar '/' :: .scalar '/' :: .scalar '/' :: _ => [.slash]
  | .scalar '/' :: .scalar '/' :: _ => [.slash, .slash]
  | _ => [.slash]

/-- An absolute path without empty names, dots and double dots. -/
def normal (path : Text) : Text :=
  root path ++ Text.joined .slash ((names path).foldl descend []).reverse

/-- The normal form of a path seen from a directory. -/
def absolute (directory path : Text) : Text := normal (join directory path)

/-- A normal form starts at the root. -/
theorem isAbsolute_normal (path : Text) : isAbsolute (normal path) := by
  have start : ∀ rest : Text, isAbsolute (root path ++ rest) := by
    intro rest
    unfold root
    split <;> rfl
  exact start _

/-- What lies in an absolute directory has an absolute path. -/
theorem isAbsolute_join {directory name : Text} (absolute : isAbsolute directory) :
    isAbsolute (join directory name) := by
  unfold join
  split
  · assumption
  have start : ∀ rest : Text, isAbsolute (directory ++ rest) := by
    intro rest
    cases directory with
    | nil => cases absolute
    | cons glyph others => exact absolute
  split
  · exact start name
  · exact start (.slash :: name)

/-- A directory does not matter to an absolute path. -/
theorem join_of_isAbsolute (directory : Text) {name : Text} (absolute : isAbsolute name) :
    join directory name = name := by
  simp [join, absolute]

theorem absolute_of_isAbsolute (directory : Text) {path : Text} (start : isAbsolute path) :
    absolute directory path = normal path := by
  simp [absolute, join_of_isAbsolute directory start]

end Path

end LineShell
