/-
Paths, what they lead to, and a directory with all that is in it as a value.

A path names a file, with slashes between its parts.  Empty parts and `.` stand for
nothing, and `..` for the directory above.  The extension of a path is that of its last
part, whatever slashes follow it.

A path is followed component by component from the top of the tree.  A component is
looked up only in a directory, so a path that goes on after a file leads nowhere, even
when what follows is empty.  What lies above the tree is out of sight.
-/
import LineLexer.Text.Basic

namespace LineLexer

/-- What a path leads to. -/
inductive Entry where
  /-- Nothing. -/
  | absent
  /-- A directory. -/
  | directory
  /-- A file, with its text unless it is not valid UTF-8. -/
  | file (text : Option Text)
deriving DecidableEq, Repr

namespace Entry

/-- Whether the path leads to a file. -/
def isFile : Entry → Bool
  | file _ => true
  | _ => false

/-- The text of the file, if it can be read. -/
def text? : Entry → Option Text
  | file text => text
  | _ => none

end Entry

/-! ### Paths -/

namespace Path

/-- The parts between slashes. -/
def parts (path : Text) : List Text := path.splitOn '/'

/-- The parts that stand for something. -/
def components (path : Text) : List Text := (parts path).filter fun part => part ≠ [] ∧ part ≠ ['.']

/-- Whether the path starts at the root. -/
def isAbsolute (path : Text) : Bool := path.head? == some '/'

/-- The name of a file: the last component, unless that leads upwards. -/
def fileName? (path : Text) : Option Text :=
  (components path).getLast?.filter (· ≠ ['.', '.'])

/-- What follows the last dot of the file name, if something stands before it. -/
def extension? (path : Text) : Option Text :=
  (fileName? path).bind fun name =>
    let extension := (name.reverse.takeWhile (· ≠ '.')).reverse
    if extension.length + 1 < name.length then some extension else none

/-- A path as seen from a directory. -/
def join (directory path : Text) : Text :=
  if isAbsolute path ∨ directory = [] then path
  else if directory.getLast? = some '/' then directory ++ path
  else directory ++ '/' :: path

end Path

/-! ### Trees -/

/-- The entries of a tree under their components; the directories on the way to an entry need not
be listed. -/
structure FileTree where
  /-- The entries. -/
  entries : List (List Text × Entry)

namespace FileTree

/-- The tree with the given entries under relative paths. -/
def ofPaths (entries : List (Text × Entry)) : FileTree :=
  ⟨entries.map fun (path, entry) => (Path.components path, entry)⟩

/-- The entry at a place in the tree. -/
def entryAt (tree : FileTree) (place : List Text) : Entry :=
  if place = [] then .directory
  else match tree.entries.lookup place with
    | some entry => entry
    | none => if tree.entries.any fun (other, _) => place.isPrefixOf other then .directory else .absent

/-- Follows the parts of a path from a directory of the tree. -/
def follow (tree : FileTree) (place : List Text) : List Text → Entry
  | [] => .directory
  | part :: rest =>
    if part = [] ∨ part = ['.'] then tree.follow place rest
    else if part = ['.', '.'] then
      if place = [] then .absent else tree.follow place.dropLast rest
    else match tree.entryAt (place ++ [part]) with
      | .directory => tree.follow (place ++ [part]) rest
      | .file text => if rest.isEmpty then .file text else .absent
      | .absent => .absent

/-- What a path leads to from the top of the tree. -/
def lookup (tree : FileTree) (path : Text) : Entry :=
  if path = [] ∨ Path.isAbsolute path then .absent else tree.follow [] (Path.parts path)

end FileTree

end LineLexer
