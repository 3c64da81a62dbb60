import Testbed.Except
import Testbed.Text.Pieces

/-!
# Files, and the paths that lead to them

A file is found by a path, which is cut at its slashes and walked name by name:
from the root if the path starts with a slash, and from the working directory
otherwise. Every name is looked for in a directory, also the names that lead
nowhere else, the empty one and the dot. That is why a file with a slash behind
it is no file (`read_append_slash_ne_ok`), and a file with two dots behind it is
not the directory it is in.

The first name that cannot be followed decides what is wrong with a path. What is
found at its end can still be a directory, and then there is nothing to read.

A tree is known by what is at each place, and a place by the names that lead there
from the root, the last one first.

A program is not given a tree, but what reading each path comes to. `FileTree.read` is
that for files which are described and not on a disk, so that a program can be run on
any files without there being any.
-/

namespace Testbed

/-- Why a text could not be read from a file. -/
inductive FileFailure where
  | notFound
  | accessDenied
  | notDirectory
  | isDirectory
  | nameTooLong
  | notText
  deriving DecidableEq

def FileFailure.message : FileFailure → String
  | notFound => "No such file or directory (os error 2)"
  | accessDenied => "Permission denied (os error 13)"
  | notDirectory => "Not a directory (os error 20)"
  | isDirectory => "Is a directory (os error 21)"
  | nameTooLong => "File name too long (os error 36)"
  | notText => "stream did not contain valid UTF-8"

inductive FileNode where
  | directory
  | file (content : List UInt8)
  deriving DecidableEq

structure FileTree where
  node? : List String → Option FileNode
  workingDirectory : List String

namespace FileTree

/-- The longest name, in bytes, that a file can have. -/
def maxNameLength : Nat := 255

/-- The longest path, in bytes, that is walked at all. -/
def maxPathLength : Nat := 4095

/-- Follows one name from a place. The root is its own parent. -/
def step (tree : FileTree) (place : List String) (name : String) :
    Except FileFailure (List String) :=
  match tree.node? place with
  | none => .error .notFound
  | some (.file _) => .error .notDirectory
  | some .directory =>
    if name = "" ∨ name = "." then .ok place
    else if name = ".." then .ok place.tail
    else if maxNameLength < name.utf8ByteSize then .error .nameTooLong
    else .ok (name :: place)

/-- The place a path leads to, at which there may be nothing. -/
def walk (tree : FileTree) (path : String) : Except FileFailure (List String) :=
  if path = "" then .error .notFound
  else if maxPathLength < path.utf8ByteSize then .error .nameTooLong
  else
    let start := if path.toList.head? = some '/' then [] else tree.workingDirectory
    (Text.pieces '/' path.toList).foldlM (fun place name => tree.step place (String.ofList name))
      start

def read (tree : FileTree) (path : String) : Except FileFailure (List UInt8) := do
  match tree.node? (← tree.walk path) with
  | none => throw .notFound
  | some .directory => throw .isDirectory
  | some (.file content) => return content

variable {tree : FileTree} {place place' : List String} {path : String}

theorem node?_of_step_empty (h : tree.step place "" = .ok place') :
    tree.node? place' = some .directory := by
  rw [step] at h
  split at h
  · cases h
  · cases h
  · next hnode =>
    rw [if_pos (.inl rfl)] at h
    cases h
    exact hnode

theorem node?_of_walk_append_slash (h : tree.walk (path ++ "/") = .ok place) :
    tree.node? place = some .directory := by
  -- The slash leaves an empty name behind it.
  have hpieces : Text.pieces '/' (path ++ "/").toList = Text.pieces '/' path.toList ++ [[]] := by
    rw [String.toList_append]
    exact Text.pieces_append_sep '/' path.toList []
  rw [walk] at h
  split at h
  · cases h
  split at h
  · cases h
  · simp only [hpieces, List.foldlM_append, List.foldlM_cons, List.foldlM_nil, bind_pure] at h
    obtain ⟨before, -, hlast⟩ := bind_eq_ok_iff.mp h
    exact node?_of_step_empty hlast

theorem read_append_slash_ne_ok (tree : FileTree) (path : String) (content : List UInt8) :
    tree.read (path ++ "/") ≠ .ok content := by
  intro h
  rw [read] at h
  obtain ⟨place, hwalk, hread⟩ := bind_eq_ok_iff.mp h
  rw [node?_of_walk_append_slash hwalk] at hread
  cases hread

end FileTree

end Testbed
