import Phrasebook.Files
import Phrasebook.Text.Fields

/-!
# Files held in memory

A tree of directories and files that can be read by relative paths, as the working directory of a
run would be. A path is followed name by name through directories; above the tree there is nothing.
-/
namespace Phrasebook

inductive FileTree where
  | file (content : ByteArray)
  | directory (entries : List (String × FileTree))

namespace FileTree

/-- The directory without entries. -/
def empty : FileTree := .directory []

/-- The names that a path is made of. -/
def names (path : String) : List String :=
  let (first, others) := Text.fields '/' path.toList
  (first :: others).map String.ofList

/-- The most bytes that a name can have. -/
def longestName : Nat := 255

/-- The most bytes that a path can have. -/
def longestPath : Nat := 4095

/-- Follow names from a place whose parents, the nearest one first, are given. -/
def follow (parents : List FileTree) (here : FileTree) :
    List String → Except FileFault FileTree
  | [] => .ok here
  | name :: names =>
    match here with
    | .file _ => .error .notDirectory
    | .directory entries =>
      if name = "" ∨ name = "." then follow parents here names
      else if name = ".." then follow parents.tail (parents.headD empty) names
      else if longestName < name.utf8ByteSize then .error .nameTooLong
      else match entries.lookup name with
        | some child => follow (here :: parents) child names
        | none => .error .notFound

/-- Read the file at a path as text. -/
def read (tree : FileTree) (path : String) : Except FileFault String :=
  if path = "" then .error .notFound
  else if path.contains '\x00' then .error .nullInName
  else if longestPath < path.utf8ByteSize then .error .nameTooLong
  else
    match follow [] (if path.startsWith "/" then empty else tree) (names path) with
    | .error fault => .error fault
    | .ok (.directory _) => .error .isDirectory
    | .ok (.file content) =>
      match String.fromUTF8? content with
      | some text => .ok text
      | none => .error .notText

/-- The entry of a directory, which a file does not have. -/
def child? (tree : FileTree) (name : String) : Option FileTree :=
  match tree with
  | .directory entries => entries.lookup name
  | .file _ => none

/-- A directory with an entry replaced, added or taken away. -/
def withChild (tree : FileTree) (name : String) (child? : Option FileTree) : FileTree :=
  let others := match tree with
    | .directory entries => entries.filter (·.1 ≠ name)
    | .file _ => []
  .directory ((child?.map fun child => (name, child)).toList ++ others)

/-- The names of a path that lead on. -/
def steps (path : String) : List String :=
  (names path).filter fun name => name ≠ "" && name ≠ "."

/-- Put a file where names lead, in directories that are made as needed. -/
def put (content : ByteArray) : (tree : FileTree) → List String → FileTree
  | _, [] => .file content
  | tree, name :: names =>
    tree.withChild name (some (put content ((tree.child? name).getD empty) names))

/-- Take away the file where names lead. -/
def take : (tree : FileTree) → List String → FileTree
  | tree, [] => tree
  | tree, [name] =>
    match tree.child? name with
    | some (.file _) => tree.withChild name none
    | _ => tree
  | tree, name :: names =>
    match tree.child? name with
    | some child => tree.withChild name (some (take child names))
    | none => tree

/-- Write a file. -/
def write (tree : FileTree) (path : String) (content : ByteArray) : FileTree :=
  tree.put content (steps path)

/-- Delete a file; directories stay. -/
def delete (tree : FileTree) (path : String) : FileTree :=
  tree.take (steps path)

end FileTree

end Phrasebook
