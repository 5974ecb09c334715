import Phrasebook.Text.Fields

/-!
# Paths

A path is names with slashes between them. One that starts with a slash starts at the root, and any
other one where the program runs. Empty names and single dots lead nowhere.
-/
namespace Phrasebook.CommandLine.Path

/-- Parts of a path, last one first, without those at its end that lead nowhere. The first part of
the path stays. -/
def trimmed : List (List Char) → List (List Char)
  | [] => []
  | [part] => [part]
  | part :: parts => if part = [] ∨ part = ['.'] then trimmed parts else part :: parts

/-- The directory that a path lies in. It is empty where the path has no directory, and nothing lies
above the root. -/
def parent? (path : String) : Option String :=
  let (first, others) := Text.fields '/' path.toList
  match trimmed ((first :: others).reverse) with
  | [] | [[]] => none
  | [_] => some ""
  | _ :: parts =>
    match (trimmed parts).reverse with
    | [] => some ""
    | [[]] => some "/"
    | first :: others => some (String.ofList (Text.joinFields '/' first others))

/-- A path that starts at a directory, unless it starts at the root. -/
def join (directory path : String) : String :=
  if path.startsWith "/" then path
  else if directory.isEmpty || directory.endsWith "/" then directory ++ path
  else directory ++ "/" ++ path

end Phrasebook.CommandLine.Path
