import Std.Data.ExtTreeMap

/-!
# Catalogs

A catalog holds the templates of one language. They are filed in groups by name and in each group by
key, both in the order of their characters. A group may be without templates and is kept
nevertheless. Catalogs are equal when they have the same groups with the same templates.
-/
namespace Phrasebook

/-- The templates of one group by key. -/
abbrev Group : Type := Std.ExtTreeMap String String

/-- A template with its place in a catalog. -/
structure Entry where
  group : String
  key : String
  template : String
  deriving DecidableEq

structure Catalog where
  groups : Std.ExtTreeMap String Group
  deriving BEq

namespace Catalog

/-- The catalog without groups. -/
def empty : Catalog := ⟨∅⟩

instance : EmptyCollection Catalog := ⟨empty⟩
instance : Inhabited Catalog := ⟨empty⟩

/-- The templates of a group; one that the catalog does not have is empty. -/
def group (catalog : Catalog) (name : String) : Group :=
  (catalog.groups[name]?).getD ∅

/-- The template under a group and a key. -/
def get? (catalog : Catalog) (group key : String) : Option String :=
  (catalog.group group)[key]?

def contains (catalog : Catalog) (group key : String) : Bool :=
  (catalog.get? group key).isSome

/-- Put a template under a group and a key, in the place of one that was there. -/
def insert (catalog : Catalog) (group key template : String) : Catalog :=
  ⟨catalog.groups.insert group ((catalog.group group).insert key template)⟩

/-- Put a template under a group and a key, and give back the one that it takes the place of. -/
def exchange (catalog : Catalog) (group key template : String) : Catalog × Option String :=
  (catalog.insert group key template, catalog.get? group key)

/-- The names of the groups, in order. -/
def groupNames (catalog : Catalog) : List String :=
  catalog.groups.keys

/-- The keys of a group, in order. -/
def keys (catalog : Catalog) (group : String) : List String :=
  (catalog.group group).keys

/-- All templates, in the order of their groups and keys. -/
def entries (catalog : Catalog) : List Entry :=
  catalog.groups.toList.flatMap fun (name, templates) =>
    templates.toList.map fun (key, template) => ⟨name, key, template⟩

/-- How many templates the catalog has. -/
def size (catalog : Catalog) : Nat :=
  catalog.groups.foldl (fun count _ templates => count + templates.size) 0

def isEmpty (catalog : Catalog) : Bool :=
  catalog.size == 0

/-- A group and a key as one name. -/
def qualifiedName (group key : String) : String :=
  group ++ "." ++ key

end Catalog

end Phrasebook
