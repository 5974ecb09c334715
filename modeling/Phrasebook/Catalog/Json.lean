import Phrasebook.Catalog
import Phrasebook.Json.Reader
import Phrasebook.Json.Writer

/-!
# Catalogs as JSON

A catalog is written as an object of groups, each an object of templates by key. Where a text has a
group or a key twice, the last one counts, and a group that comes again replaces the earlier one.
-/
namespace Phrasebook.Catalog

/-- The group with the given members, of which later ones count. -/
def groupOf (members : List (String × String)) : Group :=
  members.foldl (fun group (key, template) => group.insert key template) ∅

/-- The catalog with the given groups, of which later ones count. -/
def ofGroups (members : List (String × Group)) : Catalog :=
  ⟨members.foldl (fun groups (name, group) => groups.insert name group) ∅⟩

/-- What a catalog looks like in JSON, before repeated names are settled. -/
def reader : Json.Reader (List (String × List (String × String))) :=
  .object (.object .string)

/-- Read a catalog. -/
def ofJson (text : String) : Except Json.Error Catalog :=
  (reader.readAll text).map fun groups =>
    ofGroups (groups.map fun (name, members) => (name, groupOf members))

/-- A group as a document. -/
def groupDocument (group : Group) : Json.Document :=
  .object (group.toList.map fun (key, template) => (key, .text template))

/-- A catalog as a document. -/
def document (catalog : Catalog) : Json.Document :=
  .object (catalog.groups.toList.map fun (name, group) => (name, groupDocument group))

/-- Write a catalog. -/
def toJson (catalog : Catalog) (style : Json.Style) : String :=
  catalog.document.write style

end Phrasebook.Catalog
