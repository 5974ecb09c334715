import Phrasebook.Catalog.Json
import Phrasebook.Proofs.Json.Objects
import Phrasebook.Proofs.Locale.History

/-!
# Catalogs survive their files

A catalog is written as an object of objects of strings, in the order of its names, so no name comes
twice and nothing is lost when later members take the place of earlier ones. Reading gives the
catalog back from both styles, whatever characters its names and templates have, and so does loading
either text into a locale.
-/
namespace Phrasebook.Catalog

/-- The entries of a map, put into an empty one, give the map. -/
theorem foldl_insert_toList {α : Type} (map : Std.ExtTreeMap String α) :
    map.toList.foldl (fun map (key, a) => map.insert key a) ∅ = map := by
  rw [← Std.ExtTreeMap.ofList_eq_foldl]
  refine Std.ExtTreeMap.ext_getElem? fun key => ?_
  cases hkey : map[key]? with
  | some a =>
    exact Std.ExtTreeMap.getElem?_ofList_of_mem Std.ReflCmp.compare_self
      Std.ExtTreeMap.distinct_keys_toList (Std.ExtTreeMap.mem_toList_iff_getElem?_eq_some.2 hkey)
  | none =>
    refine Std.ExtTreeMap.getElem?_ofList_of_contains_eq_false ?_
    rw [Std.ExtTreeMap.map_fst_toList_eq_keys]
    simpa using hkey

/-- The groups of a catalog with their entries, as they stand in its text. -/
def written (catalog : Catalog) : List (String × List (String × String)) :=
  catalog.groups.toList.map fun (name, group) => (name, group.toList)

/-- What is written makes the catalog again. -/
theorem ofGroups_written (catalog : Catalog) :
    ofGroups (catalog.written.map fun (name, members) => (name, groupOf members)) = catalog := by
  have hgroups : catalog.written.map (fun (name, members) => (name, groupOf members)) =
      catalog.groups.toList := by
    rw [written, List.map_map]
    refine List.map_id'' (fun (name, group) => ?_) _
    simp [groupOf, foldl_insert_toList]
  rw [hgroups, ofGroups, foldl_insert_toList]

/-- The document of a group that has the given entries. -/
def entriesDocument (entries : List (String × String)) : Json.Document :=
  .object (entries.map fun (key, template) => (key, .text template))

theorem reads_entriesDocument (entries : List (String × String)) :
    Json.Reads (.object .string) (entriesDocument entries) entries :=
  Json.reads_object fun (_, template) _ => Json.reads_string template

theorem document_eq (catalog : Catalog) :
    catalog.document =
      .object (catalog.written.map fun (name, entries) => (name, entriesDocument entries)) := by
  rw [written, List.map_map]
  rfl

theorem reads_document (catalog : Catalog) :
    Json.Reads reader catalog.document catalog.written := by
  rw [document_eq]
  exact Json.reads_object fun (_, entries) _ => reads_entriesDocument entries

/-- A catalog is read back from its text. -/
theorem ofJson_toJson (catalog : Catalog) (style : Json.Style) :
    ofJson (catalog.toJson style) = .ok catalog := by
  rw [ofJson, toJson, (reads_document catalog).readAll_write style]
  exact congrArg Except.ok catalog.ofGroups_written

/-- The text of a catalog, compact or indented, is read as this catalog. Loading it succeeds in
every locale, tells how many templates the catalog has, and gives the language this catalog. -/
theorem loadText_toJson (catalog : Catalog) (style : Json.Style) :
    ofJson (catalog.toJson style) = .ok catalog ∧
    ∀ (locale : Locale) (language : String),
      (locale.loadText language (catalog.toJson style)).2 = .ok catalog.size ∧
      (locale.loadText language (catalog.toJson style)).1.catalog? language = some catalog := by
  have hread := catalog.ofJson_toJson style
  refine ⟨hread, fun locale language => ?_⟩
  have hcatalog : Locale.catalogOf (Locale.textName language) (catalog.toJson style) =
      .ok catalog := by
    rw [Locale.catalogOf, hread]
  rw [Locale.loadText_of_ok hcatalog, Locale.catalog?_install, if_pos rfl]
  exact ⟨rfl, rfl⟩

example : ((∅ : Catalog).insert "g" "k" "a\"\n").toJson .compact =
    "\x7b\"g\":\x7b\"k\":\"a\\\"\\n\"\x7d\x7d" := by decide +kernel

end Phrasebook.Catalog
