import Mathlib.Data.List.Induction
import Phrasebook.Proofs.Catalog.Entries

/-!
# Inserting into catalogs

A catalog is a map from places to templates, filed in two levels. Its entries, its keys and its size
are read off the two levels one by one, and all of them agree with what can be looked up. Inserting
changes one place, so behind any number of insertions a place has what was inserted there last.
-/
namespace Phrasebook.Catalog
variable {catalog : Catalog} {group key template : String}

theorem group_insert (catalog : Catalog) (group key template name : String) :
    (catalog.insert group key template).group name =
      if name = group then (catalog.group group).insert key template else catalog.group name := by
  by_cases hname : name = group
  · subst hname
    simp [insert, Catalog.group]
  · simp [insert, Catalog.group, Std.ExtTreeMap.getElem?_insert, hname, Ne.symm hname]

/-- Inserting changes what is looked up in one place. -/
theorem get?_insert (catalog : Catalog) (group key template name other : String) :
    (catalog.insert group key template).get? name other =
      if name = group ∧ other = key then some template else catalog.get? name other := by
  rw [get?, group_insert]
  by_cases hname : name = group
  · subst hname
    by_cases hother : other = key
    · subst hother
      simp
    · simp [get?, Std.ExtTreeMap.getElem?_insert, hother, Ne.symm hother]
  · simp [get?, hname]

theorem mem_keys : key ∈ catalog.keys group ↔ (catalog.get? group key).isSome = true := by
  rw [keys, Std.ExtTreeMap.mem_keys, Std.ExtTreeMap.mem_iff_isSome_getElem?, get?]

theorem pairwise_keys (catalog : Catalog) (group : String) :
    (catalog.keys group).Pairwise (· < ·) := by
  refine Std.ExtTreeMap.ordered_keys.imp fun hlt => ?_
  exact compareOfLessAndEq_eq_lt.1 hlt

/-- A catalog is empty when it has no entries, whatever groups it has. -/
theorem isEmpty_iff : catalog.isEmpty = true ↔ catalog.entries = [] := by
  rw [isEmpty, beq_iff_eq, ← length_entries, List.length_eq_zero_iff]

example : let catalog : Catalog := ⟨(∅ : Std.ExtTreeMap String Group).insert "g" ∅⟩
    catalog.groupNames = ["g"] ∧ catalog.isEmpty = true := by
  decide +kernel

/-- The catalog behind a sequence of insertions. -/
def insertAll (catalog : Catalog) (insertions : List Entry) : Catalog :=
  insertions.foldl
    (fun catalog entry => (catalog.exchange entry.group entry.key entry.template).1) catalog

theorem insertAll_append_singleton (catalog : Catalog) (insertions : List Entry) (entry : Entry) :
    catalog.insertAll (insertions ++ [entry]) =
      (catalog.insertAll insertions).insert entry.group entry.key entry.template := by
  simp [insertAll, exchange]

/-- A place has what was inserted there last, or else what it had before. -/
theorem get?_insertAll (catalog : Catalog) (insertions : List Entry) (group key : String) :
    (catalog.insertAll insertions).get? group key =
      ((insertions.filter (Entry.isAt group key)).getLast?.map Entry.template).or
        (catalog.get? group key) := by
  induction insertions using List.reverseRecOn with
  | nil => rfl
  | append_singleton insertions entry ih =>
    rw [insertAll_append_singleton, get?_insert, ih, List.filter_append]
    by_cases hat : entry.isAt group key = true
    · obtain ⟨rfl, rfl⟩ : entry.group = group ∧ entry.key = key := by simpa [Entry.isAt] using hat
      simp [Entry.isAt]
    · have hplace : ¬ (group = entry.group ∧ key = entry.key) := by
        rintro ⟨rfl, rfl⟩
        simp [Entry.isAt] at hat
      simp [hat, hplace]

/-- All that can be seen of a catalog goes with what is looked up in it. -/
structure IsOrderedMap (catalog : Catalog) : Prop where
  /-- The entries stand in the order of their groups and keys, so none comes twice. -/
  pairwise_entries : catalog.entries.Pairwise Entry.Before
  mem_entries : ∀ entry,
    entry ∈ catalog.entries ↔ catalog.get? entry.group entry.key = some entry.template
  size_eq : catalog.size = catalog.entries.length
  isEmpty_iff : catalog.isEmpty = true ↔ catalog.entries = []
  pairwise_keys : ∀ group, (catalog.keys group).Pairwise (· < ·)
  mem_keys : ∀ group key,
    key ∈ catalog.keys group ↔ ∃ template, catalog.get? group key = some template
  /-- An insertion answers with the template that it takes the place of. -/
  snd_exchange : ∀ group key template,
    (catalog.exchange group key template).2 = catalog.get? group key
  /-- It changes its own place and no other. -/
  get?_exchange : ∀ group key template name other,
    (catalog.exchange group key template).1.get? name other =
      if name = group ∧ other = key then some template else catalog.get? name other

/-- Every catalog is an ordered map, also one with groups that are empty. -/
theorem isOrderedMap (catalog : Catalog) : catalog.IsOrderedMap where
  pairwise_entries := catalog.pairwise_entries
  mem_entries := fun _ => mem_entries
  size_eq := catalog.length_entries.symm
  isEmpty_iff := isEmpty_iff
  pairwise_keys := catalog.pairwise_keys
  mem_keys := fun _ _ => mem_keys.trans Option.isSome_iff_exists
  snd_exchange := fun _ _ _ => rfl
  get?_exchange := catalog.get?_insert

/-- Whatever catalog a sequence of insertions starts from, it leads to an ordered map, in which each
place has what was inserted there last, or what it had at the start. -/
theorem isOrderedMap_insertAll (start : Catalog) (insertions : List Entry) :
    (start.insertAll insertions).IsOrderedMap ∧
      ∀ group key, (start.insertAll insertions).get? group key =
        ((insertions.filter (Entry.isAt group key)).getLast?.map Entry.template).or
          (start.get? group key) :=
  ⟨isOrderedMap _, start.get?_insertAll insertions⟩

end Phrasebook.Catalog
