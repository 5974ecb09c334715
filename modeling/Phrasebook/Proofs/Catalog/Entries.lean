import Mathlib.Data.List.Nodup
import Phrasebook.Comparison

/-!
# Entries of a catalog

The entries are the templates that can be looked up, one for each place, in the order of their
places. What one catalog lacks of another is compared place by place.
-/
namespace Phrasebook

/-- The place of the first entry stands before that of the second. -/
def Entry.Before (first second : Entry) : Prop :=
  first.group < second.group ∨ first.group = second.group ∧ first.key < second.key

theorem Entry.Before.ne {first second : Entry} (h : first.Before second) : first ≠ second := by
  rintro rfl
  rcases h with hgroup | ⟨-, hkey⟩
  · exact String.lt_irrefl _ hgroup
  · exact String.lt_irrefl _ hkey

/-- Whether an entry stands under a group and a key. -/
def Entry.isAt (group key : String) (entry : Entry) : Bool :=
  entry.group = group && entry.key = key

namespace Catalog

theorem mem_entries {catalog : Catalog} {entry : Entry} :
    entry ∈ catalog.entries ↔ catalog.get? entry.group entry.key = some entry.template := by
  obtain ⟨name, key, template⟩ := entry
  simp only [entries, List.mem_flatMap, List.mem_map, Prod.exists, Entry.mk.injEq, get?, group,
    Std.ExtTreeMap.mem_toList_iff_getElem?_eq_some]
  constructor
  · rintro ⟨_, templates, hgroup, _, _, hkey, rfl, rfl, rfl⟩
    rw [hgroup]
    exact hkey
  · intro h
    cases hgroup : catalog.groups[name]? with
    | none => simp [hgroup] at h
    | some templates =>
      rw [hgroup] at h
      exact ⟨name, templates, hgroup, key, template, h, rfl, rfl, rfl⟩

/-- There is one entry for each place. -/
theorem eq_of_mem_entries {catalog : Catalog} {first second : Entry}
    (hfirst : first ∈ catalog.entries) (hsecond : second ∈ catalog.entries)
    (hgroup : first.group = second.group) (hkey : first.key = second.key) : first = second := by
  rw [mem_entries] at hfirst hsecond
  rw [hgroup, hkey, hsecond] at hfirst
  cases first
  cases second
  simp_all

theorem pairwise_entries (catalog : Catalog) : catalog.entries.Pairwise Entry.Before := by
  rw [entries, List.pairwise_flatMap]
  constructor
  · rintro ⟨name, templates⟩ -
    rw [List.pairwise_map]
    refine Std.ExtTreeMap.ordered_keys_toList.imp fun hkey => ?_
    exact .inr ⟨rfl, compareOfLessAndEq_eq_lt.1 hkey⟩
  · refine Std.ExtTreeMap.ordered_keys_toList.imp fun hgroup first hfirst second hsecond => ?_
    obtain ⟨_, -, rfl⟩ := List.mem_map.1 hfirst
    obtain ⟨_, -, rfl⟩ := List.mem_map.1 hsecond
    exact .inl (compareOfLessAndEq_eq_lt.1 hgroup)

theorem nodup_entries (catalog : Catalog) : catalog.entries.Nodup :=
  catalog.pairwise_entries.imp Entry.Before.ne

theorem length_entries (catalog : Catalog) : catalog.entries.length = catalog.size := by
  have hfold (groups : List (String × Group)) (count : Nat) :
      groups.foldl (fun count group => count + group.2.size) count =
        count + (groups.map fun group => group.2.size).sum := by
    induction groups generalizing count with
    | nil => rfl
    | cons group groups ih => rw [List.foldl_cons, ih, List.map_cons, List.sum_cons, Nat.add_assoc]
  rw [size, Std.ExtTreeMap.foldl_eq_foldl_toList, hfold, Nat.zero_add, entries, List.length_flatMap]
  simp only [List.length_map, Std.ExtTreeMap.length_toList]

theorem contains_iff {catalog : Catalog} {group key : String} :
    catalog.contains group key = true ↔
      ∃ entry ∈ catalog.entries, entry.group = group ∧ entry.key = key := by
  rw [contains, Option.isSome_iff_exists]
  constructor
  · rintro ⟨template, h⟩
    exact ⟨⟨group, key, template⟩, mem_entries.2 h, rfl, rfl⟩
  · rintro ⟨entry, hentry, rfl, rfl⟩
    exact ⟨entry.template, mem_entries.1 hentry⟩

theorem mem_missing {source target : Catalog} {entry : Entry} :
    entry ∈ source.missing target ↔
      entry ∈ source.entries ∧ target.contains entry.group entry.key = false := by
  rw [missing, List.mem_filter, Bool.not_eq_true']

/-- Every entry is lacking or there. -/
theorem countP_contains_add_length_missing (source target : Catalog) :
    (source.entries.countP fun entry => target.contains entry.group entry.key) +
      (source.missing target).length = source.size := by
  rw [missing, ← List.countP_eq_length_filter, ← length_entries,
    List.length_eq_countP_add_countP fun entry => target.contains entry.group entry.key]
  simp only [Bool.not_eq_true, Bool.decide_eq_false]

end Catalog

end Phrasebook
