import Mathlib.Data.List.Sort
import Mathlib.Data.String.Basic
import Phrasebook.Comparison
import Phrasebook.Proofs.Catalog.Entries
import Phrasebook.Proofs.Locale.History
import Phrasebook.Proofs.Template.Names

/-!
# Differences of two languages

Two catalogs are compared place by place. A place shows at most one difference: the templates of
both sides decide which, and no other place has a say. What a template requires is compared as a
list in order, which is as good as comparing sets since no name is listed twice. The comparison in
the other direction shows the same places with the two sides exchanged.
-/
namespace Phrasebook

/-- The variables that a template requires, in their own order and each once. -/
structure ListsRequired (names : List String) (template : String) : Prop where
  mem_iff : ∀ name, name ∈ names ↔ Requires template name
  pairwise : names.Pairwise (· < ·)

/-- Two templates require the same variables. -/
def SameRequired (first second : String) : Prop :=
  ∀ name, Requires first name ↔ Requires second name

theorem SameRequired.symm {first second : String} (h : SameRequired first second) :
    SameRequired second first :=
  fun name => (h name).symm

/-- A set of names has one list. -/
theorem ListsRequired.eq_iff {names others : List String} {first second : String}
    (h : ListsRequired names first) (h' : ListsRequired others second) :
    names = others ↔ SameRequired first second := by
  constructor
  · rintro rfl name
    rw [← h.mem_iff, h'.mem_iff]
  · intro hsame
    refine h.pairwise.eq_of_mem_iff h'.pairwise fun name => ?_
    rw [h.mem_iff, h'.mem_iff]
    exact hsame name

theorem listsRequired_sortedVariables (template : String) :
    ListsRequired (sortedVariables template) template := by
  unfold sortedVariables requiredVariables
  cases hparse : Template.parse template with
  | error cause =>
    refine ⟨fun name => ?_, .nil⟩
    simp [Except.map, Requires, hparse]
  | ok parsed =>
    refine ⟨fun name => ?_, ?_⟩
    · rw [requires_iff hparse]
      exact List.mem_mergeSort
    · have hsorted : parsed.requiredNames.mergeSort.Pairwise fun first second =>
          decide (first ≤ second) = true := by
        refine List.pairwise_mergeSort (fun a b c hab hbc => ?_) (fun a b => ?_) _
        · simp only [decide_eq_true_eq] at hab hbc ⊢
          exact hab.trans hbc
        · simpa using le_total a b
      have hnodup : parsed.requiredNames.mergeSort.Nodup :=
        (List.mergeSort_perm _ _).nodup_iff.2 parsed.nodup_requiredNames
      exact hsorted.imp₂ (fun a b hle hne => lt_of_le_of_ne (by simpa using hle) hne) hnodup

namespace Difference

def group : Difference → String
  | .unknownKey group _ _ => group
  | .missingKey group _ _ => group
  | .variableMismatch group _ _ _ _ => group

def key : Difference → String
  | .unknownKey _ key _ => key
  | .missingKey _ key _ => key
  | .variableMismatch _ key _ _ _ => key

/-- Whether a difference is about the template under a group and a key. -/
def isAt (group key : String) (difference : Difference) : Bool :=
  difference.group = group && difference.key = key

/-- What a place shows of a target language, from the templates that its source language and it have
there. -/
inductive Shown (language group key : String) :
    (source? target? : Option String) → List Difference → Prop where
  | nowhere : Shown language group key none none []
  | onlyTarget (template : String) :
    Shown language group key none (some template) [.unknownKey group key language]
  | onlySource (template : String) :
    Shown language group key (some template) none [.missingKey group key language]
  | same {source target : String} (h : SameRequired source target) :
    Shown language group key (some source) (some target) []
  | mismatch {source target : String} {wanted used : List String}
    (h : ¬ SameRequired source target) (hwanted : ListsRequired wanted source)
    (hused : ListsRequired used target) :
    Shown language group key (some source) (some target)
      [.variableMismatch group key language wanted used]

namespace Shown
variable {language group key : String} {source? target? : Option String}
  {differences : List Difference}

theorem unknownKey_mem_iff (h : Shown language group key source? target? differences) :
    .unknownKey group key language ∈ differences ↔ source? = none ∧ target?.isSome = true := by
  cases h <;> simp

theorem missingKey_mem_iff (h : Shown language group key source? target? differences) :
    .missingKey group key language ∈ differences ↔ source?.isSome = true ∧ target? = none := by
  cases h <;> simp

theorem variableMismatch_mem_iff (h : Shown language group key source? target? differences)
    {wanted used : List String} :
    .variableMismatch group key language wanted used ∈ differences ↔
      ∃ source target, source? = some source ∧ target? = some target ∧
        ¬ SameRequired source target ∧ ListsRequired wanted source ∧ ListsRequired used target := by
  cases h with
  | nowhere => simp
  | onlyTarget template => simp
  | onlySource template => simp
  | same hsame => simp [hsame]
  | mismatch hdiffer hwanted hused =>
    simp only [List.mem_singleton, variableMismatch.injEq, true_and, Option.some.injEq]
    constructor
    · rintro ⟨rfl, rfl⟩
      exact ⟨_, _, rfl, rfl, hdiffer, hwanted, hused⟩
    · rintro ⟨_, _, rfl, rfl, -, hwanted', hused'⟩
      exact ⟨(hwanted'.eq_iff hwanted).2 fun _ => Iff.rfl, (hused'.eq_iff hused).2 fun _ => Iff.rfl⟩

theorem eq_nil_iff (h : Shown language group key source? target? differences) :
    differences = [] ↔ source?.isSome = target?.isSome ∧
      ∀ source target, source? = some source → target? = some target →
        SameRequired source target := by
  cases h with
  | nowhere => simp
  | onlyTarget template => simp
  | onlySource template => simp
  | same hsame => simpa using hsame
  | mismatch hdiffer hwanted hused => simpa using hdiffer

end Shown

end Difference

namespace Catalog

open Difference

/-- The entry of a place, if there is one. -/
def entriesAt (catalog : Catalog) (group key : String) : List Entry :=
  (catalog.get? group key).toList.map (Entry.mk group key)

/-- Among the entries there is one for each place. -/
theorem filter_entries (catalog : Catalog) (group key : String) :
    catalog.entries.filter (Entry.isAt group key) = catalog.entriesAt group key := by
  have hnodup := catalog.nodup_entries.filter (Entry.isAt group key)
  have hat : (catalog.entriesAt group key).Nodup := by
    unfold entriesAt
    cases catalog.get? group key <;> simp
  have hperm := (List.perm_ext_iff_of_nodup hnodup hat).2 fun entry => by
    obtain ⟨group', key', template⟩ := entry
    simp only [List.mem_filter, mem_entries, entriesAt, List.mem_map, Option.mem_toList,
      Entry.isAt, Bool.and_eq_true, decide_eq_true_eq, Entry.mk.injEq]
    constructor
    · rintro ⟨htemplate, rfl, rfl⟩
      exact ⟨template, htemplate, rfl, rfl, rfl⟩
    · rintro ⟨_, htemplate, rfl, rfl, rfl⟩
      exact ⟨htemplate, rfl, rfl⟩
  unfold entriesAt at hperm ⊢
  cases hget : catalog.get? group key with
  | none => simpa [hget] using hperm
  | some template => simpa [hget] using hperm

/-- The difference that an entry shows is about its place. -/
theorem isAt_of_entryDifference? {source : Catalog} {language : String} {entry : Entry}
    {difference : Difference} (h : source.entryDifference? language entry = some difference)
    (group key : String) : difference.isAt group key = entry.isAt group key := by
  unfold entryDifference? at h
  split at h
  · cases h
    rfl
  · dsimp only at h
    split at h
    · cases h
    · cases h
      rfl

theorem filter_entryDifference? (source : Catalog) (language group key : String) (entry : Entry) :
    (source.entryDifference? language entry).filter (Difference.isAt group key) =
      if entry.isAt group key then source.entryDifference? language entry else none := by
  cases hshown : source.entryDifference? language entry with
  | none => simp
  | some difference => simp [Option.filter, isAt_of_entryDifference? hshown]

/-- The differences of a place come from the entries of this place. -/
theorem filter_differences (source target : Catalog) (language group key : String) :
    (source.differences target language).filter (Difference.isAt group key) =
      (target.entriesAt group key).filterMap (source.entryDifference? language) ++
        ((source.entriesAt group key).filter fun entry =>
          !target.contains entry.group entry.key).map
            fun entry => .missingKey entry.group entry.key language := by
  rw [differences, List.filter_append]
  congr 1
  · rw [List.filter_filterMap, ← filter_entries, List.filterMap_filter]
    exact List.filterMap_congr fun entry _ =>
      filter_entryDifference? source language group key entry
  · have hplace : (Difference.isAt group key ∘ fun entry : Entry =>
        .missingKey entry.group entry.key language) = Entry.isAt group key := rfl
    rw [List.filter_map, hplace, missing, ← filter_entries, List.filter_filter, List.filter_filter]
    simp only [Bool.and_comm]

/-- Every place shows what its two templates ask for, and nothing else. -/
theorem shown_filter_differences (source target : Catalog) (language group key : String) :
    Shown language group key (source.get? group key) (target.get? group key)
      ((source.differences target language).filter (Difference.isAt group key)) := by
  rw [filter_differences]
  cases hsource : source.get? group key with
  | none =>
    cases htarget : target.get? group key with
    | none => simpa [entriesAt, hsource, htarget] using .nowhere
    | some template =>
      simpa [entriesAt, entryDifference?, hsource, htarget] using .onlyTarget template
  | some wanted =>
    cases htarget : target.get? group key with
    | none => simpa [entriesAt, contains, hsource, htarget] using .onlySource wanted
    | some used =>
      have hwanted := listsRequired_sortedVariables wanted
      have hused := listsRequired_sortedVariables used
      by_cases hsame : sortedVariables wanted = sortedVariables used
      · simpa [entriesAt, entryDifference?, contains, hsource, htarget, hsame] using
          .same ((hwanted.eq_iff hused).1 hsame)
      · simpa [entriesAt, entryDifference?, contains, hsource, htarget, hsame] using
          .mismatch (hsame ∘ (hwanted.eq_iff hused).2) hwanted hused

section Places
variable {source target : Catalog} {language : String}

theorem mem_filter_isAt {difference : Difference} {differences : List Difference} :
    difference ∈ differences.filter (Difference.isAt difference.group difference.key) ↔
      difference ∈ differences := by
  simp [Difference.isAt]

theorem unknownKey_mem_differences {group key : String} :
    .unknownKey group key language ∈ source.differences target language ↔
      source.get? group key = none ∧ (target.get? group key).isSome = true := by
  rw [← mem_filter_isAt]
  exact (shown_filter_differences source target language group key).unknownKey_mem_iff

theorem missingKey_mem_differences {group key : String} :
    .missingKey group key language ∈ source.differences target language ↔
      (source.get? group key).isSome = true ∧ target.get? group key = none := by
  rw [← mem_filter_isAt]
  exact (shown_filter_differences source target language group key).missingKey_mem_iff

theorem variableMismatch_mem_differences {group key : String} {wanted used : List String} :
    .variableMismatch group key language wanted used ∈ source.differences target language ↔
      ∃ first second, source.get? group key = some first ∧ target.get? group key = some second ∧
        ¬ SameRequired first second ∧ ListsRequired wanted first ∧ ListsRequired used second := by
  rw [← mem_filter_isAt]
  exact (shown_filter_differences source target language group key).variableMismatch_mem_iff

/-- Every difference has a place, so there is none if no place shows one. -/
theorem differences_eq_nil_iff_filter :
    source.differences target language = [] ↔ ∀ group key,
      (source.differences target language).filter (Difference.isAt group key) = [] := by
  constructor
  · intro hnil group key
    rw [hnil, List.filter_nil]
  · intro hplaces
    refine List.eq_nil_iff_forall_not_mem.2 fun difference hmem => ?_
    have hat := mem_filter_isAt.2 hmem
    rw [hplaces] at hat
    exact List.not_mem_nil hat

theorem differences_eq_nil_iff :
    source.differences target language = [] ↔ ∀ group key,
      (source.get? group key).isSome = (target.get? group key).isSome ∧
        ∀ first second, source.get? group key = some first → target.get? group key = some second →
          SameRequired first second := by
  rw [differences_eq_nil_iff_filter]
  exact forall₂_congr fun group key =>
    (shown_filter_differences source target language group key).eq_nil_iff

end Places

/-- The other direction shows the mismatches with their two sides exchanged. -/
theorem variableMismatch_mem_differences_swap {source target : Catalog} {first second : String}
    {group key : String} {wanted used : List String} :
    .variableMismatch group key second wanted used ∈ source.differences target second ↔
      .variableMismatch group key first used wanted ∈ target.differences source first := by
  rw [variableMismatch_mem_differences, variableMismatch_mem_differences]
  constructor
  · rintro ⟨template, template', htemplate, htemplate', hdiffer, hwanted, hused⟩
    exact ⟨template', template, htemplate', htemplate, hdiffer ∘ .symm, hused, hwanted⟩
  · rintro ⟨template, template', htemplate, htemplate', hdiffer, hused, hwanted⟩
    exact ⟨template', template, htemplate', htemplate, hdiffer ∘ .symm, hwanted, hused⟩

/-- What one language has too much the other one lacks. -/
theorem unknownKey_mem_differences_swap {source target : Catalog} {first second : String}
    {group key : String} :
    .unknownKey group key second ∈ source.differences target second ↔
      .missingKey group key first ∈ target.differences source first := by
  rw [unknownKey_mem_differences, missingKey_mem_differences, and_comm]

end Catalog

namespace Locale

theorem differences_eq {locale : Locale} {first second : String} {source target : Catalog}
    (hsource : locale.catalog? first = some source)
    (htarget : locale.catalog? second = some target) :
    locale.differences first second = source.differences target second := by
  simp only [differences, hsource, htarget]

/-- The comparison of two loaded languages shows at every place what the two templates there ask
for, once, and nothing else; each direction can be told from the other one; and there is nothing to
show exactly if both languages have the same places and the two templates of each require the same
variables. -/
theorem differences_shown_and_mirrored {locale : Locale} {first second : String}
    {source target : Catalog} (hsource : locale.catalog? first = some source)
    (htarget : locale.catalog? second = some target) :
    (∀ group key, Difference.Shown second group key (source.get? group key) (target.get? group key)
      ((locale.differences first second).filter (Difference.isAt group key))) ∧
    (∀ group key, .unknownKey group key second ∈ locale.differences first second ↔
      .missingKey group key first ∈ locale.differences second first) ∧
    (∀ group key wanted used,
      .variableMismatch group key second wanted used ∈ locale.differences first second ↔
        .variableMismatch group key first used wanted ∈ locale.differences second first) ∧
    (locale.differences first second = [] ↔ ∀ group key,
      (source.get? group key).isSome = (target.get? group key).isSome ∧
        ∀ template template', source.get? group key = some template →
          target.get? group key = some template' → SameRequired template template') := by
  rw [differences_eq hsource htarget, differences_eq htarget hsource]
  refine ⟨fun group key => ?_, fun group key => ?_, fun group key wanted used => ?_, ?_⟩
  · exact Catalog.shown_filter_differences source target second group key
  · exact Catalog.unknownKey_mem_differences_swap
  · exact Catalog.variableMismatch_mem_differences_swap
  · exact Catalog.differences_eq_nil_iff

/-- A greeting with another variable, a template on each side that the other one lacks, and a
malformed translation of a template without variables, which shows nothing. -/
theorem differences_shown_and_mirrored_german :
    let english := (((∅ : Catalog).insert "g" "bye" "Bye").insert "g" "hi" "Hi {{name}}").insert
      "g" "odd" "Odd"
    let german := (((∅ : Catalog).insert "g" "extra" "x").insert "g" "hi"
      "Hallo {{vorname}} {{name}}").insert "g" "odd" "a|b"
    let locale := ((Locale.new "en").install "en" english).install "de" german
    locale.differences "en" "de" =
        [.unknownKey "g" "extra" "de", .variableMismatch "g" "hi" "de" ["name"] ["name", "vorname"],
          .missingKey "g" "bye" "de"] ∧
      .missingKey "g" "extra" "en" ∈ locale.differences "de" "en" ∧
      .variableMismatch "g" "hi" "en" ["name", "vorname"] ["name"] ∈ locale.differences "de" "en" ∧
      Difference.Shown "de" "g" "odd" (some "Odd") (some "a|b") [] ∧
      ¬ SameRequired "Hi {{name}}" "Hallo {{vorname}} {{name}}" := by
  intro english german locale
  have hloaded : locale.catalog? "en" = some english ∧ locale.catalog? "de" = some german := by
    simp [locale, catalog?_install]
  have hentries : german.entries = [⟨"g", "extra", "x"⟩,
      ⟨"g", "hi", "Hallo {{vorname}} {{name}}"⟩, ⟨"g", "odd", "a|b"⟩] := by decide +kernel
  have hmissing : english.missing german = [⟨"g", "bye", "Bye"⟩] := by decide +kernel
  have hextra : english.get? "g" "extra" = none := by decide +kernel
  have hhi : english.get? "g" "hi" = some "Hi {{name}}" ∧
      german.get? "g" "hi" = some "Hallo {{vorname}} {{name}}" := by decide +kernel
  have hodd : english.get? "g" "odd" = some "Odd" ∧ german.get? "g" "odd" = some "a|b" := by
    decide +kernel
  have hvariables : sortedVariables "Hallo {{vorname}} {{name}}" = ["name", "vorname"] := by
    have hparse : Template.parse "Hallo {{vorname}} {{name}}" =
        .ok ⟨[.literal "Hallo ", .placeholder ⟨"vorname", []⟩, .literal " ",
          .placeholder ⟨"name", []⟩]⟩ := by decide +kernel
    have hnames : (⟨[.literal "Hallo ", .placeholder ⟨"vorname", []⟩, .literal " ",
        .placeholder ⟨"name", []⟩]⟩ : Template).requiredNames = ["vorname", "name"] := by
      decide +kernel
    simp [sortedVariables, requiredVariables, hparse, Except.map, hnames, List.mergeSort]
  have hothers : sortedVariables "Hi {{name}}" = ["name"] ∧ sortedVariables "Odd" = [] ∧
      sortedVariables "a|b" = [] := by decide +kernel
  have hdifferences : locale.differences "en" "de" =
      [.unknownKey "g" "extra" "de", .variableMismatch "g" "hi" "de" ["name"] ["name", "vorname"],
        .missingKey "g" "bye" "de"] := by
    rw [differences_eq hloaded.1 hloaded.2, Catalog.differences, hentries, hmissing]
    simp [Catalog.entryDifference?, hextra, hhi, hodd, hvariables, hothers]
  obtain ⟨hshown, hunknown, hmismatch, -⟩ :=
    differences_shown_and_mirrored hloaded.1 hloaded.2
  have hshownHi := hshown "g" "hi"
  have hshownOdd := hshown "g" "odd"
  rw [hdifferences, hhi.1, hhi.2] at hshownHi
  rw [hdifferences, hodd.1, hodd.2] at hshownOdd
  rw [hdifferences] at hunknown hmismatch
  refine ⟨hdifferences, (hunknown "g" "extra").1 ?_, (hmismatch "g" "hi" _ _).1 ?_, hshownOdd, ?_⟩
  · exact List.mem_cons_self
  · exact List.mem_cons_of_mem _ List.mem_cons_self
  · intro hsame
    have hnil := hshownHi.eq_nil_iff.2 ⟨rfl, fun _ _ h h' => by cases h; cases h'; exact hsame⟩
    exact absurd hnil (by decide)

end Locale

end Phrasebook
