import Mathlib.Data.List.Dedup
import Phrasebook.CommandLine.Coverage
import Phrasebook.Proofs.Catalog.Entries
import Phrasebook.Proofs.Catalog.RoundTrip

/-!
# What coverage says

Coverage compares names as they are written, with the group and the key in one. A written name does
not tell where its group ends: the key `b.c` of the group `a` and the key `c` of the group `a.b`
have one name. So a row counts the different names of the source, and it never lists a name that the
language has. It agrees with a comparison place by place exactly where the names of the source
differ and no lacking entry is named like one that is there. That is so if no group has a dot.
-/
namespace Phrasebook

/-- The name of an entry in its written form. -/
def Entry.name (entry : Entry) : String :=
  Catalog.qualifiedName entry.group entry.key

/-- No two entries of a catalog have one name. -/
def Catalog.NamesDiffer (catalog : Catalog) : Prop :=
  ∀ first ∈ catalog.entries, ∀ second ∈ catalog.entries, first.name = second.name → first = second

/-- Names tell the entries of the source apart, and those that the target lacks from its own. -/
structure Catalog.NamesTellApart (source target : Catalog) : Prop where
  within : source.NamesDiffer
  across : ∀ lacking ∈ source.missing target, ∀ entry ∈ target.entries, entry.name ≠ lacking.name

/-- The name of the entry that a target is said to lack. -/
def Difference.missingName? : Difference → Option String
  | .missingKey group key _ => some (Catalog.qualifiedName group key)
  | .unknownKey .. | .variableMismatch .. => none

namespace Catalog

theorem namesDiffer_iff_nodup {catalog : Catalog} :
    catalog.NamesDiffer ↔ (catalog.entries.map Entry.name).Nodup :=
  (List.nodup_map_iff_inj_on catalog.nodup_entries).symm

/-- The first dot of a name is behind its group if the group has none. -/
theorem cutAt_name {entry : Entry} (h : '.' ∉ entry.group.toList) :
    Text.cutAt '.' entry.name.toList = some (entry.group.toList, entry.key.toList) := by
  rw [Text.cutAt_eq_some_iff]
  exact ⟨by simp [Entry.name, qualifiedName], h⟩

theorem place_eq_of_name_eq {first second : Entry} (hname : first.name = second.name)
    (hfirst : '.' ∉ first.group.toList) (hsecond : '.' ∉ second.group.toList) :
    first.group = second.group ∧ first.key = second.key := by
  have hcut := cutAt_name hfirst
  rw [hname, cutAt_name hsecond, Option.some.injEq, Prod.mk.injEq] at hcut
  exact ⟨(String.toList_inj.1 hcut.1).symm, (String.toList_inj.1 hcut.2).symm⟩

/-- Names tell everything apart if no group of the two catalogs has a dot in its name. -/
theorem NamesTellApart.of_undotted {source target : Catalog}
    (hsource : ∀ entry ∈ source.entries, '.' ∉ entry.group.toList)
    (htarget : ∀ entry ∈ target.entries, '.' ∉ entry.group.toList) :
    source.NamesTellApart target where
  within first hfirst second hsecond hname := by
    obtain ⟨hgroup, hkey⟩ :=
      place_eq_of_name_eq hname (hsource first hfirst) (hsource second hsecond)
    exact eq_of_mem_entries hfirst hsecond hgroup hkey
  across lacking hlacking entry hentry hname := by
    obtain ⟨hin, habsent⟩ := mem_missing.1 hlacking
    obtain ⟨hgroup, hkey⟩ :=
      place_eq_of_name_eq hname (htarget entry hentry) (hsource lacking hin)
    have hthere := contains_iff.2 ⟨entry, hentry, hgroup, hkey⟩
    rw [habsent] at hthere
    cases hthere

/-- A comparison reports the lacking entries as missing, and no others. -/
theorem filterMap_missingName?_differences (source target : Catalog) (language : String) :
    (source.differences target language).filterMap Difference.missingName? =
      (source.missing target).map Entry.name := by
  have hown : (target.entries.filterMap (source.entryDifference? language)).filterMap
      Difference.missingName? = [] := by
    rw [List.filterMap_filterMap, List.filterMap_eq_nil_iff]
    intro entry _
    rw [entryDifference?]
    split
    · rfl
    · dsimp only
      split <;> rfl
  rw [differences, List.filterMap_append, hown, List.nil_append, List.filterMap_map]
  exact congrFun List.filterMap_eq_map _

end Catalog

namespace CommandLine

theorem mem_qualifiedNames {catalog : Catalog} {name : String} :
    name ∈ qualifiedNames catalog ↔ ∃ entry ∈ catalog.entries, entry.name = name := by
  rw [qualifiedNames, Std.ExtTreeSet.mem_ofList]
  simp [Entry.name]

theorem nodup_toList (names : Std.ExtTreeSet String) : names.toList.Nodup := by
  refine Std.ExtTreeSet.distinct_toList.imp fun {first second} hne heq => hne ?_
  rw [heq]
  exact Std.ReflCmp.compare_self

/-- The names of a catalog are those of its entries without repetitions. -/
theorem size_qualifiedNames (catalog : Catalog) :
    (qualifiedNames catalog).size = (catalog.entries.map Entry.name).dedup.length := by
  have hperm : (qualifiedNames catalog).toList.Perm (catalog.entries.map Entry.name).dedup := by
    rw [List.perm_ext_iff_of_nodup (nodup_toList _) (List.nodup_dedup _)]
    intro name
    rw [Std.ExtTreeSet.mem_toList, mem_qualifiedNames, List.mem_dedup, List.mem_map]
  rw [← hperm.length_eq, Std.ExtTreeSet.length_toList]

namespace LanguageCoverage

variable {coverage : LanguageCoverage} {total : Nat} {source target : Catalog}

/-- The row counts the entries of the source and lists those that the target lacks. -/
structure IsExact (coverage : LanguageCoverage) (total : Nat) (source target : Catalog) :
    Prop where
  total_eq : total = source.size
  covered_eq : coverage.covered =
    source.entries.countP fun entry => target.contains entry.group entry.key
  missing_perm : coverage.missing.Perm ((source.missing target).map Entry.name)
  reported_perm : coverage.missing.Perm
    ((source.differences target coverage.language).filterMap Difference.missingName?)

/-- The row counts the different names of the source and lists, once each, those of lacking entries
that no entry of the target has. -/
structure CountsNames (coverage : LanguageCoverage) (total : Nat) (source target : Catalog) :
    Prop where
  total_eq : total = (source.entries.map Entry.name).dedup.length
  covered_add : coverage.covered + coverage.missing.length = total
  missing_nodup : coverage.missing.Nodup
  mem_missing_iff : ∀ name, name ∈ coverage.missing ↔
    ∃ lacking ∈ source.missing target, lacking.name = name ∧
      ∀ entry ∈ target.entries, entry.name ≠ name

theorem countsNames_of (language : String) (source target : Catalog) :
    (LanguageCoverage.of language (qualifiedNames source) (qualifiedNames target)).CountsNames
      (qualifiedNames source).size source target where
  total_eq := size_qualifiedNames source
  covered_add := by
    have hle := List.length_filter_le (fun name => !(qualifiedNames target).contains name)
      (qualifiedNames source).toList
    rw [Std.ExtTreeSet.length_toList] at hle
    exact Nat.sub_add_cancel hle
  missing_nodup := (nodup_toList _).filter _
  mem_missing_iff name := by
    rw [LanguageCoverage.of, List.mem_filter, Std.ExtTreeSet.mem_toList, mem_qualifiedNames,
      Bool.not_eq_true', ← Bool.not_eq_true, Std.ExtTreeSet.contains_iff_mem, mem_qualifiedNames]
    constructor
    · rintro ⟨⟨lacking, hlacking, rfl⟩, habsent⟩
      have hlacks : target.contains lacking.group lacking.key = false := by
        refine Bool.not_eq_true _ ▸ fun hthere => ?_
        obtain ⟨entry, hentry, hgroup, hkey⟩ := Catalog.contains_iff.1 hthere
        exact habsent ⟨entry, hentry, by rw [Entry.name, hgroup, hkey, Entry.name]⟩
      exact ⟨lacking, Catalog.mem_missing.2 ⟨hlacking, hlacks⟩, rfl, fun entry hentry hname =>
        habsent ⟨entry, hentry, hname⟩⟩
    · rintro ⟨lacking, hlacking, rfl, habsent⟩
      exact ⟨⟨lacking, (Catalog.mem_missing.1 hlacking).1, rfl⟩, fun ⟨entry, hentry, hname⟩ =>
        habsent entry hentry hname⟩

/-- All entries are counted if and only if no two of them have one name. -/
theorem CountsNames.total_eq_size_iff (h : coverage.CountsNames total source target) :
    total = source.size ↔ source.NamesDiffer := by
  rw [Catalog.namesDiffer_iff_nodup, h.total_eq, ← Catalog.length_entries,
    ← List.length_map Entry.name]
  constructor
  · intro hlength
    exact List.dedup_eq_self.1 ((List.dedup_sublist _).eq_of_length hlength)
  · intro hnodup
    rw [hnodup.dedup]

/-- Every lacking entry is listed if and only if its name is not that of an entry that is there. -/
theorem CountsNames.missing_perm_iff (h : coverage.CountsNames total source target)
    (hdiffer : source.NamesDiffer) :
    coverage.missing.Perm ((source.missing target).map Entry.name) ↔
      ∀ lacking ∈ source.missing target, ∀ entry ∈ target.entries,
        entry.name ≠ lacking.name := by
  have hnodup : ((source.missing target).map Entry.name).Nodup :=
    (Catalog.namesDiffer_iff_nodup.1 hdiffer).sublist (List.filter_sublist.map Entry.name)
  rw [List.perm_ext_iff_of_nodup h.missing_nodup hnodup]
  constructor
  · intro hsame lacking hlacking
    have hlisted := (hsame lacking.name).2 (List.mem_map_of_mem hlacking)
    obtain ⟨-, -, -, habsent⟩ := (h.mem_missing_iff _).1 hlisted
    exact habsent
  · intro hacross name
    rw [h.mem_missing_iff, List.mem_map]
    constructor
    · rintro ⟨lacking, hlacking, hname, -⟩
      exact ⟨lacking, hlacking, hname⟩
    · rintro ⟨lacking, hlacking, rfl⟩
      exact ⟨lacking, hlacking, rfl, hacross lacking hlacking⟩

theorem CountsNames.missing_ne_nil_iff (h : coverage.CountsNames total source target) :
    coverage.missing ≠ [] ↔ ∃ lacking ∈ source.missing target,
      ∀ entry ∈ target.entries, entry.name ≠ lacking.name := by
  rw [← List.isEmpty_eq_false_iff, List.isEmpty_eq_false_iff_exists_mem]
  constructor
  · rintro ⟨name, hname⟩
    obtain ⟨lacking, hlacking, rfl, habsent⟩ := (h.mem_missing_iff name).1 hname
    exact ⟨lacking, hlacking, habsent⟩
  · rintro ⟨lacking, hlacking, habsent⟩
    exact ⟨lacking.name, (h.mem_missing_iff _).2 ⟨lacking, hlacking, rfl, habsent⟩⟩

theorem CountsNames.isExact_iff (h : coverage.CountsNames total source target) :
    coverage.IsExact total source target ↔ source.NamesTellApart target := by
  constructor
  · intro hexact
    have hwithin := h.total_eq_size_iff.1 hexact.total_eq
    exact ⟨hwithin, (h.missing_perm_iff hwithin).1 hexact.missing_perm⟩
  · intro hapart
    have htotal := h.total_eq_size_iff.2 hapart.within
    have hperm := (h.missing_perm_iff hapart.within).2 hapart.across
    refine ⟨htotal, ?_, hperm, ?_⟩
    · have hlength := hperm.length_eq
      have hcount := Catalog.countP_contains_add_length_missing source target
      have hcovered := h.covered_add
      rw [List.length_map] at hlength
      omega
    · rw [Catalog.filterMap_missingName?_differences]
      exact hperm

end LanguageCoverage

/-- The text of a catalog in a file is read as this catalog. -/
theorem readCatalog_of_toJson {files : Files} {path : String} {catalog : Catalog}
    {style : Json.Style} (h : files path = .ok (catalog.toJson style)) :
    readCatalog files path = .ok catalog := by
  rw [readCatalog, h]
  dsimp only
  rw [Catalog.ofJson_toJson]

namespace CoverageCommand

/-- The catalog of a language. It is empty if the language has no file. -/
def languageCatalog (files : Files) (command : CoverageCommand) (language : String) :
    Except Report Catalog :=
  if files.exists? (command.pathOf language) then readCatalog files (command.pathOf language)
  else .ok ∅

theorem languageCatalog_of_toJson {files : Files} {command : CoverageCommand}
    {language : String} {catalog : Catalog} {style : Json.Style}
    (h : files (command.pathOf language) = .ok (catalog.toJson style)) :
    command.languageCatalog files language = .ok catalog := by
  have hexists : files.exists? (command.pathOf language) = true := by rw [Files.exists?, h]
  rw [languageCatalog, if_pos hexists, readCatalog_of_toJson h]

theorem languageCatalog_of_not_exists {files : Files} {command : CoverageCommand}
    {language : String} (h : files.exists? (command.pathOf language) = false) :
    command.languageCatalog files language = .ok ∅ := by
  rw [languageCatalog, h]
  rfl

theorem languageNames_eq (files : Files) (command : CoverageCommand) (language : String) :
    command.languageNames files language =
      (command.languageCatalog files language).map qualifiedNames := by
  rw [languageNames, languageCatalog]
  split
  · rfl
  · rfl

variable {files : Files} {command : CoverageCommand} {source : Catalog}
  {target : String → Catalog} {total : Nat} {rows : List LanguageCoverage}

theorem mapM_coverageOf (names : Std.ExtTreeSet String) (languages : List String)
    (htarget : ∀ language ∈ languages,
      command.languageCatalog files language = .ok (target language)) :
    languages.mapM (command.coverageOf files names) =
      .ok (languages.map fun language =>
        .of language names (qualifiedNames (target language))) := by
  induction languages with
  | nil => rfl
  | cons language languages ih =>
    have hrow : command.coverageOf files names language =
        .ok (.of language names (qualifiedNames (target language))) := by
      rw [coverageOf, languageNames_eq, htarget language List.mem_cons_self]
      rfl
    rw [List.mapM_cons, hrow, ih fun other hother => htarget other (List.mem_cons_of_mem _ hother)]
    rfl

/-- If all catalogs can be read, there is a row for each language. -/
theorem coverages_of_catalogs (hsource : readCatalog files command.source = .ok source)
    (htarget : ∀ language ∈ command.languages,
      command.languageCatalog files language = .ok (target language)) :
    command.coverages files = .ok ((qualifiedNames source).size,
      command.languages.map fun language =>
        .of language (qualifiedNames source) (qualifiedNames (target language))) := by
  rw [coverages, hsource]
  exact congrArg (Except.map _) (mapM_coverageOf (qualifiedNames source) command.languages htarget)

theorem exitCode_eq_dataErrorCode_iff (h : command.coverages files = .ok (total, rows)) :
    (command.run files).exitCode = dataErrorCode ↔
      command.strict = true ∧ ∃ row ∈ rows, row.missing ≠ [] := by
  have hfails : command.fails rows = true ↔
      command.strict = true ∧ ∃ row ∈ rows, row.missing ≠ [] := by
    simp [fails, LanguageCoverage.isComplete]
  rw [← hfails, run, h]
  dsimp only
  split
  · simp [*]
  · simp [*, dataErrorCode, successCode]

/-- If all catalogs can be read, there is a row for each language, which counts names, and it counts
entries if and only if names tell them apart. A strict run fails if and only if some language lacks
an entry whose name none of its own entries has, so that, where names tell the entries apart, it
fails if and only if some language lacks an entry. -/
theorem isExact_iff_namesTellApart (hsource : readCatalog files command.source = .ok source)
    (htarget : ∀ language ∈ command.languages,
      command.languageCatalog files language = .ok (target language)) :
    ∃ total rows, command.coverages files = .ok (total, rows) ∧
      rows.map (·.language) = command.languages ∧
      (∀ row ∈ rows, row.CountsNames total source (target row.language) ∧
        (row.IsExact total source (target row.language) ↔
          source.NamesTellApart (target row.language))) ∧
      ((command.run files).exitCode = dataErrorCode ↔
        command.strict = true ∧ ∃ language ∈ command.languages,
          ∃ lacking ∈ source.missing (target language),
            ∀ entry ∈ (target language).entries, entry.name ≠ lacking.name) ∧
      ((∀ language ∈ command.languages, source.NamesTellApart (target language)) →
        ((command.run files).exitCode = dataErrorCode ↔
          command.strict = true ∧ ∃ language ∈ command.languages,
            source.missing (target language) ≠ [])) := by
  have hrows := coverages_of_catalogs hsource htarget
  have hcounts (language : String) :=
    LanguageCoverage.countsNames_of language source (target language)
  have hexit : (command.run files).exitCode = dataErrorCode ↔
      command.strict = true ∧ ∃ language ∈ command.languages,
        ∃ lacking ∈ source.missing (target language),
          ∀ entry ∈ (target language).entries, entry.name ≠ lacking.name := by
    rw [exitCode_eq_dataErrorCode_iff hrows]
    simp only [List.mem_map, exists_exists_and_eq_and, (hcounts _).missing_ne_nil_iff]
  refine ⟨_, _, hrows, ?_, ?_, hexit, fun hapart => ?_⟩
  · rw [List.map_map]
    exact List.map_id' _
  · intro row hrow
    obtain ⟨language, -, rfl⟩ := List.mem_map.1 hrow
    exact ⟨hcounts language, (hcounts language).isExact_iff⟩
  · rw [hexit]
    refine and_congr_right fun _ => exists_congr fun language => and_congr_right fun hlanguage => ?_
    rw [← List.isEmpty_eq_false_iff, List.isEmpty_eq_false_iff_exists_mem]
    refine exists_congr fun lacking => and_iff_left_of_imp fun hlacking => ?_
    exact (hapart language hlanguage).across lacking hlacking

/-- German has one of two English entries and there is no French file. No group has a dot, so the
rows are exact, and the strict run fails. -/
theorem isExact_iff_namesTellApart_partial :
    let files : Files := fun path =>
      if path = "en.json" then .ok "\x7b\"g\":\x7b\"a\":\"1\",\"b.c\":\"2\"\x7d\x7d"
      else if path = "de.json" then .ok "\x7b\"g\":\x7b\"a\":\"3\"\x7d\x7d"
      else .error .notFound
    let command : CoverageCommand := ⟨"en.json", ["de", "fr"], none, true, false⟩
    let english := ((∅ : Catalog).insert "g" "a" "1").insert "g" "b.c" "2"
    let german := (∅ : Catalog).insert "g" "a" "3"
    ∃ total rows, command.coverages files = .ok (total, rows) ∧
      rows.map (·.language) = ["de", "fr"] ∧
      (∀ row ∈ rows, row.IsExact total english (if row.language = "de" then german else ∅)) ∧
      (command.run files).exitCode = dataErrorCode := by
  intro files command english german
  have htext : english.toJson .compact =
        "\x7b\"g\":\x7b\"a\":\"1\",\"b.c\":\"2\"\x7d\x7d" ∧
      german.toJson .compact = "\x7b\"g\":\x7b\"a\":\"3\"\x7d\x7d" := by decide +kernel
  have hsource : readCatalog files command.source = .ok english :=
    readCatalog_of_toJson (congrArg Except.ok htext.1.symm)
  have htarget : ∀ language ∈ command.languages, command.languageCatalog files language =
      .ok (if language = "de" then german else ∅) := by
    have hpaths : command.pathOf "de" = "de.json" ∧ command.pathOf "fr" = "fr.json" := by
      decide +kernel
    have hde : files (command.pathOf "de") = .ok (german.toJson .compact) := by
      rw [hpaths.1, htext.2]
      rfl
    have hfr : files.exists? (command.pathOf "fr") = false := by
      rw [hpaths.2]
      rfl
    exact List.forall_mem_cons.2 ⟨languageCatalog_of_toJson hde,
      List.forall_mem_singleton.2 (languageCatalog_of_not_exists hfr)⟩
  have hundotted : (∀ entry ∈ english.entries, '.' ∉ entry.group.toList) ∧
      (∀ entry ∈ german.entries, '.' ∉ entry.group.toList) ∧
      ∀ entry ∈ (∅ : Catalog).entries, '.' ∉ entry.group.toList := by decide +kernel
  have hapart (language : String) :
      english.NamesTellApart (if language = "de" then german else ∅) := by
    refine .of_undotted hundotted.1 ?_
    split
    · exact hundotted.2.1
    · exact hundotted.2.2
  obtain ⟨total, rows, hrows, hlanguages, hexact, -, hexit⟩ :=
    isExact_iff_namesTellApart hsource htarget
  refine ⟨total, rows, hrows, hlanguages, fun row hrow => ?_, ?_⟩
  · exact (hexact row hrow).2.2 (hapart row.language)
  · exact (hexit fun language _ => hapart language).2
      ⟨rfl, "de", List.mem_cons_self, by decide +kernel⟩

/-- Two English entries are written alike, and German has one of them. They are counted as one entry
that German has, so nothing is missing and the strict run succeeds. -/
theorem not_isExact_alike :
    let files : Files := fun path =>
      if path = "en.json" then
        .ok "\x7b\"a\":\x7b\"b.c\":\"x\"\x7d,\"a.b\":\x7b\"c\":\"y\"\x7d\x7d"
      else if path = "de.json" then .ok "\x7b\"a.b\":\x7b\"c\":\"z\"\x7d\x7d"
      else .error .notFound
    let command : CoverageCommand := ⟨"en.json", ["de"], none, true, true⟩
    let english := ((∅ : Catalog).insert "a" "b.c" "x").insert "a.b" "c" "y"
    let german := (∅ : Catalog).insert "a.b" "c" "z"
    readCatalog files "en.json" = .ok english ∧ command.languageCatalog files "de" = .ok german ∧
      english.size = 2 ∧ (english.missing german).map Entry.name = ["a.b.c"] ∧
      command.coverages files = .ok (1, [⟨"de", 1, []⟩]) ∧
      (command.run files).exitCode = successCode ∧
      ¬ (⟨"de", 1, []⟩ : LanguageCoverage).IsExact 1 english german := by
  intro files command english german
  have htext : english.toJson .compact =
        "\x7b\"a\":\x7b\"b.c\":\"x\"\x7d,\"a.b\":\x7b\"c\":\"y\"\x7d\x7d" ∧
      german.toJson .compact = "\x7b\"a.b\":\x7b\"c\":\"z\"\x7d\x7d" := by decide +kernel
  have hde : files (command.pathOf "de") = .ok (german.toJson .compact) := by
    have hpath : command.pathOf "de" = "de.json" := by decide +kernel
    rw [hpath, htext.2]
    rfl
  have htotal : 1 ≠ english.size := by decide +kernel
  exact ⟨readCatalog_of_toJson (congrArg Except.ok htext.1.symm), languageCatalog_of_toJson hde,
    by decide +kernel, by decide +kernel, by decide +kernel, by decide +kernel,
    fun hexact => htotal hexact.total_eq⟩

end CoverageCommand

end CommandLine

end Phrasebook
