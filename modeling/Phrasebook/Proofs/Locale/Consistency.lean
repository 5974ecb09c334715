import Phrasebook.Proofs.Locale.History

/-!
# Locales are consistent

A locale keeps what it knows of a language in three maps. In a run they never come apart: modifiers
wait for unloaded languages alone, files are remembered for loaded languages alone, and where a file
is remembered, the catalog of the language is what the last load from a file read in that file. So a
language is loaded again only in the place of a catalog that came from the same file.
-/
namespace Phrasebook.Locale
variable {locale : Locale} {language target path : String} {operations : List Operation}

theorem paths_install (catalog : Catalog) :
    (locale.install language catalog).paths = locale.paths := by
  unfold install
  split <;> rfl

theorem paths_setModifiers (modifiers : Registry) :
    (locale.setModifiers language modifiers).paths = locale.paths := by
  unfold setModifiers
  split <;> rfl

theorem path_insertBundle (bundle : Bundle) :
    (locale.insertBundle target bundle).paths[language]? =
      if target = language then none else locale.paths[language]? := by
  simp [insertBundle, Std.ExtTreeMap.getElem?_erase]

/-- A text takes the place of the file of its language, even where it cannot be read. -/
theorem path_loadText (json : String) :
    (locale.loadText target json).1.paths[language]? =
      if target = language then none else locale.paths[language]? := by
  have hforget : (locale.forgetPath target).paths[language]? =
      if target = language then none else locale.paths[language]? := by
    simp [forgetPath, Std.ExtTreeMap.getElem?_erase]
  cases hread : catalogOf (textName target) json with
  | ok catalog => rw [loadText_of_ok hread, paths_install, hforget]
  | error error => rw [loadText_of_error hread, hforget]

theorem path_load (files : Files) :
    (load files locale target path).1.paths[language]? =
      if target = language ∧ (load files locale target path).2.isOk = true then some path
      else locale.paths[language]? := by
  cases hread : catalogAt files path with
  | ok catalog =>
    rw [load_of_ok hread]
    simp [rememberPath, paths_install, Std.ExtTreeMap.getElem?_insert, Except.isOk, Except.toBool]
  | error error =>
    rw [load_of_error hread]
    simp [Except.isOk, Except.toBool]

/-- Loading a language again changes nothing about the files that are remembered. -/
theorem paths_reload (files : Files) : (reload files locale target).1.paths = locale.paths := by
  cases hpath : locale.paths[target]? with
  | none => rw [reload_of_no_path hpath]
  | some path =>
    ext language
    rw [reload_of_path hpath, path_load]
    split
    · rename_i htarget
      rw [← htarget.1, hpath]
    · rfl

/-- Whether an operation is to read a file. -/
def Operation.readsFile : Operation → Bool
  | .load _ _ _ | .reload _ _ => true
  | .setLanguage _ | .setModifiers _ _ | .insertBundle _ _ | .loadText _ _ | .beginLoad _
  | .finishLoad _ _ => false

namespace Step
variable {step : Step}

/-- Whether a step loads a language from a file, for the first time or again. -/
def readsFor (language : String) (step : Step) : Bool :=
  step.operation.readsFile && step.succeedsFor language

theorem installs_of_readsFor (h : step.readsFor language = true) :
    step.installs language = true := by
  obtain ⟨locale, operation⟩ := step
  cases operation <;> simp_all [readsFor, installs, Operation.readsFile, Operation.bringsCatalog]

theorem readsFor_load_iff {files : Files} :
    readsFor language ⟨locale, .load files target path⟩ = true ↔
      target = language ∧ (load files locale target path).2.isOk = true := by
  simp [readsFor, Operation.readsFile, succeedsFor, Operation.target?, succeeds]

theorem readsFor_reload_iff {files : Files} :
    readsFor language ⟨locale, .reload files target⟩ = true ↔
      target = language ∧ (reload files locale target).2.isOk = true := by
  simp [readsFor, Operation.readsFile, succeedsFor, Operation.target?, succeeds]

/-- A step that loads a language from a file remembers that file. -/
theorem path_after_of_readsFor (h : step.readsFor language = true) :
    ∃ files path, step.file? = some (files, path) ∧ step.after.paths[language]? = some path := by
  obtain ⟨locale, operation⟩ := step
  cases operation with
  | load files target path =>
    refine ⟨files, path, rfl, ?_⟩
    rw [after, perform, path_load, if_pos (readsFor_load_iff.1 h)]
  | reload files target =>
    obtain ⟨rfl, hok⟩ := readsFor_reload_iff.1 h
    cases hpath : locale.paths[target]? with
    | none => simp [reload_of_no_path hpath, Except.isOk, Except.toBool] at hok
    | some path =>
      refine ⟨files, path, by simp [file?, hpath], ?_⟩
      rw [after, perform, paths_reload, hpath]
  | _ => simp [readsFor, Operation.readsFile] at h

/-- What a step that loads a language from a file installs is what it reads there. -/
theorem catalog?_after_of_readsFor {files : Files} (h : step.readsFor language = true)
    (hfile : step.file? = some (files, path)) :
    ∃ catalog, catalogAt files path = .ok catalog ∧
      step.after.catalog? language = some catalog := by
  have hinstalls := installs_of_readsFor h
  have hbrings : step.catalog? = (catalogAt files path).toOption := by
    obtain ⟨locale, operation⟩ := step
    cases operation with
    | load | reload => simp [catalog?, hfile]
    | _ => simp [readsFor, Operation.readsFile] at h
  have hsome := isSome_catalog?_of_installs hinstalls
  rw [catalog?_after, if_pos hinstalls]
  rw [hbrings] at hsome ⊢
  cases hread : catalogAt files path with
  | ok catalog => exact ⟨catalog, rfl, rfl⟩
  | error error => simp [hread, Except.toOption] at hsome

/-- Any other step leaves a file remembered only where it installs no catalog. -/
theorem path_of_path_after (h : step.readsFor language = false)
    (hpath : step.after.paths[language]? = some path) :
    step.locale.paths[language]? = some path ∧ step.installs language = false := by
  obtain ⟨locale, operation⟩ := step
  unfold after at hpath
  cases operation with
  | setLanguage target => exact ⟨hpath, rfl⟩
  | beginLoad target => exact ⟨hpath, rfl⟩
  | setModifiers target modifiers =>
    rw [perform, paths_setModifiers] at hpath
    exact ⟨hpath, rfl⟩
  | insertBundle target bundle =>
    rw [perform, path_insertBundle] at hpath
    split at hpath
    · contradiction
    · rename_i hother
      exact ⟨hpath, by simp [installs, succeedsFor, Operation.target?, hother]⟩
  | loadText target json =>
    rw [perform, path_loadText] at hpath
    split at hpath
    · contradiction
    · rename_i hother
      exact ⟨hpath, by simp [installs, succeedsFor, Operation.target?, hother]⟩
  | load files target path =>
    rw [perform, path_load] at hpath
    split at hpath
    · rename_i hfor
      exact absurd (readsFor_load_iff.2 hfor) (Bool.eq_false_iff.1 h)
    · exact ⟨hpath, h⟩
  | reload files target =>
    rw [perform, paths_reload] at hpath
    exact ⟨hpath, h⟩
  | finishLoad ticket bundle? =>
    by_cases happlies : locale.isCurrent ticket = true ∧ bundle?.isSome = true
    · obtain ⟨bundle, rfl⟩ := Option.isSome_iff_exists.1 happlies.2
      rw [perform, finishLoad_of_isCurrent happlies.1] at hpath
      change (locale.insertBundle ticket.language bundle).paths[language]? = some path at hpath
      rw [path_insertBundle] at hpath
      split at hpath
      · contradiction
      · rename_i hother
        exact ⟨hpath, by simp [installs, succeedsFor, Operation.target?, hother]⟩
    · have hfinish := finishLoad_eq_self happlies
      rw [perform, hfinish] at hpath
      exact ⟨hpath, by simp [installs, succeedsFor, succeeds, hfinish]⟩

end Step

/-- The maps of a locale fit together. -/
structure Consistent (locale : Locale) : Prop where
  pending_eq_none : ∀ language,
    (locale.bundle? language).isSome = true → locale.pending[language]? = none
  isSome_bundle? : ∀ language path,
    locale.paths[language]? = some path → (locale.bundle? language).isSome = true

namespace Consistent

theorem new (initial : String) : Consistent (Locale.new initial) where
  pending_eq_none language h := by simp [Locale.new]
  isSome_bundle? language path h := by simp [Locale.new] at h

/-- A step keeps a locale consistent. -/
theorem after {step : Step} (h : Consistent step.locale) : Consistent step.after where
  pending_eq_none language hloaded := by
    have hbefore := h.pending_eq_none language
    cases step.effect with
    | none _ hholdings =>
      rw [hholdings.bundle?_eq] at hloaded
      rw [hholdings.pending_eq, hbefore hloaded]
    | load target catalog _ _ _ _ hholdings =>
      rw [hholdings.bundle?_eq, bundle?_install] at hloaded
      rw [hholdings.pending_eq, pending_install]
      cases hbundle : step.locale.bundle? target <;> grind
    | bundle target bundle _ _ _ _ _ hholdings =>
      rw [hholdings.bundle?_eq, bundle?_insertBundle] at hloaded
      rw [hholdings.pending_eq, pending_insertBundle]
      grind
    | modifiers target modifiers _ _ _ _ hholdings =>
      rw [hholdings.bundle?_eq, bundle?_setModifiers] at hloaded
      rw [hholdings.pending_eq, pending_setModifiers]
      cases hbundle : step.locale.bundle? target <;> grind
  isSome_bundle? language path hpath := by
    rw [← isSome_catalog?, Step.catalog?_after]
    cases hreads : step.readsFor language with
    | true =>
      have hinstalls := Step.installs_of_readsFor hreads
      rw [if_pos hinstalls]
      exact Step.isSome_catalog?_of_installs hinstalls
    | false =>
      obtain ⟨hpath, hinstalls⟩ := Step.path_of_path_after hreads hpath
      rw [if_neg (Bool.eq_false_iff.1 hinstalls), isSome_catalog?]
      exact h.isSome_bundle? language path hpath

theorem run (h : Consistent locale) (operations : List Operation) :
    Consistent (locale.run operations) := by
  induction operations generalizing locale with
  | nil => exact h
  | cons operation operations ih =>
    have hstep : Consistent (Step.after ⟨locale, operation⟩) := after h
    exact ih hstep

end Consistent

/-- A catalog that was read in a file when a language was loaded from a file for the last time. -/
def ReadLast (steps : List Step) (language path : String) (catalog : Catalog) : Prop :=
  ∃ step files, lastStep? (Step.readsFor language) steps = some step ∧
    step.file? = some (files, path) ∧ catalogAt files path = .ok catalog

theorem readLast_append_of_readsFor {steps : List Step} {step : Step} {files : Files}
    {catalog : Catalog} (hreads : step.readsFor language = true)
    (hfile : step.file? = some (files, path)) (hcatalog : catalogAt files path = .ok catalog) :
    ReadLast (steps ++ [step]) language path catalog :=
  ⟨step, files, by rw [lastStep?_append_singleton, if_pos hreads], hfile, hcatalog⟩

theorem readLast_append_iff_of_not_readsFor {steps : List Step} {step : Step} {catalog : Catalog}
    (hreads : step.readsFor language = false) :
    ReadLast (steps ++ [step]) language path catalog ↔ ReadLast steps language path catalog := by
  unfold ReadLast
  rw [lastStep?_append_singleton, if_neg (Bool.eq_false_iff.1 hreads)]

/-- Where a file is remembered, the language has what was read there. -/
theorem readLast_of_path {initial : String}
    (hpath : ((new initial).run operations).paths[language]? = some path) :
    ∃ catalog, ReadLast ((new initial).steps operations) language path catalog ∧
      ((new initial).run operations).catalog? language = some catalog := by
  induction operations using List.reverseRecOn with
  | nil => simp [new] at hpath
  | append_singleton operations operation ih =>
    let step : Step := ⟨(new initial).run operations, operation⟩
    rw [run_append] at hpath ⊢
    rw [steps_append_singleton]
    change step.after.paths[language]? = some path at hpath
    change ∃ catalog, ReadLast (_ ++ [step]) language path catalog ∧
      step.after.catalog? language = some catalog
    cases hreads : step.readsFor language with
    | true =>
      obtain ⟨files, remembered, hfile, hremembered⟩ := Step.path_after_of_readsFor hreads
      obtain rfl : remembered = path := Option.some.inj (hremembered.symm.trans hpath)
      obtain ⟨catalog, hread, hcatalog⟩ := Step.catalog?_after_of_readsFor hreads hfile
      exact ⟨catalog, readLast_append_of_readsFor hreads hfile hread, hcatalog⟩
    | false =>
      obtain ⟨hbefore, hinstalls⟩ := Step.path_of_path_after hreads hpath
      obtain ⟨catalog, hlast, hcatalog⟩ := ih hbefore
      refine ⟨catalog, (readLast_append_iff_of_not_readsFor hreads).2 hlast, ?_⟩
      rw [Step.catalog?_after, if_neg (Bool.eq_false_iff.1 hinstalls)]
      exact hcatalog

theorem install_of_loaded {bundle : Bundle} (catalog : Catalog)
    (h : locale.bundle? language = some bundle) :
    locale.install language catalog =
      { locale with bundles := locale.bundles.insert language { bundle with catalog } } := by
  rw [install, h]

/-- Loading a language again, when it succeeds, exchanges its catalog for what its file holds. -/
theorem Consistent.reload_of_ok {files : Files} {size : Nat} (h : Consistent locale)
    (hok : (reload files locale language).2 = .ok size) :
    ∃ path bundle catalog, locale.paths[language]? = some path ∧
      locale.bundle? language = some bundle ∧ catalogAt files path = .ok catalog ∧
      (reload files locale language).1 =
        { locale with bundles := locale.bundles.insert language { bundle with catalog } } := by
  cases hpath : locale.paths[language]? with
  | none => simp [reload_of_no_path hpath] at hok
  | some path =>
    obtain ⟨bundle, hbundle⟩ := Option.isSome_iff_exists.1 (h.isSome_bundle? language path hpath)
    have hpaths : (reload files locale language).1.paths = locale.paths := paths_reload files
    rw [reload_of_path hpath] at hok hpaths ⊢
    cases hread : catalogAt files path with
    | error error => simp [load_of_error hread] at hok
    | ok catalog =>
      refine ⟨path, bundle, catalog, rfl, hbundle, hread, ?_⟩
      rw [load_of_ok hread, install_of_loaded catalog hbundle] at hpaths ⊢
      simpa [rememberPath] using hpaths

/-- Loading a language again loads no language that is not loaded. -/
theorem Consistent.languages_reload (h : Consistent locale) (files : Files) (other : String) :
    other ∈ (reload files locale language).1.languages ↔ other ∈ locale.languages := by
  cases hanswer : (reload files locale language).2 with
  | error error => rw [fst_reload_of_error hanswer]
  | ok size =>
    obtain ⟨path, bundle, catalog, -, hbundle, -, hreload⟩ := h.reload_of_ok hanswer
    rw [hreload, mem_languages_iff, mem_languages_iff, isSome_catalog?, isSome_catalog?]
    by_cases hother : language = other
    · rw [← hother, hbundle]
      simp [bundle?]
    · simp [bundle?, Std.ExtTreeMap.getElem?_insert, hother]

/-- After every run, whatever has become of the files, modifiers wait only for languages that are
not loaded, and a file is remembered only for a loaded language, whose catalog is what the last load
from a file read there. So loading a language again loads no further language, and when it succeeds,
nothing is changed but the catalog of the language, which came from the same file before. -/
theorem consistent_run (initial : String) (operations : List Operation) :
    let locale := (new initial).run operations
    let steps := (new initial).steps operations
    (∀ language, (locale.bundle? language).isSome = true → locale.pending[language]? = none) ∧
    (∀ language path, locale.paths[language]? = some path →
      (locale.bundle? language).isSome = true ∧
      ∃ catalog, ReadLast steps language path catalog ∧ locale.catalog? language = some catalog) ∧
    ∀ (files : Files) (language : String),
      (∀ other, other ∈ (reload files locale language).1.languages ↔ other ∈ locale.languages) ∧
      ∀ size, (reload files locale language).2 = .ok size →
        ∃ path earlier later modifiers, locale.paths[language]? = some path ∧
          ReadLast steps language path earlier ∧ catalogAt files path = .ok later ∧
          locale.bundle? language = some ⟨earlier, modifiers⟩ ∧
          (reload files locale language).1 =
            { locale with bundles := locale.bundles.insert language ⟨later, modifiers⟩ } := by
  intro locale steps
  have hconsistent : Consistent locale := (Consistent.new initial).run operations
  refine ⟨hconsistent.pending_eq_none, fun language path hpath => ?_, fun files language => ?_⟩
  · exact ⟨hconsistent.isSome_bundle? language path hpath, readLast_of_path hpath⟩
  · refine ⟨hconsistent.languages_reload files, fun size hok => ?_⟩
    obtain ⟨path, bundle, later, hpath, hbundle, hread, hreload⟩ := hconsistent.reload_of_ok hok
    obtain ⟨earlier, hlast, hcatalog⟩ := readLast_of_path hpath
    have hbefore : locale.catalog? language = some bundle.catalog := by
      rw [catalog?, hbundle]
      rfl
    obtain rfl : bundle.catalog = earlier := Option.some.inj (hbefore.symm.trans hcatalog)
    exact ⟨path, bundle.catalog, later, bundle.modifiers, hpath, hlast, hread, hbundle, hreload⟩

/-- German gets modifiers and is loaded from a file. Loading it again, with the file as it is by
then, keeps the modifiers. -/
theorem consistent_run_again :
    let files : Files := fun path => if path = "de.json" then .ok "{}" else .error .notFound
    let locale := (new "en").run [.setModifiers "de" .builtins, .load files "de" "de.json"]
    (locale.bundle? "de").isSome = true ∧ locale.pending["de"]? = none ∧
      locale.paths["de"]? = some "de.json" ∧
      (reload files locale "de").1.modifiers? "de" = some .builtins := by
  intro files locale
  obtain ⟨hpending, hpaths, hreload⟩ :=
    consistent_run "en" [.setModifiers "de" .builtins, .load files "de" "de.json"]
  obtain ⟨catalog, hread, -⟩ := (catalogOf_samples "de.json").1
  have hfile : catalogAt files "de.json" = .ok catalog := hread
  have hpath : locale.paths["de"]? = some "de.json" := path_load_of_ok hfile
  have hloaded := (hpaths "de" "de.json" hpath).1
  have hanswer : (reload files locale "de").2 = .ok catalog.size := by
    rw [reload_of_path hpath, load_of_ok hfile]
  have hgiven : locale.modifiers? "de" = some .builtins := modifiers?_run "en" _ "de"
  refine ⟨hloaded, hpending "de" hloaded, hpath, ?_⟩
  obtain ⟨_, earlier, later, modifiers, -, -, -, hbundle, hafter⟩ :=
    (hreload files "de").2 catalog.size hanswer
  have hmodifiers : locale.modifiers? "de" = some modifiers := by
    rw [modifiers?, hbundle]
    rfl
  rw [hafter, ← hgiven, hmodifiers]
  simp [modifiers?, bundle?]

end Phrasebook.Locale
