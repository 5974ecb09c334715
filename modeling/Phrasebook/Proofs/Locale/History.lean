import Mathlib.Data.List.Induction
import Phrasebook.Modifier.Builtin
import Phrasebook.Proofs.Locale.FailedLoad
import Phrasebook.Proofs.Locale.Tickets

/-!
# The history of a language

A step of a run is an operation with the locale that it is asked of, so that its answer is known
too. The steps that succeed for a language tell what the language has in the end: the catalog of the
last step that installs one, and the modifiers of the last step that gives some, however many loads
stand before and behind that step.
-/
namespace Phrasebook.Locale
variable {locale : Locale} {language other : String} {operations : List Operation}

namespace Operation

/-- The language whose catalog or modifiers an operation is to change. -/
def target? : Operation → Option String
  | .setLanguage _ | .beginLoad _ => none
  | .setModifiers language _ | .insertBundle language _ | .loadText language _
  | .load _ language _ | .reload _ language => some language
  | .finishLoad ticket _ => some ticket.language

/-- Whether an operation is to install a catalog. -/
def bringsCatalog : Operation → Bool
  | .insertBundle _ _ | .loadText _ _ | .load _ _ _ | .reload _ _ | .finishLoad _ _ => true
  | .setLanguage _ | .setModifiers _ _ | .beginLoad _ => false

/-- Whether an operation is to give modifiers. -/
def bringsModifiers : Operation → Bool
  | .setModifiers _ _ | .insertBundle _ _ | .finishLoad _ _ => true
  | .setLanguage _ | .loadText _ _ | .load _ _ _ | .reload _ _ | .beginLoad _ => false

end Operation

/-- An operation with the locale that it is asked of. -/
structure Step where
  locale : Locale
  operation : Operation

namespace Step

/-- The locale behind a step. -/
def after (step : Step) : Locale := step.locale.perform step.operation

/-- Whether a step succeeds, by its answer. What has no answer always succeeds. -/
def succeeds (step : Step) : Bool :=
  match step.operation with
  | .loadText language json => (step.locale.loadText language json).2.isOk
  | .load files language path => (load files step.locale language path).2.isOk
  | .reload files language => (reload files step.locale language).2.isOk
  | .finishLoad ticket bundle? => (step.locale.finishLoad ticket bundle?).2
  | .setLanguage _ | .setModifiers _ _ | .insertBundle _ _ | .beginLoad _ => true

/-- Whether a step succeeds for a language. -/
def succeedsFor (language : String) (step : Step) : Bool :=
  step.operation.target? == some language && step.succeeds

/-- Whether a step installs a catalog for a language. -/
def installs (language : String) (step : Step) : Bool :=
  step.operation.bringsCatalog && step.succeedsFor language

/-- Whether a step gives modifiers to a language. -/
def gives (language : String) (step : Step) : Bool :=
  step.operation.bringsModifiers && step.succeedsFor language

/-- The file that a step reads, among the files that it finds. -/
def file? (step : Step) : Option (Files × String) :=
  match step.operation with
  | .load files _ path => some (files, path)
  | .reload files language => step.locale.paths[language]?.map (files, ·)
  | _ => none

/-- The catalog that a step brings: that of its bundle, or what its text or its file holds. -/
def catalog? (step : Step) : Option Catalog :=
  match step.operation with
  | .insertBundle _ bundle => some bundle.catalog
  | .finishLoad _ bundle? => bundle?.map Bundle.catalog
  | .loadText language json => (catalogOf (textName language) json).toOption
  | _ => step.file?.bind fun (files, path) => (catalogAt files path).toOption

/-- The modifiers that a step brings. -/
def modifiers? (step : Step) : Option Registry :=
  match step.operation with
  | .setModifiers _ modifiers => some modifiers
  | .insertBundle _ bundle => some bundle.modifiers
  | .finishLoad _ bundle? => bundle?.map Bundle.modifiers
  | _ => none

end Step

/-- The steps of a run, in their order. -/
def steps (locale : Locale) : List Operation → List Step
  | [] => []
  | operation :: operations => ⟨locale, operation⟩ :: (locale.perform operation).steps operations

/-- The last step of a kind. -/
def lastStep? (kind : Step → Bool) (steps : List Step) : Option Step :=
  (steps.filter kind).getLast?

theorem lastStep?_append_singleton (kind : Step → Bool) (steps : List Step) (step : Step) :
    lastStep? kind (steps ++ [step]) =
      if kind step = true then some step else lastStep? kind steps := by
  unfold lastStep?
  by_cases h : kind step = true <;> simp [h]

theorem of_lastStep?_eq_some {kind : Step → Bool} {steps : List Step} {step : Step}
    (h : lastStep? kind steps = some step) : step ∈ steps ∧ kind step = true :=
  List.mem_filter.1 (List.mem_of_getLast? h)

theorem steps_append_singleton (operations : List Operation) (operation : Operation) :
    locale.steps (operations ++ [operation]) =
      locale.steps operations ++ [⟨locale.run operations, operation⟩] := by
  induction operations generalizing locale with
  | nil => rfl
  | cons first operations ih => simp [steps, ih]

theorem isSome_catalog? : (locale.catalog? language).isSome = (locale.bundle? language).isSome := by
  simp [catalog?]

theorem mem_languages_iff : language ∈ locale.languages ↔ (locale.catalog? language).isSome := by
  simp [languages, catalog?, bundle?, Std.ExtTreeMap.mem_keys]

theorem pending_insertBundle (bundle : Bundle) :
    (locale.insertBundle language bundle).pending[other]? =
      if language = other then none else locale.pending[other]? := by
  simp [insertBundle, Std.ExtTreeMap.getElem?_erase]

/-- Modifiers go into the bundle of a loaded language. -/
theorem bundle?_setModifiers (modifiers : Registry) :
    (locale.setModifiers language modifiers).bundle? other =
      if language = other then (locale.bundle? language).map fun bundle => { bundle with modifiers }
      else locale.bundle? other := by
  unfold setModifiers
  split
  · rename_i bundle hbundle
    simp only [bundle?, Std.ExtTreeMap.getElem?_insert] at hbundle ⊢
    simp [hbundle]
  · rename_i hnone
    split
    · rename_i hother
      rw [← hother, hnone]
      exact hnone
    · rfl

/-- Modifiers wait where their language is not loaded. -/
theorem pending_setModifiers (modifiers : Registry) :
    (locale.setModifiers language modifiers).pending[other]? =
      if language = other ∧ (locale.bundle? language).isNone = true then some modifiers
      else locale.pending[other]? := by
  unfold setModifiers
  split
  · rename_i bundle hbundle
    simp [hbundle]
  · rename_i hnone
    simp [hnone, Std.ExtTreeMap.getElem?_insert]

/-- A catalog comes under the modifiers that its language has, be it that they wait for it. -/
theorem bundle?_install (catalog : Catalog) :
    (locale.install language catalog).bundle? other =
      if language = other then some ⟨catalog, (locale.modifiers? language).getD ∅⟩
      else locale.bundle? other := by
  unfold install
  split
  · rename_i bundle hbundle
    simp only [bundle?, modifiers?, Std.ExtTreeMap.getElem?_insert] at hbundle ⊢
    simp [hbundle]
  · rename_i hnone
    simp only [bundle?, modifiers?, Std.ExtTreeMap.getElem?_insert] at hnone ⊢
    simp [hnone]

/-- The first catalog of a language takes the modifiers that wait for it. -/
theorem pending_install (catalog : Catalog) :
    (locale.install language catalog).pending[other]? =
      if language = other ∧ (locale.bundle? language).isNone = true then none
      else locale.pending[other]? := by
  unfold install
  split
  · rename_i bundle hbundle
    simp [hbundle]
  · rename_i hnone
    simp [hnone, Std.ExtTreeMap.getElem?_erase]

theorem catalog?_insertBundle (bundle : Bundle) :
    (locale.insertBundle language bundle).catalog? other =
      if language = other then some bundle.catalog else locale.catalog? other := by
  rw [catalog?, bundle?_insertBundle]
  split <;> rfl

theorem catalog?_setModifiers (modifiers : Registry) :
    (locale.setModifiers language modifiers).catalog? other = locale.catalog? other := by
  rw [catalog?, bundle?_setModifiers]
  split
  · rename_i hother
    subst hother
    cases hbundle : locale.bundle? language <;> simp [catalog?, hbundle]
  · rfl

theorem catalog?_install (catalog : Catalog) :
    (locale.install language catalog).catalog? other =
      if language = other then some catalog else locale.catalog? other := by
  rw [catalog?, bundle?_install]
  split <;> rfl

theorem modifiers?_insertBundle (bundle : Bundle) :
    (locale.insertBundle language bundle).modifiers? other =
      if language = other then some bundle.modifiers else locale.modifiers? other := by
  rw [modifiers?, bundle?_insertBundle, pending_insertBundle]
  split <;> rfl

theorem modifiers?_setModifiers (modifiers : Registry) :
    (locale.setModifiers language modifiers).modifiers? other =
      if language = other then some modifiers else locale.modifiers? other := by
  rw [modifiers?, bundle?_setModifiers, pending_setModifiers]
  by_cases hother : language = other
  · cases locale.bundle? language <;> simp [hother]
  · simp [hother, modifiers?]

theorem modifiers?_install (catalog : Catalog) :
    (locale.install language catalog).modifiers? other =
      if language = other then (locale.modifiers? other).or (some ∅)
      else locale.modifiers? other := by
  rw [modifiers?, bundle?_install, pending_install]
  by_cases hother : language = other
  · subst hother
    cases hmodifiers : locale.modifiers? language <;> simp
  · simp [hother, modifiers?]

/-- Two locales with the same bundles and the same waiting modifiers. -/
structure SameHoldings (first second : Locale) : Prop where
  bundles_eq : first.bundles = second.bundles
  pending_eq : first.pending = second.pending

namespace SameHoldings
variable {first second : Locale}

theorem bundle?_eq (h : SameHoldings first second) (language : String) :
    first.bundle? language = second.bundle? language := by
  rw [bundle?, h.bundles_eq]
  rfl

theorem catalog?_eq (h : SameHoldings first second) (language : String) :
    first.catalog? language = second.catalog? language := by
  rw [catalog?, h.bundle?_eq]
  rfl

theorem modifiers?_eq (h : SameHoldings first second) (language : String) :
    first.modifiers? language = second.modifiers? language := by
  rw [modifiers?, h.bundle?_eq, h.pending_eq]
  rfl

end SameHoldings

theorem sameHoldings_install_forgetPath {catalog : Catalog} :
    SameHoldings ((locale.forgetPath other).install language catalog)
      (locale.install language catalog) := by
  have hbundle : (locale.forgetPath other).bundle? language = locale.bundle? language := rfl
  unfold install
  rw [hbundle]
  split <;> exact ⟨rfl, rfl⟩

namespace Step
variable {step : Step}

/-- What a step does to the bundles and the waiting modifiers of its locale. -/
inductive Effect (step : Step) : Prop where
  /-- The step is about no bundle, or it fails. -/
  | none (succeedsFor_eq : ∀ language, step.succeedsFor language = false)
      (holdings : SameHoldings step.after step.locale)
  /-- A catalog is loaded from a text or a file. -/
  | load (target : String) (catalog : Catalog)
      (succeedsFor_eq : ∀ language, step.succeedsFor language = (target == language))
      (bringsCatalog_eq : step.operation.bringsCatalog = true)
      (bringsModifiers_eq : step.operation.bringsModifiers = false)
      (catalog?_eq : step.catalog? = some catalog)
      (holdings : SameHoldings step.after (step.locale.install target catalog))
  /-- A whole bundle is installed. -/
  | bundle (target : String) (bundle : Bundle)
      (succeedsFor_eq : ∀ language, step.succeedsFor language = (target == language))
      (bringsCatalog_eq : step.operation.bringsCatalog = true)
      (bringsModifiers_eq : step.operation.bringsModifiers = true)
      (catalog?_eq : step.catalog? = some bundle.catalog)
      (modifiers?_eq : step.modifiers? = some bundle.modifiers)
      (holdings : SameHoldings step.after (step.locale.insertBundle target bundle))
  /-- Modifiers are set. -/
  | modifiers (target : String) (modifiers : Registry)
      (succeedsFor_eq : ∀ language, step.succeedsFor language = (target == language))
      (bringsCatalog_eq : step.operation.bringsCatalog = false)
      (bringsModifiers_eq : step.operation.bringsModifiers = true)
      (modifiers?_eq : step.modifiers? = some modifiers)
      (holdings : SameHoldings step.after (step.locale.setModifiers target modifiers))

theorem effect_loadText (locale : Locale) (target json : String) :
    Effect ⟨locale, .loadText target json⟩ := by
  cases hread : catalogOf (textName target) json with
  | ok catalog =>
    have hload : locale.loadText target json = _ := loadText_of_ok hread
    refine .load target catalog (fun language => ?_) rfl rfl ?_ ?_
    · simp [succeedsFor, succeeds, Operation.target?, hload, Except.isOk, Except.toBool]
    · simp [Step.catalog?, hread, Except.toOption]
    · rw [after, perform, hload]
      exact sameHoldings_install_forgetPath
  | error error =>
    have hload : locale.loadText target json = _ := loadText_of_error hread
    refine .none (fun language => ?_) ?_
    · simp [succeedsFor, succeeds, hload, Except.isOk, Except.toBool]
    · rw [after, perform, hload]
      exact ⟨rfl, rfl⟩

/-- A load from a file, for the first time or again. -/
theorem effect_of_file (files : Files) {target : String} (path : String)
    (htarget : step.operation.target? = some target)
    (hbrings : step.operation.bringsCatalog = true) (hgift : step.operation.bringsModifiers = false)
    (hcatalog : step.catalog? = (catalogAt files path).toOption)
    (hsucceeds : step.succeeds = (load files step.locale target path).2.isOk)
    (hafter : step.after = (load files step.locale target path).1) : Effect step := by
  cases hread : catalogAt files path with
  | ok catalog =>
    rw [load_of_ok hread] at hsucceeds hafter
    refine .load target catalog (fun language => ?_) hbrings hgift ?_ ?_
    · simp [succeedsFor, htarget, hsucceeds, Except.isOk, Except.toBool]
    · simp [hcatalog, hread, Except.toOption]
    · rw [hafter]
      exact ⟨rfl, rfl⟩
  | error error =>
    rw [load_of_error hread] at hsucceeds hafter
    refine .none (fun language => ?_) ?_
    · simp [succeedsFor, hsucceeds, Except.isOk, Except.toBool]
    · rw [hafter]
      exact ⟨rfl, rfl⟩

theorem effect_reload (locale : Locale) (files : Files) (target : String) :
    Effect ⟨locale, .reload files target⟩ := by
  cases hpath : locale.paths[target]? with
  | some path =>
    have hload : reload files locale target = _ := reload_of_path hpath
    refine effect_of_file files path rfl rfl rfl ?_ ?_ ?_
    · simp [Step.catalog?, file?, hpath]
    · simp [succeeds, hload]
    · rw [after, perform, hload]
  | none =>
    have hload : reload files locale target = _ := reload_of_no_path hpath
    refine .none (fun language => ?_) ?_
    · simp [succeedsFor, succeeds, hload, Except.isOk, Except.toBool]
    · rw [after, perform, hload]
      exact ⟨rfl, rfl⟩

theorem effect_finishLoad (locale : Locale) (ticket : Ticket) (bundle? : Option Bundle) :
    Effect ⟨locale, .finishLoad ticket bundle?⟩ := by
  by_cases happlies : locale.isCurrent ticket = true ∧ bundle?.isSome = true
  · obtain ⟨bundle, rfl⟩ := Option.isSome_iff_exists.1 happlies.2
    have hfinish := finishLoad_of_isCurrent happlies.1 bundle
    refine .bundle ticket.language bundle (fun language => ?_) rfl rfl rfl rfl ?_
    · simp [succeedsFor, succeeds, Operation.target?, hfinish]
    · rw [after, perform, hfinish]
      exact ⟨rfl, rfl⟩
  · have hfinish := finishLoad_eq_self happlies
    refine .none (fun language => ?_) ?_
    · simp [succeedsFor, succeeds, hfinish]
    · rw [after, perform, hfinish]
      exact ⟨rfl, rfl⟩

/-- Every step has one of the effects. -/
theorem effect (step : Step) : Effect step := by
  obtain ⟨locale, operation⟩ := step
  cases operation with
  | setLanguage language => exact .none (fun _ => rfl) ⟨rfl, rfl⟩
  | beginLoad language => exact .none (fun _ => rfl) ⟨rfl, rfl⟩
  | setModifiers target modifiers =>
    refine .modifiers target modifiers (fun language => ?_) rfl rfl rfl ⟨rfl, rfl⟩
    simp [succeedsFor, succeeds, Operation.target?]
  | insertBundle target bundle =>
    refine .bundle target bundle (fun language => ?_) rfl rfl rfl rfl ⟨rfl, rfl⟩
    simp [succeedsFor, succeeds, Operation.target?]
  | loadText target json => exact effect_loadText locale target json
  | load files target path =>
    exact effect_of_file files path rfl rfl rfl rfl rfl rfl
  | reload files target => exact effect_reload locale files target
  | finishLoad ticket bundle? => exact effect_finishLoad locale ticket bundle?

/-- A step that is not about a language, or that fails, keeps what the language has. -/
theorem keeps_of_not_succeedsFor (h : step.succeedsFor language = false) :
    step.after.catalog? language = step.locale.catalog? language ∧
      step.after.modifiers? language = step.locale.modifiers? language := by
  cases step.effect with
  | none _ hholdings => exact ⟨hholdings.catalog?_eq language, hholdings.modifiers?_eq language⟩
  | load target catalog hfor _ _ _ hholdings =>
    have hother : target ≠ language := by simpa [hfor] using h
    rw [hholdings.catalog?_eq, hholdings.modifiers?_eq, catalog?_install, modifiers?_install,
      if_neg hother, if_neg hother]
    exact ⟨rfl, rfl⟩
  | bundle target bundle hfor _ _ _ _ hholdings =>
    have hother : target ≠ language := by simpa [hfor] using h
    rw [hholdings.catalog?_eq, hholdings.modifiers?_eq, catalog?_insertBundle,
      modifiers?_insertBundle, if_neg hother, if_neg hother]
    exact ⟨rfl, rfl⟩
  | modifiers target modifiers hfor _ _ _ hholdings =>
    have hother : target ≠ language := by simpa [hfor] using h
    rw [hholdings.catalog?_eq, hholdings.modifiers?_eq, catalog?_setModifiers,
      modifiers?_setModifiers, if_neg hother]
    exact ⟨rfl, rfl⟩

/-- A step that installs a catalog brings one. -/
theorem isSome_catalog?_of_installs (h : step.installs language = true) :
    step.catalog?.isSome = true := by
  cases step.effect with
  | none hfor _ => simp [installs, hfor] at h
  | load target catalog _ _ _ hcatalog _ => simp [hcatalog]
  | bundle target bundle _ _ _ hcatalog _ _ => simp [hcatalog]
  | modifiers target modifiers _ hbrings _ _ _ => simp [installs, hbrings] at h

theorem catalog?_after (step : Step) (language : String) :
    step.after.catalog? language =
      if step.installs language = true then step.catalog? else step.locale.catalog? language := by
  cases step.effect with
  | none hfor hholdings => simp [installs, hfor, hholdings.catalog?_eq]
  | load target catalog hfor hbrings _ hcatalog hholdings =>
    simp [installs, hfor, hbrings, hcatalog, hholdings.catalog?_eq, catalog?_install]
  | bundle target bundle hfor hbrings _ hcatalog _ hholdings =>
    simp [installs, hfor, hbrings, hcatalog, hholdings.catalog?_eq, catalog?_insertBundle]
  | modifiers target modifiers hfor hbrings _ _ hholdings =>
    simp [installs, hbrings, hholdings.catalog?_eq, catalog?_setModifiers]

/-- A step that gives modifiers brings some. -/
theorem isSome_modifiers?_of_gives (h : step.gives language = true) :
    step.modifiers?.isSome = true := by
  cases step.effect with
  | none hfor _ => simp [gives, hfor] at h
  | load target catalog _ _ hgift _ _ => simp [gives, hgift] at h
  | bundle target bundle _ _ _ _ hmodifiers _ => simp [hmodifiers]
  | modifiers target modifiers _ _ _ hmodifiers _ => simp [hmodifiers]

theorem modifiers?_after_of_gives (h : step.gives language = true) :
    step.after.modifiers? language = step.modifiers? := by
  cases step.effect with
  | none hfor _ => simp [gives, hfor] at h
  | load target catalog _ _ hgift _ _ => simp [gives, hgift] at h
  | bundle target bundle hfor _ hgift _ hmodifiers hholdings =>
    have htarget : target = language := by simpa [gives, hfor, hgift] using h
    rw [hholdings.modifiers?_eq, modifiers?_insertBundle, if_pos htarget, hmodifiers]
  | modifiers target modifiers hfor _ hgift hmodifiers hholdings =>
    have htarget : target = language := by simpa [gives, hfor, hgift] using h
    rw [hholdings.modifiers?_eq, modifiers?_setModifiers, if_pos htarget, hmodifiers]

/-- A step that succeeds for a language and gives no modifiers is a load, which keeps those of the
language. Without any it has an empty registry from then on. -/
theorem modifiers?_after_of_load (h : step.succeedsFor language = true)
    (hgives : step.gives language = false) :
    step.installs language = true ∧
      step.after.modifiers? language = (step.locale.modifiers? language).or (some ∅) := by
  cases step.effect with
  | none hfor _ => simp [hfor] at h
  | load target catalog hfor hbrings _ _ hholdings =>
    have htarget : target = language := by simpa [hfor] using h
    rw [hholdings.modifiers?_eq, modifiers?_install, if_pos htarget]
    exact ⟨by simp [installs, hbrings, h], rfl⟩
  | bundle target bundle _ _ hgift _ _ _ => simp [gives, hgift, h] at hgives
  | modifiers target modifiers _ _ hgift _ _ => simp [gives, hgift, h] at hgives

end Step

/-- The catalog of a language is the one that was installed last. -/
theorem catalog?_run (initial : String) (operations : List Operation) (language : String) :
    ((new initial).run operations).catalog? language =
      (lastStep? (Step.installs language) ((new initial).steps operations)).bind Step.catalog? := by
  induction operations using List.reverseRecOn with
  | nil => simp [steps, lastStep?, new, catalog?, bundle?]
  | append_singleton operations operation ih =>
    have hstep := Step.catalog?_after ⟨(new initial).run operations, operation⟩ language
    rw [run_append, steps_append_singleton, lastStep?_append_singleton]
    refine hstep.trans ?_
    split
    · rfl
    · exact ih

/-- A language is loaded as soon as a catalog is installed for it. -/
theorem mem_languages_run_iff (initial : String) (operations : List Operation)
    (language : String) :
    language ∈ ((new initial).run operations).languages ↔
      ∃ step ∈ (new initial).steps operations, step.installs language = true := by
  rw [mem_languages_iff, catalog?_run]
  constructor
  · intro h
    obtain ⟨catalog, hcatalog⟩ := Option.isSome_iff_exists.1 h
    obtain ⟨step, hlast, -⟩ := Option.bind_eq_some_iff.1 hcatalog
    exact ⟨step, of_lastStep?_eq_some hlast⟩
  · rintro ⟨step, hmem, hinstalls⟩
    have hfilter : step ∈ ((new initial).steps operations).filter (Step.installs language) :=
      List.mem_filter.2 ⟨hmem, hinstalls⟩
    obtain ⟨last, hlast⟩ : ∃ last,
        lastStep? (Step.installs language) ((new initial).steps operations) = some last :=
      Option.isSome_iff_exists.1 (List.getLast?_isSome.2 (List.ne_nil_of_mem hfilter))
    rw [hlast]
    exact Step.isSome_catalog?_of_installs (of_lastStep?_eq_some hlast).2

/-- The modifiers of a language are those that were given last. -/
theorem modifiers?_run (initial : String) (operations : List Operation) (language : String) :
    ((new initial).run operations).modifiers? language =
      match lastStep? (Step.gives language) ((new initial).steps operations) with
      | some step => step.modifiers?
      | none => (((new initial).run operations).catalog? language).map fun _ => ∅ := by
  induction operations using List.reverseRecOn with
  | nil => simp [steps, lastStep?, new, modifiers?, catalog?, bundle?]
  | append_singleton operations operation ih =>
    let step : Step := ⟨(new initial).run operations, operation⟩
    rw [run_append, steps_append_singleton, lastStep?_append_singleton]
    change step.after.modifiers? language =
      match if step.gives language = true then some step else _ with
      | some step => step.modifiers?
      | none => (step.after.catalog? language).map fun _ => ∅
    by_cases hgives : step.gives language = true
    · rw [if_pos hgives]
      exact Step.modifiers?_after_of_gives hgives
    rw [if_neg hgives]
    by_cases hfor : step.succeedsFor language = true
    · obtain ⟨hinstalls, hmodifiers⟩ :=
        Step.modifiers?_after_of_load hfor (Bool.eq_false_iff.2 hgives)
      rw [hmodifiers, ih, Step.catalog?_after, if_pos hinstalls]
      cases hlast : lastStep? (Step.gives language) ((new initial).steps operations) with
      | some gift =>
        obtain ⟨modifiers, hgift⟩ := Option.isSome_iff_exists.1
          (Step.isSome_modifiers?_of_gives (of_lastStep?_eq_some hlast).2)
        simp [hgift]
      | none =>
        obtain ⟨catalog, hcatalog⟩ :=
          Option.isSome_iff_exists.1 (Step.isSome_catalog?_of_installs hinstalls)
        cases ((new initial).run operations).catalog? language <;> simp [hcatalog]
    · obtain ⟨hcatalog, hmodifiers⟩ := Step.keeps_of_not_succeedsFor (Bool.eq_false_iff.2 hfor)
      rw [hcatalog, hmodifiers]
      exact ih

/-- What a language has after a run is told by the steps that succeed for it. It is loaded once a
step installs a catalog, and has the catalog of the last such step. It has the modifiers of the last
step that gives some. If there is none, a loaded language has the empty registry, and one that is
not loaded has no modifiers. All other steps change nothing about it. -/
theorem holdings_run (initial : String) (operations : List Operation) (language : String) :
    let locale := (new initial).run operations
    let steps := (new initial).steps operations
    (language ∈ locale.languages ↔ ∃ step ∈ steps, step.installs language = true) ∧
    locale.catalog? language = (lastStep? (Step.installs language) steps).bind Step.catalog? ∧
    (locale.modifiers? language =
      match lastStep? (Step.gives language) steps with
      | some step => step.modifiers?
      | none => if language ∈ locale.languages then some ∅ else none) ∧
    ∀ step ∈ steps, step.operation.target? ≠ some language ∨ step.succeeds = false →
      step.after.catalog? language = step.locale.catalog? language ∧
      step.after.modifiers? language = step.locale.modifiers? language := by
  intro locale steps
  refine ⟨mem_languages_run_iff initial operations language,
    catalog?_run initial operations language, ?_, fun step _ hother => ?_⟩
  · have hnone : (locale.catalog? language).map (fun _ => (∅ : Registry)) =
        if language ∈ locale.languages then some ∅ else none := by
      simp only [mem_languages_iff]
      cases locale.catalog? language <;> simp
    rw [← hnone]
    exact modifiers?_run initial operations language
  · refine Step.keeps_of_not_succeedsFor ?_
    rcases hother with htarget | hfails
    · simp [Step.succeedsFor, htarget]
    · simp [Step.succeedsFor, hfails]

/-- German gets modifiers before its catalog, and keeps both when a later text is refused. -/
theorem holdings_run_refused :
    let operations : List Operation :=
      [.setModifiers "de" .builtins, .loadText "de" "{}", .loadText "de" "bad json"]
    let loaded := (new "en").run (operations.take 2)
    "de" ∈ ((new "en").run operations).languages ∧
      ((new "en").run operations).modifiers? "de" = some .builtins ∧
      ((new "en").run operations).catalog? "de" = loaded.catalog? "de" := by
  intro operations loaded
  obtain ⟨⟨catalog, hread, -⟩, error, hbad⟩ := catalogOf_samples (textName "de")
  obtain ⟨hloaded, -, hmodifiers, hkept⟩ := holdings_run "en" operations "de"
  let load : Step := ⟨(new "en").run (operations.take 1), .loadText "de" "{}"⟩
  let refused : Step := ⟨loaded, .loadText "de" "bad json"⟩
  have hload : load.installs "de" = true := by
    simp [Step.installs, Step.succeedsFor, Step.succeeds, Operation.target?,
      Operation.bringsCatalog, load, loadText_of_ok hread, Except.isOk, Except.toBool]
  have hrefused : refused.succeeds = false := by
    simp [Step.succeeds, refused, loadText_of_error hbad, Except.isOk, Except.toBool]
  refine ⟨hloaded.2 ⟨load, by simp [steps, operations, load], hload⟩, hmodifiers,
    (hkept refused (by simp [steps, operations, refused, loaded]) (.inr hrefused)).1⟩

end Phrasebook.Locale
