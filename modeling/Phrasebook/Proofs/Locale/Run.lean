import Phrasebook.Locale

/-!
# Runs of a locale

A run is any sequence of the operations that change a locale. Files may change between operations,
so an operation that reads one brings the files it finds. Tickets are values: a run may finish a
load late, twice or never, and with any ticket.

Every operation is described by what it keeps. But for a choice of the language and for a finished
load, an operation leaves the current language alone. None of them takes a bundle away.
-/
namespace Phrasebook.Locale

/-- A change that is asked of a locale. -/
inductive Operation where
  | setLanguage (language : String)
  | setModifiers (language : String) (modifiers : Registry)
  | insertBundle (language : String) (bundle : Bundle)
  | loadText (language json : String)
  | load (files : Files) (language path : String)
  | reload (files : Files) (language : String)
  | beginLoad (language : String)
  | finishLoad (ticket : Ticket) (bundle? : Option Bundle)

/-- The locale after an operation. -/
def perform (locale : Locale) : Operation → Locale
  | .setLanguage language => locale.setLanguage language
  | .setModifiers language modifiers => locale.setModifiers language modifiers
  | .insertBundle language bundle => locale.insertBundle language bundle
  | .loadText language json => (locale.loadText language json).1
  | .load files language path => (load files locale language path).1
  | .reload files language => (reload files locale language).1
  | .beginLoad language => (locale.beginLoad language).1
  | .finishLoad ticket bundle? => (locale.finishLoad ticket bundle?).1

/-- The locale after a run. -/
def run (locale : Locale) (operations : List Operation) : Locale :=
  operations.foldl perform locale

@[simp] theorem run_nil (locale : Locale) : locale.run [] = locale := rfl

@[simp] theorem run_cons (locale : Locale) (operation : Operation) (operations : List Operation) :
    locale.run (operation :: operations) = (locale.perform operation).run operations := rfl

@[simp] theorem run_append (locale : Locale) (operations more : List Operation) :
    locale.run (operations ++ more) = (locale.run operations).run more := by
  simp [run]

/-- Whether an operation requests a load, with or without a ticket for it. -/
def Operation.requestsLoad : Operation → Bool
  | .beginLoad _ => true
  | _ => false

/-- How many loads a run requests. -/
def requestCount (operations : List Operation) : Nat :=
  operations.countP Operation.requestsLoad

/-- The ticket that an operation issues, if it issues one. -/
def ticket? (locale : Locale) : Operation → Option Ticket
  | .beginLoad language => (locale.beginLoad language).2
  | _ => none

/-- The tickets that a run issues, in their order. -/
def issued (locale : Locale) : List Operation → List Ticket
  | [] => []
  | operation :: operations =>
    (locale.ticket? operation).toList ++ (locale.perform operation).issued operations

variable {locale : Locale} {language path json name : String}

/-- The second locale has the language and the ticket number of the first one, and a bundle wherever
the first one has one. -/
structure Grows (before after : Locale) : Prop where
  language_eq : after.language = before.language
  latest_eq : after.latest = before.latest
  isSome_bundle? : ∀ language, (before.bundle? language).isSome → (after.bundle? language).isSome

theorem Grows.refl (locale : Locale) : Grows locale locale := ⟨rfl, rfl, fun _ => id⟩

theorem Grows.trans {first middle last : Locale} (h : Grows first middle) (h' : Grows middle last) :
    Grows first last where
  language_eq := h'.language_eq.trans h.language_eq
  latest_eq := h'.latest_eq.trans h.latest_eq
  isSome_bundle? language := h'.isSome_bundle? language ∘ h.isSome_bundle? language

theorem bundle?_insertBundle (bundle : Bundle) (other : String) :
    (locale.insertBundle language bundle).bundle? other =
      if language = other then some bundle else locale.bundle? other := by
  simp [insertBundle, bundle?, Std.ExtTreeMap.getElem?_insert]

theorem grows_insertBundle (bundle : Bundle) :
    Grows locale (locale.insertBundle language bundle) where
  language_eq := rfl
  latest_eq := rfl
  isSome_bundle? other h := by
    rw [bundle?_insertBundle]
    split
    · rfl
    · exact h

/-- Changing the bundle of a language keeps the bundles of the others. -/
theorem grows_insert (bundle : Bundle) (pending : Std.ExtTreeMap String Registry) :
    Grows locale
      { locale with pending, bundles := locale.bundles.insert language bundle } where
  language_eq := rfl
  latest_eq := rfl
  isSome_bundle? other h := by
    simp only [bundle?, Std.ExtTreeMap.getElem?_insert] at h ⊢
    split
    · rfl
    · exact h

theorem grows_setModifiers (modifiers : Registry) :
    Grows locale (locale.setModifiers language modifiers) := by
  unfold setModifiers
  split
  · exact grows_insert _ _
  · exact ⟨rfl, rfl, fun _ => id⟩

theorem grows_install (catalog : Catalog) : Grows locale (locale.install language catalog) := by
  unfold install
  split
  · exact grows_insert _ _
  · exact grows_insert _ _

theorem grows_loadNamed : Grows locale (locale.loadNamed language name json).1 := by
  unfold loadNamed
  split
  · exact grows_install _
  · exact Grows.refl locale

theorem grows_loadText : Grows locale (locale.loadText language json).1 := by
  have hforget : Grows locale (locale.forgetPath language) := ⟨rfl, rfl, fun _ => id⟩
  exact hforget.trans grows_loadNamed

theorem grows_load (files : Files) : Grows locale (load files locale language path).1 := by
  unfold load
  split
  · exact Grows.refl locale
  · rename_i content _
    have hloaded : Grows locale (locale.loadNamed language path content).1 := grows_loadNamed
    split
    · rename_i loaded size hload
      rw [hload] at hloaded
      have hpath : Grows loaded (loaded.rememberPath language path) := ⟨rfl, rfl, fun _ => id⟩
      exact hloaded.trans hpath
    · rename_i loaded error hload
      rwa [hload] at hloaded

theorem grows_reload (files : Files) : Grows locale (reload files locale language).1 := by
  unfold reload
  split
  · exact grows_load files
  · exact Grows.refl locale

end Phrasebook.Locale
