import Phrasebook.Bundle
import Phrasebook.Catalog.Json
import Phrasebook.Files

/-!
# Locales

A locale has a current language and a bundle for every language that is loaded. Catalogs are loaded
from files, which can be loaded again later, or from text. Modifiers stay with their language: those
set before it is loaded are kept until its first catalog comes, and loading changes the catalog
alone.

Loads that take time are requested with a ticket. Every request makes the earlier tickets stale, and
what comes with a stale ticket is thrown away, so the language requested last wins.
-/
namespace Phrasebook

/-- Why a catalog was not loaded. -/
inductive LoadError where
  | unreadable (path : String) (fault : FileFault)
  | malformed (path : String) (error : Json.Error)
  | noPath (language : String)

def LoadError.message : LoadError → String
  | .unreadable path fault => "failed to read '" ++ path ++ "': " ++ fault.message
  | .malformed path error =>
    path ++ ":" ++ error.place.toText ++ ": " ++ error.message
  | .noPath language =>
    "cannot reload '" ++ language ++ "': was loaded from string, not file"

/-- The right to install a bundle, as long as no later load is requested. -/
structure Ticket where
  language : String
  generation : UInt64
  deriving DecidableEq

structure Locale where
  /-- The current language. -/
  language : String
  /-- The bundles of the loaded languages. -/
  bundles : Std.ExtTreeMap String Bundle
  /-- The files that catalogs were loaded from. -/
  paths : Std.ExtTreeMap String String
  /-- Modifiers of languages that are not loaded yet. -/
  pending : Std.ExtTreeMap String Registry
  /-- The number of the latest requested load. -/
  latest : UInt64

namespace Locale

/-- The language of a locale for which none is chosen. -/
def defaultLanguage : String := "en"

/-- A locale in which nothing is loaded. -/
def new (language : String) : Locale := ⟨language, ∅, ∅, ∅, 0⟩

instance : Inhabited Locale := ⟨new defaultLanguage⟩

def setLanguage (locale : Locale) (language : String) : Locale :=
  { locale with language }

/-- The loaded languages, in order. -/
def languages (locale : Locale) : List String :=
  locale.bundles.keys

/-- The bundle of a language, if it is loaded. -/
def bundle? (locale : Locale) (language : String) : Option Bundle :=
  locale.bundles[language]?

/-- The bundle of the current language. -/
def current? (locale : Locale) : Option Bundle :=
  locale.bundle? locale.language

/-- The catalog of a language, if it is loaded. -/
def catalog? (locale : Locale) (language : String) : Option Catalog :=
  (locale.bundle? language).map Bundle.catalog

/-- The modifiers of a language, loaded or not. -/
def modifiers? (locale : Locale) (language : String) : Option Registry :=
  ((locale.bundle? language).map Bundle.modifiers).or locale.pending[language]?

/-- Set the modifiers of a language. If it is not loaded they wait for its catalog. -/
def setModifiers (locale : Locale) (language : String) (modifiers : Registry) : Locale :=
  match locale.bundle? language with
  | some bundle =>
    { locale with bundles := locale.bundles.insert language { bundle with modifiers } }
  | none => { locale with pending := locale.pending.insert language modifiers }

/-- Install a whole bundle, which comes from no file. -/
def insertBundle (locale : Locale) (language : String) (bundle : Bundle) : Locale :=
  { locale with
    paths := locale.paths.erase language
    pending := locale.pending.erase language
    bundles := locale.bundles.insert language bundle }

/-- Install a catalog under the modifiers that the language has. -/
def install (locale : Locale) (language : String) (catalog : Catalog) : Locale :=
  match locale.bundle? language with
  | some bundle => { locale with bundles := locale.bundles.insert language { bundle with catalog } }
  | none =>
    { locale with
      pending := locale.pending.erase language
      bundles := locale.bundles.insert language ⟨catalog, (locale.pending[language]?).getD ∅⟩ }

/-- Forget which file a language was loaded from. -/
def forgetPath (locale : Locale) (language : String) : Locale :=
  { locale with paths := locale.paths.erase language }

/-- Remember which file a language was loaded from. -/
def rememberPath (locale : Locale) (language path : String) : Locale :=
  { locale with paths := locale.paths.insert language path }

/-- The locale after a load, and how many templates were loaded. -/
abbrev Loading : Type := Locale × Except LoadError Nat

/-- Load a catalog from text; the name stands for the text in errors. -/
def loadNamed (locale : Locale) (language name json : String) : Loading :=
  match Catalog.ofJson json with
  | .ok catalog => (locale.install language catalog, .ok catalog.size)
  | .error error => (locale, .error (.malformed name error))

/-- Load a catalog from text. The language is no longer loaded from a file. -/
def loadText (locale : Locale) (language json : String) : Loading :=
  (locale.forgetPath language).loadNamed language ("<" ++ language ++ ">") json

/-- Load a catalog from a file, which is remembered. -/
def load (files : Files) (locale : Locale) (language path : String) : Loading :=
  match files path with
  | .error fault => (locale, .error (.unreadable path fault))
  | .ok json =>
    match locale.loadNamed language path json with
    | (locale, .ok size) => (locale.rememberPath language path, .ok size)
    | (locale, .error e) => (locale, .error e)

/-- Load a catalog again from its file. -/
def reload (files : Files) (locale : Locale) (language : String) : Loading :=
  match locale.paths[language]? with
  | some path => load files locale language path
  | none => (locale, .error (.noPath language))

/-- Request a load. There is nothing to load for the current language when it is loaded, but the
earlier tickets are stale nevertheless. -/
def beginLoad (locale : Locale) (language : String) : Locale × Option Ticket :=
  let generation := locale.latest + 1
  let ticket? :=
    if language = locale.language ∧ (locale.bundle? language).isSome then none
    else some ⟨language, generation⟩
  ({ locale with latest := generation }, ticket?)

/-- Whether no load has been requested since. -/
def isCurrent (locale : Locale) (ticket : Ticket) : Bool :=
  ticket.generation == locale.latest

/-- Install what a requested load brought, if it brought a bundle and is not stale. -/
def finishLoad (locale : Locale) (ticket : Ticket) (bundle? : Option Bundle) : Locale × Bool :=
  match locale.isCurrent ticket, bundle? with
  | true, some bundle =>
    ((locale.insertBundle ticket.language bundle).setLanguage ticket.language, true)
  | _, _ => (locale, false)

/-- The phrase in the current language, which is empty where there is none. -/
def phrase (locale : Locale) (group key : String) (variables? : Option Variables) : String :=
  match locale.current? with
  | some bundle => bundle.phrase group key variables?
  | none => ""

/-- The phrase in the current language, if there is one. -/
def findPhrase (locale : Locale) (group key : String) (variables? : Option Variables) :
    Except PhraseError String :=
  match locale.current? with
  | some bundle => bundle.findPhrase group key variables?
  | none => .error (.languageNotLoaded locale.language)

end Locale

end Phrasebook
