import Phrasebook.Proofs.Locale.Run

/-!
# Loads that fail

What a load comes to is decided by what is read, before the locale has any part in it. A load from a
file remembers the file only when its catalog could be read, so a failure changes nothing. A load
from text forgets the file first and reads the text then: when it fails, the language keeps its
catalog and cannot be loaded again from its file any more.
-/
namespace Phrasebook.Locale
variable {locale : Locale} {files : Files} {language path json name : String} {catalog : Catalog}
  {error : LoadError}

/-- What a text is read as; the name stands for the text in errors. -/
def catalogOf (name json : String) : Except LoadError Catalog :=
  match Catalog.ofJson json with
  | .ok catalog => .ok catalog
  | .error error => .error (.malformed name error)

/-- What a file is read as. -/
def catalogAt (files : Files) (path : String) : Except LoadError Catalog :=
  match files path with
  | .ok json => catalogOf path json
  | .error fault => .error (.unreadable path fault)

/-- The name of a text in errors. -/
def textName (language : String) : String := "<" ++ language ++ ">"

theorem loadNamed_of_ok (h : catalogOf name json = .ok catalog) :
    locale.loadNamed language name json =
      (locale.install language catalog, .ok catalog.size) := by
  unfold loadNamed
  cases hjson : Catalog.ofJson json with
  | ok read =>
    obtain rfl : read = catalog := by simpa [catalogOf, hjson] using h
    rfl
  | error => simp [catalogOf, hjson] at h

theorem loadNamed_of_error (h : catalogOf name json = .error error) :
    locale.loadNamed language name json = (locale, .error error) := by
  unfold loadNamed
  cases hjson : Catalog.ofJson json with
  | ok read => simp [catalogOf, hjson] at h
  | error refusal =>
    obtain rfl : .malformed name refusal = error := by
      simpa [catalogOf, hjson] using h
    rfl

theorem loadText_of_ok (h : catalogOf (textName language) json = .ok catalog) :
    locale.loadText language json =
      ((locale.forgetPath language).install language catalog, .ok catalog.size) :=
  loadNamed_of_ok h

theorem loadText_of_error (h : catalogOf (textName language) json = .error error) :
    locale.loadText language json = (locale.forgetPath language, .error error) :=
  loadNamed_of_error h

theorem load_of_ok (h : catalogAt files path = .ok catalog) :
    load files locale language path =
      ((locale.install language catalog).rememberPath language path, .ok catalog.size) := by
  unfold catalogAt at h
  unfold load
  cases hfile : files path with
  | ok json =>
    rw [hfile] at h
    simp [loadNamed_of_ok h]
  | error fault => simp [hfile] at h

/-- A file is remembered once its catalog is loaded. -/
theorem path_load_of_ok (h : catalogAt files path = .ok catalog) :
    (load files locale language path).1.paths[language]? = some path := by
  simp [load_of_ok h, rememberPath]

theorem load_of_error (h : catalogAt files path = .error error) :
    load files locale language path = (locale, .error error) := by
  unfold catalogAt at h
  unfold load
  cases hfile : files path with
  | ok json =>
    rw [hfile] at h
    simp [loadNamed_of_error h]
  | error fault =>
    obtain rfl : .unreadable path fault = error := by simpa [hfile] using h
    rfl

theorem reload_of_path (h : locale.paths[language]? = some path) :
    reload files locale language = load files locale language path := by
  simp [reload, h]

theorem reload_of_no_path (h : locale.paths[language]? = none) :
    reload files locale language = (locale, .error (.noPath language)) := by
  simp [reload, h]

/-- What a load from a file answers depends on nothing but the file. -/
theorem snd_load :
    (load files locale language path).2 = (catalogAt files path).map Catalog.size := by
  cases h : catalogAt files path with
  | ok catalog => simp [load_of_ok h, Except.map]
  | error error => simp [load_of_error h, Except.map]

/-- A load from a file that fails changes nothing. -/
theorem fst_load_of_error (h : (load files locale language path).2 = .error error) :
    (load files locale language path).1 = locale := by
  cases hread : catalogAt files path with
  | ok catalog => simp [load_of_ok hread] at h
  | error refusal => rw [load_of_error hread]

/-- A load from text that fails forgets the file of its language. -/
theorem fst_loadText_of_error (h : (locale.loadText language json).2 = .error error) :
    (locale.loadText language json).1 = locale.forgetPath language := by
  cases hread : catalogOf (textName language) json with
  | ok catalog => simp [loadText_of_ok hread] at h
  | error refusal => rw [loadText_of_error hread]

theorem fst_reload_of_error (h : (reload files locale language).2 = .error error) :
    (reload files locale language).1 = locale := by
  cases hpath : locale.paths[language]? with
  | none => rw [reload_of_no_path hpath]
  | some path =>
    rw [reload_of_path hpath] at h ⊢
    exact fst_load_of_error h

/-- There is something to forget exactly where a file is remembered. -/
theorem forgetPath_eq_self_iff :
    locale.forgetPath language = locale ↔ locale.paths[language]? = none := by
  constructor
  · intro h
    have hpaths : (locale.forgetPath language).paths[language]? = locale.paths[language]? := by
      rw [h]
    rw [← hpaths]
    simp [forgetPath]
  · intro h
    have hpaths : locale.paths.erase language = locale.paths := by
      ext other
      by_cases hother : other = language
      · subst hother
        simp [h]
      · simp [Std.ExtTreeMap.getElem?_erase, Ne.symm hother]
    simp [forgetPath, hpaths]

/-- Without its file a language cannot be loaded again. -/
theorem reload_forgetPath :
    reload files (locale.forgetPath language) language =
      (locale.forgetPath language, .error (.noPath language)) :=
  reload_of_no_path (by simp [forgetPath])

/-- Forgetting a file makes no difference to the loads of other languages. -/
theorem snd_reload_forgetPath_of_ne {other : String} (hother : other ≠ language) :
    (reload files (locale.forgetPath language) other).2 = (reload files locale other).2 := by
  have hpath : (locale.forgetPath language).paths[other]? = locale.paths[other]? := by
    simp [forgetPath, Std.ExtTreeMap.getElem?_erase, hother.symm]
  cases h : locale.paths[other]? with
  | none => rw [reload_of_no_path h, reload_of_no_path (hpath.trans h)]
  | some path => rw [reload_of_path h, reload_of_path (hpath.trans h), snd_load, snd_load]

/-- A load from a file that fails, for the first time or again, leaves the locale as it was. After a
text that fails to load, all is as it was but for the file of its language, which is forgotten. So
nothing has changed exactly when there was no file to forget. Loading this language again fails from
then on, and loading another one again answers what it would have answered. -/
theorem failed_load_keeps_all_but_path (locale : Locale) (files : Files)
    (language path json : String) :
    (∀ error, (load files locale language path).2 = .error error →
      (load files locale language path).1 = locale) ∧
    (∀ error, (reload files locale language).2 = .error error →
      (reload files locale language).1 = locale) ∧
    (∀ error, (locale.loadText language json).2 = .error error →
      (locale.loadText language json).1 = locale.forgetPath language ∧
      ((locale.loadText language json).1 = locale ↔ locale.paths[language]? = none) ∧
      ∀ later : Files,
        (reload later (locale.loadText language json).1 language).2 = .error (.noPath language) ∧
        ∀ other, other ≠ language →
          (reload later (locale.loadText language json).1 other).2 =
            (reload later locale other).2) := by
  refine ⟨fun _ => fst_load_of_error, fun _ => fst_reload_of_error, fun error h => ?_⟩
  rw [fst_loadText_of_error h]
  refine ⟨rfl, forgetPath_eq_self_iff, fun later => ⟨?_, fun other hother => ?_⟩⟩
  · rw [reload_forgetPath]
  · exact snd_reload_forgetPath_of_ne hother

/-- The empty object is read as a catalog without templates, and a text that is no JSON is
refused. -/
theorem catalogOf_samples (name : String) :
    (∃ catalog, catalogOf name "{}" = .ok catalog ∧ catalog.size = 0) ∧
      ∃ error, catalogOf name "bad json" = .error error := by
  have hempty : (Catalog.ofJson "{}").toOption.map Catalog.size = some 0 := by decide +kernel
  have hbad : (Catalog.ofJson "bad json").toOption.isSome = false := by decide +kernel
  constructor
  · unfold catalogOf
    cases h : Catalog.ofJson "{}" with
    | ok catalog => exact ⟨catalog, rfl, by simpa [h, Except.toOption] using hempty⟩
    | error error => simp [h, Except.toOption] at hempty
  · unfold catalogOf
    cases h : Catalog.ofJson "bad json" with
    | ok catalog => simp [h, Except.toOption] at hbad
    | error error => exact ⟨_, rfl⟩

/-- English is loaded from a file. Then the file is gone when it is loaded, for the first time or
again, and a text for English is no catalog. -/
theorem failed_load_keeps_all_but_path_gone :
    let files : Files := fun path => if path = "en.json" then .ok "{}" else .error .notFound
    let gone : Files := fun _ => .error .notFound
    let locale := (new "en").run [.load files "en" "en.json"]
    (load gone locale "en" "en.json").1 = locale ∧ (reload gone locale "en").1 = locale ∧
      (locale.loadText "en" "bad json").1 = locale.forgetPath "en" := by
  intro files gone locale
  obtain ⟨catalog, hread, -⟩ := (catalogOf_samples "en.json").1
  have hfile : catalogAt files "en.json" = .ok catalog := hread
  have hpath : locale.paths["en"]? = some "en.json" := path_load_of_ok hfile
  have hgone : catalogAt gone "en.json" = .error (.unreadable "en.json" .notFound) := rfl
  obtain ⟨error, hbad⟩ := (catalogOf_samples (textName "en")).2
  obtain ⟨hload, hreload, htext⟩ :=
    failed_load_keeps_all_but_path locale gone "en" "en.json" "bad json"
  refine ⟨hload (.unreadable "en.json" .notFound) ?_,
    hreload (.unreadable "en.json" .notFound) ?_, (htext error ?_).1⟩
  · rw [load_of_error hgone]
  · rw [reload_of_path hpath, load_of_error hgone]
  · rw [loadText_of_error hbad]

/-- English is loaded from a file, and then a text for it is refused. Before that it can be loaded
again, and behind it not any more. -/
theorem failed_loadText_loses_path :
    let files : Files := fun path => if path = "en.json" then .ok "{}" else .error .notFound
    let locale := (new "en").run [.load files "en" "en.json"]
    (∃ error, (locale.loadText "en" "bad json").2 = .error error) ∧
      (locale.loadText "en" "bad json").1 ≠ locale ∧
      (reload files locale "en").2 = .ok 0 ∧
      (reload files (locale.loadText "en" "bad json").1 "en").2 = .error (.noPath "en") := by
  intro files locale
  obtain ⟨catalog, hread, hsize⟩ := (catalogOf_samples "en.json").1
  have hfile : catalogAt files "en.json" = .ok catalog := hread
  have hpath : locale.paths["en"]? = some "en.json" := path_load_of_ok hfile
  obtain ⟨error, hbad⟩ := (catalogOf_samples (textName "en")).2
  rw [loadText_of_error hbad]
  refine ⟨⟨error, rfl⟩, ?_, ?_, ?_⟩
  · rw [Ne, forgetPath_eq_self_iff, hpath]
    simp
  · rw [reload_of_path hpath, load_of_ok hfile, hsize]
  · rw [reload_forgetPath]

end Phrasebook.Locale
