import Phrasebook.Proofs.Locale.Run

/-!
# Tickets

The number of the latest request counts the requests of a run, with or without a ticket, as long as
there are fewer of them than 64 bits can count. So a ticket is current exactly until the next
request, whether that one issues a ticket or not, and a stale ticket changes nothing.
-/
namespace Phrasebook.Locale
variable {locale : Locale} {language : String} {ticket : Ticket} {operations : List Operation}

/-- A ticket is for the language that was asked for, and has the number of its request. -/
theorem eq_of_beginLoad_eq_some (h : (locale.beginLoad language).2 = some ticket) :
    ticket = ⟨language, locale.latest + 1⟩ := by
  unfold beginLoad at h
  dsimp only at h
  split at h
  · contradiction
  · exact (Option.some.inj h).symm

/-- No ticket is issued only where the current language is asked for and has its bundle. -/
theorem of_beginLoad_eq_none (h : (locale.beginLoad language).2 = none) :
    locale.language = language ∧ (locale.bundle? language).isSome := by
  unfold beginLoad at h
  dsimp only at h
  split at h
  · rename_i hloaded
    exact ⟨hloaded.1.symm, hloaded.2⟩
  · contradiction

theorem isCurrent_iff : locale.isCurrent ticket = true ↔ ticket.generation = locale.latest := by
  simp [isCurrent]

/-- What is finished with a current ticket and a bundle is installed. -/
theorem finishLoad_of_isCurrent (h : locale.isCurrent ticket = true) (bundle : Bundle) :
    locale.finishLoad ticket (some bundle) =
      ((locale.insertBundle ticket.language bundle).setLanguage ticket.language, true) := by
  simp [finishLoad, h]

/-- Without a bundle or with a stale ticket nothing happens. -/
theorem finishLoad_eq_self {bundle? : Option Bundle}
    (h : ¬ (locale.isCurrent ticket = true ∧ bundle?.isSome = true)) :
    locale.finishLoad ticket bundle? = (locale, false) := by
  unfold finishLoad
  split
  · simp_all
  · rfl

/-- Finishing a load counts no request. -/
theorem latest_finishLoad (bundle? : Option Bundle) :
    (locale.finishLoad ticket bundle?).1.latest = locale.latest := by
  unfold finishLoad
  split <;> rfl

/-- Requests alone are counted. -/
theorem latest_perform (operation : Operation) :
    (locale.perform operation).latest =
      if operation.requestsLoad then locale.latest + 1 else locale.latest := by
  cases operation with
  | setLanguage language => rfl
  | setModifiers language modifiers => exact (grows_setModifiers modifiers).latest_eq
  | insertBundle language bundle => rfl
  | loadText language json => exact grows_loadText.latest_eq
  | load files language path => exact (grows_load files).latest_eq
  | reload files language => exact (grows_reload files).latest_eq
  | beginLoad language => rfl
  | finishLoad ticket bundle? => exact latest_finishLoad bundle?

theorem requestCount_cons (operation : Operation) (operations : List Operation) :
    requestCount (operation :: operations) =
      (if operation.requestsLoad then 1 else 0) + requestCount operations := by
  simp only [requestCount, List.countP_cons]
  omega

@[simp] theorem requestCount_append (operations more : List Operation) :
    requestCount (operations ++ more) = requestCount operations + requestCount more := by
  simp [requestCount]

theorem requestsLoad_iff {operation : Operation} :
    operation.requestsLoad = true ↔ ∃ language, operation = .beginLoad language := by
  cases operation <;> simp [Operation.requestsLoad]

theorem requestCount_eq_zero_iff :
    requestCount operations = 0 ↔ ∀ language, .beginLoad language ∉ operations := by
  simp only [requestCount, List.countP_eq_zero, requestsLoad_iff]
  constructor
  · intro h language hmem
    exact h _ hmem ⟨language, rfl⟩
  · rintro h operation hmem ⟨language, rfl⟩
    exact h language hmem

/-- Below the bound a request is counted. -/
theorem toNat_latest_add_one (h : locale.latest.toNat + 1 < UInt64.size) :
    (locale.latest + 1).toNat = locale.latest.toNat + 1 := by
  rw [UInt64.toNat_add]
  exact Nat.mod_eq_of_lt h

theorem toNat_latest_perform {operation : Operation}
    (h : locale.latest.toNat + (if operation.requestsLoad then 1 else 0) < UInt64.size) :
    (locale.perform operation).latest.toNat =
      locale.latest.toNat + (if operation.requestsLoad then 1 else 0) := by
  rw [latest_perform]
  by_cases hrequests : operation.requestsLoad = true
  · rw [if_pos hrequests] at h ⊢
    rw [if_pos hrequests]
    exact toNat_latest_add_one h
  · rw [if_neg hrequests, if_neg hrequests, Nat.add_zero]

/-- The number of the latest request grows with every request of a run. -/
theorem toNat_latest_run (h : locale.latest.toNat + requestCount operations < UInt64.size) :
    (locale.run operations).latest.toNat = locale.latest.toNat + requestCount operations := by
  induction operations generalizing locale with
  | nil => rfl
  | cons operation operations ih =>
    rw [requestCount_cons] at h ⊢
    have hstep : (locale.perform operation).latest.toNat =
        locale.latest.toNat + (if operation.requestsLoad then 1 else 0) :=
      toNat_latest_perform (by omega)
    rw [run_cons, ih (by omega), hstep, Nat.add_assoc]

/-- In a run without requests the latest one stays. -/
theorem latest_run_of_no_request (h : ∀ language, .beginLoad language ∉ operations) :
    (locale.run operations).latest = locale.latest := by
  have hzero := requestCount_eq_zero_iff.2 h
  have hlt := locale.latest.toNat_lt_size
  apply UInt64.toNat_inj.1
  rw [toNat_latest_run (by omega), hzero, Nat.add_zero]

/-- The number of a ticket says how many loads had been requested when it was issued. -/
theorem toNat_generation_of_beginLoad {before : List Operation}
    (hticket : ((locale.run before).beginLoad language).2 = some ticket)
    (hcount : locale.latest.toNat + requestCount before + 1 < UInt64.size) :
    ticket.generation.toNat = locale.latest.toNat + requestCount before + 1 := by
  have hbefore : (locale.run before).latest.toNat = locale.latest.toNat + requestCount before :=
    toNat_latest_run (by omega)
  rw [eq_of_beginLoad_eq_some hticket, toNat_latest_add_one (by omega), hbefore]

/-- A ticket is current until the next request. -/
theorem isCurrent_run_iff {before after : List Operation}
    (hticket : ((locale.run before).beginLoad language).2 = some ticket)
    (hcount :
      locale.latest.toNat + requestCount (before ++ .beginLoad language :: after) < UInt64.size) :
    (locale.run (before ++ .beginLoad language :: after)).isCurrent ticket = true ↔
      ∀ other, .beginLoad other ∉ after := by
  have hrun := toNat_latest_run hcount
  have hrequest : Operation.requestsLoad (.beginLoad language) = true := rfl
  rw [requestCount_append, requestCount_cons, hrequest, if_pos rfl] at hcount hrun
  have hgeneration := toNat_generation_of_beginLoad hticket (by omega)
  rw [isCurrent_iff, ← requestCount_eq_zero_iff, ← UInt64.toNat_inj, hrun, hgeneration]
  omega

/-- A locale that has changed to a language with the bundle that was brought for it, and is as
before otherwise. -/
structure SwitchedTo (language : String) (bundle? : Option Bundle) (before after : Locale) :
    Prop where
  language_eq : after.language = language
  bundle?_eq : after.bundle? language = bundle?
  pending_eq_none : after.pending[language]? = none
  path_eq_none : after.paths[language]? = none
  latest_eq : after.latest = before.latest
  bundle?_other : ∀ other, other ≠ language → after.bundle? other = before.bundle? other
  pending_other : ∀ other, other ≠ language → after.pending[other]? = before.pending[other]?
  path_other : ∀ other, other ≠ language → after.paths[other]? = before.paths[other]?

theorem switchedTo_insertBundle (locale : Locale) (language : String) (bundle : Bundle) :
    SwitchedTo language (some bundle) locale
      ((locale.insertBundle language bundle).setLanguage language) where
  language_eq := rfl
  bundle?_eq := (bundle?_insertBundle bundle language).trans (if_pos rfl)
  pending_eq_none := by simp [insertBundle, setLanguage]
  path_eq_none := by simp [insertBundle, setLanguage]
  latest_eq := rfl
  bundle?_other other hother := (bundle?_insertBundle bundle other).trans (if_neg hother.symm)
  pending_other other hother := by
    simp [insertBundle, setLanguage, Std.ExtTreeMap.getElem?_erase, hother.symm]
  path_other other hother := by
    simp [insertBundle, setLanguage, Std.ExtTreeMap.getElem?_erase, hother.symm]

/-- From its request on, a ticket is current as long as no other load is requested. Finishing it
succeeds when it is current and brings a bundle. Then the locale switches to its language, and else
nothing happens, however often and however late the ticket is used. -/
theorem finishLoad_run {initial : String} {before after : List Operation}
    (hticket : (((new initial).run before).beginLoad language).2 = some ticket)
    (hcount : requestCount (before ++ .beginLoad language :: after) < UInt64.size) :
    let locale := (new initial).run (before ++ .beginLoad language :: after)
    (locale.isCurrent ticket = true ↔ ∀ other, .beginLoad other ∉ after) ∧
    ∀ bundle? : Option Bundle,
      ((locale.finishLoad ticket bundle?).2 = true ↔
        locale.isCurrent ticket = true ∧ bundle?.isSome = true) ∧
      ((locale.finishLoad ticket bundle?).2 = false →
        (locale.finishLoad ticket bundle?).1 = locale) ∧
      ((locale.finishLoad ticket bundle?).2 = true →
        SwitchedTo ticket.language bundle? locale (locale.finishLoad ticket bundle?).1) := by
  intro locale
  have hnew : (new initial).latest.toNat = 0 := rfl
  refine ⟨isCurrent_run_iff hticket (by omega), fun bundle? => ?_⟩
  by_cases happlies : locale.isCurrent ticket = true ∧ bundle?.isSome = true
  · obtain ⟨bundle, rfl⟩ := Option.isSome_iff_exists.1 happlies.2
    rw [finishLoad_of_isCurrent happlies.1]
    exact ⟨by simpa using happlies.1, by simp, fun _ => switchedTo_insertBundle ..⟩
  · rw [finishLoad_eq_self happlies]
    exact ⟨by simpa using happlies, fun _ => rfl, by simp⟩

/-- A ticket for German that French has been requested behind: it is stale and changes nothing. -/
theorem finishLoad_run_stale :
    ((new "en").beginLoad "de").2 = some ⟨"de", 1⟩ ∧
      requestCount [.beginLoad "de", .setLanguage "it", .beginLoad "fr"] < UInt64.size ∧
      let locale := (new "en").run [.beginLoad "de", .setLanguage "it", .beginLoad "fr"]
      locale.isCurrent ⟨"de", 1⟩ = false ∧
        (locale.finishLoad ⟨"de", 1⟩ (some ∅)).1 = locale := by
  have hticket : (((new "en").run []).beginLoad "de").2 = some ⟨"de", 1⟩ := by
    simp [beginLoad, new, bundle?]
  have hcount : requestCount ([] ++ .beginLoad "de" :: [.setLanguage "it", .beginLoad "fr"]) <
      UInt64.size := by decide
  obtain ⟨hcurrent, hfinish⟩ := finishLoad_run hticket hcount
  have hstale : ((new "en").run [.beginLoad "de", .setLanguage "it", .beginLoad "fr"]).isCurrent
      ⟨"de", 1⟩ = false := by
    refine Bool.eq_false_iff.2 fun h => ?_
    exact hcurrent.1 h "fr" (by simp)
  refine ⟨hticket, hcount, hstale, (hfinish (some ∅)).2.1 (Bool.eq_false_iff.2 fun h => ?_)⟩
  exact absurd ((hfinish (some ∅)).1.1 h).1 (Bool.eq_false_iff.1 hstale)

end Phrasebook.Locale
