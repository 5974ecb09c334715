import Phrasebook.Proofs.Locale.Tickets

/-!
# The language requested last wins

A run uses tickets properly when it finishes loads only with tickets that it was issued before. In
such a run a ticket with the number of the last request is the ticket of that request, so nothing
else can move the current language behind it. The language is settled as soon as the load is
finished, or at once when there was nothing to load.
-/
namespace Phrasebook.Locale
variable {locale : Locale} {language : String} {ticket : Ticket} {operations : List Operation}

/-- Every load is finished with a ticket that was issued before. -/
def FinishesIssued (locale : Locale) (operations : List Operation) : Prop :=
  ∀ (i : Nat) (ticket : Ticket) (bundle? : Option Bundle),
    operations[i]? = some (.finishLoad ticket bundle?) → ticket ∈ locale.issued (operations.take i)

@[simp] theorem issued_nil (locale : Locale) : locale.issued [] = [] := rfl

theorem issued_cons (locale : Locale) (operation : Operation) (operations : List Operation) :
    locale.issued (operation :: operations) =
      (locale.ticket? operation).toList ++ (locale.perform operation).issued operations := rfl

theorem issued_append (locale : Locale) (operations more : List Operation) :
    locale.issued (operations ++ more) =
      locale.issued operations ++ (locale.run operations).issued more := by
  induction operations generalizing locale with
  | nil => rfl
  | cons operation operations ih =>
    rw [List.cons_append, issued_cons, issued_cons, ih, run_cons, List.append_assoc]

/-- Tickets come from requests alone. -/
theorem issued_eq_nil (h : ∀ other, .beginLoad other ∉ operations) :
    locale.issued operations = [] := by
  induction operations generalizing locale with
  | nil => rfl
  | cons operation operations ih =>
    rw [issued_cons, ih fun other hmem => h other (List.mem_cons_of_mem _ hmem)]
    cases operation with
    | beginLoad other => exact absurd List.mem_cons_self (h other)
    | _ => rfl

/-- The number of a ticket is at most that of the latest request. -/
theorem toNat_generation_le_of_mem_issued (hticket : ticket ∈ locale.issued operations)
    (h : locale.latest.toNat + requestCount operations < UInt64.size) :
    ticket.generation.toNat ≤ locale.latest.toNat + requestCount operations := by
  induction operations generalizing locale with
  | nil => simp at hticket
  | cons operation operations ih =>
    rw [requestCount_cons] at h ⊢
    have hstep : (locale.perform operation).latest.toNat =
        locale.latest.toNat + (if operation.requestsLoad then 1 else 0) :=
      toNat_latest_perform (by omega)
    rcases List.mem_append.1 hticket with hfirst | hlater
    · cases operation with
      | beginLoad language =>
        have hbegin : (locale.beginLoad language).2 = some ticket := by simpa [ticket?] using hfirst
        have hgeneration : ticket.generation = (locale.perform (.beginLoad language)).latest := by
          rw [eq_of_beginLoad_eq_some hbegin]
          rfl
        rw [hgeneration, hstep]
        omega
      | _ => simp [ticket?] at hfirst
    · have hle := ih hlater (by omega)
      omega

/-- The current language is the given one, and has a bundle. -/
def Settled (language : String) (locale : Locale) : Prop :=
  locale.language = language ∧ (locale.bundle? language).isSome = true

theorem Settled.of_grows {after : Locale} (h : Settled language locale)
    (hgrows : Grows locale after) : Settled language after :=
  ⟨hgrows.language_eq.trans h.1, hgrows.isSome_bundle? language h.2⟩

theorem settled_finishLoad (hcurrent : ticket.generation = locale.latest)
    (hlanguage : ticket.language = language) (bundle : Bundle) :
    Settled language (locale.finishLoad ticket (some bundle)).1 := by
  rw [finishLoad_of_isCurrent (isCurrent_iff.2 hcurrent), hlanguage]
  have hswitched := switchedTo_insertBundle locale language bundle
  exact ⟨rfl, by rw [hswitched.bundle?_eq]; rfl⟩

/-- A settled language stays settled by an operation that neither chooses a language nor finishes
the latest load of another one. -/
theorem Settled.perform (h : Settled language locale) {operation : Operation}
    (hchoice : ∀ other, operation ≠ .setLanguage other)
    (hfinish : ∀ ticket bundle?, operation = .finishLoad ticket bundle? →
      ticket.generation = locale.latest → ticket.language = language) :
    Settled language (locale.perform operation) := by
  cases operation with
  | setLanguage other => exact absurd rfl (hchoice other)
  | setModifiers other modifiers => exact h.of_grows (grows_setModifiers modifiers)
  | insertBundle other bundle => exact h.of_grows (grows_insertBundle bundle)
  | loadText other json => exact h.of_grows grows_loadText
  | load files other path => exact h.of_grows (grows_load files)
  | reload files other => exact h.of_grows (grows_reload files)
  | beginLoad other => exact h
  | finishLoad ticket bundle? =>
    by_cases happlies : locale.isCurrent ticket = true ∧ bundle?.isSome = true
    · obtain ⟨bundle, rfl⟩ := Option.isSome_iff_exists.1 happlies.2
      have hcurrent := isCurrent_iff.1 happlies.1
      exact settled_finishLoad hcurrent (hfinish ticket _ rfl hcurrent) bundle
    · change Settled language (locale.finishLoad ticket bundle?).1
      rwa [finishLoad_eq_self happlies]

/-- A settled language stays settled through a run without requests. -/
theorem Settled.run (h : Settled language locale)
    (hrequest : ∀ other, .beginLoad other ∉ operations)
    (hchoice : ∀ other, .setLanguage other ∉ operations)
    (hfinish : ∀ ticket bundle?, .finishLoad ticket bundle? ∈ operations →
      ticket.generation = locale.latest → ticket.language = language) :
    Settled language (locale.run operations) := by
  induction operations generalizing locale with
  | nil => exact h
  | cons operation operations ih =>
    have hlatest : (locale.perform operation).latest = locale.latest := by
      rw [latest_perform, if_neg]
      intro hrequests
      obtain ⟨other, rfl⟩ := requestsLoad_iff.1 hrequests
      exact hrequest other List.mem_cons_self
    rw [run_cons]
    refine ih ?_ ?_ ?_ ?_
    · refine h.perform (fun other heq => hchoice other (by simp [heq])) ?_
      intro ticket bundle? heq
      exact hfinish ticket bundle? (by simp [heq])
    · exact fun other hmem => hrequest other (List.mem_cons_of_mem _ hmem)
    · exact fun other hmem => hchoice other (List.mem_cons_of_mem _ hmem)
    · intro ticket bundle? hmem
      rw [hlatest]
      exact hfinish ticket bundle? (List.mem_cons_of_mem _ hmem)

/-- Once the latest load is finished with a bundle, its language is settled, whatever was done
before and is done behind. -/
theorem settled_run_of_finished {bundle : Bundle}
    (hmem : .finishLoad ticket (some bundle) ∈ operations)
    (hcurrent : ticket.generation = locale.latest)
    (hrequest : ∀ other, .beginLoad other ∉ operations)
    (hchoice : ∀ other, .setLanguage other ∉ operations)
    (hfinish : ∀ ticket bundle?, .finishLoad ticket bundle? ∈ operations →
      ticket.generation = locale.latest → ticket.language = language) :
    Settled language (locale.run operations) := by
  obtain ⟨earlier, later, rfl⟩ := List.append_of_mem hmem
  have hlatest : (locale.run earlier).latest = locale.latest :=
    latest_run_of_no_request fun other hother => hrequest other (by simp [hother])
  have hsettled : Settled language ((locale.run earlier).finishLoad ticket (some bundle)).1 :=
    settled_finishLoad (hcurrent.trans hlatest.symm) (hfinish ticket _ hmem hcurrent) bundle
  rw [run_append, run_cons]
  refine Settled.run hsettled ?_ ?_ ?_
  · exact fun other hother => hrequest other (by simp [hother])
  · exact fun other hother => hchoice other (by simp [hother])
  · intro ticket' bundle? hother hlater
    refine hfinish ticket' bundle? (by simp [hother]) ?_
    rw [hlater, ← hlatest]
    exact latest_finishLoad (some bundle)

/-- Behind the last request, a ticket with its number is the ticket that it issued. -/
theorem language_of_mem_issued {before after : List Operation}
    (hcount : locale.latest.toNat + requestCount before + 1 < UInt64.size)
    (hrequest : ∀ other, .beginLoad other ∉ after)
    (hticket : ticket ∈ locale.issued (before ++ .beginLoad language :: after))
    (hlatest : ticket.generation = ((locale.run before).beginLoad language).1.latest) :
    ticket.language = language := by
  rw [issued_append, issued_cons, issued_eq_nil hrequest, List.append_nil] at hticket
  rcases List.mem_append.1 hticket with hearlier | hlast
  · have hle := toNat_generation_le_of_mem_issued hearlier (by omega)
    have hbefore : (locale.run before).latest.toNat = locale.latest.toNat + requestCount before :=
      toNat_latest_run (by omega)
    have hgeneration : ticket.generation.toNat = locale.latest.toNat + requestCount before + 1 := by
      rw [hlatest, ← hbefore]
      exact toNat_latest_add_one (by omega)
    omega
  · have hbegin : ((locale.run before).beginLoad language).2 = some ticket := by
      simpa [ticket?] using hlast
    rw [eq_of_beginLoad_eq_some hbegin]

/-- Behind the last request, a load that is finished with its number is one of its language. -/
theorem FinishesIssued.language_eq {before after : List Operation} {bundle? : Option Bundle}
    (h : FinishesIssued locale (before ++ .beginLoad language :: after))
    (hcount : locale.latest.toNat + requestCount before + 1 < UInt64.size)
    (hrequest : ∀ other, .beginLoad other ∉ after) (hmem : .finishLoad ticket bundle? ∈ after)
    (hlatest : ticket.generation = ((locale.run before).beginLoad language).1.latest) :
    ticket.language = language := by
  obtain ⟨i, hi, hfinish⟩ := List.getElem_of_mem hmem
  have hticket := h (before.length + (i + 1)) ticket bundle? (by
    rw [List.getElem?_append_right (by omega)]
    simp [hi, hfinish])
  rw [List.take_length_add_append, List.take_succ_cons] at hticket
  have hearlier : ∀ other, .beginLoad other ∉ after.take i :=
    fun other hother => hrequest other (List.mem_of_mem_take hother)
  exact language_of_mem_issued hcount hearlier hticket hlatest

/-- In a run that finishes loads with issued tickets alone, and that requests and chooses no
language behind its last request, the language of that request is the current one in the end and has
a bundle. If the request issued a ticket, it has to be finished with a bundle at least once; the
other loads may come in any order. -/
theorem settled_run_of_last_request {initial : String} {before after : List Operation}
    (hissued : FinishesIssued (new initial) (before ++ .beginLoad language :: after))
    (hcount : requestCount (before ++ .beginLoad language :: after) < UInt64.size)
    (hrequest : ∀ other, .beginLoad other ∉ after) (hchoice : ∀ other, .setLanguage other ∉ after)
    (hfinished : ∀ ticket, (((new initial).run before).beginLoad language).2 = some ticket →
      ∃ bundle, .finishLoad ticket (some bundle) ∈ after) :
    ((new initial).run (before ++ .beginLoad language :: after)).language = language ∧
      (((new initial).run (before ++ .beginLoad language :: after)).bundle? language).isSome =
        true := by
  have hnew : (new initial).latest.toNat = 0 := rfl
  let requested := (((new initial).run before).beginLoad language).1
  have hrequests : Operation.requestsLoad (.beginLoad language) = true := rfl
  rw [requestCount_append, requestCount_cons, hrequests, if_pos rfl] at hcount
  have hlanguage : ∀ ticket bundle?, .finishLoad ticket bundle? ∈ after →
      ticket.generation = requested.latest → ticket.language = language :=
    fun ticket bundle? hmem hlatest => hissued.language_eq (by omega) hrequest hmem hlatest
  rw [run_append, run_cons]
  change Settled language (requested.run after)
  cases hticket : (((new initial).run before).beginLoad language).2 with
  | none =>
    have hsettled : Settled language ((new initial).run before) := of_beginLoad_eq_none hticket
    have hrequested : Settled language requested := hsettled
    exact hrequested.run hrequest hchoice hlanguage
  | some ticket =>
    obtain ⟨bundle, hmem⟩ := hfinished ticket hticket
    have hcurrent : ticket.generation = requested.latest := by
      rw [eq_of_beginLoad_eq_some hticket]
      rfl
    exact settled_run_of_finished hmem hcurrent hrequest hchoice hlanguage

/-- German is requested first and its load is finished last, behind that of French. -/
theorem settled_run_of_last_request_late :
    FinishesIssued (new "en") [.beginLoad "de", .beginLoad "fr",
        .finishLoad ⟨"fr", 2⟩ (some ∅), .finishLoad ⟨"de", 1⟩ (some ∅)] ∧
      ((new "en").run [.beginLoad "de", .beginLoad "fr",
        .finishLoad ⟨"fr", 2⟩ (some ∅), .finishLoad ⟨"de", 1⟩ (some ∅)]).language = "fr" := by
  have hissued : FinishesIssued (new "en") ([.beginLoad "de"] ++ .beginLoad "fr" ::
      [.finishLoad ⟨"fr", 2⟩ (some ∅), .finishLoad ⟨"de", 1⟩ (some ∅)]) := by
    intro i ticket brought? h
    match i with
    | 0 | 1 => simp at h
    | 2 | 3 =>
      obtain ⟨rfl, -⟩ : _ = ticket ∧ _ = brought? := by simpa using h
      simp [issued, ticket?, perform, beginLoad, new, bundle?]
    | i + 4 => simp at h
  have hsettled := settled_run_of_last_request hissued (by decide) (by simp) (by simp) (by
    intro ticket hticket
    obtain rfl := eq_of_beginLoad_eq_some hticket
    exact ⟨∅, List.mem_cons_self⟩)
  exact ⟨hissued, hsettled.1⟩

end Phrasebook.Locale
