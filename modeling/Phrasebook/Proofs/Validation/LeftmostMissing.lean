import Phrasebook.Proofs.Suggestion.Ranking
import Phrasebook.Proofs.Template.Names

/-!
# The leftmost missing variable

Validation looks for the first required variable that is not supplied. The required variables are
listed where they are first seen, so the search ends at the leftmost placeholder whose variable is
missing, although it goes through a list of names without repetitions and without `count`.
-/
namespace Phrasebook

variable {template name : String} {variables? : Option Variables}

namespace Variables

/-- A variable has a value: it is `count` or supplied. -/
def Provides (variables? : Option Variables) (name : String) : Prop :=
  name = countName ∨ supplies variables? name = true

/-- Whether a variable has no value. -/
def lacks (variables? : Option Variables) (name : String) : Bool :=
  name ≠ countName && !supplies variables? name

theorem lacks_eq_false_iff : lacks variables? name = false ↔ Provides variables? name := by
  simp only [lacks, Bool.and_eq_false_iff, Provides]
  simp

theorem lacks_iff : lacks variables? name = true ↔ ¬ Provides variables? name := by
  rw [← lacks_eq_false_iff, Bool.not_eq_false]

/-- What is provided is provided when more variables are supplied. -/
theorem Provides.mono {more? : Option Variables}
    (hmore : ∀ name, supplies variables? name = true → supplies more? name = true)
    (h : Provides variables? name) : Provides more? name :=
  h.imp_right (hmore name)

theorem mem_names : name ∈ names variables? ↔ supplies variables? name = true := by
  cases variables? <;> simp [names, supplies, Std.ExtTreeMap.mem_keys]

end Variables

/-- Only candidates are suggested. -/
theorem Suggestion.mem_of_mem_suggestions {candidates : List String} {suggestion : String}
    (h : suggestion ∈ suggestions name candidates) : suggestion ∈ candidates := by
  obtain ⟨neighbour, hneighbour, rfl⟩ := List.mem_map.1 h
  exact (mem_neighbours.1 (List.mem_of_mem_take hneighbour)).1

namespace Template

variable {parsed : Template} {slot : Slot}

/-- The first slot that passes a test stands in the leftmost placeholder that does. -/
theorem find?_slots_eq_some_iff (p : Slot → Bool) :
    parsed.slots.find? p = some slot ↔
      ∃ before after, parsed.segments = before ++ .placeholder slot :: after ∧
        (∀ earlier, .placeholder earlier ∈ before → p earlier = false) ∧ p slot = true := by
  rw [slots, List.find?_filterMap, Option.bind_eq_some_iff]
  constructor
  · rintro ⟨segment, hfind, hslot⟩
    obtain rfl : segment = .placeholder slot := by
      cases segment <;> simp_all [Segment.slot?]
    obtain ⟨hpasses, before, after, hsplit, hearlier⟩ := List.find?_eq_some_iff_append.1 hfind
    refine ⟨before, after, hsplit, fun earlier hmem => ?_, by simpa [Segment.slot?] using hpasses⟩
    simpa [Segment.slot?] using hearlier _ hmem
  · rintro ⟨before, after, hsplit, hearlier, hpasses⟩
    refine ⟨.placeholder slot, List.find?_eq_some_iff_append.2 ⟨?_, before, after, hsplit, ?_⟩, rfl⟩
    · simpa [Segment.slot?] using hpasses
    · intro segment hmem
      cases segment with
      | placeholder earlier => simpa [Segment.slot?] using hearlier earlier hmem
      | literal text => rfl
      | alternative singular plural others => rfl

/-- The slot of the first placeholder whose variable has no value. -/
def missingSlot? (parsed : Template) (variables? : Option Variables) : Option Slot :=
  parsed.slots.find? fun slot => Variables.lacks variables? slot.name

theorem missingSlot?_eq_none_iff :
    parsed.missingSlot? variables? = none ↔
      ∀ slot, .placeholder slot ∈ parsed.segments → Variables.Provides variables? slot.name := by
  simp only [missingSlot?, List.find?_eq_none, mem_slots, Bool.not_eq_true,
    Variables.lacks_eq_false_iff]

theorem missingSlot?_eq_some_iff :
    parsed.missingSlot? variables? = some slot ↔
      ∃ before after, parsed.segments = before ++ .placeholder slot :: after ∧
        (∀ earlier, .placeholder earlier ∈ before → Variables.Provides variables? earlier.name) ∧
        ¬ Variables.Provides variables? slot.name := by
  simp only [missingSlot?, find?_slots_eq_some_iff, Variables.lacks_eq_false_iff,
    Variables.lacks_iff]

end Template

variable {parsed : Template}

theorem requiredVariables_of_parse (h : Template.parse template = .ok parsed) :
    requiredVariables template = .ok parsed.requiredNames := by
  rw [requiredVariables, h]
  rfl

theorem requiredVariables_eq_error_iff {cause : ParseError} :
    requiredVariables template = .error cause ↔ Template.parse template = .error cause := by
  unfold requiredVariables
  cases Template.parse template <;> simp [Except.map]

/-- What validation answers for a template that can be read. -/
theorem validate_of_parse (h : Template.parse template = .ok parsed) :
    validate template variables? =
      match parsed.missingSlot? variables? with
      | none => .ok ()
      | some slot => .error (.missingVariable slot.name
          (Suggestion.suggestions slot.name (Variables.names variables?))) := by
  have hsearch : (parsed.requiredNames.find? fun name => !Variables.supplies variables? name) =
      (parsed.missingSlot? variables?).map Slot.name := Template.find?_requiredNames _
  rw [validate, requiredVariables_of_parse h]
  simp only [hsearch]
  cases parsed.missingSlot? variables? <;> rfl

theorem validate_of_parse_error {cause : ParseError} (h : Template.parse template = .error cause) :
    validate template variables? = .error (.malformed cause) := by
  rw [validate, requiredVariables_eq_error_iff.2 h]

theorem validate_eq_ok_iff :
    validate template variables? = .ok () ↔ ∃ parsed, Template.parse template = .ok parsed ∧
      ∀ slot, .placeholder slot ∈ parsed.segments → Variables.Provides variables? slot.name := by
  cases hparse : Template.parse template with
  | error cause => simp [validate_of_parse_error hparse]
  | ok parsed =>
    simp only [Except.ok.injEq, exists_eq_left', ← Template.missingSlot?_eq_none_iff]
    rw [validate_of_parse hparse]
    cases parsed.missingSlot? variables? <;> simp

theorem validate_eq_malformed_iff {cause : ParseError} :
    validate template variables? = .error (.malformed cause) ↔
      Template.parse template = .error cause := by
  cases hparse : Template.parse template with
  | error cause' => simp [validate_of_parse_error hparse]
  | ok parsed =>
    rw [validate_of_parse hparse]
    cases parsed.missingSlot? variables? <;> simp

/-- The leftmost placeholder of a template whose variable has no value has this name. -/
def LeftmostMissing (template : String) (variables? : Option Variables) (name : String) : Prop :=
  ∃ parsed before slot after, Template.parse template = .ok parsed ∧
    parsed.segments = before ++ .placeholder slot :: after ∧
    (∀ earlier, .placeholder earlier ∈ before → Variables.Provides variables? earlier.name) ∧
    ¬ Variables.Provides variables? slot.name ∧ slot.name = name

theorem leftmostMissing_iff (h : Template.parse template = .ok parsed) :
    LeftmostMissing template variables? name ↔
      ∃ slot, parsed.missingSlot? variables? = some slot ∧ slot.name = name := by
  simp only [Template.missingSlot?_eq_some_iff]
  constructor
  · rintro ⟨parsed', before, slot, after, hparsed', hsplit, hearlier, hlacks, hname⟩
    obtain rfl : parsed = parsed' := by simpa [h] using hparsed'
    exact ⟨slot, ⟨before, after, hsplit, hearlier, hlacks⟩, hname⟩
  · rintro ⟨slot, ⟨before, after, hsplit, hearlier, hlacks⟩, hname⟩
    exact ⟨parsed, before, slot, after, h, hsplit, hearlier, hlacks, hname⟩

theorem validate_eq_missingVariable_iff {suggestions : List String} :
    validate template variables? = .error (.missingVariable name suggestions) ↔
      LeftmostMissing template variables? name ∧
        suggestions = Suggestion.suggestions name (Variables.names variables?) := by
  cases hparse : Template.parse template with
  | error cause => simp [validate_of_parse_error hparse, LeftmostMissing, hparse]
  | ok parsed =>
    rw [validate_of_parse hparse, leftmostMissing_iff hparse]
    cases parsed.missingSlot? variables? with
    | none => simp
    | some slot =>
      simp only [Except.error.injEq, ValidationError.missingVariable.injEq, Option.some.injEq,
        exists_eq_left']
      constructor
      · rintro ⟨rfl, rfl⟩
        exact ⟨rfl, rfl⟩
      · rintro ⟨rfl, rfl⟩
        exact ⟨rfl, rfl⟩

/-- A template that cannot be read fails validation with its flaw. One that can be read passes
exactly if each of its placeholders has `count` or a supplied variable, and else fails with the
variable of the leftmost placeholder that has neither; what is suggested in its place is supplied.
The required variables are the names of the placeholders without `count`, each once and in the order
in which they are seen first. Supplying more variables makes no template fail. -/
theorem validate_reports_leftmostMissing (template : String) (variables? : Option Variables) :
    (∀ cause, validate template variables? = .error (.malformed cause) ↔
      Template.parse template = .error cause) ∧
    (validate template variables? = .ok () ↔ ∃ parsed, Template.parse template = .ok parsed ∧
      ∀ slot, .placeholder slot ∈ parsed.segments → Variables.Provides variables? slot.name) ∧
    (∀ name suggestions,
      validate template variables? = .error (.missingVariable name suggestions) ↔
        LeftmostMissing template variables? name ∧
          suggestions = Suggestion.suggestions name (Variables.names variables?)) ∧
    (∀ name, ∀ suggestion ∈ Suggestion.suggestions name (Variables.names variables?),
      Variables.supplies variables? suggestion = true) ∧
    (∀ cause, requiredVariables template = .error cause ↔
      Template.parse template = .error cause) ∧
    (∀ parsed, Template.parse template = .ok parsed →
      ∃ names, requiredVariables template = .ok names ∧ names.Nodup ∧
        (∀ name, name ∈ names ↔ name ≠ Variables.countName ∧
          ∃ slot, .placeholder slot ∈ parsed.segments ∧ slot.name = name) ∧
        names.Pairwise fun first second =>
          parsed.seenNames.idxOf first < parsed.seenNames.idxOf second) ∧
    ∀ more? : Option Variables,
      (∀ name, Variables.supplies variables? name = true →
        Variables.supplies more? name = true) →
      validate template variables? = .ok () → validate template more? = .ok () := by
  refine ⟨fun cause => validate_eq_malformed_iff, validate_eq_ok_iff,
    fun name suggestions => validate_eq_missingVariable_iff, ?_,
    fun cause => requiredVariables_eq_error_iff, ?_, ?_⟩
  · intro name suggestion hsuggestion
    exact Variables.mem_names.1 (Suggestion.mem_of_mem_suggestions hsuggestion)
  · intro parsed hparse
    exact ⟨parsed.requiredNames, requiredVariables_of_parse hparse, parsed.nodup_requiredNames,
      fun name => Template.mem_requiredNames, parsed.pairwise_requiredNames⟩
  · intro more? hmore hvalid
    obtain ⟨parsed, hparse, hprovides⟩ := validate_eq_ok_iff.1 hvalid
    exact validate_eq_ok_iff.2 ⟨parsed, hparse, fun slot hslot => (hprovides slot hslot).mono hmore⟩

/-- The variable that is reported is seen a second time behind another one that is missing. A
variable more does no harm to a template that passes. -/
theorem validate_reports_leftmostMissing_repeated :
    let given : Variables := (∅ : Variables).insert "a" (.number 2)
    validate "{{a}} {{count}}{{b}}{{c}}{{b}}" (some given) =
        .error (.missingVariable "b"
          (Suggestion.suggestions "b" (Variables.names (some given)))) ∧
      validate "{{a}} {{count}}" (some given) = .ok () ∧
      validate "{{a}} {{count}}" (some (given.insert "b" (.number 3))) = .ok () := by
  intro given
  have hgiven : Variables.supplies (some given) "a" = true := by
    simp [given, Variables.supplies]
  have hparse : Template.parse "{{a}} {{count}}{{b}}{{c}}{{b}}" =
      .ok ⟨[.placeholder ⟨"a", []⟩, .literal " ", .placeholder ⟨"count", []⟩,
        .placeholder ⟨"b", []⟩, .placeholder ⟨"c", []⟩, .placeholder ⟨"b", []⟩]⟩ := by
    decide +kernel
  have hparse' : Template.parse "{{a}} {{count}}" =
      .ok ⟨[.placeholder ⟨"a", []⟩, .literal " ", .placeholder ⟨"count", []⟩]⟩ := by decide +kernel
  have hfront : ∀ slot, Segment.placeholder slot ∈ [Segment.placeholder ⟨"a", []⟩, .literal " ",
      .placeholder ⟨"count", []⟩] → Variables.Provides (some given) slot.name := by
    intro slot hslot
    have hcases : slot = ⟨"a", []⟩ ∨ slot = ⟨"count", []⟩ := by simpa using hslot
    rcases hcases with rfl | rfl
    · exact .inr hgiven
    · exact .inl rfl
  have hlacks : ¬ Variables.Provides (some given) "b" := by
    simp [Variables.Provides, Variables.supplies, given, Variables.countName]
  obtain ⟨-, -, hmissing, -⟩ :=
    validate_reports_leftmostMissing "{{a}} {{count}}{{b}}{{c}}{{b}}" (some given)
  obtain ⟨-, hok, -, -, -, -, hmore⟩ :=
    validate_reports_leftmostMissing "{{a}} {{count}}" (some given)
  have hvalid := hok.2 ⟨_, hparse', hfront⟩
  refine ⟨(hmissing "b" _).2 ⟨⟨_, _, ⟨"b", []⟩, [.placeholder ⟨"c", []⟩, .placeholder ⟨"b", []⟩],
    hparse, rfl, hfront, hlacks, rfl⟩, rfl⟩, hvalid, hmore _ (fun name hname => ?_) hvalid⟩
  simp only [Variables.supplies, Option.any_some, Std.ExtTreeMap.contains_insert] at hname ⊢
  simp [hname]

end Phrasebook
