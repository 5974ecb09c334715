import Phrasebook.Proofs.Template.Canonical

/-!
# Reading what is written

Strict reading takes canonical segments off their source one by one. A placeholder and an
alternative are recognised wherever they stand. A literal needs more care: reading it stops early if
one of its parentheses opens an alternative. This takes a bar before the next parenthesis, and in
canonical segments bars stand behind the parenthesis of their own alternative, or in placeholders.
So everything is read back as it was written as long as placeholders have no bars.
-/
namespace Phrasebook

/-- Whether neither the name nor a modifier of a slot has a bar. -/
def Slot.IsBarless (slot : Slot) : Prop :=
  ∀ part ∈ slot.name :: slot.modifiers, '|' ∉ part.toList

instance : DecidablePred Slot.IsBarless := fun slot =>
  inferInstanceAs (Decidable (∀ part ∈ slot.name :: slot.modifiers, '|' ∉ part.toList))

/-- A slot is the one that its body writes. -/
theorem Slot.ofBody_body {slot : Slot}
    (h : ∀ part ∈ slot.name :: slot.modifiers, ':' ∉ part.toList) : ofBody slot.body = slot := by
  have hfields : Text.fields ':' slot.body =
      (slot.name.toList, slot.modifiers.map String.toList) := by
    refine Text.fields_joinFields (h slot.name (by simp)) fun field hfield => ?_
    obtain ⟨modifier, hmodifier, rfl⟩ := List.mem_map.1 hfield
    exact h modifier (List.mem_cons_of_mem _ hmodifier)
  simp [ofBody, hfields, Function.comp_def]

/-- A slot without bars has a body without bars. -/
theorem Slot.IsBarless.not_mem_body {slot : Slot} (h : slot.IsBarless) : '|' ∉ slot.body := by
  intro hbar
  unfold body at hbar
  obtain ⟨field, hfield, hmem⟩ := (Text.mem_joinFields (by decide)).1 hbar
  have hfield : field ∈ (slot.name :: slot.modifiers).map String.toList := hfield
  obtain ⟨part, hpart, rfl⟩ := List.mem_map.1 hfield
  exact h part hpart hmem

namespace Template
variable {text rest after : List Char} {segment : Segment} {segments : List Segment}

/-- No bar stands before the next parenthesis. -/
def NoBarAhead (text : List Char) : Prop :=
  '|' ∉ text.takeWhile isInnerChar

theorem noBarAhead_append (htext : '|' ∉ text) (hrest : NoBarAhead rest) :
    NoBarAhead (text ++ rest) := by
  induction text with
  | nil => exact hrest
  | cons c text ih =>
    unfold NoBarAhead at ih ⊢
    rw [List.cons_append, List.takeWhile_cons]
    split
    · simp_all
    · simp

/-- A parenthesis with no bar ahead opens no alternative. -/
theorem alternative?_eq_none {c : Char} (h : NoBarAhead rest) :
    alternative? (c :: rest) = none := by
  by_cases hc : c = '('
  · subst hc
    simp only [alternative?, Text.fields_of_not_mem h]
    split <;> simp_all
  · unfold alternative?
    split <;> simp_all

theorem placeholder?_eq_none (h : ¬ opening <+: text) : placeholder? text = none := by
  unfold placeholder?
  split
  · rename_i rest
    exact absurd ⟨rest, rfl⟩ h
  · rfl

theorem stopsLiteral_cons_iff {c : Char} :
    stopsLiteral (c :: rest) = true ↔
      c = '|' ∨ opening <+: c :: rest ∨ (alternative? (c :: rest)).isSome = true := by
  simp only [stopsLiteral, Bool.or_eq_true, List.isPrefixOf_iff_prefix, List.cons_prefix_cons,
    List.nil_prefix, and_true, or_assoc]
  exact or_congr_left eq_comm

/-- No literal text stands where something else starts. -/
theorem literalRun_of_stops (hstops : rest = [] ∨ stopsLiteral rest = true) :
    literalRun rest = ([], rest) := by
  cases rest with
  | nil => rfl
  | cons c rest =>
    have hstops : stopsLiteral (c :: rest) = true := hstops.resolve_left (List.cons_ne_nil c rest)
    simp [literalRun, hstops]

/-- A literal run is read as one literal. -/
theorem segment?_of_literalRun (hne : text ≠ []) (hrun : literalRun (text ++ rest) = (text, rest)) :
    segment? (text ++ rest) = some (.literal (String.ofList text), rest) := by
  cases text with
  | nil => contradiction
  | cons c text =>
    have hgoes : ¬ stopsLiteral (c :: (text ++ rest)) = true := by
      intro hstops
      simp [literalRun, hstops] at hrun
    rw [stopsLiteral_cons_iff, not_or, not_or] at hgoes
    obtain ⟨-, hmark, halternative⟩ := hgoes
    have hplaceholder : placeholder? (c :: text ++ rest) = none := placeholder?_eq_none hmark
    have halternative : alternative? (c :: text ++ rest) = none := by simpa using halternative
    simp only [segment?, hplaceholder, halternative, literal?, hrun, Option.none_or]

/-- A canonical literal is the first segment of its source when the literal run ends with it. -/
theorem segment?_literal_append {literal : String} (h : (Segment.literal literal).IsCanonical)
    (hrun : literalRun (literal.toList ++ rest) = (literal.toList, rest)) :
    segment? ((Segment.literal literal).source ++ rest) = some (.literal literal, rest) := by
  have hne : literal.toList ≠ [] := fun hnil => h.1 (String.toList_eq_nil_iff.1 hnil)
  have hread := segment?_of_literalRun hne hrun
  rwa [String.ofList_toList] at hread

/-- Plain text with no bar ahead is read up to where something else starts. -/
theorem literalRun_append_of_plain (hplain : IsPlainBefore rest text) (hbar : NoBarAhead rest)
    (hstops : rest = [] ∨ stopsLiteral rest = true) : literalRun (text ++ rest) = (text, rest) := by
  induction text with
  | nil => exact literalRun_of_stops hstops
  | cons c text ih =>
    obtain ⟨hc, hmark, htext⟩ := hplain
    have hnone : alternative? (c :: (text ++ rest)) = none :=
      alternative?_eq_none (noBarAhead_append (isPlainBefore_iff.1 htext).1 hbar)
    have hgoes : ¬ stopsLiteral (c :: (text ++ rest)) = true := by
      rw [stopsLiteral_cons_iff, hnone]
      simp [hc, hmark]
    simp [literalRun, hgoes, ih htext]

/-- The body of a canonical placeholder ends at its own closing mark. -/
theorem untilClosing_body {slot : Slot} (h : (Segment.placeholder slot).IsCanonical)
    (after : List Char) :
    untilClosing (slot.body ++ closing ++ after) = some (slot.body, after) := by
  obtain ⟨-, -, hinside, hlast⟩ := h
  refine untilClosing_eq_some_iff.2 ⟨rfl, ?_⟩
  unfold closing at hinside ⊢
  rw [pair_infix_append_singleton_iff]
  tauto

/-- A canonical placeholder is read off its source. -/
theorem placeholder?_source_append {slot : Slot} (h : (Segment.placeholder slot).IsCanonical)
    (after : List Char) :
    placeholder? ((Segment.placeholder slot).source ++ after) = some (slot, after) := by
  have hsource : (Segment.placeholder slot).source ++ after =
      opening ++ (slot.body ++ closing ++ after) := by
    simp [Segment.source]
  rw [hsource, placeholder?_opening_eq_some_iff]
  exact ⟨slot.body, untilClosing_body h after, (Slot.ofBody_body h.2.1).symm, h.1⟩

/-- Two branches at least, without bars and parentheses, are an alternative. -/
theorem alternative?_of_branches {singular plural : List Char} {others : List (List Char)}
    (h : ∀ branch ∈ singular :: plural :: others, '|' ∉ branch ∧ '(' ∉ branch ∧ ')' ∉ branch)
    (after : List Char) :
    alternative? ('(' :: Text.joinFields '|' singular (plural :: others) ++ ')' :: after) =
      some (.alternative (String.ofList singular) (String.ofList plural)
        (others.map String.ofList), after) := by
  have hbars : Text.fields '|' (Text.joinFields '|' singular (plural :: others)) =
      (singular, plural :: others) :=
    Text.fields_joinFields (h singular (by simp)).1
      fun branch hbranch => (h branch (List.mem_cons_of_mem _ hbranch)).1
  have hinner : ∀ c ∈ Text.joinFields '|' singular (plural :: others), isInnerChar c = true := by
    intro c hc
    by_cases hbar : c = '|'
    · rw [hbar]
      rfl
    · obtain ⟨branch, hbranch, hmem⟩ := (Text.mem_joinFields hbar).1 hc
      have hopen : c ≠ '(' := fun heq => (h branch hbranch).2.1 (heq ▸ hmem)
      have hclose : c ≠ ')' := fun heq => (h branch hbranch).2.2 (heq ▸ hmem)
      simp [isInnerChar, hopen, hclose]
  generalize Text.joinFields '|' singular (plural :: others) = branches at hbars hinner ⊢
  have htake : (branches ++ ')' :: after).takeWhile isInnerChar = branches := by
    rw [List.takeWhile_append_of_pos hinner]
    simp [isInnerChar]
  have hdrop : (branches ++ ')' :: after).dropWhile isInnerChar = ')' :: after := by
    rw [List.dropWhile_append_of_pos hinner]
    simp [isInnerChar]
  simp [alternative?, htake, hdrop, hbars]

/-- A canonical alternative is read off its source. -/
theorem alternative?_source_append {singular plural : String} {others : List String}
    (h : (Segment.alternative singular plural others).IsCanonical) (after : List Char) :
    alternative? ((Segment.alternative singular plural others).source ++ after) =
      some (.alternative singular plural others, after) := by
  have hbranches : ∀ branch ∈ (singular :: plural :: others).map String.toList,
      '|' ∉ branch ∧ '(' ∉ branch ∧ ')' ∉ branch := by
    intro chars hchars
    obtain ⟨branch, hbranch, rfl⟩ := List.mem_map.1 hchars
    obtain ⟨hopen, hclose, hbar⟩ := h branch hbranch
    exact ⟨hbar, hopen, hclose⟩
  have hread := alternative?_of_branches hbranches after
  simpa [Segment.source, Function.comp_def] using hread

/-- A canonical placeholder is the first segment of its source, whatever stands behind it. -/
theorem segment?_placeholder_append {slot : Slot} (h : (Segment.placeholder slot).IsCanonical)
    (after : List Char) :
    segment? ((Segment.placeholder slot).source ++ after) = some (.placeholder slot, after) := by
  simp [segment?, placeholder?_source_append h]

/-- A canonical alternative is the first segment of its source, whatever stands behind it. -/
theorem segment?_alternative_append {singular plural : String} {others : List String}
    (h : (Segment.alternative singular plural others).IsCanonical) (after : List Char) :
    segment? ((Segment.alternative singular plural others).source ++ after) =
      some (.alternative singular plural others, after) := by
  have hnone : placeholder? ((Segment.alternative singular plural others).source ++ after) = none :=
    placeholder?_eq_none (by simp [Segment.source, opening])
  simp [segment?, hnone, alternative?_source_append h]

/-- In the source of canonical segments every bar stands behind the parenthesis of its alternative,
if none stands in a placeholder. -/
theorem noBarAhead_sourceOf (hform : ∀ segment ∈ segments, segment.IsCanonical)
    (hbarless : ∀ slot, .placeholder slot ∈ segments → slot.IsBarless) :
    NoBarAhead (sourceOf segments) := by
  induction segments with
  | nil => simp [NoBarAhead]
  | cons segment segments ih =>
    have hrest : NoBarAhead (sourceOf segments) :=
      ih (fun other hother => hform other (List.mem_cons_of_mem _ hother))
        fun slot hslot => hbarless slot (List.mem_cons_of_mem _ hslot)
    rw [sourceOf_cons]
    cases segment with
    | literal text =>
      exact noBarAhead_append (hform _ List.mem_cons_self).2.1 hrest
    | placeholder slot =>
      refine noBarAhead_append ?_ hrest
      have hbody := (hbarless slot List.mem_cons_self).not_mem_body
      simpa [Segment.source, opening, closing] using hbody
    | alternative singular plural others =>
      simp [NoBarAhead, Segment.source, isInnerChar]

section Literal
variable {literal : String}
  (hnext : ∀ next ∈ segments.head?, (Segment.literal literal).MayPrecede next)
include hnext

/-- A canonical literal is plain before the source of what may stand behind it. -/
theorem isPlainBefore_sourceOf (h : (Segment.literal literal).IsCanonical) :
    IsPlainBefore (sourceOf segments) literal.toList := by
  obtain ⟨-, hbar, hinside⟩ := h
  refine isPlainBefore_iff.2 ⟨hbar, ?_⟩
  cases segments with
  | nil => simpa using hinside
  | cons next segments =>
    unfold opening at hinside ⊢
    cases next with
    | literal text => exact (hnext _ rfl).elim
    | placeholder slot =>
      have hlast : literal.toList.getLast? ≠ some '{' := hnext _ rfl
      simp [Segment.source, opening, pair_infix_append_singleton_iff, hinside, hlast]
    | alternative singular plural others =>
      simp [Segment.source, pair_infix_append_singleton_iff, hinside]

/-- Literal text stops before whatever may stand behind it. -/
theorem stops_sourceOf (hform : ∀ segment ∈ segments, segment.IsCanonical) :
    sourceOf segments = [] ∨ stopsLiteral (sourceOf segments) = true := by
  cases segments with
  | nil => exact .inl rfl
  | cons next segments =>
    right
    cases next with
    | literal text => exact (hnext _ rfl).elim
    | placeholder slot => simp [stopsLiteral, Segment.source, opening]
    | alternative singular plural others =>
      have hread := alternative?_source_append (hform _ List.mem_cons_self) (sourceOf segments)
      simp [stopsLiteral, hread]

end Literal

/-- The first of canonical segments is read off their source. -/
theorem segment?_sourceOf_cons (hform : IsCanonical ⟨segment :: segments⟩)
    (hbarless : ∀ slot, .placeholder slot ∈ segments → slot.IsBarless) :
    segment? (sourceOf (segment :: segments)) = some (segment, sourceOf segments) := by
  obtain ⟨hsegment, hmore⟩ := List.forall_mem_cons.1 hform.segments
  obtain ⟨hnext, -⟩ := List.isChain_cons.1 hform.neighbours
  rw [sourceOf_cons]
  cases segment with
  | placeholder slot => exact segment?_placeholder_append hsegment _
  | alternative singular plural others => exact segment?_alternative_append hsegment _
  | literal text =>
    have hrun := literalRun_append_of_plain (isPlainBefore_sourceOf hnext hsegment)
      (noBarAhead_sourceOf hmore hbarless) (stops_sourceOf hnext hmore)
    exact segment?_literal_append hsegment hrun

/-- Canonical segments without bars in placeholders are read off their source. -/
theorem segmentsOf_sourceOf (hform : IsCanonical ⟨segments⟩)
    (hbarless : ∀ slot, .placeholder slot ∈ segments → slot.IsBarless) :
    segmentsOf (sourceOf segments) = .ok segments := by
  induction segments with
  | nil => exact segmentsOf_nil
  | cons segment segments ih =>
    have hbarless' : ∀ slot, .placeholder slot ∈ segments → slot.IsBarless :=
      fun slot hslot => hbarless slot (List.mem_cons_of_mem _ hslot)
    have hform' : IsCanonical ⟨segments⟩ :=
      ⟨(List.forall_mem_cons.1 hform.segments).2, (List.isChain_cons.1 hform.neighbours).2⟩
    rw [segmentsOf_eq, segment?_sourceOf_cons hform hbarless']
    simp [ih hform' hbarless']

/-- A template in canonical form without bars in its placeholders is read back as it was written. -/
theorem parse_print {template : Template} (hform : template.IsCanonical)
    (hbarless : ∀ slot ∈ template.slots, slot.IsBarless) :
    parse template.print = .ok template := by
  have hsegments : segmentsOf (sourceOf template.segments) = .ok template.segments :=
    segmentsOf_sourceOf hform fun slot hslot =>
      hbarless slot (List.mem_filterMap.2 ⟨.placeholder slot, hslot, rfl⟩)
  simp [parse, print, hsegments]

/-- A literal parenthesis before a placeholder that has parentheses, braces at the ends of a name
and of a literal, and an alternative with empty branches right behind a literal parenthesis. -/
theorem parse_print_braces :
    IsCanonical ⟨[.literal "a(", .placeholder ⟨"\x7b(n)", ["", "m"]⟩, .literal "\x7d\x7b(",
        .alternative "" "\x7b\x7b" [""], .alternative "x" "y" []]⟩ ∧
      parse (print ⟨[.literal "a(", .placeholder ⟨"\x7b(n)", ["", "m"]⟩, .literal "\x7d\x7b(",
        .alternative "" "\x7b\x7b" [""], .alternative "x" "y" []]⟩) =
        .ok ⟨[.literal "a(", .placeholder ⟨"\x7b(n)", ["", "m"]⟩, .literal "\x7d\x7b(",
          .alternative "" "\x7b\x7b" [""], .alternative "x" "y" []]⟩ := by
  have hform : IsCanonical ⟨[.literal "a(", .placeholder ⟨"\x7b(n)", ["", "m"]⟩,
      .literal "\x7d\x7b(", .alternative "" "\x7b\x7b" [""], .alternative "x" "y" []]⟩ := by
    decide +kernel
  exact ⟨hform, parse_print hform (by decide +kernel)⟩

end Template

end Phrasebook
