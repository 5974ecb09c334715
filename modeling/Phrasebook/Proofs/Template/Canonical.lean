import Mathlib.Data.List.Chain
import Mathlib.Data.List.Infix
import Phrasebook.Proofs.Template.Closing
import Phrasebook.Proofs.Template.Segments

/-!
# Canonical templates

Strict reading gives every template one form, and writing that form gives the text back. Literal
text runs from one segment of another kind to the next, so no two literals meet. A placeholder ends
at the nearest closing mark, so its body holds none and does not end in a brace that would make one.
-/
namespace Phrasebook

namespace Segment

/-- The form that a segment has on its own. -/
def IsCanonical : Segment → Prop
  | .literal text => text ≠ "" ∧ '|' ∉ text.toList ∧ ¬ opening <:+: text.toList
  | .placeholder slot =>
    slot.name ≠ "" ∧ (∀ part ∈ slot.name :: slot.modifiers, ':' ∉ part.toList) ∧
      ¬ closing <:+: slot.body ∧ slot.body.getLast? ≠ some '}'
  | .alternative singular plural others =>
    ∀ branch ∈ singular :: plural :: others,
      '(' ∉ branch.toList ∧ ')' ∉ branch.toList ∧ '|' ∉ branch.toList

/-- Whether the second segment may stand right behind the first one. Two literals would be one, and
a brace before a placeholder would belong to its opening mark. -/
def MayPrecede : Segment → Segment → Prop
  | .literal _, .literal _ => False
  | .literal text, .placeholder _ => text.toList.getLast? ≠ some '{'
  | _, _ => True

instance : DecidablePred IsCanonical
  | .literal text =>
    inferInstanceAs (Decidable (text ≠ "" ∧ '|' ∉ text.toList ∧ ¬ opening <:+: text.toList))
  | .placeholder slot =>
    inferInstanceAs (Decidable (slot.name ≠ "" ∧
      (∀ part ∈ slot.name :: slot.modifiers, ':' ∉ part.toList) ∧
      ¬ closing <:+: slot.body ∧ slot.body.getLast? ≠ some '}'))
  | .alternative singular plural others =>
    inferInstanceAs (Decidable (∀ branch ∈ singular :: plural :: others,
      '(' ∉ branch.toList ∧ ')' ∉ branch.toList ∧ '|' ∉ branch.toList))

instance : DecidableRel MayPrecede
  | .literal _, .literal _ => inferInstanceAs (Decidable False)
  | .literal text, .placeholder _ =>
    inferInstanceAs (Decidable (text.toList.getLast? ≠ some '{'))
  | .literal _, .alternative _ _ _ => inferInstanceAs (Decidable True)
  | .placeholder _, _ => inferInstanceAs (Decidable True)
  | .alternative _ _ _, _ => inferInstanceAs (Decidable True)

end Segment

/-- The form of a template: that of its segments, and of what stands side by side. -/
structure Template.IsCanonical (template : Template) : Prop where
  segments : ∀ segment ∈ template.segments, segment.IsCanonical
  neighbours : template.segments.IsChain Segment.MayPrecede

instance : DecidablePred Template.IsCanonical := fun template =>
  decidable_of_iff ((∀ segment ∈ template.segments, segment.IsCanonical) ∧
      template.segments.IsChain Segment.MayPrecede)
    ⟨fun h => ⟨h.1, h.2⟩, fun h => ⟨h.segments, h.neighbours⟩⟩

/-- A doubled character is in a text with one character more if it is in the text, or if it is made
by the last two. -/
theorem pair_infix_append_singleton_iff {c d : Char} {text : List Char} :
    [c, c] <:+: text ++ [d] ↔ [c, c] <:+: text ∨ text.getLast? = some c ∧ d = c := by
  rw [List.infix_concat_iff, or_comm]
  refine or_congr_right ?_
  rcases List.eq_nil_or_concat text with rfl | ⟨init, last, rfl⟩
  · simp [List.suffix_cons_iff]
  · simp [← List.reverse_prefix, eq_comm, and_comm]

/-- A text is copied before `rest` when it has no bar and no opening mark starts in it. -/
theorem isPlainBefore_iff {rest text : List Char} :
    IsPlainBefore rest text ↔ '|' ∉ text ∧ ¬ opening <:+: text ++ rest.take 1 := by
  induction text with
  | nil =>
    have hshort : ¬ opening <:+: rest.take 1 := fun hmark =>
      absurd (hmark.length_le.trans (List.length_take_le 1 rest)) (by decide)
    simpa [IsPlainBefore] using hshort
  | cons c text ih =>
    have hstart : opening <+: c :: (text ++ rest.take 1) ↔ opening <+: c :: (text ++ rest) := by
      cases text <;> cases rest <;> simp [opening]
    rw [IsPlainBefore, ih, List.cons_append, List.infix_cons_iff, hstart, List.mem_cons]
    grind

/-- A slot is unnamed when its body is empty or starts with a colon. -/
theorem Slot.name_ofBody_eq_empty_iff {body : List Char} :
    (Slot.ofBody body).name = "" ↔ body = [] ∨ ∃ tail, body = ':' :: tail := by
  cases body with
  | nil => simp [Slot.ofBody, Text.fields]
  | cons c body => by_cases hc : c = ':' <;> simp [Slot.ofBody, Text.fields, hc]

namespace Template
variable {text rest after : List Char} {slot : Slot} {segment : Segment}

/-- Behind an opening mark there is a placeholder when its body is closed and names a variable. -/
theorem placeholder?_opening (rest : List Char) :
    placeholder? (opening ++ rest) = (untilClosing rest).bind fun (body, after) =>
      if (Slot.ofBody body).name = "" then none else some (Slot.ofBody body, after) := by
  cases hcut : untilClosing rest with
  | none => simp [placeholder?, opening, hcut]
  | some cut =>
    obtain ⟨body, after⟩ := cut
    cases body with
    | nil => simp [placeholder?, opening, hcut, Slot.name_ofBody_eq_empty_iff]
    | cons c body =>
      by_cases hc : c = ':' <;>
        simp [placeholder?, opening, hcut, Slot.name_ofBody_eq_empty_iff, hc]

theorem placeholder?_opening_eq_some_iff :
    placeholder? (opening ++ rest) = some (slot, after) ↔
      ∃ body, untilClosing rest = some (body, after) ∧ slot = Slot.ofBody body ∧
        slot.name ≠ "" := by
  rw [placeholder?_opening, Option.bind_eq_some_iff]
  grind

/-- A placeholder is read off its source. -/
theorem placeholder?_source (h : placeholder? text = some (slot, after)) :
    text = (Segment.placeholder slot).source ++ after ∧ (Segment.placeholder slot).IsCanonical := by
  obtain ⟨rest, body, rfl, hcut, rfl⟩ := placeholder?_eq_some h
  obtain ⟨-, -, -, hname⟩ := placeholder?_opening_eq_some_iff.1 h
  obtain ⟨rfl, hnearest⟩ := untilClosing_eq_some_iff.1 hcut
  have hbody : ¬ closing <:+: body ∧ body.getLast? ≠ some '}' := by
    unfold closing at hnearest ⊢
    rw [pair_infix_append_singleton_iff] at hnearest
    simpa using hnearest
  have hcolons := Text.not_mem_fields ':' body
  refine ⟨by simp [Segment.source], hname, ?_, by simpa using hbody⟩
  intro part hpart
  rcases List.mem_cons.1 hpart with rfl | hmodifier
  · simpa [Slot.ofBody] using hcolons.1
  · obtain ⟨field, hfield, rfl⟩ := List.mem_map.1 hmodifier
    simpa using hcolons.2 field hfield

/-- An alternative is read off its source. -/
theorem alternative?_source (h : alternative? text = some (segment, after)) :
    text = segment.source ++ after ∧ segment.IsCanonical := by
  obtain ⟨singular, plural, others, rfl, rfl, hbranches⟩ := alternative?_eq_some h
  refine ⟨by simp [Segment.source, Function.comp_def], fun branch hbranch => ?_⟩
  have hbranch : branch ∈ (singular :: plural :: others).map String.ofList := hbranch
  obtain ⟨chars, hchars, rfl⟩ := List.mem_map.1 hbranch
  obtain ⟨hbar, hopen, hclose⟩ := hbranches chars hchars
  simpa using ⟨hopen, hclose, hbar⟩

/-- A literal is read off its source. -/
theorem literal?_source (h : literal? text = some (segment, after)) :
    text = segment.source ++ after ∧ segment.IsCanonical := by
  have hshorter := literal?_shorter h
  obtain ⟨rfl, rfl⟩ := literal?_eq_some h
  have hsplit := literalRun_append text
  obtain ⟨hbar, hmark⟩ := isPlainBefore_iff.1 (literalRun_isPlainBefore text)
  refine ⟨by simp [Segment.source], ?_, by simpa using hbar, ?_⟩
  · intro hempty
    rw [String.ofList_eq_empty_iff.1 hempty, List.nil_append] at hsplit
    rw [hsplit] at hshorter
    exact lt_irrefl _ hshorter
  · rw [String.toList_ofList]
    exact fun hinside => hmark (hinside.trans (List.prefix_append _ _).isInfix)

/-- Whatever segment is read, it is read off its source. -/
theorem segment?_source (h : segment? text = some (segment, after)) :
    text = segment.source ++ after ∧ segment.IsCanonical := by
  rcases segment?_cases h with ⟨slot, rfl, hslot⟩ | halternative | hliteral
  · exact placeholder?_source hslot
  · exact alternative?_source halternative
  · exact literal?_source hliteral

/-- A literal run ends where the text ends or where something else starts. -/
theorem literalRun_stops (text : List Char) :
    (literalRun text).2 = [] ∨ stopsLiteral (literalRun text).2 = true := by
  induction text with
  | nil => exact .inl rfl
  | cons c rest ih =>
    by_cases hstops : stopsLiteral (c :: rest) = true
    · simp [literalRun, hstops]
    · simpa [literalRun, hstops] using ih

/-- No literal starts where literal text stops. -/
theorem literal?_eq_none_of_stops (h : text = [] ∨ stopsLiteral text = true) :
    literal? text = none := by
  rcases h with rfl | hstops
  · rfl
  · cases text with
    | nil => rfl
    | cons c rest => simp [literal?, literalRun, hstops]

/-- What is read behind a segment may stand behind it. -/
theorem mayPrecede_of_segment? {second : Segment} {behind : List Char}
    (h : segment? text = some (segment, after)) (h' : segment? after = some (second, behind)) :
    segment.MayPrecede second := by
  rcases segment?_cases h with ⟨slot, rfl, -⟩ | halternative | hliteral
  · trivial
  · obtain ⟨_, _, _, rfl, -⟩ := alternative?_eq_some halternative
    trivial
  · obtain ⟨rfl, hafter⟩ := literal?_eq_some hliteral
    have hplain := isPlainBefore_iff.1 (literalRun_isPlainBefore text)
    rcases segment?_cases h' with ⟨slot, rfl, hslot⟩ | halternative | hliteral'
    · obtain ⟨rest, _, hopening, -⟩ := placeholder?_eq_some hslot
      rw [hafter, hopening] at hplain
      intro hlast
      rw [String.toList_ofList] at hlast
      exact hplain.2 (pair_infix_append_singleton_iff.2 (.inr ⟨hlast, rfl⟩))
    · obtain ⟨_, _, _, rfl, -⟩ := alternative?_eq_some halternative
      trivial
    · have hnone := literal?_eq_none_of_stops (literalRun_stops text)
      rw [hafter, hliteral'] at hnone
      contradiction

/-- Reading a template is reading its first segment, and then what is behind that. -/
theorem segmentsOf_eq (text : List Char) : segmentsOf text = match segment? text with
    | some (segment, after) => (segment :: ·) <$> segmentsOf after
    | none => if text.isEmpty then .ok [] else .error text := by
  rw [segmentsOf]
  split <;> simp_all

@[simp] theorem segmentsOf_nil : segmentsOf [] = .ok [] := by
  rw [segmentsOf_eq]
  rfl

theorem segment?_of_head? {segments : List Segment} (h : segmentsOf text = .ok segments)
    (hfirst : segment ∈ segments.head?) : ∃ after, segment? text = some (segment, after) := by
  rw [segmentsOf_eq] at h
  cases hsegment : segment? text with
  | none =>
    obtain rfl : [] = segments := by
      by_cases hempty : text = [] <;> simp_all
    simp at hfirst
  | some cut =>
    obtain ⟨first, after⟩ := cut
    cases hafter : segmentsOf after with
    | error unread => simp [hsegment, hafter] at h
    | ok more =>
      obtain rfl : first :: more = segments := by simpa [hsegment, hafter] using h
      obtain rfl : first = segment := by simpa using hfirst
      exact ⟨after, rfl⟩

/-- Strictly read segments are canonical, and their sources are the text. -/
theorem segmentsOf_source {segments : List Segment} (h : segmentsOf text = .ok segments) :
    sourceOf segments = text ∧ IsCanonical ⟨segments⟩ := by
  fun_induction segmentsOf text generalizing segments with
  | case1 text segment after hsegment _ ih =>
    cases hafter : segmentsOf after with
    | error unread => simp [hafter] at h
    | ok more =>
      obtain rfl : segment :: more = segments := by simpa [hafter] using h
      obtain ⟨hmore, hcanonical⟩ := ih hafter
      obtain ⟨hsource, hform⟩ := segment?_source hsegment
      refine ⟨by rw [sourceOf_cons, hmore, ← hsource], ?_, ?_⟩
      · exact List.forall_mem_cons.2 ⟨hform, hcanonical.segments⟩
      · refine List.isChain_cons.2 ⟨fun second hsecond => ?_, hcanonical.neighbours⟩
        obtain ⟨behind, hbehind⟩ := segment?_of_head? hafter hsecond
        exact mayPrecede_of_segment? hsegment hbehind
  | case2 text _ hempty =>
    obtain rfl : [] = segments := by simpa using h
    obtain rfl : text = [] := by simpa using hempty
    exact ⟨rfl, by simp, List.isChain_nil⟩
  | case3 => simp at h

/-- A template that can be read strictly is the source of what it is read as, and this is in
canonical form. -/
theorem print_eq_and_isCanonical_of_parse {template : String} {parsed : Template}
    (hparse : parse template = .ok parsed) : parsed.print = template ∧ parsed.IsCanonical := by
  obtain ⟨hsource, hcanonical⟩ := segmentsOf_source (segmentsOf_of_parse hparse)
  exact ⟨by rw [print, hsource, String.ofList_toList], hcanonical⟩

/-- A parenthesis that opens no alternative, empty fields between colons, a bar in a name, empty
branches, an opening mark in a branch and a closing one that closes nothing. -/
theorem print_eq_and_isCanonical_of_parse_mixed :
    parse "f({{a|b::}}(|{{|)}}" = .ok ⟨[.literal "f(", .placeholder ⟨"a|b", ["", ""]⟩,
        .alternative "" "\x7b\x7b" [""], .literal "\x7d\x7d"]⟩ ∧
      print ⟨[.literal "f(", .placeholder ⟨"a|b", ["", ""]⟩,
        .alternative "" "\x7b\x7b" [""], .literal "\x7d\x7d"]⟩ = "f({{a|b::}}(|{{|)}}" ∧
      IsCanonical ⟨[.literal "f(", .placeholder ⟨"a|b", ["", ""]⟩,
        .alternative "" "\x7b\x7b" [""], .literal "\x7d\x7d"]⟩ := by
  have hparse : parse "f({{a|b::}}(|{{|)}}" = .ok ⟨[.literal "f(", .placeholder ⟨"a|b", ["", ""]⟩,
      .alternative "" "\x7b\x7b" [""], .literal "\x7d\x7d"]⟩ := by decide +kernel
  exact ⟨hparse, print_eq_and_isCanonical_of_parse hparse⟩

end Template

end Phrasebook
