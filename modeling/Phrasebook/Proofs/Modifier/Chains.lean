import Phrasebook.Proofs.Modifier.Stripping
import Phrasebook.Proofs.Resolve.Agreement
import Phrasebook.Proofs.Template.RoundTrip

/-!
# Chains of modifiers

A span is built up by adding one modifier at a time. Each addition cuts off the marks that the last
one has written, so a chain of them writes the placeholder of a slot with all its modifiers. Strict
reading gives this slot back, and resolving applies the same modifiers in the same order.
-/
namespace Phrasebook

theorem Text.intercalate_eq_joinFields (separator : Char) (first : List Char)
    (others : List (List Char)) :
    [separator].intercalate (first :: others) = joinFields separator first others := by
  induction others generalizing first with
  | nil => simp
  | cons next others ih => simp [List.intercalate_cons_cons, ih]

namespace Slot
variable {slot : Slot}

/-- A slot as it is written in a template: between marks, with colons between its parts. -/
def written (slot : Slot) : String :=
  "\x7b\x7b" ++ String.intercalate ":" (slot.name :: slot.modifiers) ++ "\x7d\x7d"

theorem toList_written (slot : Slot) :
    slot.written.toList = (Segment.placeholder slot).source := by
  have hbody : (String.intercalate ":" (slot.name :: slot.modifiers)).toList = slot.body := by
    rw [String.toList_intercalate, List.map_cons]
    exact Text.intercalate_eq_joinFields ':' _ _
  simp [written, Segment.source, opening, closing, hbody]

/-- No part of a slot has a closing brace or a colon. -/
def HasPlainParts (slot : Slot) : Prop :=
  ∀ part ∈ slot.name :: slot.modifiers, '}' ∉ part.toList ∧ ':' ∉ part.toList

instance : DecidablePred HasPlainParts := fun slot =>
  inferInstanceAs (Decidable (∀ part ∈ slot.name :: slot.modifiers,
    '}' ∉ part.toList ∧ ':' ∉ part.toList))

theorem HasPlainParts.not_mem_body (h : slot.HasPlainParts) : '}' ∉ slot.body := by
  intro hbrace
  unfold body at hbrace
  obtain ⟨field, hfield, hmem⟩ := (Text.mem_joinFields (by decide)).1 hbrace
  have hfield : field ∈ (slot.name :: slot.modifiers).map String.toList := hfield
  obtain ⟨part, hpart, rfl⟩ := List.mem_map.1 hfield
  exact (h part hpart).1 hmem

theorem HasPlainParts.isCanonical (h : slot.HasPlainParts) (hname : slot.name ≠ "") :
    (Segment.placeholder slot).IsCanonical := by
  refine ⟨hname, fun part hpart => (h part hpart).2, fun hmark => ?_, fun hlast => ?_⟩
  · exact h.not_mem_body (hmark.subset (by decide))
  · exact h.not_mem_body (List.mem_of_getLast? hlast)

end Slot

namespace Span

/-- Add modifiers to a subject, the first one first. -/
def applyAll (modifiers : List String) (subject : String) : String :=
  modifiers.foldl (fun subject modifier => apply modifier subject) subject

@[simp] theorem applyAll_nil (subject : String) : applyAll [] subject = subject := rfl

@[simp] theorem applyAll_cons (modifier : String) (modifiers : List String) (subject : String) :
    applyAll (modifier :: modifiers) subject = applyAll modifiers (apply modifier subject) := rfl

section Inner
variable {text : List Char} (hne : text ≠ []) (hbrace : '}' ∉ text)
include hne hbrace

/-- A bare name is about itself. -/
theorem inner_of_name (hopen : ¬ opening <+: text) : inner text = text := by
  have hname : name? text = some text := name?_eq_some_iff.2 ⟨.inr rfl, hne, hbrace⟩
  simp [inner, hname, hopen]

/-- A text between marks is what they are about. -/
theorem inner_of_marked : inner (opening ++ text ++ closing) = text := by
  have hname : name? (text ++ closing) = some text :=
    name?_eq_some_iff.2 ⟨.inl rfl, hne, hbrace⟩
  simp [inner, hname]

end Inner

/-- Adding a modifier keeps the marks and writes the modifier behind what they are about. -/
theorem apply_eq (modifier subject : String) :
    apply modifier subject = String.ofList
      (opening ++ (inner subject.toList ++ ':' :: modifier.toList) ++ closing) := by
  simp [apply]

/-- Modifiers are written behind a text between marks, in their order. -/
theorem applyAll_marked {text : List Char} {modifiers : List String} (hne : text ≠ [])
    (hbrace : '}' ∉ text) (hmodifiers : ∀ modifier ∈ modifiers, '}' ∉ modifier.toList) :
    applyAll modifiers (String.ofList (opening ++ text ++ closing)) = String.ofList
      (opening ++ Text.joinFields ':' text (modifiers.map String.toList) ++ closing) := by
  induction modifiers generalizing text with
  | nil => simp
  | cons modifier modifiers ih =>
    obtain ⟨hmodifier, hmore⟩ := List.forall_mem_cons.1 hmodifiers
    have hlonger : '}' ∉ text ++ ':' :: modifier.toList := by simp [hbrace, hmodifier]
    rw [applyAll_cons, apply_eq, String.toList_ofList, inner_of_marked hne hbrace,
      ih (by simp) hlonger hmore]
    simp [Text.joinFields]

/-- From a bare name as from one between marks, a chain of modifiers writes the slot. -/
theorem applyAll_name {slot : Slot} (hname : slot.name ≠ "")
    (hopen : ¬ opening <+: slot.name.toList) (hparts : slot.HasPlainParts)
    (hmodifiers : slot.modifiers ≠ []) :
    applyAll slot.modifiers slot.name = slot.written ∧
      applyAll slot.modifiers ("\x7b\x7b" ++ slot.name ++ "\x7d\x7d") = slot.written := by
  obtain ⟨⟨hbrace, -⟩, hplain⟩ := List.forall_mem_cons.1 hparts
  have hne : slot.name.toList ≠ [] := fun hnil => hname (String.toList_eq_nil_iff.1 hnil)
  have hmarks : "\x7b\x7b" ++ slot.name ++ "\x7d\x7d" =
      String.ofList (opening ++ slot.name.toList ++ closing) :=
    String.toList_inj.1 (by simp [opening, closing])
  have hmarked : applyAll slot.modifiers ("\x7b\x7b" ++ slot.name ++ "\x7d\x7d") =
      slot.written := by
    rw [hmarks, applyAll_marked hne hbrace fun modifier hmem => (hplain modifier hmem).1]
    exact String.toList_inj.1 (by rw [String.toList_ofList, Slot.toList_written]; rfl)
  refine ⟨?_, hmarked⟩
  -- the first modifier makes the same span of both
  obtain ⟨modifier, modifiers, hcons⟩ := List.exists_cons_of_ne_nil hmodifiers
  have hsame : apply modifier slot.name =
      apply modifier ("\x7b\x7b" ++ slot.name ++ "\x7d\x7d") := by
    rw [apply_eq, apply_eq, inner_of_name hne hbrace hopen, hmarks, String.toList_ofList,
      inner_of_marked hne hbrace]
  rw [hcons, applyAll_cons] at hmarked ⊢
  rw [hsame, hmarked]

end Span

section Readers
variable {slot : Slot} (hname : slot.name ≠ "") (hparts : slot.HasPlainParts)
include hname hparts

/-- Strict reading gives back a slot that is written. -/
theorem Template.parse_written : parse slot.written = .ok ⟨[.placeholder slot]⟩ := by
  have hsegment := segment?_placeholder_append (hparts.isCanonical hname) []
  rw [List.append_nil] at hsegment
  have hsegments : segmentsOf slot.written.toList = .ok [.placeholder slot] := by
    rw [Slot.toList_written, segmentsOf_eq, hsegment]
    simp
  simp [parse, hsegments]

/-- Resolving gives the value behind the modifiers, or what is written when there is no value. -/
theorem resolve_written (variables? : Option Variables) (modifiers? : Option Registry) :
    resolve slot.written variables? modifiers? =
      match Variables.lookup variables? slot.name with
      | some value => ((modifiers?.getD ∅).applyAll slot.modifiers value).toText
      | none => slot.written := by
  have hcanonical := hparts.isCanonical hname
  have hslot : Slot.ofBody slot.body = slot := Slot.ofBody_body hcanonical.2.1
  have hread : slot.written.toList = opening ++ (slot.body ++ closing ++ []) := by
    simp [Slot.toList_written, Segment.source]
  have hrun : Scan.InStep ⟨variables?, modifiers?⟩ (opening ++ (slot.body ++ closing ++ [])) _ [] :=
    Scan.inStep_placeholder (Template.untilClosing_body hcanonical [])
  rw [← hread, hslot] at hrun
  rw [resolve, hrun.run_start, Context.slotText, Context.value?]
  cases Variables.lookup variables? slot.name with
  | none => exact String.toList_inj.1 (by simp [hread])
  | some value => cases modifiers? <;> simp

end Readers

end Phrasebook
