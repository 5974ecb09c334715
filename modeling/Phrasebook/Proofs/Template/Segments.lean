import Mathlib.Data.List.TakeWhile
import Phrasebook.Template.Parser
import Phrasebook.Template.Printer

/-!
# What strict reading accepts

Each reader of a segment is inverted: the text it accepts is the source of the segment with the rest
behind it, and the parts of the segment hold none of the characters that would end them.
-/
namespace Phrasebook

/-- Apart from the separator, joining brings in no characters. -/
theorem Text.mem_joinFields {separator c : Char} {first : List Char} {others : List (List Char)}
    (hc : c ≠ separator) :
    c ∈ Text.joinFields separator first others ↔ ∃ field ∈ first :: others, c ∈ field := by
  simp [Text.joinFields, hc]

/-- A text that is copied one character after the other when `rest` stands behind it: no bar and no
opening mark starts in it. -/
def IsPlainBefore (rest : List Char) : List Char → Prop
  | [] => True
  | c :: text => c ≠ '|' ∧ ¬ opening <+: c :: (text ++ rest) ∧ IsPlainBefore rest text

namespace Template

/-- A placeholder is an opening mark, a body and the nearest closing mark. -/
theorem placeholder?_eq_some {text after : List Char} {slot : Slot}
    (h : placeholder? text = some (slot, after)) :
    ∃ rest body, text = opening ++ rest ∧ untilClosing rest = some (body, after) ∧
      slot = Slot.ofBody body := by
  unfold placeholder? at h
  split at h <;> try contradiction
  rename_i rest
  split at h <;> try contradiction
  rename_i body after' _ _ hbody
  obtain ⟨rfl, rfl⟩ := Prod.mk.inj (Option.some.inj h)
  exact ⟨rest, body, rfl, hbody, rfl⟩

/-- An alternative is two branches at least between parentheses, with bars between them. -/
theorem alternative?_eq_some {text after : List Char} {segment : Segment}
    (h : alternative? text = some (segment, after)) :
    ∃ singular plural others,
      segment = .alternative (String.ofList singular) (String.ofList plural)
        (others.map String.ofList) ∧
      text = '(' :: Text.joinFields '|' singular (plural :: others) ++ ')' :: after ∧
      ∀ branch ∈ singular :: plural :: others, '|' ∉ branch ∧ '(' ∉ branch ∧ ')' ∉ branch := by
  unfold alternative? at h
  split at h <;> try contradiction
  rename_i rest
  split at h <;> try contradiction
  rename_i after' singular plural others hdrop hfields
  obtain ⟨rfl, rfl⟩ := Prod.mk.inj (Option.some.inj h)
  have hjoin := Text.joinFields_fields '|' (rest.takeWhile isInnerChar)
  have hbars := Text.not_mem_fields '|' (rest.takeWhile isInnerChar)
  rw [hfields] at hjoin hbars
  have hinner : ∀ branch ∈ singular :: plural :: others, ∀ c ∈ branch, c ≠ '|' →
      isInnerChar c = true := by
    intro branch hbranch c hc hbar
    have hmem := (Text.mem_joinFields hbar).2 ⟨branch, hbranch, hc⟩
    rw [hjoin] at hmem
    exact List.mem_takeWhile_imp hmem
  refine ⟨singular, plural, others, rfl, ?_, ?_⟩
  · rw [hjoin, List.cons_append, ← hdrop, List.takeWhile_append_dropWhile]
  · intro branch hbranch
    refine ⟨?_, ?_, ?_⟩
    · rcases List.mem_cons.1 hbranch with rfl | hother
      · exact hbars.1
      · exact hbars.2 branch hother
    · intro hmem
      simpa [isInnerChar] using hinner branch hbranch '(' hmem (by decide)
    · intro hmem
      simpa [isInnerChar] using hinner branch hbranch ')' hmem (by decide)

/-- A literal segment is a literal run. -/
theorem literal?_eq_some {text after : List Char} {segment : Segment}
    (h : literal? text = some (segment, after)) :
    segment = .literal (String.ofList (literalRun text).1) ∧ (literalRun text).2 = after := by
  unfold literal? at h
  split at h
  · contradiction
  · rename_i run after' _ hrun
    obtain ⟨rfl, rfl⟩ := Prod.mk.inj (Option.some.inj h)
    simp [hrun]

/-- A literal run ends before anything that is not copied. -/
theorem literalRun_isPlainBefore (text : List Char) :
    IsPlainBefore (literalRun text).2 (literalRun text).1 := by
  induction text with
  | nil => trivial
  | cons c rest ih =>
    by_cases hstops : stopsLiteral (c :: rest) = true
    · simp [literalRun, hstops, IsPlainBefore]
    · simp only [literalRun, hstops, Bool.false_eq_true, if_false, IsPlainBefore,
        literalRun_append]
      simp only [stopsLiteral, Bool.or_eq_true, List.isPrefixOf_iff_prefix, not_or] at hstops
      refine ⟨?_, hstops.1.2, ih⟩
      rintro rfl
      exact hstops.1.1 ⟨rest, rfl⟩

/-- A segment is a placeholder, an alternative or a literal. -/
theorem segment?_cases {text after : List Char} {segment : Segment}
    (h : segment? text = some (segment, after)) :
    (∃ slot, segment = .placeholder slot ∧ placeholder? text = some (slot, after)) ∨
      alternative? text = some (segment, after) ∨ literal? text = some (segment, after) := by
  unfold segment? at h
  split at h
  · rename_i slot after' hslot
    obtain ⟨rfl, rfl⟩ := Prod.mk.inj (Option.some.inj h)
    exact .inl ⟨slot, rfl, hslot⟩
  · rcases Option.or_eq_some_iff.1 h with halternative | ⟨-, hliteral⟩
    · exact .inr (.inl halternative)
    · exact .inr (.inr hliteral)

/-- A template that can be read strictly has the segments of its source. -/
theorem segmentsOf_of_parse {template : String} {parsed : Template}
    (h : parse template = .ok parsed) : segmentsOf template.toList = .ok parsed.segments := by
  unfold parse at h
  split at h
  · rename_i segments hsegments
    obtain rfl : ⟨segments⟩ = parsed := by simpa using h
    exact hsegments
  · contradiction

end Template

end Phrasebook
