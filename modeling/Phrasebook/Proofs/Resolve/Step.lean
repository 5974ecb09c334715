import Mathlib.Logic.Relation
import Phrasebook.Resolve
import Phrasebook.Proofs.Template.Segments
import Phrasebook.Proofs.Template.Closing

/-!
# Steps of a scan

A step meets an opening mark, a bar, a parenthesis or another character, and there is one equation
for each. A scan reaches another by steps, and a run gives the same text from both. So a run is
followed by saying which parts of a template it is in step with: whatever has been written before
such a part, the scan gets behind it and writes the same text for it.
-/
namespace Phrasebook.Scan
variable {context : Context} {scan : Scan} {rest body after : List Char} {c : Char}

theorem step_opening (hrest : scan.rest = opening ++ rest) :
    scan.step context = scan.placeholder context rest := by
  simp [step, hrest, opening]

theorem step_bar (hrest : scan.rest = '|' :: rest) :
    scan.step context = scan.alternative context rest := by
  simp [step, hrest]

theorem step_paren (hrest : scan.rest = '(' :: rest) :
    scan.step context = ⟨rest, scan.text, some ⟨"(", ""⟩⟩ := by
  simp [step, hrest]

theorem step_char (hrest : scan.rest = c :: rest) (hopen : ¬ opening <+: c :: rest)
    (hbar : c ≠ '|') (hparen : c ≠ '(') :
    scan.step context = scan.write c.toString c.toString rest := by
  unfold step
  rw [hrest]
  split
  all_goals simp_all [opening]

/-- All that a step can do, each with what it meets. -/
theorem step_cases (context : Context) (scan : Scan) :
    (scan.rest = [] ∧ scan.step context = scan) ∨
    (∃ rest, scan.rest = opening ++ rest ∧
      scan.step context = scan.placeholder context rest) ∨
    (∃ rest, scan.rest = '|' :: rest ∧ scan.step context = scan.alternative context rest) ∨
    (∃ rest, scan.rest = '(' :: rest ∧
      scan.step context = ⟨rest, scan.text, some ⟨"(", ""⟩⟩) ∨
    (∃ c rest, scan.rest = c :: rest ∧ ¬ opening <+: c :: rest ∧ c ≠ '|' ∧ c ≠ '(' ∧
      scan.step context = scan.write c.toString c.toString rest) := by
  cases hrest : scan.rest with
  | nil => exact .inl ⟨rfl, by simp [step, hrest]⟩
  | cons c rest =>
    by_cases hopen : opening <+: c :: rest
    · obtain ⟨behind, hbehind⟩ := hopen
      exact .inr (.inl ⟨behind, hbehind.symm, step_opening (hrest.trans hbehind.symm)⟩)
    · by_cases hbar : c = '|'
      · subst hbar
        exact .inr (.inr (.inl ⟨rest, rfl, step_bar hrest⟩))
      · by_cases hparen : c = '('
        · subst hparen
          exact .inr (.inr (.inr (.inl ⟨rest, rfl, step_paren hrest⟩)))
        · exact .inr (.inr (.inr (.inr
            ⟨c, rest, rfl, hopen, hbar, hparen, step_char hrest hopen hbar hparen⟩)))

theorem placeholder_of_untilClosing (hbody : untilClosing rest = some (body, after)) :
    scan.placeholder context rest = scan.write (context.slotText (Slot.ofBody body))
      (String.ofList (opening ++ body ++ closing)) after := by
  simp [placeholder, hbody]

/-- Without a closing mark all that is left is copied. -/
theorem placeholder_of_unclosed (hbody : untilClosing rest = none) :
    scan.placeholder context rest =
      scan.write (String.ofList scan.rest) (String.ofList scan.rest) [] := by
  simp [placeholder, hbody]

/-- A character that opens and separates nothing is copied. That a parenthesis is remembered does
not show in the text. -/
theorem step_plain (hrest : scan.rest = c :: rest) (hopen : ¬ opening <+: c :: rest)
    (hbar : c ≠ '|') :
    (scan.step context).rest = rest ∧ (scan.step context).text = scan.text ++ c.toString := by
  by_cases hparen : c = '('
  · subst hparen
    rw [step_paren hrest]
    exact ⟨rfl, rfl⟩
  · rw [step_char hrest hopen hbar hparen]
    exact ⟨rest_write .., text_write ..⟩

/-- At a bar behind an open parenthesis, with a closing one to come, the branch is selected that
`count` asks for. -/
theorem step_bar_of_cut {output : String} {paren : OpenParen} {branches : List Char}
    (hcut : Text.cutAt ')' rest = some (branches, after)) :
    step context ⟨'|' :: rest, output, some paren⟩ =
      ⟨after, output ++ (if context.selectsSingular then paren.source
        else String.ofList (Text.fields '|' branches).1), none⟩ := by
  rw [step_bar rfl]
  simp [alternative, hcut]

/-- The second scan is the first one after a step. -/
def Advances (context : Context) (first second : Scan) : Prop :=
  first.rest ≠ [] ∧ first.step context = second

/-- The second scan is the first one after any number of steps. -/
abbrev Reaches (context : Context) : Scan → Scan → Prop :=
  Relation.ReflTransGen (Advances context)

theorem run_of_rest_eq_nil (h : scan.rest = []) : scan.run context = scan.text := by
  rw [run, dif_pos h]

theorem run_step (h : scan.rest ≠ []) : (scan.step context).run context = scan.run context := by
  rw [run.eq_def context scan, dif_neg h]

theorem run_eq_of_reaches {first last : Scan} (h : Reaches context first last) :
    first.run context = last.run context := by
  induction h with
  | refl => rfl
  | tail _ hadvance ih =>
    obtain ⟨hrest, rfl⟩ := hadvance
    rw [ih, run_step hrest]

/-- Wherever a scan has `text` before it, it gets to `after` and writes `output` on the way. What it
has written before, and which parenthesis is open, makes no difference. -/
def InStep (context : Context) (text : List Char) (output : String) (after : List Char) : Prop :=
  ∀ scan : Scan, scan.rest = text →
    ∃ last, Reaches context scan last ∧ last.rest = after ∧ last.text = scan.text ++ output

theorem InStep.refl (text : List Char) : InStep context text "" text := by
  intro scan hrest
  exact ⟨scan, .refl, hrest, by simp⟩

theorem InStep.trans {first middle last : List Char} {output more : String}
    (h : InStep context first output middle) (h' : InStep context middle more last) :
    InStep context first (output ++ more) last := by
  intro scan hrest
  obtain ⟨mid, hreach, hmid, hwritten⟩ := h scan hrest
  obtain ⟨final, hreach', hfinal, hwritten'⟩ := h' mid hmid
  refine ⟨final, hreach.trans hreach', hfinal, ?_⟩
  rw [hwritten', hwritten, String.append_assoc]

/-- A single step that can be taken from any scan before `text`. -/
theorem InStep.of_step {text : List Char} {output : String} (hne : text ≠ [])
    (h : ∀ scan : Scan, scan.rest = text →
      (scan.step context).rest = after ∧ (scan.step context).text = scan.text ++ output) :
    InStep context text output after := by
  intro scan hrest
  obtain ⟨hnext, hwritten⟩ := h scan hrest
  exact ⟨scan.step context, .single ⟨by rwa [hrest], rfl⟩, hnext, hwritten⟩

/-- A template that is read to its end is resolved to what is written on the way. -/
theorem InStep.run_start {text : List Char} {output : String}
    (h : InStep context text output []) : (start text).run context = output := by
  obtain ⟨last, hreach, hrest, hwritten⟩ := h (start text) rfl
  rw [run_eq_of_reaches hreach, run_of_rest_eq_nil hrest, hwritten, text_start, String.empty_append]

/-- A plain text is copied. -/
theorem inStep_plain {text : List Char} (h : IsPlainBefore rest text) :
    InStep context (text ++ rest) (String.ofList text) rest := by
  induction text with
  | nil => exact InStep.refl rest
  | cons c text ih =>
    obtain ⟨hbar, hopen, htext⟩ := h
    have hstep : InStep context (c :: (text ++ rest)) c.toString (text ++ rest) :=
      .of_step (by simp) fun scan hrest => step_plain hrest hopen hbar
    rw [String.ofList_cons, ← Char.toString_eq_singleton]
    exact hstep.trans (ih htext)

/-- A placeholder is read up to the nearest closing mark. -/
theorem inStep_placeholder (hbody : untilClosing rest = some (body, after)) :
    InStep context (opening ++ rest) (context.slotText (Slot.ofBody body)) after := by
  refine .of_step (by simp [opening]) fun scan hrest => ?_
  rw [step_opening hrest, placeholder_of_untilClosing hbody]
  exact ⟨rest_write .., text_write ..⟩

/-- Behind a parenthesis, a first branch that closes its placeholders is read up to its bar. What
has been written for it is held back, and its source is remembered as it stands. -/
theorem reaches_bar {branch : List Char} (hcloses : closesPlaceholders branch = true)
    (hbar : '|' ∉ branch) (hparen : '(' ∉ branch) (tail : List Char)
    (output held source : String) :
    ∃ held', Reaches context ⟨branch ++ '|' :: tail, output, some ⟨held, source⟩⟩
      ⟨'|' :: tail, output, some ⟨held', source ++ String.ofList branch⟩⟩ := by
  fun_induction closesPlaceholders branch generalizing held source with
  | case1 rest body after hbody _ ih =>
    have hsplit := eq_of_untilClosing hbody
    obtain ⟨held', hreach⟩ := ih hcloses (by simp_all) (by simp_all)
      (held ++ context.slotText (Slot.ofBody body))
      (source ++ String.ofList (opening ++ body ++ closing))
    have hread := untilClosing_append hbody ('|' :: tail)
    refine ⟨held', .head ⟨by simp,
      (step_opening rfl).trans (placeholder_of_untilClosing hread)⟩ ?_⟩
    rw [hsplit]
    simpa [write, opening, String.append_assoc] using hreach
  | case2 rest hbody => simp at hcloses
  | case3 c rest hopen ih =>
    obtain ⟨held', hreach⟩ := ih hcloses (by simp_all) (by simp_all) (held ++ c.toString)
      (source ++ c.toString)
    have hmark : ¬ opening <+: c :: (rest ++ '|' :: tail) := by
      rintro ⟨tail', htail⟩
      cases rest with
      | nil => simp [opening] at htail
      | cons d rest =>
        simp only [opening, List.cons_append, List.cons.injEq] at htail
        exact hopen rest htail.1.symm (by rw [htail.2.1])
    have hcopied : step context ⟨c :: (rest ++ '|' :: tail), output, some ⟨held, source⟩⟩ =
        ⟨rest ++ '|' :: tail, output, some ⟨held ++ c.toString, source ++ c.toString⟩⟩ :=
      step_char rfl hmark (by rintro rfl; simp at hbar) (by rintro rfl; simp at hparen)
    refine ⟨held', .head ⟨by simp, hcopied⟩ ?_⟩
    rwa [String.ofList_cons, ← String.append_assoc, ← Char.toString_eq_singleton]
  | case4 => exact ⟨held, by simpa using .refl⟩

end Phrasebook.Scan
