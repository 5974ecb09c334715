import Phrasebook.Proofs.Resolve.Step
import Phrasebook.Proofs.Validation.LeftmostMissing

/-!
# Templates that resolve to themselves

A template is inert when no variable that has a value is named behind an opening mark, and no bar
stands between parentheses that could make an alternative. Whatever else it has, every step of the
scan copies what it reads: a placeholder without a value, an opening mark without a closing one, a
bar that separates nothing. So an inert template resolves to itself.
-/
namespace Phrasebook

/-- Nothing in a template applies to the variables. -/
structure IsInert (variables? : Option Variables) (template : String) : Prop where
  /-- No variable that has a value is named right behind an opening mark. -/
  unnamed : ∀ name, Variables.Provides variables? name →
    ¬ opening ++ name.toList <:+: template.toList
  /-- No bar has a parenthesis before it and a closing one behind it. -/
  unparted : ¬ List.Sublist ['(', '|', ')'] template.toList

/-- The body of a placeholder starts with the name of its variable. -/
theorem Slot.name_prefix_of_ofBody (body : List Char) : (ofBody body).name.toList <+: body := by
  have hjoin := Text.joinFields_fields ':' body
  simp only [ofBody, String.toList_ofList]
  exact ⟨_, hjoin⟩

/-- A placeholder is shown as it is written when its variable has no value. -/
theorem Context.slotText_of_not_provides {context : Context} {slot : Slot}
    (h : ¬ Variables.Provides context.variables? slot.name) :
    context.slotText slot = String.ofList (opening ++ slot.body ++ closing) := by
  have hlookup : Variables.lookup context.variables? slot.name = none := by
    simpa using mt Variables.isSome_lookup_iff.1 h
  simp [slotText, value?, hlookup]

namespace Scan
variable {context : Context} {template : String} {scan : Scan} {rest : List Char}

/-- A scan that has copied all it has read, and among it the parenthesis that is open. -/
structure HasCopied (template : String) (scan : Scan) : Prop where
  split : template.toList = scan.text.toList ++ scan.rest
  paren : scan.paren?.isSome = true → '(' ∈ scan.text.toList

theorem HasCopied.start (template : String) : HasCopied template (start template.toList) := by
  constructor <;> simp [Scan.start, Scan.text]

/-- Writing what is read keeps to the template. -/
theorem HasCopied.write (h : HasCopied template scan) {source : List Char}
    (hrest : scan.rest = source ++ rest) :
    HasCopied template (scan.write (String.ofList source) (String.ofList source) rest) := by
  refine ⟨?_, fun hparen => ?_⟩
  · rw [text_write, rest_write, String.toList_append, String.toList_ofList, List.append_assoc,
      ← hrest]
    exact h.split
  · have hopen : scan.paren?.isSome = true := by
      unfold Scan.write at hparen
      split at hparen <;> simp_all
    rw [text_write, String.toList_append]
    exact List.mem_append_left _ (h.paren hopen)

/-- In an inert template a placeholder is copied, and so is an opening mark without a closing one
with all that follows. -/
theorem HasCopied.placeholder (hinert : IsInert context.variables? template)
    (h : HasCopied template scan) (hrest : scan.rest = opening ++ rest) :
    HasCopied template (scan.placeholder context rest) := by
  cases hbody : untilClosing rest with
  | none =>
    simp only [Scan.placeholder, hbody]
    exact h.write (List.append_nil _).symm
  | some cut =>
    obtain ⟨body, after⟩ := cut
    have hsplit := eq_of_untilClosing hbody
    have hname : ¬ Variables.Provides context.variables? (Slot.ofBody body).name := by
      intro hprovides
      have hinside : opening ++ body <:+: template.toList :=
        ⟨scan.text.toList, closing ++ after, by simp [h.split, hrest, hsplit]⟩
      have hfront : opening ++ (Slot.ofBody body).name.toList <+: opening ++ body :=
        (List.prefix_append_right_inj opening).2 (Slot.name_prefix_of_ofBody body)
      exact hinert.unnamed _ hprovides (hfront.isInfix.trans hinside)
    rw [placeholder_of_untilClosing hbody, Context.slotText_of_not_provides hname,
      Slot.body_ofBody]
    exact h.write (by rw [hrest, hsplit]; simp)

/-- In an inert template a bar is copied. -/
theorem HasCopied.alternative (hinert : IsInert context.variables? template)
    (h : HasCopied template scan) (hrest : scan.rest = '|' :: rest) :
    HasCopied template (scan.alternative context rest) := by
  have hbar : scan.alternative context rest = ⟨rest, scan.text.push '|', none⟩ := by
    cases hparen : scan.paren? with
    | none => simp [Scan.alternative, hparen]
    | some paren =>
      cases hcut : Text.cutAt ')' rest with
      | none => simp [Scan.alternative, hcut]
      | some cut =>
        obtain ⟨branches, after⟩ := cut
        have hopen : '(' ∈ scan.text.toList := h.paren (by simp [hparen])
        have hclose : ')' ∈ rest := by simp [(Text.cutAt_eq_some_iff.1 hcut).1]
        refine absurd ?_ hinert.unparted
        rw [h.split, hrest]
        exact (List.singleton_sublist.2 hopen).append
          ((List.singleton_sublist.2 hclose).cons_cons '|')
  rw [hbar]
  refine ⟨?_, by simp⟩
  simp [h.split, hrest, Scan.text]

/-- In an inert template every step copies what it reads. -/
theorem HasCopied.step (hinert : IsInert context.variables? template)
    (h : HasCopied template scan) : HasCopied template (scan.step context) := by
  obtain ⟨-, hstep⟩ | ⟨rest, hrest, hstep⟩ | ⟨rest, hrest, hstep⟩ | ⟨rest, hrest, hstep⟩ |
    ⟨c, rest, hrest, -, -, -, hstep⟩ := Scan.step_cases context scan
  · rwa [hstep]
  · rw [hstep]
    exact h.placeholder hinert hrest
  · rw [hstep]
    exact h.alternative hinert hrest
  · rw [hstep]
    constructor <;> simp [Scan.text, h.split, hrest]
  · rw [hstep, Char.toString_eq_singleton]
    exact h.write hrest

theorem HasCopied.run (hinert : IsInert context.variables? template)
    (h : HasCopied template scan) : scan.run context = template := by
  fun_induction Scan.run context scan with
  | case1 scan hend =>
    rw [← String.toList_inj, h.split, hend, List.append_nil]
  | case2 scan _ _ ih => exact ih (h.step hinert)

end Scan

/-- Where nothing applies, nothing is lost: an inert template resolves to itself. -/
theorem resolve_eq_self {template : String} {variables? : Option Variables}
    (hinert : IsInert variables? template) (modifiers? : Option Registry) :
    resolve template variables? modifiers? = template :=
  (Scan.HasCopied.start template).run hinert

/-- Bars without a parenthesis before them or behind them, a placeholder with modifiers, an empty
one, lone braces, and an opening mark that is never closed. -/
theorem resolve_eq_self_marks :
    IsInert (some ((∅ : Variables).insert "n" (.number 2)))
        "|) {{x:a|b}} \x7b\x7b\x7d\x7d \x7d\x7d\x7b (f(x) \x7b\x7b n|(" ∧
      resolve "|) {{x:a|b}} \x7b\x7b\x7d\x7d \x7d\x7d\x7b (f(x) \x7b\x7b n|("
          (some ((∅ : Variables).insert "n" (.number 2))) (some ∅) =
        "|) {{x:a|b}} \x7b\x7b\x7d\x7d \x7d\x7d\x7b (f(x) \x7b\x7b n|(" := by
  have hinert : IsInert (some ((∅ : Variables).insert "n" (.number 2)))
      "|) {{x:a|b}} \x7b\x7b\x7d\x7d \x7d\x7d\x7b (f(x) \x7b\x7b n|(" := by
    refine ⟨fun name hname => ?_, by decide +kernel⟩
    have hcases : name = "count" ∨ "n" = name := by
      simpa [Variables.Provides, Variables.supplies, Variables.countName] using hname
    rcases hcases with rfl | rfl <;> decide +kernel
  exact ⟨hinert, resolve_eq_self hinert (some ∅)⟩

end Phrasebook
