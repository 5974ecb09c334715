import Phrasebook.Proofs.Resolve.Agreement
import Phrasebook.Proofs.Template.Flaws

/-!
# Resolving piece by piece

Text that is appended to a template can change how the template is read: a bar may reach back to a
parenthesis that is open, and a brace may complete an opening mark. Where nothing is left open it
changes nothing. The scan crosses a closed template without an open parenthesis at either end, so
the text behind it is resolved as if it stood alone.
-/
namespace Phrasebook

/-- Text that is plain before the rest of a template stays plain when more is appended, unless this
could complete an opening mark at the end. -/
theorem IsPlainBefore.append {rest text : List Char} (h : IsPlainBefore rest text)
    (hlast : (text ++ rest).getLast? ≠ some '{') (tail : List Char) :
    IsPlainBefore (rest ++ tail) text := by
  obtain ⟨hbar, hmark⟩ := isPlainBefore_iff.1 h
  refine isPlainBefore_iff.2 ⟨hbar, ?_⟩
  cases rest with
  | cons c rest => simpa using hmark
  | nil =>
    cases tail with
    | nil => simpa using hmark
    | cons c tail =>
      unfold opening at hmark ⊢
      simp only [List.append_nil, List.take_nil] at hlast hmark
      simp [pair_infix_append_singleton_iff, hmark, hlast]

/-- Whether no literal text of a template has a parenthesis, which a bar could reach back to. -/
def Template.HasParenlessLiterals (template : Template) : Prop :=
  ∀ text, .literal text ∈ template.segments → '(' ∉ text.toList

namespace Scan
variable {context : Context}

/-- A scan with more text written before it. -/
def behind (written : String) (scan : Scan) : Scan :=
  { scan with output := written ++ scan.output }

section Behind
variable (written : String) (scan : Scan)

@[simp] theorem rest_behind : (scan.behind written).rest = scan.rest := rfl

@[simp] theorem text_behind : (scan.behind written).text = written ++ scan.text := by
  unfold text behind
  cases scan.paren? <;> simp [String.append_assoc]

theorem write_behind (output source : String) (rest : List Char) :
    (scan.behind written).write output source rest =
      (scan.write output source rest).behind written := by
  unfold write behind
  cases scan.paren? <;> simp [String.append_assoc]

theorem placeholder_behind (rest : List Char) :
    (scan.behind written).placeholder context rest =
      (scan.placeholder context rest).behind written := by
  unfold placeholder
  cases untilClosing rest with
  | none => exact write_behind ..
  | some cut => exact write_behind ..

theorem alternative_behind (rest : List Char) :
    (scan.behind written).alternative context rest =
      (scan.alternative context rest).behind written := by
  have hbar : (⟨rest, (scan.behind written).text.push '|', none⟩ : Scan) =
      behind written ⟨rest, scan.text.push '|', none⟩ := by
    rw [text_behind, String.push_eq_append, String.push_eq_append, String.append_assoc]
    rfl
  unfold alternative
  cases hparen : scan.paren? with
  | none => simpa [behind, hparen] using hbar
  | some paren =>
    cases Text.cutAt ')' rest with
    | none => simpa [behind, hparen] using hbar
    | some cut => simp [behind, hparen, String.append_assoc]

/-- A step does not look at what has been written. -/
theorem step_behind : (scan.behind written).step context = (scan.step context).behind written := by
  unfold step
  rw [rest_behind]
  split
  · rfl
  · exact placeholder_behind ..
  · exact alternative_behind ..
  · rw [text_behind]
    rfl
  · exact write_behind ..

end Behind

/-- What has been written stays in front of what a scan writes from then on. -/
theorem run_behind (written : String) (scan : Scan) :
    (scan.behind written).run context = written ++ scan.run context := by
  fun_induction run context scan with
  | case1 scan hend =>
    have hend' : (scan.behind written).rest = [] := hend
    rw [run_of_rest_eq_nil hend', text_behind]
  | case2 scan hrest _ ih =>
    have hrest' : (scan.behind written).rest ≠ [] := hrest
    rw [← ih, ← step_behind, run_step hrest']

/-- With no parenthesis open, a scan gets from `text` to `after` and writes `output` on the way, and
again no parenthesis is open. -/
def Crosses (context : Context) (text : List Char) (output : String) (after : List Char) : Prop :=
  ∀ written : String, Reaches context ⟨text, written, none⟩ ⟨after, written ++ output, none⟩

theorem Crosses.refl (text : List Char) : Crosses context text "" text := by
  intro written
  rw [String.append_empty]

theorem Crosses.trans {first middle last : List Char} {output more : String}
    (h : Crosses context first output middle) (h' : Crosses context middle more last) :
    Crosses context first (output ++ more) last := by
  intro written
  rw [← String.append_assoc]
  exact (h written).trans (h' (written ++ output))

/-- What stands behind a part that is crossed is resolved on its own. -/
theorem Crosses.run_start {text after : List Char} {output : String}
    (h : Crosses context text output after) :
    (start text).run context = output ++ (start after).run context := by
  have hreach := h ""
  rw [String.empty_append] at hreach
  calc (start text).run context = run context ⟨after, output, none⟩ := run_eq_of_reaches hreach
    _ = run context ((start after).behind output) := by simp [start, behind]
    _ = output ++ (start after).run context := run_behind output (start after)

variable {text after rest body : List Char} {segment : Segment} {segments : List Segment}

theorem crosses_plain (hplain : IsPlainBefore rest text) (hparen : '(' ∉ text) :
    Crosses context (text ++ rest) (String.ofList text) rest := by
  induction text with
  | nil => exact Crosses.refl rest
  | cons c text ih =>
    obtain ⟨hbar, hopen, htext⟩ := hplain
    have hstep : Crosses context (c :: (text ++ rest)) c.toString (text ++ rest) := fun written =>
      .single ⟨by simp, step_char rfl hopen hbar (by rintro rfl; simp at hparen)⟩
    rw [String.ofList_cons, ← Char.toString_eq_singleton]
    exact hstep.trans (ih htext (List.not_mem_of_not_mem_cons hparen))

theorem crosses_placeholder (hbody : untilClosing rest = some (body, after)) :
    Crosses context (opening ++ rest) (context.slotText (Slot.ofBody body)) after := fun _ =>
  .single ⟨by simp [opening], (step_opening rfl).trans (placeholder_of_untilClosing hbody)⟩

theorem crosses_alternative (h : Template.alternative? text = some (segment, after))
    (hcloses : segment.firstBranchCloses = true) :
    Crosses context text (segment.textUnder context.variables? context.modifiers?) after :=
  fun _ => reaches_alternative h hcloses rfl

/-- A segment is crossed when more text follows. -/
theorem crosses_segment (h : Template.segment? text = some (segment, after))
    (hparens : ∀ literal, segment = .literal literal → '(' ∉ literal.toList)
    (hcloses : segment.firstBranchCloses = true) (hlast : text.getLast? ≠ some '{')
    (tail : List Char) :
    Crosses context (text ++ tail) (segment.textUnder context.variables? context.modifiers?)
      (after ++ tail) := by
  rcases Template.segment?_cases h with ⟨slot, rfl, hslot⟩ | halternative | hliteral
  · obtain ⟨rest, body, rfl, hbody, rfl⟩ := Template.placeholder?_eq_some hslot
    rw [← Context.slotText_eq_textUnder, List.append_assoc]
    exact crosses_placeholder (untilClosing_append hbody tail)
  · exact crosses_alternative (Template.alternative?_append halternative tail) hcloses
  · obtain ⟨rfl, rfl⟩ := Template.literal?_eq_some hliteral
    have happend := Template.literalRun_append text
    have hrun : IsPlainBefore ((Template.literalRun text).2 ++ tail) (Template.literalRun text).1 :=
      (Template.literalRun_isPlainBefore text).append (by rwa [happend]) tail
    have hcrosses : Crosses context
        ((Template.literalRun text).1 ++ ((Template.literalRun text).2 ++ tail))
        (String.ofList (Template.literalRun text).1) ((Template.literalRun text).2 ++ tail) :=
      crosses_plain hrun (by simpa using hparens _ rfl)
    rwa [← List.append_assoc, happend] at hcrosses

/-- All segments of a template are crossed, one after the other. -/
theorem crosses_readsTo (h : Template.ReadsTo text segments rest)
    (hparens : Template.HasParenlessLiterals ⟨segments⟩)
    (hcloses : segments.all Segment.firstBranchCloses = true) (hlast : text.getLast? ≠ some '{')
    (tail : List Char) :
    Crosses context (text ++ tail)
      (String.join (segments.map (Segment.textUnder context.variables? context.modifiers?)))
      (rest ++ tail) := by
  induction h with
  | nil text => exact Crosses.refl _
  | @cons text after rest segment segments hsegment _ ih =>
    simp only [List.all_cons, Bool.and_eq_true] at hcloses
    obtain ⟨rfl, -⟩ := Template.segment?_source hsegment
    have hlast' : after.getLast? ≠ some '{' := fun hbrace => hlast (by simp [hbrace])
    have hfirst : Crosses context (segment.source ++ after ++ tail)
        (segment.textUnder context.variables? context.modifiers?) (after ++ tail) :=
      crosses_segment hsegment (fun literal hkind => hparens literal (hkind ▸ List.mem_cons_self))
        hcloses.1 hlast tail
    have hmore := ih (fun literal hmem => hparens literal (List.mem_cons_of_mem _ hmem)) hcloses.2
      hlast'
    rw [List.map_cons, String.join_cons]
    exact hfirst.trans hmore

end Scan

/-- A template that leaves nothing open is resolved on its own, whatever is appended to it. It
leaves nothing open when it can be read strictly, has no parenthesis in its literal text, closes its
placeholders in the first branches, and does not end in a brace that could open a placeholder. -/
theorem resolve_append {front : String} {parsed : Template}
    (hparse : Template.parse front = .ok parsed) (hparens : parsed.HasParenlessLiterals)
    (hcloses : parsed.firstBranchesClose = true) (hlast : front.toList.getLast? ≠ some '{')
    (rest : String) (variables? : Option Variables) (modifiers? : Option Registry) :
    resolve (front ++ rest) variables? modifiers? =
      resolve front variables? modifiers? ++ resolve rest variables? modifiers? := by
  have hreads := Template.readsTo_of_segmentsOf_ok (Template.segmentsOf_of_parse hparse)
  have hcrosses (tail : List Char) : Scan.Crosses ⟨variables?, modifiers?⟩ (front.toList ++ tail)
      (parsed.textUnder variables? modifiers?) tail :=
    Scan.crosses_readsTo hreads hparens hcloses hlast tail
  have hwhole : resolve (front ++ rest) variables? modifiers? =
      parsed.textUnder variables? modifiers? ++ resolve rest variables? modifiers? := by
    unfold resolve
    rw [String.toList_append]
    exact (hcrosses rest.toList).run_start
  have halone : resolve front variables? modifiers? = parsed.textUnder variables? modifiers? := by
    have hstart := (hcrosses []).run_start
    have hend : (Scan.start []).rest = [] := rfl
    rwa [List.append_nil, Scan.run_of_rest_eq_nil hend, Scan.text_start, String.append_empty]
      at hstart
  rw [hwhole, halone]

/-- A value that is a parenthesis, braces inside branches, and behind the template a bar, a plural
branch and an opening mark. -/
theorem resolve_append_bars :
    Template.parse "a{{n}})(x\x7b|\x7b\x7by)\x7d" =
        .ok ⟨[.literal "a", .placeholder ⟨"n", []⟩, .literal ")",
          .alternative "x\x7b" "\x7b\x7by" [], .literal "\x7d"]⟩ ∧
      resolve ("a{{n}})(x\x7b|\x7b\x7by)\x7d" ++ "|b)\x7b\x7b(")
          (some ((∅ : Variables).insert "n" (.text "("))) none =
        "a()x\x7b\x7d" ++ "|b)\x7b\x7b(" := by
  have hparse : Template.parse "a{{n}})(x\x7b|\x7b\x7by)\x7d" =
      .ok ⟨[.literal "a", .placeholder ⟨"n", []⟩, .literal ")",
        .alternative "x\x7b" "\x7b\x7by" [], .literal "\x7d"]⟩ := by decide +kernel
  have hparens : Template.HasParenlessLiterals ⟨[.literal "a", .placeholder ⟨"n", []⟩, .literal ")",
      .alternative "x\x7b" "\x7b\x7by" [], .literal "\x7d"]⟩ := by
    simp [Template.HasParenlessLiterals]
  refine ⟨hparse, ?_⟩
  rw [resolve_append hparse hparens (by decide +kernel) (by decide +kernel)]
  decide +kernel

/-- A parenthesis in literal text is one that a bar reaches back to. -/
example : resolve "f(" none none = "f(" ∧ resolve "a|b)" none none = "a|b)" ∧
    resolve ("f(" ++ "a|b)") none none = "fa" := by decide +kernel

end Phrasebook
