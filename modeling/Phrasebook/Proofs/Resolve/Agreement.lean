import Mathlib.Data.List.Basic
import Phrasebook.Proofs.Resolve.Step

/-!
# Forgiving and strict reading agree

What a strictly read template stands for is said segment by segment, without a scan. The scan writes
the same, as long as every alternative closes its placeholders in its first branch: it is in step
with the segments at every boundary, although inside an alternative it has written text that it
takes back at the bar.
-/
namespace Phrasebook

/-- The text that a segment stands for. Literal text stands for itself, a placeholder for the value
of its variable behind its modifiers, or for its own source when there is no value, and an
alternative for the branch that `count` selects, as it is written. -/
def Segment.textUnder (variables? : Option Variables) (modifiers? : Option Registry) :
    Segment → String
  | .literal text => text
  | .placeholder slot =>
    match Variables.lookup variables? slot.name with
    | some value =>
      (slot.modifiers.foldl (fun value name =>
        ((modifiers?.bind (·[name]?)).getD id) value) value).toText
    | none => String.ofList (Segment.placeholder slot).source
  | .alternative singular plural _ =>
    if (Variables.count variables?).isOne then singular else plural

/-- The text that a template stands for, one segment after the other. -/
def Template.textUnder (variables? : Option Variables) (modifiers? : Option Registry)
    (template : Template) : String :=
  String.join (template.segments.map (Segment.textUnder variables? modifiers?))

/-- Without a registry every modifier is unknown, and an unknown one leaves the value as it is. -/
theorem Context.slotText_eq_textUnder (context : Context) (slot : Slot) :
    context.slotText slot =
      (Segment.placeholder slot).textUnder context.variables? context.modifiers? := by
  unfold Context.slotText Context.value?
  simp only [Segment.textUnder]
  cases Variables.lookup context.variables? slot.name with
  | none => rfl
  | some value =>
    cases context.modifiers? with
    | none => simp [List.foldl_fixed]
    | some modifiers =>
      have hstep : ∀ (value : Value) (name : String),
          modifiers.apply name value = (modifiers[name]?.getD id) value := by
        intro value name
        unfold Registry.apply
        cases modifiers[name]? <;> rfl
      simp [Registry.applyAll, hstep]

namespace Scan
variable {context : Context} {text after : List Char} {segment : Segment}

/-- In an alternative that closes its placeholders in the first branch, the bar that the scan meets
first is the one behind that branch. No parenthesis is open behind the alternative. -/
theorem reaches_alternative (h : Template.alternative? text = some (segment, after))
    (hcloses : segment.firstBranchCloses = true) {scan : Scan} (hrest : scan.rest = text) :
    Reaches context scan
      ⟨after, scan.text ++ segment.textUnder context.variables? context.modifiers?, none⟩ := by
  obtain ⟨singular, plural, others, rfl, rfl, hbranches⟩ := Template.alternative?_eq_some h
  obtain ⟨hbar, hopen, -⟩ := hbranches singular (by simp)
  have hbranch : closesPlaceholders singular = true := by
    simpa [Segment.firstBranchCloses] using hcloses
  have hothers : ∀ branch ∈ plural :: others, '|' ∉ branch ∧ ')' ∉ branch :=
    fun branch hmem => ⟨(hbranches branch (by simp_all)).1, (hbranches branch (by simp_all)).2.2⟩
  have hfields : Text.fields '|' (Text.joinFields '|' plural others) = (plural, others) :=
    Text.fields_joinFields (hothers plural (by simp)).1
      fun branch hmem => (hothers branch (by simp [hmem])).1
  have hcut : Text.cutAt ')' (Text.joinFields '|' plural others ++ ')' :: after) =
      some (Text.joinFields '|' plural others, after) := by
    refine Text.cutAt_eq_some_iff.2 ⟨rfl, fun hmem => ?_⟩
    obtain ⟨branch, hbranch, hparen⟩ := (Text.mem_joinFields (by decide)).1 hmem
    exact (hothers branch hbranch).2 hparen
  have hsplit : scan.rest =
      '(' :: (singular ++ '|' :: (Text.joinFields '|' plural others ++ ')' :: after)) := by
    simpa using hrest
  obtain ⟨held, hreach⟩ := reaches_bar hbranch hbar hopen
    (Text.joinFields '|' plural others ++ ')' :: after) scan.text "(" ""
  refine .head ⟨by simp [hsplit], step_paren hsplit⟩ (hreach.tail ⟨by simp, ?_⟩)
  rw [step_bar_of_cut hcut]
  simp [hfields, Segment.textUnder, Context.selectsSingular]

theorem inStep_alternative (h : Template.alternative? text = some (segment, after))
    (hcloses : segment.firstBranchCloses = true) :
    InStep context text (segment.textUnder context.variables? context.modifiers?) after :=
  fun _ hrest => ⟨_, reaches_alternative h hcloses hrest, rfl, rfl⟩

/-- Whatever segment is read, the scan writes what it stands for. -/
theorem inStep_segment (h : Template.segment? text = some (segment, after))
    (hcloses : segment.firstBranchCloses = true) :
    InStep context text (segment.textUnder context.variables? context.modifiers?) after := by
  rcases Template.segment?_cases h with ⟨slot, rfl, hslot⟩ | halternative | hliteral
  · obtain ⟨rest, body, rfl, hbody, rfl⟩ := Template.placeholder?_eq_some hslot
    rw [← Context.slotText_eq_textUnder]
    exact inStep_placeholder hbody
  · exact inStep_alternative halternative hcloses
  · obtain ⟨rfl, rfl⟩ := Template.literal?_eq_some hliteral
    have hplain : InStep context
        ((Template.literalRun text).1 ++ (Template.literalRun text).2)
        (String.ofList (Template.literalRun text).1) (Template.literalRun text).2 :=
      inStep_plain (Template.literalRun_isPlainBefore text)
    rwa [Template.literalRun_append] at hplain

/-- The scan is in step at the end of every template that can be read strictly. -/
theorem inStep_segmentsOf {segments : List Segment}
    (h : Template.segmentsOf text = .ok segments)
    (hcloses : segments.all Segment.firstBranchCloses = true) :
    InStep context text
      (String.join (segments.map (Segment.textUnder context.variables? context.modifiers?)))
      [] := by
  fun_induction Template.segmentsOf text generalizing segments with
  | case1 text segment after hsegment _ ih =>
    cases hafter : Template.segmentsOf after with
    | error unread => simp [hafter] at h
    | ok more =>
      obtain rfl : segment :: more = segments := by simpa [hafter] using h
      simp only [List.all_cons, Bool.and_eq_true] at hcloses
      rw [List.map_cons, String.join_cons]
      exact (inStep_segment hsegment hcloses.1).trans (ih hafter hcloses.2)
  | case2 text _ hempty =>
    obtain rfl : [] = segments := by simpa using h
    obtain rfl : text = [] := by simpa using hempty
    exact InStep.refl []
  | case3 => simp at h

theorem run_start_of_parse {template : String} {parsed : Template}
    (hparse : Template.parse template = .ok parsed) (hcloses : parsed.firstBranchesClose = true) :
    (start template.toList).run context =
      parsed.textUnder context.variables? context.modifiers? :=
  (inStep_segmentsOf (Template.segmentsOf_of_parse hparse) hcloses).run_start

end Scan

end Phrasebook
