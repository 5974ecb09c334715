import Phrasebook.Proofs.Resolve.Agreement
import Phrasebook.Proofs.Template.Pruning

/-!
# What lint finds makes no difference elsewhere

A template is clean when a registry knows all its modifiers and no alternative has extra branches,
and then lint finds nothing. In a clean template no modifier is passed over, so a registry that
knows more modifiers gives the same text. Branches that lint reports can be cut off: the template
that is left has the same text, and lint finds in it what it found before, apart from the branches.
-/
namespace Phrasebook

/-- The second registry has every modifier of the first one under its name, and may have more. -/
def Registry.Extends (registry more : Registry) : Prop :=
  ∀ name ∈ registry, more[name]? = registry[name]?

/-- Whether a registry knows all modifiers of a template, and no branch of it is extra. -/
structure Template.IsClean (template : Template) (registry : Registry) : Prop where
  known : ∀ slot ∈ template.slots, ∀ name ∈ slot.modifiers, name ∈ registry
  pruned : template.pruned = template

namespace Registry
variable {registry more : Registry}

theorem Extends.apply_eq (h : registry.Extends more) {name : String} (hname : name ∈ registry)
    (value : Value) : more.apply name value = registry.apply name value := by
  unfold apply
  rw [h name hname]

/-- Known modifiers have the same effect in a registry that knows more. -/
theorem Extends.applyAll_eq (h : registry.Extends more) {names : List String}
    (hknown : ∀ name ∈ names, name ∈ registry) (value : Value) :
    more.applyAll names value = registry.applyAll names value := by
  induction names generalizing value with
  | nil => rfl
  | cons name names ih =>
    obtain ⟨hname, hnames⟩ := List.forall_mem_cons.1 hknown
    rw [applyAll_cons, applyAll_cons, h.apply_eq hname, ih hnames]

end Registry

/-- A segment has extra branches when pruning changes it. -/
theorem Segment.pruned_eq_self_iff {segment : Segment} :
    segment.pruned = segment ↔
      ∀ branches, segment.branches? = some branches → branches.length ≤ 2 := by
  cases segment with
  | literal text => simp [pruned, branches?]
  | placeholder slot => simp [pruned, branches?]
  | alternative singular plural others => cases others <;> simp [pruned, branches?]

@[simp] theorem Segment.pruned_pruned (segment : Segment) :
    segment.pruned.pruned = segment.pruned := by
  cases segment <;> rfl

namespace Template
variable {parsed : Template} {registry more : Registry}

@[simp] theorem pruned_pruned (parsed : Template) : parsed.pruned.pruned = parsed.pruned := by
  simp [pruned]

@[simp] theorem slots_pruned (parsed : Template) : parsed.pruned.slots = parsed.slots := by
  simp [slots, pruned, List.filterMap_map]

theorem unknownModifiers_pruned (parsed : Template) :
    parsed.pruned.unknownModifiers = parsed.unknownModifiers := by
  funext registry
  simp [unknownModifiers, modifierNames]

theorem firstBranchesClose_pruned (parsed : Template) :
    parsed.pruned.firstBranchesClose = parsed.firstBranchesClose := by
  have hsegment (segment : Segment) :
      segment.pruned.firstBranchCloses = segment.firstBranchCloses := by
    cases segment <;> rfl
  simp [firstBranchesClose, pruned, List.all_map, Function.comp_def, hsegment]

/-- The branches that are cut off are never selected. -/
theorem textUnder_pruned (parsed : Template) (variables? : Option Variables)
    (modifiers? : Option Registry) :
    parsed.pruned.textUnder variables? modifiers? = parsed.textUnder variables? modifiers? := by
  have hsegment (segment : Segment) :
      segment.pruned.textUnder variables? modifiers? = segment.textUnder variables? modifiers? := by
    cases segment <;> rfl
  simp [textUnder, pruned, Function.comp_def, hsegment]

theorem pruned_eq_self_iff :
    parsed.pruned = parsed ↔ ∀ segment ∈ parsed.segments, segment.pruned = segment := by
  obtain ⟨segments⟩ := parsed
  have hid : segments.map Segment.pruned = segments ↔
      segments.map Segment.pruned = segments.map id := by
    rw [List.map_id]
  simp only [pruned, Template.mk.injEq, hid, List.map_inj_left, id]

theorem extraBranches_eq_nil_iff : parsed.extraBranches = [] ↔ parsed.pruned = parsed := by
  simp only [pruned_eq_self_iff, Segment.pruned_eq_self_iff, extraBranches, alternatives,
    List.map_eq_nil_iff, List.filter_eq_nil_iff, List.mem_filterMap, decide_eq_true_eq, Nat.not_lt]
  constructor
  · intro h segment hsegment branches hbranches
    exact h branches ⟨segment, hsegment, hbranches⟩
  · rintro h branches ⟨segment, hsegment, hbranches⟩
    exact h segment hsegment branches hbranches

theorem extraBranches_pruned (parsed : Template) : parsed.pruned.extraBranches = [] := by
  rw [extraBranches_eq_nil_iff, pruned_pruned]

theorem unknownModifiers_eq_nil_iff :
    parsed.unknownModifiers registry = [] ↔
      ∀ slot ∈ parsed.slots, ∀ name ∈ slot.modifiers, name ∈ registry := by
  have hnames : parsed.unknownModifiers registry = [] ↔
      ∀ name ∈ parsed.modifierNames, name ∈ registry := by
    simp [unknownModifiers]
  rw [hnames]
  constructor
  · intro h slot hslot name hname
    exact h name (by simpa [modifierNames] using ⟨slot, hslot, hname⟩)
  · intro h name hmem
    obtain ⟨slot, hslot, hname⟩ : ∃ slot ∈ parsed.slots, name ∈ slot.modifiers := by
      simpa [modifierNames] using hmem
    exact h slot hslot name hname

/-- In a clean template a registry that knows more makes no difference. -/
theorem IsClean.textUnder_eq (h : parsed.IsClean registry) (hmore : registry.Extends more)
    (variables? : Option Variables) :
    parsed.textUnder variables? (some more) = parsed.textUnder variables? (some registry) := by
  unfold textUnder
  congr 1
  refine List.map_congr_left fun segment hsegment => ?_
  cases segment with
  | literal text => rfl
  | alternative singular plural others => rfl
  | placeholder slot =>
    have hslot : slot ∈ parsed.slots := List.mem_filterMap.2 ⟨.placeholder slot, hsegment, rfl⟩
    have hvalue : (Context.mk variables? (some more)).slotText slot =
        (Context.mk variables? (some registry)).slotText slot := by
      simp only [Context.slotText, Context.value?, hmore.applyAll_eq (h.known slot hslot)]
    rwa [Context.slotText_eq_textUnder, Context.slotText_eq_textUnder] at hvalue

end Template

/-- Lint finds nothing in clean templates, and in no others. -/
theorem Lint.findings_eq_nil_iff {source : String} {registry : Registry} :
    findings source (some registry) = [] ↔
      ∃ parsed, Template.parse source = .ok parsed ∧ parsed.IsClean registry := by
  unfold findings
  cases hparse : Template.parse source with
  | error cause => simp
  | ok parsed =>
    have hclean : parsed.IsClean registry ↔
        parsed.unknownModifiers registry = [] ∧ parsed.extraBranches = [] := by
      rw [Template.unknownModifiers_eq_nil_iff, Template.extraBranches_eq_nil_iff]
      exact ⟨fun h => ⟨h.known, h.pruned⟩, fun h => ⟨h.1, h.2⟩⟩
    simp [hclean]

/-- Lint finds in a template what it finds without the extra branches, and then these. -/
theorem Lint.findings_eq_pruned {source : String} {parsed : Template}
    (hparse : Template.parse source = .ok parsed) (modifiers? : Option Registry) :
    findings source modifiers? =
      findings parsed.pruned.print modifiers? ++ parsed.extraBranches := by
  simp [findings, hparse, Template.parse_pruned hparse, Template.unknownModifiers_pruned,
    Template.extraBranches_pruned]

/-- Take a template that closes the placeholders in its first branches. If lint finds nothing in it,
then the registry knows all its modifiers and every branch can be selected, and a registry that
knows more modifiers gives the same text. Whatever lint finds in it, cutting the extra branches off
leaves a template with the same text, in which lint finds the same apart from these branches. -/
theorem Lint.resolve_more_and_pruned {template : String}
    (hcloses : ∀ parsed, Template.parse template = .ok parsed → parsed.firstBranchesClose = true) :
    (∀ (group key : String) (registry : Registry),
      ofEntry group key template (some registry) = [] →
        (∃ parsed, Template.parse template = .ok parsed ∧ parsed.IsClean registry) ∧
        ∀ (variables? : Option Variables) (more : Registry), registry.Extends more →
          resolve template variables? (some more) = resolve template variables? (some registry)) ∧
    (∀ parsed, Template.parse template = .ok parsed →
      Template.parse parsed.pruned.print = .ok parsed.pruned ∧
      ∀ modifiers? : Option Registry,
        findings template modifiers? =
          findings parsed.pruned.print modifiers? ++ parsed.extraBranches ∧
        ∀ variables? : Option Variables,
          resolve parsed.pruned.print variables? modifiers? =
            resolve template variables? modifiers?) := by
  have hresolve {source : String} {parsed : Template} (hparse : Template.parse source = .ok parsed)
      (hcloses : parsed.firstBranchesClose = true) (variables? : Option Variables)
      (modifiers? : Option Registry) :
      resolve source variables? modifiers? = parsed.textUnder variables? modifiers? :=
    Scan.run_start_of_parse hparse hcloses
  refine ⟨fun group key registry hempty => ?_, fun parsed hparse => ?_⟩
  · have hfindings : findings template (some registry) = [] := by
      simpa [ofEntry] using hempty
    obtain ⟨parsed, hparse, hclean⟩ := findings_eq_nil_iff.1 hfindings
    refine ⟨⟨parsed, hparse, hclean⟩, fun variables? more hmore => ?_⟩
    rw [hresolve hparse (hcloses parsed hparse), hresolve hparse (hcloses parsed hparse)]
    exact hclean.textUnder_eq hmore variables?
  · have hparse' := Template.parse_pruned hparse
    have hcloses' : parsed.pruned.firstBranchesClose = true := by
      rw [Template.firstBranchesClose_pruned]
      exact hcloses parsed hparse
    refine ⟨hparse', fun modifiers? => ⟨findings_eq_pruned hparse modifiers?, fun variables? => ?_⟩⟩
    rw [hresolve hparse' hcloses', hresolve hparse (hcloses parsed hparse),
      Template.textUnder_pruned]

/-- A registry that knows the modifier of a placeholder and of a first branch, and one that knows
another modifier too; then an alternative of three branches, of which the last is cut off. -/
theorem Lint.resolve_more_and_pruned_up :
    let registry : Registry := (∅ : Registry).register "up" fun _ => .text "UP"
    (ofEntry "g" "k" "{{n:up}} ({{n:up}}|b)" (some registry) = [] ∧
      resolve "{{n:up}} ({{n:up}}|b)" (some ((∅ : Variables).insert "n" (.text "x")))
        (some (registry.register "low" id)) = "UP {{n:up}}") ∧
    (findings "f(({{n:up}}|b|)" (some registry) = [.extraBranches 3] ∧
      findings "f(({{n:up}}|b)" (some registry) = [] ∧
      resolve "f(({{n:up}}|b|)" (some ((∅ : Variables).insert "count" (.number 2))) none =
        "f(b") := by
  intro registry
  have hparse : Template.parse "{{n:up}} ({{n:up}}|b)" =
      .ok ⟨[.placeholder ⟨"n", ["up"]⟩, .literal " ", .alternative "{{n:up}}" "b" []]⟩ := by
    decide +kernel
  have hparse' : Template.parse "f(({{n:up}}|b|)" =
      .ok ⟨[.literal "f(", .alternative "{{n:up}}" "b" [""]]⟩ := by decide +kernel
  have hcloses : ∀ parsed, Template.parse "{{n:up}} ({{n:up}}|b)" = .ok parsed →
      parsed.firstBranchesClose = true := by
    intro parsed h
    obtain rfl := Except.ok.inj (hparse.symm.trans h)
    decide +kernel
  have hcloses' : ∀ parsed, Template.parse "f(({{n:up}}|b|)" = .ok parsed →
      parsed.firstBranchesClose = true := by
    intro parsed h
    obtain rfl := Except.ok.inj (hparse'.symm.trans h)
    decide +kernel
  have hempty : ofEntry "g" "k" "{{n:up}} ({{n:up}}|b)" (some registry) = [] := by decide +kernel
  have hmore : registry.Extends (registry.register "low" id) := by
    intro name hname
    obtain rfl : "up" = name := by simpa [registry, Registry.register] using hname
    simp [Registry.register, Std.ExtTreeMap.getElem?_insert]
  obtain ⟨-, hsame⟩ := (resolve_more_and_pruned hcloses).1 "g" "k" registry hempty
  obtain ⟨-, hpruned⟩ := (resolve_more_and_pruned hcloses').2 _ hparse'
  refine ⟨⟨hempty, ?_⟩, by decide +kernel, by decide +kernel, ?_⟩
  · rw [hsame _ _ hmore]
    decide +kernel
  · rw [← (hpruned none).2]
    decide +kernel

/-- A first branch that leaves a placeholder open. Lint sees no modifier, and the scan sees one. -/
example : Lint.findings "({{x:|y)z}}" (some ∅) = [] ∧
    resolve "({{x:|y)z}}" (some ((∅ : Variables).insert "x" (.number 1))) (some ∅) = "(1" ∧
    resolve "({{x:|y)z}}" (some ((∅ : Variables).insert "x" (.number 1)))
      (some ((∅ : Registry).register "|y)z" fun _ => .text "Z")) = "(Z" := by
  decide +kernel

end Phrasebook
