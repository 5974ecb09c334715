import Mathlib.Algebra.Order.BigOperators.Group.List
import Mathlib.Algebra.Order.Ring.Nat
import Phrasebook.Proofs.Template.Names
import Phrasebook.Proofs.Resolve.Agreement
import Phrasebook.Proofs.Resolve.Outline

/-!
# Which variables a template depends on

The text of a template depends on `count` and on the variables of the slots that its outline shows,
and on nothing else. Strict reading requires the variables of the placeholders among the segments.
Both name the same variables when every alternative closes its placeholders in its first branch. An
opening mark that a first branch leaves open is another matter: the scan reads a placeholder there
that swallows the bar, and strict reading knows nothing of its variable.
-/
namespace Phrasebook

/-- Two sets of variables agree on a list of names when each name is supplied by neither of them, or
with the same value by both. -/
def Variables.AgreeOn (names : List String) (first? second? : Option Variables) : Prop :=
  ∀ name ∈ names, first?.bind (·[name]?) = second?.bind (·[name]?)

/-- The second set supplies every variable that the first one supplies, with the same value. -/
def Variables.Extends (first? second? : Option Variables) : Prop :=
  ∀ (name : String) (value : Value),
    first?.bind (·[name]?) = some value → second?.bind (·[name]?) = some value

/-- Whether the named variables are all that the text of a template depends on. -/
def DependsOnlyOn (names : List String) (template : String) : Prop :=
  ∀ (modifiers? : Option Registry) (first? second? : Option Variables),
    Variables.AgreeOn names first? second? →
      resolve template first? modifiers? = resolve template second? modifiers?

namespace Variables
variable {names : List String} {first? second? : Option Variables}

theorem AgreeOn.lookup_eq (h : AgreeOn names first? second?) {name : String}
    (hname : name ∈ names) : lookup first? name = lookup second? name := by
  unfold lookup
  rw [h name hname]

theorem AgreeOn.count_eq (h : AgreeOn names first? second?) (hcount : countName ∈ names) :
    count first? = count second? := by
  unfold count
  rw [h countName hcount]

end Variables

theorem Context.slotText_congr {names : List String} {first? second? : Option Variables}
    (h : Variables.AgreeOn names first? second?) (modifiers? : Option Registry) {slot : Slot}
    (hslot : slot.name ∈ names) :
    (Context.mk first? modifiers?).slotText slot =
      (Context.mk second? modifiers?).slotText slot := by
  simp only [slotText, value?, h.lookup_eq hslot]

/-- A template of which every shown slot is named depends on nothing but the names. -/
theorem dependsOnlyOn_of_shownSlots {names : List String} {template : String}
    (hcount : Variables.countName ∈ names)
    (hslots : ∀ singular, ∀ slot ∈ shownSlots singular template, slot.name ∈ names) :
    DependsOnlyOn names template := by
  intro modifiers? first? second? hagree
  rw [resolve_eq_fill_outline, resolve_eq_fill_outline, hagree.count_eq hcount]
  unfold Context.fill
  congr 1
  refine List.map_congr_left fun piece hpiece => ?_
  cases piece with
  | copied text => rfl
  | shown slot =>
    have hshown : slot ∈ shownSlots (Variables.count second?).isOne template :=
      List.mem_filterMap.2 ⟨.shown slot, hpiece, rfl⟩
    exact Context.slotText_congr hagree modifiers? (hslots _ slot hshown)

/-- How long a filled outline is. -/
theorem Context.length_fill (context : Context) (pieces : List Piece) :
    (context.fill pieces).length = (pieces.map fun piece => (piece.fill context).length).sum := by
  induction pieces with
  | nil => rfl
  | cons piece pieces ih => simp [String.length_append, ih]

namespace Variables

/-- The variables that select a branch, and the empty text under one name more. -/
def ofCountAnd (singular : Bool) (name : String) : Variables :=
  (ofCount singular).insert name (.text "")

variable {singular : Bool} {name : String}

theorem count_ofCountAnd (hname : name ≠ countName) :
    count (some (ofCountAnd singular name)) = count (some (ofCount singular)) := by
  simp [count, ofCountAnd, Std.ExtTreeMap.getElem?_insert, hname]

/-- A supplied name that is empty shortens what is shown, and changes no other slot. -/
theorem length_slotText_ofCountAnd (hname : name ≠ countName) (slot : Slot) :
    ((Context.mk (some (ofCountAnd singular name)) none).slotText slot).length ≤
        ((Context.mk (some (ofCount singular)) none).slotText slot).length ∧
      (slot.name = name →
        ((Context.mk (some (ofCountAnd singular name)) none).slotText slot).length <
          ((Context.mk (some (ofCount singular)) none).slotText slot).length) := by
  by_cases hslot : slot.name = name
  · subst hslot
    have hempty : (Context.mk (some (ofCountAnd singular slot.name)) none).slotText slot = "" := by
      simp [Context.slotText, Context.value?, lookup, ofCountAnd]
    have hverbatim : (Context.mk (some (ofCount singular)) none).slotText slot =
        String.ofList (opening ++ slot.body ++ closing) := by
      simp [Context.slotText, Context.value?, lookup, ofCount, hname, Ne.symm hname]
    have hpos : "".length < (String.ofList (opening ++ slot.body ++ closing)).length := by
      rw [String.length_empty, String.length_ofList]
      simp only [opening, List.cons_append, List.length_cons]
      omega
    rw [hempty, hverbatim]
    exact ⟨hpos.le, fun _ => hpos⟩
  · have hother : lookup (some (ofCountAnd singular name)) slot.name =
        lookup (some (ofCount singular)) slot.name := by
      simp [lookup, ofCountAnd, Std.ExtTreeMap.getElem?_insert, Ne.symm hslot]
    simp only [Context.slotText, Context.value?, hother]
    exact ⟨le_rfl, fun heq => absurd heq hslot⟩

end Variables

/-- A variable whose slot is shown makes a difference: with the empty text for its value the output
is shorter than without it. -/
theorem mem_of_dependsOnlyOn {names : List String} {template : String} {singular : Bool}
    {slot : Slot} (hcount : Variables.countName ∈ names) (hdepends : DependsOnlyOn names template)
    (hslot : slot ∈ shownSlots singular template) : slot.name ∈ names := by
  by_contra hname
  have hne : slot.name ≠ Variables.countName := fun heq => hname (heq ▸ hcount)
  have hagree : Variables.AgreeOn names (some (.ofCountAnd singular slot.name))
      (some (.ofCount singular)) := by
    intro name hmem
    have hother : slot.name ≠ name := fun heq => hname (heq ▸ hmem)
    simp [Variables.ofCountAnd, Std.ExtTreeMap.getElem?_insert, hother]
  have hone : (Variables.count (some (Variables.ofCount singular))).isOne = singular :=
    Context.selectsSingular_ofCount singular none
  have heq := hdepends none _ _ hagree
  rw [resolve_eq_fill_outline, resolve_eq_fill_outline, Variables.count_ofCountAnd hne, hone] at heq
  obtain ⟨piece, hpiece, hshown⟩ := List.mem_filterMap.1 hslot
  have hlt : ((outline singular template).map fun piece =>
        (piece.fill ⟨some (.ofCountAnd singular slot.name), none⟩).length).sum <
      ((outline singular template).map fun piece =>
        (piece.fill ⟨some (.ofCount singular), none⟩).length).sum := by
    refine List.sum_lt_sum _ _ (fun other _ => ?_) ⟨piece, hpiece, ?_⟩
    · cases other with
      | copied text => exact le_rfl
      | shown slot => exact (Variables.length_slotText_ofCountAnd hne slot).1
    · cases piece with
      | copied text => simp [Piece.slot?] at hshown
      | shown slot' =>
        obtain rfl : slot' = slot := by simpa [Piece.slot?] using hshown
        exact (Variables.length_slotText_ofCountAnd hne slot').2 rfl
  rw [← Context.length_fill, ← Context.length_fill, heq] at hlt
  exact lt_irrefl _ hlt

/-- What a strictly read template stands for depends on its required variables and on `count`. -/
theorem Template.textUnder_congr {parsed : Template} {first? second? : Option Variables}
    (h : Variables.AgreeOn (Variables.countName :: parsed.requiredNames) first? second?)
    (modifiers? : Option Registry) :
    parsed.textUnder first? modifiers? = parsed.textUnder second? modifiers? := by
  unfold textUnder
  congr 1
  refine List.map_congr_left fun segment hsegment => ?_
  cases segment with
  | literal text => rfl
  | placeholder slot =>
    have hslot : slot.name ∈ Variables.countName :: parsed.requiredNames := by
      by_cases hname : slot.name = Variables.countName
      · exact hname ▸ List.mem_cons_self
      · exact List.mem_cons_of_mem _ (mem_requiredNames.2 ⟨hname, slot, hsegment, rfl⟩)
    simp only [Segment.textUnder, h.lookup_eq hslot]
  | alternative singular plural others =>
    simp only [Segment.textUnder, h.count_eq List.mem_cons_self]

/-- Where the first branches close their placeholders, strict reading requires all that matters. -/
theorem dependsOnlyOn_of_firstBranchesClose {template : String} {parsed : Template}
    (hparse : Template.parse template = .ok parsed) (hcloses : parsed.firstBranchesClose = true) :
    DependsOnlyOn (Variables.countName :: parsed.requiredNames) template := by
  intro modifiers? first? second? hagree
  have hresolve : ∀ variables?,
      resolve template variables? modifiers? = parsed.textUnder variables? modifiers? :=
    fun variables? => Scan.run_start_of_parse hparse hcloses
  rw [hresolve, hresolve]
  exact Template.textUnder_congr hagree modifiers?

/-- Variables that pass validation and variables that add more to them agree on what is required. -/
theorem Variables.agreeOn_of_validate {template : String} {names : List String}
    {first? second? : Option Variables} (hnames : requiredVariables template = .ok names)
    (hvalid : validate template first? = .ok ())
    (hmore : Extends first? second?) :
    AgreeOn names first? second? := by
  unfold validate at hvalid
  rw [hnames] at hvalid
  intro name hname
  cases hmissing : names.find? fun name => !supplies first? name with
  | some missing => simp [hmissing] at hvalid
  | none =>
    have hsupplied : supplies first? name = true := by
      simpa using List.find?_eq_none.1 hmissing name hname
    rw [supplies_eq_isSome] at hsupplied
    obtain ⟨value, hvalue⟩ := Option.isSome_iff_exists.1 hsupplied
    rw [hvalue, hmore name value hvalue]

/-- The text of a template depends on nothing but the required variables and `count` exactly when
every slot that it shows, for either branch, has one of these names. It is so when no alternative
leaves a placeholder open in its first branch. Wherever it is so, supplying more variables than
validation asks for changes nothing. -/
theorem dependsOnlyOn_required_iff {template : String} {names : List String}
    (hnames : requiredVariables template = .ok names) :
    (DependsOnlyOn (Variables.countName :: names) template ↔
      ∀ singular, ∀ slot ∈ shownSlots singular template,
        slot.name ∈ Variables.countName :: names) ∧
    (∀ parsed, Template.parse template = .ok parsed → parsed.firstBranchesClose = true →
      DependsOnlyOn (Variables.countName :: names) template) ∧
    (DependsOnlyOn (Variables.countName :: names) template →
      ∀ (modifiers? : Option Registry) (first? second? : Option Variables),
        validate template first? = .ok () → Variables.Extends first? second? →
        Variables.AgreeOn [Variables.countName] first? second? →
        resolve template first? modifiers? = resolve template second? modifiers?) := by
  refine ⟨⟨fun hdepends singular slot hslot => ?_, fun hslots => ?_⟩, ?_, ?_⟩
  · exact mem_of_dependsOnlyOn List.mem_cons_self hdepends hslot
  · exact dependsOnlyOn_of_shownSlots List.mem_cons_self hslots
  · intro parsed hparse hcloses
    obtain rfl : parsed.requiredNames = names := by
      simpa [requiredVariables, hparse, Except.map] using hnames
    exact dependsOnlyOn_of_firstBranchesClose hparse hcloses
  · intro hdepends modifiers? first? second? hvalid hmore hcount
    refine hdepends modifiers? first? second? fun name hname => ?_
    rcases List.mem_cons.1 hname with rfl | hname
    · exact hcount _ (by simp)
    · exact Variables.agreeOn_of_validate hnames hvalid hmore name hname

/-- A first branch that opens a placeholder and closes it. -/
theorem dependsOnlyOn_required_closed :
    requiredVariables "{{n}} ({{x}}|b)" = .ok ["n"] ∧
      DependsOnlyOn [Variables.countName, "n"] "{{n}} ({{x}}|b)" := by
  have hnames : requiredVariables "{{n}} ({{x}}|b)" = .ok ["n"] := by decide +kernel
  have hparse : Template.parse "{{n}} ({{x}}|b)" =
      .ok ⟨[.placeholder ⟨"n", []⟩, .literal " ", .alternative "{{x}}" "b" []]⟩ := by decide +kernel
  exact ⟨hnames, (dependsOnlyOn_required_iff hnames).2.1 _ hparse (by decide +kernel)⟩

/-- A first branch that leaves a placeholder open. The scan reads on to the closing mark behind the
alternative and shows a variable that is not required. -/
theorem not_dependsOnlyOn_required_swallowed :
    requiredVariables "({{x:|y)z}}" = .ok [] ∧
      ¬ DependsOnlyOn [Variables.countName] "({{x:|y)z}}" := by
  refine ⟨by decide +kernel, fun hdepends => ?_⟩
  have heq := hdepends none none (some ((∅ : Variables).insert "x" (.number 1))) (by
    intro name hname
    obtain rfl : name = Variables.countName := by simpa using hname
    simp [Variables.countName])
  have hfirst : resolve "({{x:|y)z}}" none none = "({{x:|y)z}}" := by decide +kernel
  have hsecond : resolve "({{x:|y)z}}" (some ((∅ : Variables).insert "x" (.number 1))) none =
      "(1" := by decide +kernel
  rw [hfirst, hsecond] at heq
  exact absurd heq (by decide)

end Phrasebook
