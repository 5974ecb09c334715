import Mathlib.Data.List.Nodup
import Phrasebook.Validation

/-!
# Names of a template

The names that a template uses are listed where they are first seen. A list without its later
repetitions has the same members, keeps the order in which they are seen first, and a search finds
in it what it finds in the whole list.
-/
namespace Phrasebook

section FirstSeen
variable {α : Type*} [BEq α]

/-- A list is gone through from its first element to the elements behind it that are different. -/
theorem firstSeen_induction {motive : List α → Prop} (nil : motive [])
    (cons : ∀ a list, motive (list.filter fun b => !b == a) → motive (a :: list)) :
    ∀ list, motive list
  | [] => nil
  | a :: list => cons a list (firstSeen_induction nil cons (list.filter fun b => !b == a))
termination_by list => list.length
decreasing_by exact Nat.lt_succ_of_le (List.length_filter_le _ list)

variable [LawfulBEq α]

/-- The first element that passes a test does not repeat an earlier one. -/
theorem find?_eraseDups (p : α → Bool) (list : List α) : list.eraseDups.find? p = list.find? p := by
  induction list using firstSeen_induction with
  | nil => rfl
  | cons a list ih =>
    rw [List.eraseDups_cons, List.find?_cons, List.find?_cons, ih, List.find?_filter]
    cases hp : p a with
    | true => rfl
    | false =>
      -- the elements that are left out are equal to `a`, which fails the test
      have hsame : (fun b => decide ((!b == a) = true ∧ p b = true)) = p := by
        funext b
        by_cases hb : b = a
        · simp [hb, hp]
        · simp [hb]
      rw [hsame]

/-- Elements that pass a filter stay in the order in which they are seen first. -/
theorem idxOf_lt_of_filter {p : α → Bool} {list : List α} {a b : α} (ha : p a = true)
    (hb : p b = true) (h : (list.filter p).idxOf a < (list.filter p).idxOf b) :
    list.idxOf a < list.idxOf b := by
  induction list with
  | nil => simp at h
  | cons c list ih =>
    by_cases hc : p c = true
    · rw [List.filter_cons_of_pos hc] at h
      by_cases hcb : c = b
      · simp [hcb] at h
      · by_cases hca : c = a
        · simp [hca, hca ▸ hcb]
        · rw [List.idxOf_cons_ne _ hca, List.idxOf_cons_ne _ hcb] at h ⊢
          have hmore := ih (by omega)
          omega
    · rw [List.filter_cons_of_neg hc] at h
      have hca : c ≠ a := fun heq => hc (heq ▸ ha)
      have hcb : c ≠ b := fun heq => hc (heq ▸ hb)
      have hmore := ih h
      rw [List.idxOf_cons_ne _ hca, List.idxOf_cons_ne _ hcb]
      omega

/-- Without later repetitions the elements stand in the order in which they are seen first. -/
theorem pairwise_eraseDups (list : List α) :
    list.eraseDups.Pairwise fun a b => list.idxOf a < list.idxOf b := by
  induction list using firstSeen_induction with
  | nil => exact .nil
  | cons a list ih =>
    have hne : ∀ b ∈ (list.filter fun b => !b == a).eraseDups, a ≠ b := by
      rintro b hb rfl
      simp [List.mem_eraseDups] at hb
    rw [List.eraseDups_cons, List.pairwise_cons]
    constructor
    · intro b hb
      simp [hne b hb]
    · refine ih.imp_of_mem fun {b c} hb hc hbc => ?_
      have hab := hne b hb
      have hac := hne c hc
      have hlt : list.idxOf b < list.idxOf c :=
        idxOf_lt_of_filter (by simpa using hab.symm) (by simpa using hac.symm) hbc
      rw [List.idxOf_cons_ne _ hab, List.idxOf_cons_ne _ hac]
      omega

end FirstSeen

namespace Template

variable {parsed : Template} {slot : Slot} {name : String}

/-- The names in the placeholders, from left to right. -/
def seenNames (parsed : Template) : List String :=
  parsed.slots.map Slot.name

theorem mem_slots : slot ∈ parsed.slots ↔ .placeholder slot ∈ parsed.segments := by
  simp only [slots, List.mem_filterMap]
  constructor
  · rintro ⟨segment, hsegment, hslot⟩
    cases segment <;> simp_all [Segment.slot?]
  · intro hmem
    exact ⟨_, hmem, rfl⟩

/-- The required variables are those of the placeholders, apart from `count`. -/
theorem mem_requiredNames :
    name ∈ parsed.requiredNames ↔
      name ≠ Variables.countName ∧
        ∃ slot, .placeholder slot ∈ parsed.segments ∧ slot.name = name := by
  simp [requiredNames, variableNames, mem_slots, and_comm]

/-- The required variables stand in the order in which they are seen first. -/
theorem pairwise_requiredNames (parsed : Template) :
    parsed.requiredNames.Pairwise fun first second =>
      parsed.seenNames.idxOf first < parsed.seenNames.idxOf second :=
  (pairwise_eraseDups parsed.seenNames).filter _

theorem nodup_requiredNames (parsed : Template) : parsed.requiredNames.Nodup :=
  parsed.pairwise_requiredNames.imp fun hlt heq =>
    Nat.ne_of_lt hlt (congrArg parsed.seenNames.idxOf heq)

/-- The first required variable that passes a test is that of the first placeholder whose name
passes it and is not `count`. -/
theorem find?_requiredNames (p : String → Bool) :
    parsed.requiredNames.find? p =
      (parsed.slots.find? fun slot => slot.name ≠ Variables.countName && p slot.name).map
        Slot.name := by
  rw [requiredNames, List.find?_filter, variableNames, find?_eraseDups, List.find?_map]
  congr 2
  funext slot
  simp

end Template

/-- A template that can be read requires the variables of its placeholders, apart from `count`. -/
def Requires (template name : String) : Prop :=
  ∃ parsed, Template.parse template = .ok parsed ∧ name ≠ Variables.countName ∧
    ∃ slot, .placeholder slot ∈ parsed.segments ∧ slot.name = name

theorem requires_iff {template name : String} {parsed : Template}
    (h : Template.parse template = .ok parsed) :
    Requires template name ↔ name ∈ parsed.requiredNames := by
  rw [Template.mem_requiredNames]
  constructor
  · rintro ⟨parsed', hparsed', hname⟩
    obtain rfl : parsed = parsed' := by simpa [h] using hparsed'
    exact hname
  · exact fun hname => ⟨parsed, h, hname⟩

end Phrasebook
