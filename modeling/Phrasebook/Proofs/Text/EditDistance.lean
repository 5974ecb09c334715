import Mathlib.Data.List.Basic
import Mathlib.Order.Bounds.Basic
import Mathlib.Order.ConditionallyCompleteLattice.Basic
import Mathlib.Order.Lattice.Nat
import Phrasebook.Text.EditDistance

/-!
# The edit distance is the least number of edits

An edit inserts, deletes or replaces one character. The rows of the computation hold the distances
between the parts of two texts that have been read, each of which is found from three shorter ones.
This recursion is attained by edits, and no edit changes a distance by more than one. The parts that
have been read grow at their end, so the recursion goes over reversed texts; reversing turns edits
into edits.
-/
namespace Phrasebook.Text

/-- One text becomes another by a single edit. -/
inductive Edit : List Char → List Char → Prop where
  | insert (before after : List Char) (c : Char) : Edit (before ++ after) (before ++ c :: after)
  | delete (before after : List Char) (c : Char) : Edit (before ++ c :: after) (before ++ after)
  | replace (before after : List Char) (c d : Char) :
    Edit (before ++ c :: after) (before ++ d :: after)

/-- One text becomes another by so many edits, one after the other. -/
inductive Edits : Nat → List Char → List Char → Prop where
  | refl (text : List Char) : Edits 0 text text
  | step {count : Nat} {source text target : List Char} (hsteps : Edits count source text)
    (hedit : Edit text target) : Edits (count + 1) source target

/-- The least number of edits that make `target` of `source`. -/
noncomputable def leastEdits (source target : List Char) : Nat :=
  sInf {count | Edits count source target}

variable {source target text : List Char}

theorem Edit.cons (c : Char) (h : Edit source target) : Edit (c :: source) (c :: target) := by
  cases h with
  | insert before after d => exact .insert (c :: before) after d
  | delete before after d => exact .delete (c :: before) after d
  | replace before after d e => exact .replace (c :: before) after d e

theorem Edit.reverse (h : Edit source target) : Edit source.reverse target.reverse := by
  cases h with
  | insert before after c => simpa using Edit.insert after.reverse before.reverse c
  | delete before after c => simpa using Edit.delete after.reverse before.reverse c
  | replace before after c d => simpa using Edit.replace after.reverse before.reverse c d

namespace Edits
variable {count : Nat}

theorem cons (c : Char) (h : Edits count source target) :
    Edits count (c :: source) (c :: target) := by
  induction h with
  | refl text => exact .refl (c :: text)
  | step _ hedit ih => exact ih.step (hedit.cons c)

theorem reverse (h : Edits count source target) : Edits count source.reverse target.reverse := by
  induction h with
  | refl text => exact .refl text.reverse
  | step _ hedit ih => exact ih.step hedit.reverse

theorem insert (c : Char) (h : Edits count source target) :
    Edits (count + 1) source (c :: target) :=
  h.step (.insert [] target c)

theorem delete (c : Char) (h : Edits count source target) :
    Edits (count + 1) (c :: source) target :=
  (h.cons c).step (.delete [] target c)

theorem replace (c d : Char) (h : Edits count source target) :
    Edits (count + 1) (c :: source) (d :: target) :=
  (h.cons c).step (.replace [] target c d)

end Edits

/-- The distance of two texts from the distances of what is behind their first characters. -/
def frontDistance : List Char → List Char → Nat
  | [], target => target.length
  | source, [] => source.length
  | c :: source, d :: target =>
    min (min (frontDistance source (d :: target) + 1) (frontDistance (c :: source) target + 1))
      (if c = d then frontDistance source target else frontDistance source target + 1)

@[simp] theorem frontDistance_nil_left (target : List Char) :
    frontDistance [] target = target.length := by
  simp [frontDistance]

@[simp] theorem frontDistance_nil_right (source : List Char) :
    frontDistance source [] = source.length := by
  cases source <;> simp [frontDistance]

theorem frontDistance_cons_cons (c d : Char) (source target : List Char) :
    frontDistance (c :: source) (d :: target) =
      min (min (frontDistance source (d :: target) + 1) (frontDistance (c :: source) target + 1))
        (if c = d then frontDistance source target else frontDistance source target + 1) := by
  rw [frontDistance]

@[simp] theorem frontDistance_self (text : List Char) : frontDistance text text = 0 := by
  induction text with
  | nil => simp
  | cons c text ih => simp [frontDistance_cons_cons, ih]

/-- As many edits as the distance says are enough. -/
theorem edits_frontDistance (source target : List Char) :
    Edits (frontDistance source target) source target := by
  fun_induction frontDistance source target with
  | case1 target =>
    induction target with
    | nil => exact .refl []
    | cons d target ih => exact ih.insert d
  | case2 source hne =>
    clear hne
    induction source with
    | nil => exact .refl []
    | cons c source ih => exact ih.delete c
  | case3 c source d target hdelete hinsert hboth =>
    rcases min_choice (min (frontDistance source (d :: target) + 1)
      (frontDistance (c :: source) target + 1))
      (if c = d then frontDistance source target else frontDistance source target + 1)
      with hmin | hmin <;> rw [hmin]
    · rcases min_choice (frontDistance source (d :: target) + 1)
        (frontDistance (c :: source) target + 1) with hone | hone <;> rw [hone]
      · exact hdelete.delete c
      · exact hinsert.insert d
    · split
      · rename_i hsame
        exact hsame ▸ hboth.cons c
      · exact hboth.replace c d

/-- A character more in the first text adds one to the distance at most. -/
theorem frontDistance_cons_left_le (c : Char) (source target : List Char) :
    frontDistance (c :: source) target ≤ frontDistance source target + 1 := by
  cases target with
  | nil => simp
  | cons d target => rw [frontDistance_cons_cons]; omega

theorem frontDistance_cons_right_le (d : Char) (source target : List Char) :
    frontDistance source (d :: target) ≤ frontDistance source target + 1 := by
  cases source with
  | nil => simp
  | cons c source => rw [frontDistance_cons_cons]; omega

/-- A character less in the second text adds one to the distance at most. -/
theorem frontDistance_le_cons_right (d : Char) (source target : List Char) :
    frontDistance source target ≤ frontDistance source (d :: target) + 1 := by
  induction source with
  | nil => simp; omega
  | cons c source ih =>
    have hfirst := frontDistance_cons_left_le c source target
    rw [frontDistance_cons_cons]
    split <;> omega

/-- Another first character in the second text adds one to the distance at most. -/
theorem frontDistance_replace_le (d e : Char) (source target : List Char) :
    frontDistance source (e :: target) ≤ frontDistance source (d :: target) + 1 := by
  induction source with
  | nil => simp
  | cons c source ih =>
    rw [frontDistance_cons_cons, frontDistance_cons_cons]
    split <;> split <;> omega

/-- What changes no distance by more than one does not do so behind one more character. -/
theorem frontDistance_cons_le {text target : List Char}
    (h : ∀ source, frontDistance source target ≤ frontDistance source text + 1) (d : Char)
    (source : List Char) :
    frontDistance source (d :: target) ≤ frontDistance source (d :: text) + 1 := by
  induction source with
  | nil => simpa using h []
  | cons c source ih =>
    have hboth := h source
    have hsecond := h (c :: source)
    rw [frontDistance_cons_cons, frontDistance_cons_cons]
    split <;> omega

/-- An edit changes no distance by more than one. -/
theorem frontDistance_le_of_edit (h : Edit text target) (source : List Char) :
    frontDistance source target ≤ frontDistance source text + 1 := by
  cases h with
  | insert before after c =>
    induction before generalizing source with
    | nil => exact frontDistance_cons_right_le c source after
    | cons d before ih => exact frontDistance_cons_le ih d source
  | delete before after c =>
    induction before generalizing source with
    | nil => exact frontDistance_le_cons_right c source after
    | cons d before ih => exact frontDistance_cons_le ih d source
  | replace before after c d =>
    induction before generalizing source with
    | nil => exact frontDistance_replace_le c d source after
    | cons e before ih => exact frontDistance_cons_le ih e source

/-- No fewer edits than the distance says are enough. -/
theorem frontDistance_le_of_edits {count : Nat} (h : Edits count source target) :
    frontDistance source target ≤ count := by
  induction h with
  | refl text => simp
  | step _ hedit ih => exact (frontDistance_le_of_edit hedit _).trans (Nat.add_le_add_right ih 1)

theorem isLeast_frontDistance (source target : List Char) :
    IsLeast {count | Edits count source target} (frontDistance source target) :=
  ⟨edits_frontDistance source target, fun _ hcount => frontDistance_le_of_edits hcount⟩

/-- The distances from a text to the prefixes of a text, of which `before` is read and `target` is
left. Both texts are reversed as far as they are read. -/
def prefixDistances (source : List Char) : (before target : List Char) → List Nat
  | before, [] => [frontDistance source before]
  | before, d :: target =>
    frontDistance source before :: prefixDistances source (d :: before) target

theorem prefixDistances_eq_cons (source before target : List Char) :
    prefixDistances source before target =
      frontDistance source before :: (prefixDistances source before target).tail := by
  cases target <;> rfl

/-- The row behind one more character of the first text is found from the row before. -/
theorem nextDistances_eq (c : Char) (source before target : List Char) :
    nextDistances c target (frontDistance source before) (frontDistance (c :: source) before)
        (prefixDistances source before target).tail =
      (prefixDistances (c :: source) before target).tail := by
  induction target generalizing before with
  | nil => rfl
  | cons d target ih =>
    have hrow := prefixDistances_eq_cons source (d :: before) target
    have hnext := prefixDistances_eq_cons (c :: source) (d :: before) target
    simp only [prefixDistances, List.tail_cons]
    rw [hrow, hnext, nextDistances, ← frontDistance_cons_cons, ih]

/-- The last row holds the distances from the whole text. -/
theorem distances_eq (target source read : List Char) :
    distances target source (prefixDistances read [] target) =
      prefixDistances (source.reverse ++ read) [] target := by
  induction source generalizing read with
  | nil => rfl
  | cons c source ih =>
    have hrow := prefixDistances_eq_cons read [] target
    have hnext := prefixDistances_eq_cons (c :: read) [] target
    have hfirst : frontDistance read [] + 1 = frontDistance (c :: read) [] := by simp
    rw [hrow, distances, hfirst, nextDistances_eq, ← hnext, ih]
    simp

/-- From the empty text every prefix is as far as it is long. -/
theorem prefixDistances_nil (before target : List Char) :
    prefixDistances [] before target = List.range' before.length (target.length + 1) := by
  induction target generalizing before with
  | nil => simp [prefixDistances]
  | cons d target ih => simp [prefixDistances, ih, List.range'_succ]

theorem getLastD_prefixDistances (source before target : List Char) :
    (prefixDistances source before target).getLastD 0 =
      frontDistance source (target.reverse ++ before) := by
  induction target generalizing before with
  | nil => rfl
  | cons d target ih =>
    have hrow := prefixDistances_eq_cons source (d :: before) target
    have hlast := ih (d :: before)
    rw [hrow] at hlast
    rw [prefixDistances, hrow]
    simpa using hlast

/-- The computation gives the distance of the reversed texts. -/
theorem editDistance_eq_frontDistance (source target : List Char) :
    editDistance source target = frontDistance source.reverse target.reverse := by
  have hstart : List.range (target.length + 1) = prefixDistances [] [] target := by
    rw [prefixDistances_nil, List.range_eq_range', List.length_nil]
  rw [editDistance, hstart, distances_eq, getLastD_prefixDistances]
  simp

/-- As many edits as the computed distance lead from one text to the other, and no fewer do. -/
theorem isLeast_editDistance (source target : List Char) :
    IsLeast {count | Edits count source target} (editDistance source target) := by
  have hreverse : {count | Edits count source target} =
      {count | Edits count source.reverse target.reverse} := by
    ext count
    exact ⟨Edits.reverse, fun h => by simpa using h.reverse⟩
  rw [hreverse, editDistance_eq_frontDistance]
  exact isLeast_frontDistance source.reverse target.reverse

theorem editDistance_eq_leastEdits (source target : List Char) :
    editDistance source target = leastEdits source target :=
  (isLeast_editDistance source target).csInf_eq.symm

/-- Only equal texts have no edit between them. -/
theorem leastEdits_eq_zero_iff : leastEdits source target = 0 ↔ source = target := by
  rw [← editDistance_eq_leastEdits]
  constructor
  · intro hzero
    have hedits : Edits (editDistance source target) source target :=
      (isLeast_editDistance source target).1
    rw [hzero] at hedits
    cases hedits
    rfl
  · rintro rfl
    simp [editDistance_eq_frontDistance]

end Phrasebook.Text
