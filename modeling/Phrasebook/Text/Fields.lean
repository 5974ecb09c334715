/-!
# Cutting text

Templates, option values and paths are cut at single characters. A text always has a first
field, so the fields are a pair of the first one and the others: an empty list of fields does
not exist. Joining the fields gives the text back, and no field holds the separator.
-/
namespace Phrasebook.Text

/-- What stands before the first separator, and the fields after it. -/
def fields (separator : Char) : List Char → List Char × List (List Char)
  | [] => ([], [])
  | c :: cs =>
    if c = separator then ([], (fields separator cs).1 :: (fields separator cs).2)
    else (c :: (fields separator cs).1, (fields separator cs).2)

/-- The fields written one after the other with the separator between them. -/
def joinFields (separator : Char) (first : List Char) (others : List (List Char)) : List Char :=
  first ++ others.flatMap (separator :: ·)

@[simp] theorem joinFields_nil (separator : Char) (first : List Char) :
    joinFields separator first [] = first := by
  simp [joinFields]

@[simp] theorem joinFields_cons (separator : Char) (first next : List Char)
    (others : List (List Char)) :
    joinFields separator first (next :: others) =
      first ++ separator :: joinFields separator next others := by
  simp [joinFields]

/-- Cutting loses nothing. -/
@[simp] theorem joinFields_fields (separator : Char) (text : List Char) :
    joinFields separator (fields separator text).1 (fields separator text).2 = text := by
  induction text with
  | nil => rfl
  | cons c cs ih =>
    by_cases h : c = separator
    · simp [fields, h, ih]
    · simpa [fields, h, joinFields] using ih

/-- A text without the separator is its own only field. -/
theorem fields_of_not_mem {separator : Char} {text : List Char} (h : separator ∉ text) :
    fields separator text = (text, []) := by
  induction text with
  | nil => rfl
  | cons c cs ih =>
    have hc : c ≠ separator := by rintro rfl; simp at h
    simp [fields, hc, ih (by simp_all)]

/-- The first field ends at the first separator. -/
theorem fields_append_cons {separator : Char} {first : List Char} (h : separator ∉ first)
    (rest : List Char) :
    fields separator (first ++ separator :: rest) =
      (first, (fields separator rest).1 :: (fields separator rest).2) := by
  induction first with
  | nil => simp [fields]
  | cons c cs ih =>
    have hc : c ≠ separator := by rintro rfl; simp at h
    simp [fields, hc, ih (by simp_all)]

/-- Cutting undoes joining. -/
theorem fields_joinFields {separator : Char} {first : List Char} {others : List (List Char)}
    (h : separator ∉ first) (hs : ∀ field ∈ others, separator ∉ field) :
    fields separator (joinFields separator first others) = (first, others) := by
  induction others generalizing first with
  | nil => simp [fields_of_not_mem h]
  | cons next others ih =>
    rw [joinFields_cons, fields_append_cons h,
      ih (hs next (by simp)) fun field hf => hs field (by simp [hf])]

/-- No field holds the separator. -/
theorem not_mem_fields (separator : Char) (text : List Char) :
    separator ∉ (fields separator text).1 ∧
      ∀ field ∈ (fields separator text).2, separator ∉ field := by
  induction text with
  | nil => simp [fields]
  | cons c cs ih =>
    by_cases h : c = separator
    · simp [fields, h, ih.1]; exact ih.2
    · simp [fields, h, ih.1, Ne.symm h]; exact ih.2

/-- The text before the first `stop` and the text after it, if there is one. -/
def cutAt (stop : Char) : List Char → Option (List Char × List Char)
  | [] => none
  | c :: cs => if c = stop then some ([], cs) else (cutAt stop cs).map fun (a, b) => (c :: a, b)

/-- A cut is made at the first place that holds `stop`. -/
theorem cutAt_eq_some_iff {stop : Char} {text before after : List Char} :
    cutAt stop text = some (before, after) ↔
      text = before ++ stop :: after ∧ stop ∉ before := by
  induction text generalizing before with
  | nil => simp [cutAt]
  | cons c cs ih =>
    by_cases h : c = stop
    · subst h
      cases before with
      | nil => simp [cutAt]
      | cons b bs => simp [cutAt]; intros; simp_all
    · cases before with
      | nil => simp [cutAt, h]
      | cons b bs => simp [cutAt, h, ih]; grind

@[simp] theorem cutAt_eq_none_iff {stop : Char} {text : List Char} :
    cutAt stop text = none ↔ stop ∉ text := by
  induction text with
  | nil => simp [cutAt]
  | cons c cs ih =>
    by_cases h : c = stop
    · simp [cutAt, h]
    · simp [cutAt, h, ih, Ne.symm h]

end Phrasebook.Text
