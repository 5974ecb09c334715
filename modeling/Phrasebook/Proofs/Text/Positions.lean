import Mathlib.Data.List.DropRight
import Phrasebook.Text.Position

/-!
# Positions and bytes

A place in a text can be told by its line and column or by the bytes before it. The position behind
a text leads back to the bytes of that text, whatever follows. Any other position leads to some
place between two characters, because lines and columns are counted off in whole characters and
counting ends where the text does.
-/
namespace Phrasebook.Text

/-- A position counts the line breaks of the text before it, and the characters behind the last of
them. -/
theorem Position.after_eq (text : List Char) :
    Position.after text =
      ⟨text.count '\n' + 1, (text.rtakeWhile fun c => c ≠ '\n').length + 1⟩ := by
  induction text using List.reverseRecOn with
  | nil => rfl
  | append_singleton text c ih =>
    rw [Position.after_append_singleton, ih, Position.next]
    by_cases hbreak : c = '\n'
    · simp [hbreak]
    · simp [hbreak]

/-- A line starts behind the text: it is empty or ends with a line break. -/
def EndsLine (text : List Char) : Prop :=
  ∀ c ∈ text.getLast?, c = '\n'

theorem endsLine_nil : EndsLine [] := by
  simp [EndsLine]

theorem endsLine_cons_iff {c : Char} {text : List Char} (hne : text ≠ []) :
    EndsLine (c :: text) ↔ EndsLine text := by
  rw [EndsLine, EndsLine, List.getLast?_cons_of_ne_nil hne]

/-- What stands before the line that a text ends in. -/
theorem endsLine_rdropWhile (text : List Char) : EndsLine (text.rdropWhile fun c => c ≠ '\n') := by
  intro c hc
  obtain ⟨hne, rfl⟩ := List.mem_getLast?_eq_getLast hc
  simpa using List.rdropWhile_last_not _ text hne

/-- Cutting lines off loses nothing. -/
theorem cutLines_append (count : Nat) (text : List Char) :
    (cutLines count text).1 ++ (cutLines count text).2 = text := by
  fun_induction cutLines count text with
  | case1 text => rfl
  | case2 count => rfl
  | case3 count text ih => simpa using ih
  | case4 count c text hbreak ih => simpa using ih

/-- A text behind which a line starts is cut off by the number of its line breaks. -/
theorem cutLines_of_endsLine {before : List Char} (h : EndsLine before) (line : List Char) :
    cutLines (before.count '\n') (before ++ line) = (before, line) := by
  induction before with
  | nil => simp [cutLines]
  | cons c before ih =>
    by_cases hbreak : c = '\n'
    · have hbefore : EndsLine before := by
        by_cases hempty : before = []
        · exact hempty ▸ endsLine_nil
        · exact (endsLine_cons_iff hempty).1 h
      simp [hbreak, cutLines, ih hbefore]
    · -- the line goes on, so its break is still to come
      have hne : before ≠ [] := by
        rintro rfl
        exact hbreak (h c rfl)
      have hbefore : EndsLine before := (endsLine_cons_iff hne).1 h
      have hlast : '\n' ∈ before := by
        have hbreak := hbefore _ (List.getLast?_eq_some_getLast hne)
        exact hbreak ▸ List.getLast_mem hne
      obtain ⟨count, hcount⟩ := Nat.exists_eq_add_one.2 (List.count_pos_iff.2 hlast)
      have hcut := ih hbefore
      rw [hcount] at hcut
      simp [hbreak, hcount, cutLines, hcut]

namespace Position

/-- How many bytes of a text lie before the line of a position. -/
def lineStart (position : Position) (text : List Char) : Nat :=
  byteCount (cutLines (position.line - 1) text).1

theorem byteOffset_of_endsLine {before : List Char} (h : EndsLine before) (column : Nat)
    (line : List Char) :
    byteOffset ⟨before.count '\n' + 1, column⟩ (before ++ line) =
      byteCount before + byteCount (line.take (column - 1)) := by
  simp [byteOffset, cutLines_of_endsLine h]

/-- The position behind a text leads back to its bytes. -/
theorem byteOffset_after (before unread : List Char) :
    (after before).byteOffset (before ++ unread) = byteCount before := by
  have hsplit : (before.rdropWhile fun c => c ≠ '\n') ++ (before.rtakeWhile fun c => c ≠ '\n') =
      before := List.rdropWhile_append_rtakeWhile
  generalize hlines : before.rdropWhile (fun c => c ≠ '\n') = lines at hsplit
  generalize hcolumn : before.rtakeWhile (fun c => c ≠ '\n') = line at hsplit
  have hends : EndsLine lines := hlines ▸ endsLine_rdropWhile before
  have hunbroken : line.count '\n' = 0 := by
    rw [List.count_eq_zero, ← hcolumn]
    intro hmem
    simpa using List.mem_rtakeWhile_imp hmem
  have hposition : after before = ⟨lines.count '\n' + 1, line.length + 1⟩ := by
    rw [after_eq, hcolumn, ← hsplit, List.count_append, hunbroken, Nat.add_zero]
  rw [hposition, ← hsplit, List.append_assoc, byteOffset_of_endsLine hends]
  simp

end Position

theorem byteCount_le_of_prefix {front text : List Char} (h : front <+: text) :
    byteCount front ≤ byteCount text := by
  obtain ⟨rest, rfl⟩ := h
  rw [byteCount_append]
  exact Nat.le_add_right _ _

/-- How many bytes a text takes beyond one for each character. -/
def extraBytes : List Char → Nat
  | [] => 0
  | c :: text => (c.utf8Size - 1) + extraBytes text

theorem byteCount_eq_length_add (text : List Char) :
    byteCount text = text.length + extraBytes text := by
  induction text with
  | nil => rfl
  | cons c text ih =>
    have hsize := c.utf8Size_pos
    rw [byteCount_cons, ih, List.length_cons, extraBytes]
    omega

/-- There are no extra bytes where every character takes one. -/
theorem extraBytes_eq_zero_iff {text : List Char} :
    extraBytes text = 0 ↔ ∀ c ∈ text, c.utf8Size = 1 := by
  induction text with
  | nil => simp [extraBytes]
  | cons c text ih =>
    have hsize := c.utf8Size_pos
    rw [List.forall_mem_cons, ← ih, extraBytes]
    omega

/-- Counting off characters goes as many bytes further than counting off bytes as the characters
take beyond one each, unless the text ends before. -/
theorem byteCount_take (text : List Char) (count : Nat) :
    byteCount (text.take count) =
      min (count + extraBytes (text.take count)) (byteCount text) := by
  have htake := byteCount_eq_length_add (text.take count)
  by_cases hlong : count ≤ text.length
  · have hle : byteCount (text.take count) ≤ byteCount text :=
      byteCount_le_of_prefix (List.take_prefix count text)
    rw [List.length_take, Nat.min_eq_left hlong] at htake
    omega
  · have hall : text.take count = text := List.take_of_length_le (by omega)
    rw [hall] at htake ⊢
    omega

section Boundary

theorem byteCount_toList (text : String) : byteCount text.toList = text.utf8ByteSize := by
  have hsize (text : List Char) : byteCount text = (String.ofList text).utf8ByteSize := by
    induction text with
    | nil => rfl
    | cons c text ih => simp [ih, String.ofList_cons]
  rw [hsize, String.ofList_toList]

variable {content : String} {before rest : List Char}

/-- The bytes before any part of a text end between two characters. -/
theorem isValid_byteCount (h : content.toList = before ++ rest) :
    (String.Pos.Raw.mk (byteCount before)).IsValid content := by
  refine String.Pos.Raw.isValid_iff_exists_append.2
    ⟨String.ofList before, String.ofList rest, ?_, ?_⟩
  · rw [← String.ofList_append, ← h, String.ofList_toList]
  · rw [String.rawEndPos, ← byteCount_toList, String.toList_ofList]

theorem byteCount_le (h : content.toList = before ++ rest) :
    byteCount before ≤ content.utf8ByteSize := by
  rw [← byteCount_toList]
  exact byteCount_le_of_prefix ⟨rest, h.symm⟩

namespace Position

/-- A line starts between two characters. -/
theorem isValid_lineStart (position : Position) (content : String) :
    (String.Pos.Raw.mk (position.lineStart content.toList)).IsValid content :=
  isValid_byteCount (cutLines_append (position.line - 1) content.toList).symm

/-- No position leads into a character or behind the text. -/
theorem isValid_byteOffset (position : Position) (content : String) :
    (String.Pos.Raw.mk (position.byteOffset content.toList)).IsValid content ∧
      position.byteOffset content.toList ≤ content.utf8ByteSize := by
  obtain ⟨lines, line, hcut⟩ : ∃ lines line, cutLines (position.line - 1) content.toList =
      (lines, line) := ⟨_, _, rfl⟩
  have hsplit : content.toList =
      (lines ++ line.take (position.column - 1)) ++ line.drop (position.column - 1) := by
    rw [List.append_assoc, List.take_append_drop]
    simpa [hcut] using (cutLines_append (position.line - 1) content.toList).symm
  have hoffset : position.byteOffset content.toList =
      byteCount (lines ++ line.take (position.column - 1)) := by
    simp [byteOffset, hcut]
  rw [hoffset]
  exact ⟨isValid_byteCount hsplit, byteCount_le hsplit⟩

end Position

end Boundary

end Phrasebook.Text
