import Phrasebook.Proofs.Text.Positions

/-!
# Slices

A slice of a text is cut out between two places that are counted in bytes. Cutting is checked: both
places have to lie between two characters of the text or at one of its ends, and the second place
must not lie before the first. Wherever a text is known to be made up of parts, the places between
these parts pass the check, and the slice between two of them is the part that stands there.
-/
namespace Phrasebook.Text

/-- A place between two characters of a text, or at one of its ends. -/
abbrev IsBoundary (text : String) (place : Nat) : Prop :=
  (String.Pos.Raw.mk place).IsValid text

/-- The part of a text between two places, if it can be cut out. -/
def slice? (text : String) (start stop : Nat) : Option String :=
  if h : IsBoundary text start ∧ IsBoundary text stop ∧ start ≤ stop then
    some (text.extract (text.pos ⟨start⟩ h.1) (text.pos ⟨stop⟩ h.2.1))
  else none

/-- The byte behind a place. -/
def byteAt? (text : String) (place : Nat) : Option UInt8 :=
  text.toByteArray.data[place]?

theorem utf8ByteSize_ofList (text : List Char) :
    (String.ofList text).utf8ByteSize = byteCount text := by
  rw [← byteCount_toList, String.toList_ofList]

/-- The place behind three parts. -/
theorem add_byteCount_append (place : Nat) (front part back : List Char) :
    place + byteCount (front ++ part ++ back) =
      place + byteCount front + byteCount part + byteCount back := by
  rw [byteCount_append, byteCount_append, Nat.add_assoc, Nat.add_assoc, Nat.add_assoc]

/-- A slice reaches from its first place to its second one. -/
theorem add_size_of_slice? {text part : String} {start stop : Nat}
    (h : slice? text start stop = some part) :
    start + part.utf8ByteSize = stop ∧ stop ≤ text.utf8ByteSize := by
  unfold slice? at h
  by_cases hplaces : IsBoundary text start ∧ IsBoundary text stop ∧ start ≤ stop
  · rw [dif_pos hplaces] at h
    obtain ⟨hstart, hstop, hle⟩ := hplaces
    have hinside : stop ≤ text.utf8ByteSize := hstop.le_utf8ByteSize
    refine ⟨?_, hinside⟩
    rw [← Option.some.inj h, ← String.size_toByteArray, String.toByteArray_extract]
    simp only [String.offset_pos, ByteArray.size_extract, String.size_toByteArray]
    omega
  · simp [dif_neg hplaces] at h

section Parts
variable {text : String} {before part after : List Char}

/-- The slice between two places of a text that is made up of three parts. -/
theorem slice?_of_toList (h : text.toList = before ++ part ++ after) :
    slice? text (byteCount before) (byteCount before + byteCount part) =
      some (String.ofList part) := by
  have hstart : IsBoundary text (byteCount before) :=
    isValid_byteCount (by rw [h, List.append_assoc])
  have hstop : IsBoundary text (byteCount before + byteCount part) := by
    rw [← byteCount_append]
    exact isValid_byteCount h
  have hparts : text = String.ofList before ++ (String.ofList part ++ String.ofList after) := by
    rw [← String.ofList_append, ← String.ofList_append, ← List.append_assoc, ← h,
      String.ofList_toList]
  have hbefore : (text.pos ⟨byteCount before⟩ hstart).Splits (String.ofList before)
      (String.ofList part ++ String.ofList after) := by
    refine ⟨hparts, ?_⟩
    simp [String.rawEndPos, utf8ByteSize_ofList]
  have hfront : (text.pos ⟨byteCount before + byteCount part⟩ hstop).Splits
      (String.ofList before ++ String.ofList part) (String.ofList after) := by
    refine ⟨by rw [String.append_assoc, ← hparts], ?_⟩
    simp [String.rawEndPos, utf8ByteSize_ofList]
  obtain ⟨hle, hcopy⟩ := String.copy_slice_eq_iff_splits.2 ⟨_, _, hbefore, hfront⟩
  rw [slice?, dif_pos ⟨hstart, hstop, Nat.le_add_right _ _⟩, String.extract_eq_copy_slice _ _ hle,
    hcopy]

/-- The slice from a place to the end. -/
theorem slice?_rest (h : text.toList = before ++ after) :
    slice? text (byteCount before) text.utf8ByteSize = some (String.ofList after) := by
  have hsize : text.utf8ByteSize = byteCount before + byteCount after := by
    rw [← byteCount_toList, h, byteCount_append]
  rw [hsize]
  exact slice?_of_toList (by rw [h, List.append_nil])

/-- The slice from the start to a place. -/
theorem slice?_front (h : text.toList = before ++ after) :
    slice? text 0 (byteCount before) = some (String.ofList before) := by
  have hfront : text.toList = [] ++ before ++ after := h
  simpa using slice?_of_toList hfront

/-- A character of one byte stands behind the bytes before it. -/
theorem byteAt?_of_toList {c : Char} (h : text.toList = before ++ c :: after)
    (hsize : c.utf8Size = 1) : byteAt? text (byteCount before) = some c.toUInt8 := by
  have hparts : text = String.ofList before ++ String.ofList [c] ++ String.ofList after := by
    rw [← String.ofList_append, ← String.ofList_append, List.append_assoc, List.singleton_append,
      ← h, String.ofList_toList]
  have hbyte : (String.ofList [c]).toByteArray.data = #[c.toUInt8] := by
    rw [String.toByteArray_ofList, List.utf8Encode_singleton,
      String.utf8EncodeChar_eq_singleton hsize, List.data_toByteArray]
    rfl
  have hbefore : (String.ofList before).toByteArray.data.size = byteCount before := by
    rw [ByteArray.size_data, String.size_toByteArray, utf8ByteSize_ofList]
  rw [byteAt?, hparts, String.toByteArray_append, String.toByteArray_append, ByteArray.data_append,
    ByteArray.data_append, hbyte, ← hbefore]
  generalize (String.ofList before).toByteArray.data = bytes
  simp [Array.getElem?_append]

end Parts

end Phrasebook.Text
