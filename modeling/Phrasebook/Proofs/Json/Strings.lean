import Phrasebook.Json.Text

/-!
# Reading a string back

Every character is read back from the way it is written, whatever follows: one with a short escape,
a control character with its code in hexadecimal digits, and any other one as it is. So reading a
string undoes writing it, and stops behind its last quote.
-/
namespace Phrasebook.Json

theorem hexValue?_hexDigit {n : Nat} (h : n < 16) : hexValue? (hexDigit n) = some n := by
  have hall : ∀ n < 16, hexValue? (hexDigit n) = some n := by decide
  exact hall n h

/-- The code of a control character is read back. -/
theorem readCodePoint_controlEscape {c : Char} (h : c.toNat < 0x20) (rest : List Char) :
    readCodePoint ('0' :: '0' :: hexDigit (c.toNat / 16) :: hexDigit (c.toNat % 16) :: rest) =
      .ok (c, rest) := by
  have hzero : hexValue? '0' = some 0 := by decide
  have hhigh : hexValue? (hexDigit (c.toNat / 16)) = some (c.toNat / 16) :=
    hexValue?_hexDigit (by omega)
  have hlow : hexValue? (hexDigit (c.toNat % 16)) = some (c.toNat % 16) :=
    hexValue?_hexDigit (by omega)
  have hcode : c.toNat / 16 * 16 + c.toNat % 16 = c.toNat := by omega
  have hnotLow : isLowSurrogate c.toNat = false := by simp [isLowSurrogate]; omega
  have hnotHigh : isHighSurrogate c.toNat = false := by simp [isHighSurrogate]; omega
  simp [readCodePoint, readHex, hexValues?, hzero, hhigh, hlow, hcode, hnotLow, hnotHigh, bind,
    Except.bind]

theorem readText_of_readEscape {text after : List Char} {c : Char}
    (h : readEscape text = .ok (c, after)) :
    readText ('\\' :: text) =
      (fun (content, behind) => (c :: content, behind)) <$> readText after := by
  rw [readText]
  split
  · simp_all
  · simp_all

theorem readText_plain {c : Char} (hquote : c ≠ '"') (hbackslash : c ≠ '\\')
    (hcontrol : ¬ c.toNat < 0x20) (rest : List Char) :
    readText (c :: rest) =
      (fun (content, behind) => (c :: content, behind)) <$> readText rest := by
  rw [readText]
  · rw [if_neg hcontrol]
  all_goals simp_all

/-- A character is read back from the way it is written. -/
theorem readText_escape (c : Char) (rest : List Char) :
    readText (escape c ++ rest) =
      (fun (content, behind) => (c :: content, behind)) <$> readText rest := by
  by_cases hshort : c ∈ ['"', '\\', '\x08', '\x0c', '\n', '\r', '\t']
  · simp only [List.mem_cons, List.not_mem_nil, or_false] at hshort
    rcases hshort with rfl | rfl | rfl | rfl | rfl | rfl | rfl <;>
      exact readText_of_readEscape rfl
  · simp only [List.mem_cons, List.not_mem_nil, or_false, not_or] at hshort
    obtain ⟨hquote, hbackslash, hothers⟩ := hshort
    have hescape : escape c = if c.toNat < 0x20 then controlEscape c else [c] := by
      simp [escape, hquote, hbackslash, hothers]
    rw [hescape]
    split
    · rename_i hcontrol
      exact readText_of_readEscape (readCodePoint_controlEscape hcontrol rest)
    · rename_i hcontrol
      exact readText_plain hquote hbackslash hcontrol rest

/-- A string is read back behind its first quote. -/
theorem readText_escaped (text rest : List Char) :
    readText (text.flatMap escape ++ '"' :: rest) = .ok (text, rest) := by
  induction text with
  | nil => simp [readText]
  | cons c text ih =>
    rw [List.flatMap_cons, List.append_assoc, readText_escape, ih]
    rfl

end Phrasebook.Json
