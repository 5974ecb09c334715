import Phrasebook.Json.Fault

/-!
# JSON strings

Writing escapes the quote, the backslash and the control characters and nothing else. Reading
takes every escape of JSON; an escaped surrogate counts only as half of a pair. Reading undoes
writing.
-/
namespace Phrasebook.Json

/-- A hexadecimal digit in lowercase. -/
def hexDigit (n : Nat) : Char := Nat.digitChar n

/-- The escape that writes a control character which has no short one. -/
def controlEscape (c : Char) : List Char :=
  ['\\', 'u', '0', '0', hexDigit (c.toNat / 16), hexDigit (c.toNat % 16)]

/-- A character inside a string. -/
def escape (c : Char) : List Char :=
  if c = '"' then ['\\', '"']
  else if c = '\\' then ['\\', '\\']
  else if c = '\x08' then ['\\', 'b']
  else if c = '\x0c' then ['\\', 'f']
  else if c = '\n' then ['\\', 'n']
  else if c = '\r' then ['\\', 'r']
  else if c = '\t' then ['\\', 't']
  else if c.toNat < 0x20 then controlEscape c
  else [c]

/-- A text as a string. -/
def writeText (text : List Char) : List Char :=
  '"' :: text.flatMap escape ++ ['"']

/-- The value of a hexadecimal digit. -/
def hexValue? (c : Char) : Option Nat :=
  if c.isDigit then some (c.toNat - '0'.toNat)
  else if 'a' ≤ c ∧ c ≤ 'f' then some (c.toNat - 'a'.toNat + 10)
  else if 'A' ≤ c ∧ c ≤ 'F' then some (c.toNat - 'A'.toNat + 10)
  else none

/-- The value of four hexadecimal digits. -/
def hexValues? (a b c d : Char) : Option Nat := do
  return (((← hexValue? a) * 16 + (← hexValue? b)) * 16 + (← hexValue? c)) * 16 + (← hexValue? d)

/-- Where reading stops when there are not four hexadecimal digits: behind four bytes. -/
def Stop.atHex (text : List Char) : Stop :=
  if Text.byteCount text < 4 then .behind (.endInside .string) [] else ⟨.invalidEscape, text, 4⟩

/-- Read four hexadecimal digits. -/
def readHex (text : List Char) : Except Stop (Nat × List Char) :=
  match text with
  | a :: b :: c :: d :: rest =>
    match hexValues? a b c d with
    | some n => .ok (n, rest)
    | none => .error (.atHex text)
  | _ => .error (.atHex text)

/-- The first half of a surrogate pair. -/
def isHighSurrogate (n : Nat) : Bool := 0xD800 ≤ n && n < 0xDC00

/-- The second half of a surrogate pair. -/
def isLowSurrogate (n : Nat) : Bool := 0xDC00 ≤ n && n < 0xE000

/-- The character that two surrogates stand for. -/
def ofSurrogates (high low : Nat) : Char :=
  Char.ofNat (0x10000 + (high - 0xD800) * 0x400 + (low - 0xDC00))

/-- Read one character of a text that must not end or go on in another way. -/
def readMark (mark : Char) (fault : Fault) : List Char → Except Stop (List Char)
  | [] => .error (.behind (.endInside .string) [])
  | c :: rest => if c = mark then .ok rest else .error (.peeking fault (c :: rest))

/-- Read the second half of a surrogate pair. -/
def readLowSurrogate (high : Nat) (text : List Char) : Except Stop (Char × List Char) := do
  let text ← readMark '\\' .brokenSurrogatePair text
  let text ← readMark 'u' .brokenSurrogatePair text
  let (low, rest) ← readHex text
  if isLowSurrogate low then .ok (ofSurrogates high low, rest)
  else .error (.behind .loneSurrogate rest)

/-- Read an escape behind `\u`. -/
def readCodePoint (text : List Char) : Except Stop (Char × List Char) := do
  let (n, rest) ← readHex text
  if isLowSurrogate n then .error (.behind .loneSurrogate rest)
  else if isHighSurrogate n then readLowSurrogate n rest
  else .ok (Char.ofNat n, rest)

/-- Read an escape behind its backslash. -/
def readEscape : List Char → Except Stop (Char × List Char)
  | [] => .error (.behind (.endInside .string) [])
  | c :: rest =>
    match c with
    | '"' => .ok ('"', rest)
    | '\\' => .ok ('\\', rest)
    | '/' => .ok ('/', rest)
    | 'b' => .ok ('\x08', rest)
    | 'f' => .ok ('\x0c', rest)
    | 'n' => .ok ('\n', rest)
    | 'r' => .ok ('\r', rest)
    | 't' => .ok ('\t', rest)
    | 'u' => readCodePoint rest
    | _ => .error (.peeking .invalidEscape (c :: rest))

section
variable {α β : Type} {b : β}

/-- Two steps that give a result together give one each. -/
theorem exists_of_bind_eq_ok {first : Except Stop α} {second : α → Except Stop β}
    (h : (first >>= second) = .ok b) : ∃ a, first = .ok a ∧ second a = .ok b := by
  cases first with
  | error stop => contradiction
  | ok a => exact ⟨a, rfl, h⟩

theorem exists_of_map_eq_ok {f : α → β} {reading : Except Stop α} (h : f <$> reading = .ok b) :
    ∃ a, reading = .ok a ∧ f a = b := by
  cases reading with
  | error stop => contradiction
  | ok a => exact ⟨a, rfl, Except.ok.inj h⟩

end

theorem readHex_shorter {text rest : List Char} {n : Nat} (h : readHex text = .ok (n, rest)) :
    rest.length < text.length := by
  revert h
  fun_cases readHex text with
  | case1 a b c d rest n =>
    rintro ⟨⟩
    simp only [List.length_cons]
    omega
  | case2 => exact nofun
  | case3 => exact nofun

theorem readMark_shorter {mark : Char} {fault : Fault} {text rest : List Char}
    (h : readMark mark fault text = .ok rest) : rest.length < text.length := by
  revert h
  fun_cases readMark mark fault text with
  | case1 => exact nofun
  | case2 rest =>
    rintro ⟨⟩
    exact Nat.lt_succ_self _
  | case3 => exact nofun

theorem readLowSurrogate_shorter {high : Nat} {text rest : List Char} {c : Char}
    (h : readLowSurrogate high text = .ok (c, rest)) : rest.length < text.length := by
  obtain ⟨behindSlash, hslash, h⟩ := exists_of_bind_eq_ok h
  obtain ⟨behindMark, hmark, h⟩ := exists_of_bind_eq_ok h
  obtain ⟨⟨low, behind⟩, hhex, h⟩ := exists_of_bind_eq_ok h
  have hslash := readMark_shorter hslash
  have hmark := readMark_shorter hmark
  have hhex := readHex_shorter hhex
  cases hlow : isLowSurrogate low with
  | false => simp [hlow] at h
  | true =>
    obtain ⟨-, rfl⟩ : ofSurrogates high low = c ∧ behind = rest := by simpa [hlow] using h
    omega

theorem readCodePoint_shorter {text rest : List Char} {c : Char}
    (h : readCodePoint text = .ok (c, rest)) : rest.length < text.length := by
  obtain ⟨⟨n, behind⟩, hhex, h⟩ := exists_of_bind_eq_ok h
  have hhex := readHex_shorter hhex
  cases hlow : isLowSurrogate n with
  | true => simp [hlow] at h
  | false =>
    cases hhigh : isHighSurrogate n with
    | true =>
      have hpair : readLowSurrogate n behind = .ok (c, rest) := by simpa [hlow, hhigh] using h
      exact Nat.lt_trans (readLowSurrogate_shorter hpair) hhex
    | false =>
      obtain ⟨-, rfl⟩ : Char.ofNat n = c ∧ behind = rest := by simpa [hlow, hhigh] using h
      exact hhex

/-- Reading an escape makes progress. -/
theorem readEscape_shorter {text rest : List Char} {c : Char}
    (h : readEscape text = .ok (c, rest)) : rest.length < text.length := by
  revert h
  fun_cases readEscape text with
  | case1 => exact nofun
  | case10 behind =>
    intro h
    exact Nat.lt_succ_of_lt (readCodePoint_shorter h)
  | case11 => exact nofun
  | _ =>
    rintro ⟨⟩
    exact Nat.lt_succ_self _

/-- Read a string behind its first quote, and give the text behind its last one. -/
def readText (text : List Char) : Except Stop (List Char × List Char) :=
  match text with
  | [] => .error (.behind (.endInside .string) [])
  | '"' :: rest => .ok ([], rest)
  | '\\' :: rest =>
    match h : readEscape rest with
    | .error stop => .error stop
    | .ok (c, after) =>
      have := readEscape_shorter h
      (fun (content, behind) => (c :: content, behind)) <$> readText after
  | c :: rest =>
    if c.toNat < 0x20 then .error (.behind .controlCharacter rest)
    else (fun (content, behind) => (c :: content, behind)) <$> readText rest
termination_by text.length

/-- Reading a string makes progress. -/
theorem readText_shorter {text content rest : List Char}
    (h : readText text = .ok (content, rest)) : rest.length < text.length := by
  fun_induction readText text generalizing content rest with
  | case1 => simp at h
  | case2 behind =>
    obtain ⟨-, rfl⟩ := Prod.mk.inj (Except.ok.inj h)
    simp
  | case3 behind stop _ => simp at h
  | case4 behind c after _ hescape ih =>
    obtain ⟨⟨others, behindQuote⟩, hothers, hpair⟩ := exists_of_map_eq_ok h
    obtain ⟨-, rfl⟩ := Prod.mk.inj hpair
    have hrest : behindQuote.length < after.length := ih hothers
    simp only [List.length_cons]
    omega
  | case5 => simp at h
  | case6 c behind _ _ _ ih =>
    obtain ⟨⟨others, behindQuote⟩, hothers, hpair⟩ := exists_of_map_eq_ok h
    obtain ⟨-, rfl⟩ := Prod.mk.inj hpair
    have hrest : behindQuote.length < behind.length := ih hothers
    exact Nat.lt_succ_of_lt hrest

end Phrasebook.Json
