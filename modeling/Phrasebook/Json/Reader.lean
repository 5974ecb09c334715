import Phrasebook.Json.Number
import Phrasebook.Json.Text

/-!
# Reading JSON

A reader takes a value off the front of a text, blanks before it included. It never gives back more
text than it was given, which is why an object can be read member by member. A value of another kind
than the wanted one is read as far as it takes to say what it is.
-/
namespace Phrasebook.Json

structure Reader (α : Type) where
  read : List Char → Except Stop (α × List Char)
  length_le : ∀ {text rest : List Char} {a : α},
    read text = .ok (a, rest) → rest.length ≤ text.length

def isBlank (c : Char) : Bool :=
  c = ' ' || c = '\n' || c = '\t' || c = '\r'

def skipBlank (text : List Char) : List Char :=
  text.dropWhile isBlank

theorem length_skipBlank_le (text : List Char) : (skipBlank text).length ≤ text.length :=
  (List.dropWhile_suffix isBlank).length_le

/-- A character that is taken off behind the blanks makes a text shorter. -/
theorem length_lt_of_skipBlank {text rest : List Char} {c : Char}
    (h : skipBlank text = c :: rest) : rest.length < text.length := by
  have hle := length_skipBlank_le text
  rw [h, List.length_cons] at hle
  exact hle

/-- Read the rest of a word. -/
def readWord : (word : List Char) → (text : List Char) → Except Stop (List Char)
  | [], text => .ok text
  | _ :: _, [] => .error (.behind (.endInside .value) [])
  | w :: word, c :: text =>
    if c = w then readWord word text else .error (.peeking .expectedWord (c :: text))

/-- The stop at a word that names a value of the wrong type. -/
def wrongWord (wanted : Wanted) (found : Found) (word text : List Char) : Stop :=
  match readWord word text with
  | .ok rest => .behind (.wrongType found wanted) rest
  | .error stop => stop

/-- The stop at a value of another type than the wanted one. Arrays and objects are not entered. -/
def wrongType (wanted : Wanted) (text : List Char) : Stop :=
  match text with
  | [] => .peeking (.endInside .value) []
  | 'n' :: rest => wrongWord wanted .null ['u', 'l', 'l'] rest
  | 't' :: rest => wrongWord wanted (.boolean true) ['r', 'u', 'e'] rest
  | 'f' :: rest => wrongWord wanted (.boolean false) ['a', 'l', 's', 'e'] rest
  | '[' :: _ => .behind (.wrongType .array wanted) text
  | '{' :: _ => .behind (.wrongType .object wanted) text
  | '"' :: rest =>
    match readText rest with
    | .ok (content, behind) =>
      .behind (.wrongType (.string (String.ofList content)) wanted) behind
    | .error stop => stop
  | c :: _ =>
    if c = '-' || c.isDigit then
      match Number.read text with
      | .ok (number, behind) => .behind (.wrongType number.found wanted) behind
      | .error stop => stop
    else .peeking .expectedValue text

/-- What comes next in an object. -/
inductive ObjectStep where
  /-- A member, whose key starts in front of the text. -/
  | member (text : List Char)
  /-- The end of the object, which lies in front of the text. -/
  | close (text : List Char)

def ObjectStep.text : ObjectStep → List Char
  | .member text => text
  | .close text => text

/-- Read up to the first quote of the first key, or to the end of the object. -/
def firstStep (text : List Char) : Except Stop ObjectStep :=
  match skipBlank text with
  | [] => .error (.peeking (.endInside .object) [])
  | '}' :: rest => .ok (.close rest)
  | '"' :: rest => .ok (.member rest)
  | c :: rest => .error (.peeking .expectedKey (c :: rest))

/-- Read up to the first quote of the next key, or to the end of the object. -/
def nextStep (text : List Char) : Except Stop ObjectStep :=
  match skipBlank text with
  | [] => .error (.peeking (.endInside .object) [])
  | '}' :: rest => .ok (.close rest)
  | ',' :: rest =>
    match skipBlank rest with
    | [] => .error (.peeking (.endInside .value) [])
    | '"' :: behind => .ok (.member behind)
    | '}' :: behind => .error (.peeking .trailingComma ('}' :: behind))
    | c :: behind => .error (.peeking .expectedKey (c :: behind))
  | c :: rest => .error (.peeking .expectedCommaOrEnd (c :: rest))

/-- Read the colon behind a key. -/
def readColon (text : List Char) : Except Stop (List Char) :=
  match skipBlank text with
  | [] => .error (.peeking (.endInside .object) [])
  | ':' :: rest => .ok rest
  | c :: rest => .error (.peeking .expectedColon (c :: rest))

theorem firstStep_shorter {text : List Char} {next : ObjectStep} (h : firstStep text = .ok next) :
    next.text.length < text.length := by
  revert h
  fun_cases firstStep text with
  | case1 => exact nofun
  | case2 rest hclose =>
    rintro ⟨⟩
    exact length_lt_of_skipBlank hclose
  | case3 rest hquote =>
    rintro ⟨⟩
    exact length_lt_of_skipBlank hquote
  | case4 => exact nofun

theorem nextStep_shorter {text : List Char} {next : ObjectStep} (h : nextStep text = .ok next) :
    next.text.length < text.length := by
  revert h
  fun_cases nextStep text with
  | case2 rest hclose =>
    rintro ⟨⟩
    exact length_lt_of_skipBlank hclose
  | case4 rest hcomma behind hquote =>
    rintro ⟨⟩
    have hrest := length_lt_of_skipBlank hcomma
    have hbehind := length_lt_of_skipBlank hquote
    exact Nat.lt_trans hbehind hrest
  | _ => exact nofun

theorem readColon_shorter {text rest : List Char} (h : readColon text = .ok rest) :
    rest.length < text.length := by
  revert h
  fun_cases readColon text with
  | case1 => exact nofun
  | case2 rest hcolon =>
    rintro ⟨⟩
    exact length_lt_of_skipBlank hcolon
  | case3 => exact nofun

/-- Read one member behind the first quote of its key. -/
def readMember {α : Type} (value : Reader α) (text : List Char) :
    Except Stop ((String × α) × List Char) := do
  let (key, text) ← readText text
  let text ← readColon text
  let (a, rest) ← value.read text
  return ((String.ofList key, a), rest)

theorem readMember_shorter {α : Type} {value : Reader α} {text rest : List Char}
    {member : String × α} (h : readMember value text = .ok (member, rest)) :
    rest.length < text.length := by
  obtain ⟨⟨key, behindKey⟩, hkey, h⟩ := exists_of_bind_eq_ok h
  obtain ⟨behindColon, hcolon, h⟩ := exists_of_bind_eq_ok h
  obtain ⟨⟨a, behind⟩, hvalue, h⟩ := exists_of_bind_eq_ok h
  obtain ⟨-, rfl⟩ := Prod.mk.inj (Except.ok.inj h)
  have hkey := readText_shorter hkey
  have hcolon := readColon_shorter hcolon
  have hvalue := value.length_le hvalue
  omega

/-- Read the members behind what comes next in an object. -/
def readMembers {α : Type} (value : Reader α) (next : ObjectStep) :
    Except Stop (List (String × α) × List Char) :=
  match next with
  | .close text => .ok ([], text)
  | .member text =>
    match h : readMember value text with
    | .error stop => .error stop
    | .ok (member, rest) =>
      match h' : nextStep rest with
      | .error stop => .error stop
      | .ok next =>
        have := readMember_shorter h
        have := nextStep_shorter h'
        (fun (members, behind) => (member :: members, behind)) <$> readMembers value next
termination_by next.text.length
decreasing_by simp only [ObjectStep.text] at *; omega

theorem readMembers_le {α : Type} {value : Reader α} {next : ObjectStep}
    {members : List (String × α)} {rest : List Char}
    (h : readMembers value next = .ok (members, rest)) : rest.length ≤ next.text.length := by
  fun_induction readMembers value next generalizing members rest with
  | case1 text =>
    obtain ⟨-, rfl⟩ := Prod.mk.inj (Except.ok.inj h)
    exact Nat.le_refl _
  | case2 => contradiction
  | case3 => contradiction
  | case4 text member behind _ next _ hmember hnext ih =>
    obtain ⟨⟨others, rest⟩, hothers, hpair⟩ := exists_of_map_eq_ok h
    obtain ⟨-, rfl⟩ := Prod.mk.inj hpair
    have hrest : rest.length ≤ next.text.length := ih hothers
    simp only [ObjectStep.text]
    omega

namespace Reader

/-- Read a string. -/
def string : Reader String where
  read text :=
    match skipBlank text with
    | '"' :: rest => (fun (content, behind) => (String.ofList content, behind)) <$> readText rest
    | text => .error (wrongType .string text)
  length_le {text rest s} h := by
    split at h
    · rename_i inner hquote
      obtain ⟨⟨content, behind⟩, hcontent, hpair⟩ := exists_of_map_eq_ok h
      obtain ⟨-, rfl⟩ := Prod.mk.inj hpair
      have hinner := length_lt_of_skipBlank hquote
      have hbehind := readText_shorter hcontent
      omega
    · contradiction

/-- Read an object, whose members are given in their order in the text. -/
def object {α : Type} (value : Reader α) : Reader (List (String × α)) where
  read text :=
    match skipBlank text with
    | '{' :: rest =>
      match firstStep rest with
      | .ok next => readMembers value next
      | .error stop => .error stop
    | text => .error (wrongType .object text)
  length_le {text rest members} h := by
    split at h
    · rename_i inner hbrace
      split at h
      · rename_i next hnext
        have hinner := length_lt_of_skipBlank hbrace
        have hfirst := firstStep_shorter hnext
        have hmembers := readMembers_le h
        omega
      · contradiction
    · contradiction

/-- Read a text that holds one value and nothing else. -/
def readAll {α : Type} (reader : Reader α) (text : String) : Except Error α :=
  match reader.read text.toList with
  | .error stop => .error (.ofStop text.toList stop)
  | .ok (a, rest) =>
    match skipBlank rest with
    | [] => .ok a
    | c :: rest => .error (.ofStop text.toList (.peeking .trailingText (c :: rest)))

end Reader

end Phrasebook.Json
