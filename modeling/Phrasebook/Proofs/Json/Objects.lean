import Phrasebook.Json.Reader
import Phrasebook.Json.Writer
import Phrasebook.Proofs.Json.Strings

/-!
# Reading an object back

A reader reads a document back if it gives the value that was written, in both styles and at every
depth, behind any blanks and in front of any text. Strings are read back, and objects are, as soon
as what they are made of is: line breaks, indentation and the space behind a colon are blanks, and
the commas and braces tell where members start and end.
-/
namespace Phrasebook.Json
variable {α : Type} {value : Reader α} {write : α → Document}

/-- A reader gives a value back wherever the document is written. -/
def Reads (reader : Reader α) (document : Document) (a : α) : Prop :=
  ∀ (style : Style) (depth : Nat) (blanks rest : List Char), blanks.all isBlank = true →
    reader.read (blanks ++ document style depth ++ rest) = .ok (a, rest)

theorem skipBlank_append {blanks : List Char} (h : blanks.all isBlank = true)
    (text : List Char) : skipBlank (blanks ++ text) = skipBlank text :=
  List.dropWhile_append_of_pos (List.all_eq_true.1 h)

theorem skipBlank_cons {c : Char} (h : isBlank c = false) (text : List Char) :
    skipBlank (c :: text) = c :: text := by
  simp [skipBlank, h]

theorem all_isBlank_lineBreak (style : Style) (depth : Nat) :
    (style.lineBreak depth).all isBlank = true := by
  cases style with
  | compact => rfl
  | indented => simp [Style.lineBreak, isBlank]

theorem skipBlank_lineBreak (style : Style) (depth : Nat) (text : List Char) :
    skipBlank (style.lineBreak depth ++ text) = skipBlank text :=
  skipBlank_append (all_isBlank_lineBreak style depth) text

/-- A text that holds nothing but a document is read back. -/
theorem Reads.readAll_write {reader : Reader α} {document : Document} {a : α}
    (h : Reads reader document a) (style : Style) :
    reader.readAll (document.write style) = .ok a := by
  have hread : reader.read (document.write style).toList = .ok (a, []) := by
    simpa [Document.write] using h style 0 [] [] rfl
  rw [Reader.readAll, hread]
  rfl

/-- A string is read back. -/
theorem reads_string (s : String) : Reads .string (.text s) s := by
  intro style depth blanks rest hblanks
  have htext : Document.text s style depth ++ rest =
      '"' :: (s.toList.flatMap escape ++ '"' :: rest) := by
    simp [Document.text, writeText]
  simp only [Reader.string]
  rw [List.append_assoc, skipBlank_append hblanks, htext, skipBlank_cons (by decide)]
  simp only [readText_escaped]
  simp [Functor.map, Except.map]

/-- A member behind its first quote. -/
def memberTail (key : String) (document : Document) : Document := fun style depth =>
  key.toList.flatMap escape ++ '"' :: (style.colon ++ document style depth)

theorem member_eq_memberTail (key : String) (document : Document) (style : Style) (depth : Nat) :
    document.member key style depth = '"' :: memberTail key document style depth := by
  simp [Document.member, memberTail, writeText]

/-- A colon leaves nothing but blanks in front of the value. -/
theorem readColon_colon (style : Style) (text : List Char) :
    ∃ blanks, blanks.all isBlank = true ∧
      readColon (style.colon ++ text) = .ok (blanks ++ text) := by
  cases style with
  | compact => exact ⟨[], rfl, rfl⟩
  | indented => exact ⟨[' '], rfl, rfl⟩

theorem readMember_memberTail {document : Document} {a : α} (h : Reads value document a)
    (key : String) (style : Style) (depth : Nat) (rest : List Char) :
    readMember value (memberTail key document style depth ++ rest) = .ok ((key, a), rest) := by
  obtain ⟨blanks, hblanks, hcolon⟩ := readColon_colon style (document style depth ++ rest)
  have hvalue := h style depth blanks rest hblanks
  rw [List.append_assoc] at hvalue
  simp only [readMember, memberTail, List.append_assoc, List.cons_append, readText_escaped]
  simp [bind, Except.bind, pure, Except.pure, hcolon, hvalue]

theorem firstStep_close (rest : List Char) : firstStep ('}' :: rest) = .ok (.close rest) := rfl

theorem firstStep_member (style : Style) (depth : Nat) (rest : List Char) :
    firstStep (style.lineBreak depth ++ '"' :: rest) = .ok (.member rest) := by
  rw [firstStep, skipBlank_lineBreak, skipBlank_cons (by decide)]
  rfl

theorem nextStep_close (style : Style) (depth : Nat) (rest : List Char) :
    nextStep (style.lineBreak depth ++ '}' :: rest) = .ok (.close rest) := by
  rw [nextStep, skipBlank_lineBreak, skipBlank_cons (by decide)]
  rfl

theorem nextStep_member (style : Style) (depth : Nat) (rest : List Char) :
    nextStep (',' :: (style.lineBreak depth ++ '"' :: rest)) = .ok (.member rest) := by
  simp only [nextStep]
  rw [skipBlank_cons (by decide)]
  simp only [skipBlank_lineBreak]
  rw [skipBlank_cons (by decide)]
  rfl

theorem readMembers_of_readMember {text rest : List Char} {member : String × α}
    {next : ObjectStep} (hmember : readMember value text = .ok (member, rest))
    (hnext : nextStep rest = .ok next) :
    readMembers value (.member text) =
      (fun (members, behind) => (member :: members, behind)) <$> readMembers value next := by
  rw [readMembers]
  split
  · simp_all
  · rename_i hmember'
    obtain ⟨rfl, rfl⟩ := Prod.mk.inj (Except.ok.inj (hmember.symm.trans hmember'))
    split
    · simp_all
    · rename_i hnext'
      obtain rfl := Except.ok.inj (hnext.symm.trans hnext')
      rfl

/-- Members behind the first one, up to the end of their object. -/
def laterMembers (write : α → Document) (members : List (String × α)) (style : Style)
    (inner outer : Nat) : List Char :=
  members.flatMap (fun (key, a) =>
    ',' :: (style.lineBreak inner ++ (write a).member key style inner))
    ++ style.lineBreak outer ++ ['}']

theorem laterMembers_nil_append (style : Style) (inner outer : Nat) (rest : List Char) :
    laterMembers write [] style inner outer ++ rest = style.lineBreak outer ++ '}' :: rest := by
  simp [laterMembers]

theorem laterMembers_cons_append (member : String × α) (members : List (String × α))
    (style : Style) (inner outer : Nat) (rest : List Char) :
    laterMembers write (member :: members) style inner outer ++ rest =
      ',' :: (style.lineBreak inner ++ '"' :: (memberTail member.1 (write member.2) style inner
        ++ (laterMembers write members style inner outer ++ rest))) := by
  simp [laterMembers, member_eq_memberTail]

theorem readMembers_written {first : String × α} {members : List (String × α)}
    (h : ∀ member ∈ first :: members, Reads value (write member.2) member.2)
    (style : Style) (inner outer : Nat) (rest : List Char) :
    readMembers value (.member (memberTail first.1 (write first.2) style inner
      ++ (laterMembers write members style inner outer ++ rest))) =
      .ok (first :: members, rest) := by
  induction members generalizing first with
  | nil =>
    rw [laterMembers_nil_append, readMembers_of_readMember
      (readMember_memberTail (h first (by simp)) first.1 style inner _)
      (nextStep_close style outer rest), readMembers]
    rfl
  | cons second members ih =>
    rw [laterMembers_cons_append, readMembers_of_readMember
      (readMember_memberTail (h first (by simp)) first.1 style inner _)
      (nextStep_member style inner _), ih fun member hmem => h member (by simp [hmem])]
    rfl

theorem object_nil (style : Style) (depth : Nat) :
    Document.object [] style depth = ['{', '}'] := rfl

theorem object_cons_append (first : String × α) (members : List (String × α)) (style : Style)
    (depth : Nat) (rest : List Char) :
    Document.object ((first :: members).map fun (key, a) => (key, write a)) style depth ++ rest =
      '{' :: (style.lineBreak (depth + 1) ++ '"' ::
        (memberTail first.1 (write first.2) style (depth + 1)
          ++ (laterMembers write members style (depth + 1) depth ++ rest))) := by
  simp [Document.object, Document.bracketed, laterMembers, member_eq_memberTail, List.flatMap_map]

/-- An object is read back when its members are. -/
theorem reads_object {members : List (String × α)}
    (h : ∀ member ∈ members, Reads value (write member.2) member.2) :
    Reads (.object value) (.object (members.map fun (key, a) => (key, write a))) members := by
  intro style depth blanks rest hblanks
  simp only [Reader.object]
  rw [List.append_assoc, skipBlank_append hblanks]
  cases members with
  | nil =>
    rw [List.map_nil, object_nil, List.cons_append, skipBlank_cons (by decide)]
    simp [firstStep_close, readMembers]
  | cons first members =>
    rw [object_cons_append, skipBlank_cons (by decide)]
    simp only [firstStep_member]
    exact readMembers_written h style (depth + 1) depth rest

end Phrasebook.Json
