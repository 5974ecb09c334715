import Phrasebook.Template.Basic
import Phrasebook.Template.Error

/-!
# Reading templates strictly

A template is read segment by segment from the left. A placeholder needs a name, an alternative
needs two branches without parentheses, and literal text runs as far as no other segment, bar or
opening mark starts. A parenthesis that opens no alternative is literal text, and so are lone
closing marks. Where no segment starts, reading stops with the flaw found there.
-/
namespace Phrasebook.Template

/-- The placeholder at the front of a text, and the text behind it. -/
def placeholder? : List Char → Option (Slot × List Char)
  | '{' :: '{' :: rest =>
    match untilClosing rest with
    | none | some ([], _) | some (':' :: _, _) => none
    | some (body, after) => some (Slot.ofBody body, after)
  | _ => none

/-- Whether a character may stand between the parentheses of an alternative. -/
def isInnerChar (c : Char) : Bool :=
  c ≠ '(' && c ≠ ')'

/-- The alternative at the front of a text, and the text behind it. -/
def alternative? : List Char → Option (Segment × List Char)
  | '(' :: rest =>
    match rest.dropWhile isInnerChar, Text.fields '|' (rest.takeWhile isInnerChar) with
    | ')' :: after, (singular, plural :: others) =>
      some (.alternative (String.ofList singular) (String.ofList plural)
        (others.map String.ofList), after)
    | _, _ => none
  | _ => none

/-- Whether literal text ends before a text. -/
def stopsLiteral (text : List Char) : Bool :=
  ['|'].isPrefixOf text || opening.isPrefixOf text || (alternative? text).isSome

/-- The literal text at the front of a text, and the text behind it. -/
def literalRun : List Char → List Char × List Char
  | [] => ([], [])
  | c :: rest =>
    if stopsLiteral (c :: rest) then ([], c :: rest)
    else (c :: (literalRun rest).1, (literalRun rest).2)

/-- The literal segment at the front of a text, which is never empty. -/
def literal? (text : List Char) : Option (Segment × List Char) :=
  match literalRun text with
  | ([], _) => none
  | (run, after) => some (.literal (String.ofList run), after)

/-- The segment at the front of a text, and the text behind it. -/
def segment? (text : List Char) : Option (Segment × List Char) :=
  match placeholder? text with
  | some (slot, after) => some (.placeholder slot, after)
  | none => (alternative? text).or (literal? text)

theorem placeholder?_shorter {text after : List Char} {slot : Slot}
    (h : placeholder? text = some (slot, after)) : after.length < text.length := by
  revert h
  fun_cases placeholder? text with
  | case4 rest body behind _ _ hbody =>
    rintro ⟨⟩
    simp only [eq_of_untilClosing hbody, closing, List.length_cons, List.length_append]
    omega
  | _ => simp

theorem alternative?_shorter {text after : List Char} {segment : Segment}
    (h : alternative? text = some (segment, after)) : after.length < text.length := by
  revert h
  fun_cases alternative? text with
  | case1 rest behind singular plural others _ hinner =>
    rintro ⟨⟩
    have hle := (List.dropWhile_suffix isInnerChar (l := rest)).length_le
    simp only [hinner, List.length_cons] at hle ⊢
    omega
  | _ => simp

@[simp] theorem literalRun_append (text : List Char) :
    (literalRun text).1 ++ (literalRun text).2 = text := by
  induction text with
  | nil => rfl
  | cons c rest ih => by_cases h : stopsLiteral (c :: rest) <;> simp [literalRun, h, ih]

theorem literal?_shorter {text after : List Char} {segment : Segment}
    (h : literal? text = some (segment, after)) : after.length < text.length := by
  revert h
  fun_cases literal? text with
  | case1 => exact nofun
  | case2 run _ hne hrun =>
    rintro ⟨⟩
    have hpos : 0 < run.length := List.length_pos_iff.2 hne
    have happend : run ++ after = text := by simpa [hrun] using literalRun_append text
    rw [← happend, List.length_append]
    omega

/-- Reading a segment makes progress. -/
theorem segment?_shorter {text after : List Char} {segment : Segment}
    (h : segment? text = some (segment, after)) : after.length < text.length := by
  unfold segment? at h
  split at h
  · rename_i hp
    obtain ⟨-, rfl⟩ := Prod.mk.inj (Option.some.inj h)
    exact placeholder?_shorter hp
  · rcases Option.or_eq_some_iff.1 h with ha | ⟨-, hl⟩
    · exact alternative?_shorter ha
    · exact literal?_shorter hl

/-- The segments of a text. The error is the unread text that starts with no segment. -/
def segmentsOf (text : List Char) : Except (List Char) (List Segment) :=
  match h : segment? text with
  | some (segment, after) =>
    have := segment?_shorter h
    (segment :: ·) <$> segmentsOf after
  | none => if text.isEmpty then .ok [] else .error text
termination_by text.length

/-- Read a template strictly. -/
def parse (template : String) : Except ParseError Template :=
  match segmentsOf template.toList with
  | .ok segments => .ok ⟨segments⟩
  | .error unread => .error (ParseError.ofUnread template.toList unread)

end Phrasebook.Template
