import Phrasebook.Template.Basic
import Phrasebook.Template.Delimiter
import Phrasebook.Modifier.Registry
import Phrasebook.Variables

/-!
# Resolving templates

A template is resolved in one scan from the left that never fails. A placeholder shows the value of
its variable behind its modifiers, or itself when there is no such variable. At a bar the scan takes
back what it has written since the last parenthesis and writes the branch that `count` selects.
What opens no placeholder or alternative is copied: an opening mark without a closing one together
with all that follows it, and a bar without a parenthesis before it or behind it.

The scan holds back what it writes from a parenthesis on, so that it can be taken back, together
with the source that has been read behind the parenthesis. Values go to the output alone, so their
text is never read as part of the template.
-/
namespace Phrasebook

/-- What a template is resolved against. -/
structure Context where
  variables? : Option Variables
  modifiers? : Option Registry

namespace Context

/-- The value that a slot shows, if its variable has one. -/
def value? (context : Context) (slot : Slot) : Option Value :=
  (Variables.lookup context.variables? slot.name).map fun value =>
    match context.modifiers? with
    | some modifiers => modifiers.applyAll slot.modifiers value
    | none => value

/-- The text that a slot becomes. A slot without a value is shown as it is written. -/
def slotText (context : Context) (slot : Slot) : String :=
  match context.value? slot with
  | some value => value.toText
  | none => String.ofList (opening ++ slot.body ++ closing)

/-- Whether the first branch of an alternative is selected. -/
def selectsSingular (context : Context) : Bool :=
  (Variables.count context.variables?).isOne

end Context

/-- A parenthesis in the template that may open an alternative. -/
structure OpenParen where
  /-- What has been written for the parenthesis and for the template behind it. -/
  output : String
  /-- The template behind the parenthesis, as far as it has been read. -/
  source : String

/-- A template that has been resolved in part. -/
structure Scan where
  /-- The template still to be read. -/
  rest : List Char
  /-- The text written before the open parenthesis; all of it when none is open. -/
  output : String
  /-- The last parenthesis since the last bar. -/
  paren? : Option OpenParen

namespace Scan

/-- The scan before the first character. -/
def start (template : List Char) : Scan := ⟨template, "", none⟩

/-- All the text written so far. -/
def text (scan : Scan) : String :=
  match scan.paren? with
  | some paren => scan.output ++ paren.output
  | none => scan.output

/-- Write `output` for the part `source` of the template, before `rest`. -/
def write (scan : Scan) (output source : String) (rest : List Char) : Scan :=
  match scan.paren? with
  | some paren => ⟨rest, scan.output, some ⟨paren.output ++ output, paren.source ++ source⟩⟩
  | none => ⟨rest, scan.output ++ output, none⟩

@[simp] theorem text_start (template : List Char) : (start template).text = "" := rfl

@[simp] theorem rest_write (scan : Scan) (output source : String) (rest : List Char) :
    (scan.write output source rest).rest = rest := by
  unfold write; split <;> rfl

@[simp] theorem text_write (scan : Scan) (output source : String) (rest : List Char) :
    (scan.write output source rest).text = scan.text ++ output := by
  unfold write text
  cases scan.paren? <;> simp [String.append_assoc]

/-- The scan behind an opening mark, of which `rest` is the template behind the mark. -/
def placeholder (context : Context) (scan : Scan) (rest : List Char) : Scan :=
  match untilClosing rest with
  | some (body, after) =>
    scan.write (context.slotText (Slot.ofBody body)) (String.ofList (opening ++ body ++ closing))
      after
  | none => scan.write (String.ofList scan.rest) (String.ofList scan.rest) []

/-- The scan behind a bar, of which `rest` is the template behind the bar. The singular is what the
template has between the parenthesis and the bar, and the plural ends at the next bar or at the
closing parenthesis. -/
def alternative (context : Context) (scan : Scan) (rest : List Char) : Scan :=
  match scan.paren?, Text.cutAt ')' rest with
  | some paren, some (branches, after) =>
    let plural := String.ofList (Text.fields '|' branches).1
    ⟨after, scan.output ++ (if context.selectsSingular then paren.source else plural), none⟩
  | _, _ => ⟨rest, scan.text.push '|', none⟩

/-- One step of the scan. -/
def step (context : Context) (scan : Scan) : Scan :=
  match scan.rest with
  | [] => scan
  | '{' :: '{' :: rest => scan.placeholder context rest
  | '|' :: rest => scan.alternative context rest
  | '(' :: rest => ⟨rest, scan.text, some ⟨"(", ""⟩⟩
  | c :: rest => scan.write c.toString c.toString rest

/-- Every step reads on. -/
theorem length_rest_step_lt (context : Context) (scan : Scan) (h : scan.rest ≠ []) :
    (scan.step context).rest.length < scan.rest.length := by
  unfold step
  split
  · contradiction
  · rename_i rest hr
    rw [hr]
    unfold placeholder
    split
    · rename_i hu
      simp [eq_of_untilClosing hu, closing]; omega
    · simp
  · rename_i rest hr
    rw [hr]
    unfold alternative
    split
    · rename_i hc
      simp [(Text.cutAt_eq_some_iff.1 hc).1]; omega
    · simp
  · rename_i hr
    simp [hr]
  · rename_i hr
    simp [hr]

/-- The text written when the whole template has been read. -/
def run (context : Context) (scan : Scan) : String :=
  if h : scan.rest = [] then scan.text
  else
    have := length_rest_step_lt context scan h
    (scan.step context).run context
termination_by scan.rest.length

end Scan

/-- Resolve a template. Without variables none is supplied; without modifiers none is known. -/
def resolve (template : String) (variables? : Option Variables) (modifiers? : Option Registry) :
    String :=
  (Scan.start template.toList).run ⟨variables?, modifiers?⟩

end Phrasebook
