import Phrasebook.Proofs.Resolve.Step

/-!
# Outlines

An outline is what a template becomes before anything is known of the variables but the branch that
`count` selects: pieces of text and slots in the order of the output. It is drafted by the scan's
own steps, which write slots where the scan writes their texts. Filling the slots of a draft gives
the scan, so values are put into an outline that they have no part in making.
-/
namespace Phrasebook

/-- A part of an outline: a text that is copied, or a slot that is shown. -/
inductive Piece where
  | copied (text : String)
  | shown (slot : Slot)
  deriving DecidableEq

namespace Piece

/-- The slot of a piece that is one. -/
def slot? : Piece → Option Slot
  | .shown slot => some slot
  | .copied _ => none

/-- What a piece becomes. -/
def fill (context : Context) : Piece → String
  | .copied text => text
  | .shown slot => context.slotText slot

end Piece

/-- What a list of pieces becomes. -/
def Context.fill (context : Context) (pieces : List Piece) : String :=
  String.join (pieces.map (Piece.fill context))

@[simp] theorem Context.fill_nil (context : Context) : context.fill [] = "" := rfl

@[simp] theorem Context.fill_cons (context : Context) (piece : Piece) (pieces : List Piece) :
    context.fill (piece :: pieces) = piece.fill context ++ context.fill pieces := by
  simp [fill]

@[simp] theorem Context.fill_append (context : Context) (pieces more : List Piece) :
    context.fill (pieces ++ more) = context.fill pieces ++ context.fill more := by
  induction pieces with
  | nil => simp
  | cons piece pieces ih => simp [ih, String.append_assoc]

/-- A parenthesis that may open an alternative, in a draft. -/
structure HeldPieces where
  /-- The pieces for the parenthesis and for the template behind it. -/
  pieces : List Piece
  /-- The template behind the parenthesis, as far as it has been read. -/
  source : String

/-- A template that has been outlined in part. -/
structure Draft where
  /-- The template still to be read. -/
  rest : List Char
  /-- The pieces before the open parenthesis; all of them when none is open. -/
  pieces : List Piece
  /-- The last parenthesis since the last bar. -/
  held? : Option HeldPieces

namespace Draft

/-- The draft before the first character. -/
def start (template : List Char) : Draft := ⟨template, [], none⟩

/-- All the pieces written so far. -/
def written (draft : Draft) : List Piece :=
  match draft.held? with
  | some held => draft.pieces ++ held.pieces
  | none => draft.pieces

/-- Write a piece for the part `source` of the template, before `rest`. -/
def write (draft : Draft) (piece : Piece) (source : String) (rest : List Char) : Draft :=
  match draft.held? with
  | some held => ⟨rest, draft.pieces, some ⟨held.pieces ++ [piece], held.source ++ source⟩⟩
  | none => ⟨rest, draft.pieces ++ [piece], none⟩

/-- The draft behind an opening mark, of which `rest` is the template behind the mark. -/
def placeholder (draft : Draft) (rest : List Char) : Draft :=
  match untilClosing rest with
  | some (body, after) =>
    draft.write (.shown (Slot.ofBody body)) (String.ofList (opening ++ body ++ closing)) after
  | none => draft.write (.copied (String.ofList draft.rest)) (String.ofList draft.rest) []

/-- The draft behind a bar, of which `rest` is the template behind the bar. -/
def alternative (singular : Bool) (draft : Draft) (rest : List Char) : Draft :=
  match draft.held?, Text.cutAt ')' rest with
  | some held, some (branches, after) =>
    let plural := String.ofList (Text.fields '|' branches).1
    ⟨after, draft.pieces ++ [.copied (if singular then held.source else plural)], none⟩
  | _, _ => ⟨rest, draft.written ++ [.copied "|"], none⟩

/-- One step of the draft. -/
def step (singular : Bool) (draft : Draft) : Draft :=
  match draft.rest with
  | [] => draft
  | '{' :: '{' :: rest => draft.placeholder rest
  | '|' :: rest => draft.alternative singular rest
  | '(' :: rest => ⟨rest, draft.written, some ⟨[.copied "("], ""⟩⟩
  | c :: rest => draft.write (.copied c.toString) c.toString rest

/-- The scan that has written the pieces of a draft with their slots filled. -/
def fill (context : Context) (draft : Draft) : Scan where
  rest := draft.rest
  output := context.fill draft.pieces
  paren? := draft.held?.map fun held => ⟨context.fill held.pieces, held.source⟩

variable (context : Context) (draft : Draft)

@[simp] theorem rest_fill : (draft.fill context).rest = draft.rest := rfl

@[simp] theorem text_fill : (draft.fill context).text = context.fill draft.written := by
  unfold Scan.text written fill
  cases draft.held? <;> simp

theorem fill_write (piece : Piece) (source : String) (rest : List Char) :
    (draft.write piece source rest).fill context =
      (draft.fill context).write (piece.fill context) source rest := by
  unfold Scan.write write fill
  cases draft.held? <;> simp

theorem fill_placeholder (rest : List Char) :
    (draft.placeholder rest).fill context = (draft.fill context).placeholder context rest := by
  unfold Scan.placeholder placeholder
  cases untilClosing rest with
  | none => exact fill_write ..
  | some cut => exact fill_write ..

theorem fill_alternative (rest : List Char) :
    (draft.alternative context.selectsSingular rest).fill context =
      (draft.fill context).alternative context rest := by
  have hbar : (⟨rest, draft.written ++ [.copied "|"], none⟩ : Draft).fill context =
      ⟨rest, (draft.fill context).text.push '|', none⟩ := by
    rw [text_fill, String.push_eq_append]
    simp [fill, Piece.fill]
  unfold Scan.alternative alternative
  cases hheld : draft.held? with
  | none => simpa [fill, hheld] using hbar
  | some held =>
    cases Text.cutAt ')' rest with
    | none => simpa [fill, hheld] using hbar
    | some cut => simp [fill, hheld, Piece.fill]

/-- Filling a draft and going on commute. -/
theorem fill_step :
    (draft.step context.selectsSingular).fill context = (draft.fill context).step context := by
  unfold step
  split
  · rename_i hrest
    simp [Scan.step, hrest]
  · rename_i rest hrest
    rw [fill_placeholder, Scan.step_opening]
    exact hrest
  · rename_i rest hrest
    rw [fill_alternative, Scan.step_bar]
    exact hrest
  · rename_i rest hrest
    have hfilled : (draft.fill context).rest = '(' :: rest := hrest
    rw [Scan.step_paren hfilled, text_fill]
    simp [fill, Piece.fill]
  · rename_i c rest hmark hbar hparen hrest
    have hopen : ¬ opening <+: c :: rest := by
      rintro ⟨tail, htail⟩
      obtain ⟨rfl, rfl⟩ := List.cons.inj htail
      exact hmark tail rfl rfl
    have hfilled : (draft.fill context).rest = c :: rest := hrest
    rw [fill_write, Scan.step_char hfilled hopen hbar hparen]
    rfl

end Draft

/-- Variables that select a branch and nothing more. -/
def Variables.ofCount (singular : Bool) : Variables :=
  (∅ : Variables).insert countName (.number (if singular then 1 else 2))

@[simp] theorem Context.selectsSingular_ofCount (singular : Bool) (modifiers? : Option Registry) :
    (Context.mk (some (Variables.ofCount singular)) modifiers?).selectsSingular = singular := by
  cases singular <;> simp [selectsSingular, Variables.count, Variables.ofCount, Value.isOne]

namespace Draft

/-- Every step reads on. -/
theorem length_rest_step_lt (singular : Bool) (draft : Draft) (h : draft.rest ≠ []) :
    (draft.step singular).rest.length < draft.rest.length := by
  let context : Context := ⟨some (Variables.ofCount singular), none⟩
  have hscan := Scan.length_rest_step_lt context (draft.fill context) h
  rw [← fill_step, Context.selectsSingular_ofCount] at hscan
  exact hscan

/-- The pieces written when the whole template has been read. -/
def run (singular : Bool) (draft : Draft) : List Piece :=
  if h : draft.rest = [] then draft.written
  else
    have := length_rest_step_lt singular draft h
    (draft.step singular).run singular
termination_by draft.rest.length

/-- A scan writes what its draft becomes. -/
theorem run_fill (context : Context) (draft : Draft) :
    (draft.fill context).run context = context.fill (draft.run context.selectsSingular) := by
  fun_induction run context.selectsSingular draft with
  | case1 draft hend => rw [Scan.run_of_rest_eq_nil hend, text_fill]
  | case2 draft hrest _ ih => rw [← ih, fill_step, Scan.run_step hrest]

end Draft

/-- What a template becomes, for either branch that `count` selects. -/
def outline (singular : Bool) (template : String) : List Piece :=
  (Draft.start template.toList).run singular

/-- The slots that a template shows, for either branch that `count` selects. -/
def shownSlots (singular : Bool) (template : String) : List Slot :=
  (outline singular template).filterMap Piece.slot?

/-- A template resolves to its outline with the slots filled. Which outline it is depends on nothing
but the branch that `count` selects. -/
theorem resolve_eq_fill_outline (template : String) (variables? : Option Variables)
    (modifiers? : Option Registry) :
    resolve template variables? modifiers? =
      (Context.mk variables? modifiers?).fill
        (outline (Variables.count variables?).isOne template) :=
  Draft.run_fill ⟨variables?, modifiers?⟩ (Draft.start template.toList)

end Phrasebook
