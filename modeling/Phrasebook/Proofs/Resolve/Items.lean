import Phrasebook.Validation
import Phrasebook.Proofs.Resolve.Outline

/-!
# Values are not read as template

Once it is known which names are supplied and which branch `count` selects, the output of a template
is a fixed list of items: texts, and slots that all have a value. The values and the modifiers come
in when the slots are filled. So whatever marks, bars and parentheses a value has, they open, close
and select nothing, and nothing that was written before is taken back for them.
-/
namespace Phrasebook

/-- Whether the named variables are the ones that are supplied. -/
def Variables.SuppliesExactly (names : List String) (variables? : Option Variables) : Prop :=
  ∀ name, supplies variables? name = true ↔ name ∈ names

namespace Piece

/-- The text of an item: a text itself, and for a slot that of its value behind the modifiers. A
slot without a value has none. -/
def text? (context : Context) : Piece → Option String
  | .copied text => some text
  | .shown slot => (context.value? slot).map Value.toText

/-- A piece when the supplied names are known. A slot without a value is copied as it is written. -/
def settle (names : List String) : Piece → Piece
  | .copied text => .copied text
  | .shown slot =>
    if slot.name = Variables.countName ∨ slot.name ∈ names then .shown slot
    else .copied (String.ofList (opening ++ slot.body ++ closing))

end Piece

/-- The items of a template when the supplied names and the selected branch are known. -/
def itemsOf (names : List String) (singular : Bool) (template : String) : List Piece :=
  (outline singular template).map (Piece.settle names)

variable {names : List String} {variables? : Option Variables}

theorem Variables.SuppliesExactly.isSome_lookup (h : SuppliesExactly names variables?)
    (name : String) :
    (lookup variables? name).isSome = true ↔ name = countName ∨ name ∈ names := by
  rw [isSome_lookup_iff, h name]

namespace Piece

/-- When the names are known, every piece has the text that it is filled with. -/
theorem text?_settle (h : Variables.SuppliesExactly names variables?)
    (modifiers? : Option Registry) (piece : Piece) :
    (piece.settle names).text? ⟨variables?, modifiers?⟩ =
      some (piece.fill ⟨variables?, modifiers?⟩) := by
  cases piece with
  | copied text => rfl
  | shown slot =>
    have hvalue := h.isSome_lookup slot.name
    unfold settle fill Context.slotText
    cases hlookup : Variables.lookup variables? slot.name with
    | none =>
      have hname : ¬ (slot.name = Variables.countName ∨ slot.name ∈ names) := by
        rw [← hvalue, hlookup]
        simp
      simp [hname, text?, Context.value?, hlookup]
    | some value =>
      have hname : slot.name = Variables.countName ∨ slot.name ∈ names := by
        rw [← hvalue, hlookup]
        rfl
      simp [hname, text?, Context.value?, hlookup]

/-- Settled pieces all have texts, and together these are what the pieces are filled with. -/
theorem mapM_text?_settle (h : Variables.SuppliesExactly names variables?)
    (modifiers? : Option Registry) (pieces : List Piece) :
    (pieces.map (settle names)).mapM (text? ⟨variables?, modifiers?⟩) =
      some (pieces.map (fill ⟨variables?, modifiers?⟩)) := by
  induction pieces with
  | nil => rfl
  | cons piece pieces ih => simp [List.mapM_cons, text?_settle h, ih]

end Piece

example : itemsOf ["x"] true "({{x}}(a|b){{y}}" =
    [.copied "(", .shown ⟨"x", []⟩, .copied "a", .copied "{{y}}"] := by
  decide +kernel

end Phrasebook
