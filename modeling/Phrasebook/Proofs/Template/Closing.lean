import Phrasebook.Template.Basic
import Phrasebook.Template.Delimiter

/-!
# Closed placeholders

A placeholder ends at the nearest closing mark, wherever that stands. A text closes its placeholders
when none of them needs the text behind it: reading it from the left and going on behind each
closing mark, every opening mark that is met has a closing mark behind it.

Strict reading ends a branch at a bar or a parenthesis, whatever is open there, while the forgiving
scan reads a placeholder to its end first. Where the first branch closes its placeholders, both end
it at the same bar.
-/
namespace Phrasebook

/-- The nearest closing mark stays the nearest one when more text follows. -/
theorem untilClosing_append {text body after : List Char}
    (h : untilClosing text = some (body, after)) (rest : List Char) :
    untilClosing (text ++ rest) = some (body, after ++ rest) := by
  fun_induction untilClosing text generalizing body with
  | case1 tail => simp_all [untilClosing]
  | case2 c tail hmark ih =>
    obtain ⟨⟨body', after'⟩, htail, heq⟩ := Option.map_eq_some_iff.1 h
    obtain ⟨rfl, rfl⟩ := Prod.mk.inj heq
    rw [List.cons_append, untilClosing]
    · simp [ih htail]
    · intro next hc hnext
      -- the appended text completes no mark, since a mark still follows in `tail`
      cases tail with
      | nil => simp [untilClosing] at htail
      | cons d tail =>
        obtain ⟨rfl, rfl⟩ := List.cons.inj hnext
        exact hmark tail hc rfl
  | case3 => simp at h

/-- Whether a mark starts right before a body can be told from the first brace of the mark behind
the body. -/
theorem closing_prefix_cons_iff {c : Char} {body : List Char} (after : List Char) :
    closing <+: c :: (body ++ ['}']) ↔
      c = '}' ∧ ∃ rest, body ++ closing ++ after = '}' :: rest := by
  cases body <;> simp [closing, eq_comm]

/-- The body ends at the nearest mark: no mark stands in it, and none starts with its last
character. -/
theorem untilClosing_eq_some_iff {text body after : List Char} :
    untilClosing text = some (body, after) ↔
      text = body ++ closing ++ after ∧ ¬ closing <:+: body ++ ['}'] := by
  constructor
  · intro h
    refine ⟨eq_of_untilClosing h, ?_⟩
    fun_induction untilClosing text generalizing body with
    | case1 rest =>
      obtain ⟨rfl, -⟩ : [] = body ∧ rest = after := by simpa using h
      decide
    | case2 c rest hmark ih =>
      obtain ⟨⟨body', after'⟩, hrest, heq⟩ := Option.map_eq_some_iff.1 h
      obtain ⟨rfl, rfl⟩ := Prod.mk.inj heq
      rw [List.cons_append, List.infix_cons_iff, not_or]
      refine ⟨fun hstart => ?_, ih hrest⟩
      obtain ⟨hc, tail, htail⟩ := (closing_prefix_cons_iff after').1 hstart
      exact hmark tail hc ((eq_of_untilClosing hrest).trans htail)
    | case3 => simp at h
  · rintro ⟨rfl, hnearest⟩
    induction body with
    | nil => rfl
    | cons c body ih =>
      rw [List.cons_append, List.infix_cons_iff, not_or] at hnearest
      rw [List.cons_append, List.cons_append, untilClosing]
      · rw [ih hnearest.2]
        rfl
      · intro rest hc hrest
        exact hnearest.1 ((closing_prefix_cons_iff after).2 ⟨hc, rest, hrest⟩)

/-- Reading on behind a closing mark makes progress. -/
theorem length_lt_of_untilClosing {text body after : List Char}
    (h : untilClosing text = some (body, after)) : after.length < text.length := by
  have hsplit := congrArg List.length (eq_of_untilClosing h)
  simp only [closing, List.length_append, List.length_cons, List.length_nil] at hsplit
  omega

/-- Whether every placeholder that a text opens is closed within it. -/
def closesPlaceholders (text : List Char) : Bool :=
  match text with
  | '{' :: '{' :: rest =>
    match h : untilClosing rest with
    | some (_, after) =>
      have := length_lt_of_untilClosing h
      closesPlaceholders after
    | none => false
  | _ :: rest => closesPlaceholders rest
  | [] => true
termination_by text.length

/-- Whether the branch of an alternative that stands before its first bar closes its placeholders.
Segments of other kinds have no such branch. -/
def Segment.firstBranchCloses : Segment → Bool
  | .alternative singular _ _ => closesPlaceholders singular.toList
  | .literal _ => true
  | .placeholder _ => true

/-- Whether no alternative of a template leaves a placeholder open in its first branch. -/
def Template.firstBranchesClose (template : Template) : Bool :=
  template.segments.all Segment.firstBranchCloses

end Phrasebook
