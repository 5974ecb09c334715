import Phrasebook.Text.Fields

/-!
# Delimiters

Where placeholders and alternatives end. The forgiving reading of a template and the strict one
share these searches, which always take the nearest closing mark.
-/
namespace Phrasebook

/-- The mark before the body of a placeholder. -/
def opening : List Char := ['{', '{']

/-- The mark behind the body of a placeholder. -/
def closing : List Char := ['}', '}']

/-- The text before the first `}}` and the text behind it, if there is one. -/
def untilClosing : List Char → Option (List Char × List Char)
  | '}' :: '}' :: rest => some ([], rest)
  | c :: rest => (untilClosing rest).map fun (body, after) => (c :: body, after)
  | [] => none

/-- Nothing is lost between the body and the text behind it. -/
theorem eq_of_untilClosing {text body after : List Char}
    (h : untilClosing text = some (body, after)) : text = body ++ closing ++ after := by
  fun_induction untilClosing text generalizing body with
  | case1 rest => simp_all [closing]
  | case2 c rest _ ih =>
    obtain ⟨⟨body', after'⟩, h', he⟩ := Option.map_eq_some_iff.1 h
    obtain ⟨rfl, rfl⟩ := Prod.mk.inj he
    simp [ih h']
  | case3 => simp at h

end Phrasebook
