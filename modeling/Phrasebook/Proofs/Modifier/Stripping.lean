import Mathlib.Data.List.Forall2
import Mathlib.Data.List.Infix
import Phrasebook.Modifier.Span

/-!
# Leaving out the marks of a span

What a span is about is said by a pattern: an opening mark that may be missing, characters other
than closing braces, and a closing mark that may be missing. A pattern is matched against a whole
text part by part. Each part takes as much as it can, and takes less only where the parts behind it
fail. The name that is found by cutting off the marks is what the second part takes.
-/
namespace Phrasebook

namespace Pattern

/-- A part of a pattern: a mark that may be missing, or one or more characters of a kind. -/
inductive Part where
  | optional (mark : List Char)
  | oneOrMore (accepts : Char → Bool)

/-- The ways to take accepted characters, one at least, with the text behind them. More characters
come before fewer. -/
def takeOneOrMore (accepts : Char → Bool) : List Char → List (List Char × List Char)
  | [] => []
  | c :: text =>
    if accepts c then
      (takeOneOrMore accepts text).map (fun (taken, rest) => (c :: taken, rest)) ++ [([c], text)]
    else []

/-- What a part may take from the front of a text, with the text behind it, in the order in which
it is tried. -/
def Part.take : Part → List Char → List (List Char × List Char)
  | .optional mark, text =>
    (if mark.isPrefixOf text then [(mark, text.drop mark.length)] else []) ++ [([], text)]
  | .oneOrMore accepts, text => takeOneOrMore accepts text

/-- The matches of a whole text in the order in which they are found. A match is what each part has
taken. -/
def allMatches : List Part → List Char → List (List (List Char))
  | [], text => if text.isEmpty then [[]] else []
  | part :: parts, text =>
    (part.take text).flatMap fun (taken, rest) => (allMatches parts rest).map (taken :: ·)

/-- The match that is found first. -/
def firstMatch? (parts : List Part) (text : List Char) : Option (List (List Char)) :=
  (allMatches parts text).head?

/-- A name, with or without a closing mark behind it. -/
def name : List Part :=
  [.oneOrMore (· ≠ '}'), .optional closing]

/-- Whether a text is one that a part may take. -/
def Part.Accepts : Part → List Char → Prop
  | .optional mark, taken => taken = mark ∨ taken = []
  | .oneOrMore accepts, taken => taken ≠ [] ∧ ∀ c ∈ taken, accepts c = true

theorem mem_takeOneOrMore {accepts : Char → Bool} {text taken rest : List Char} :
    (taken, rest) ∈ takeOneOrMore accepts text ↔
      text = taken ++ rest ∧ taken ≠ [] ∧ ∀ c ∈ taken, accepts c = true := by
  induction text generalizing taken with
  | nil =>
    simp only [takeOneOrMore, List.not_mem_nil, false_iff]
    rintro ⟨hsplit, hne, -⟩
    exact hne (List.append_eq_nil_iff.1 hsplit.symm).1
  | cons c text ih =>
    cases taken with
    | nil => by_cases hc : accepts c = true <;> simp [takeOneOrMore, hc]
    | cons d taken =>
      by_cases hc : accepts c = true
      · cases taken <;> simp [takeOneOrMore, hc, ih] <;> grind
      · simp [takeOneOrMore, hc]
        grind

/-- A part takes what it accepts, and nothing is lost. -/
theorem mem_take {part : Part} {text taken rest : List Char} :
    (taken, rest) ∈ part.take text ↔ text = taken ++ rest ∧ part.Accepts taken := by
  cases part with
  | oneOrMore accepts => exact mem_takeOneOrMore
  | optional mark =>
    simp only [Part.take, Part.Accepts, List.mem_append, List.mem_singleton]
    constructor
    · rintro (hmarked | hunmarked)
      · split at hmarked
        · rename_i hmark
          obtain ⟨tail, rfl⟩ := List.isPrefixOf_iff_prefix.1 hmark
          obtain ⟨rfl, rfl⟩ : taken = mark ∧ rest = tail := by simpa using hmarked
          exact ⟨rfl, .inl rfl⟩
        · simp at hmarked
      · obtain ⟨rfl, rfl⟩ := Prod.mk.inj hunmarked
        exact ⟨rfl, .inr rfl⟩
    · rintro ⟨rfl, rfl | rfl⟩
      · exact .inl (by simp)
      · exact .inr (by simp)

/-- The matches are the ways to cut a text into pieces that the parts accept. -/
theorem mem_allMatches {parts : List Part} {text : List Char} {pieces : List (List Char)} :
    pieces ∈ allMatches parts text ↔
      List.Forall₂ Part.Accepts parts pieces ∧ text = pieces.flatten := by
  induction parts generalizing text pieces with
  | nil =>
    simp only [allMatches, List.forall₂_nil_left_iff]
    split <;> simp_all
  | cons part parts ih =>
    simp only [allMatches, List.mem_flatMap, List.mem_map, Prod.exists, mem_take, ih]
    constructor
    · rintro ⟨taken, rest, ⟨rfl, haccepts⟩, more, ⟨hmore, rfl⟩, rfl⟩
      exact ⟨.cons haccepts hmore, by simp⟩
    · rintro ⟨hpieces, rfl⟩
      cases hpieces with
      | cons haccepts hmore =>
        exact ⟨_, _, ⟨by simp, haccepts⟩, _, ⟨hmore, rfl⟩, rfl⟩

end Pattern

namespace Span

theorem withoutClosing_append_closing (text : List Char) :
    withoutClosing (text ++ closing) = text := by
  simp [withoutClosing]

theorem withoutClosing_of_not_mem {text : List Char} (h : '}' ∉ text) :
    withoutClosing text = text := by
  refine if_neg fun hclosed => h ?_
  exact (List.isSuffixOf_iff_suffix.1 hclosed).subset (by decide)

/-- Without its closing mark a text lacks the mark and nothing else. -/
theorem eq_withoutClosing_append (text : List Char) :
    text = withoutClosing text ++ closing ∨ text = withoutClosing text := by
  by_cases hclosed : closing.isSuffixOf text = true
  · obtain ⟨before, rfl⟩ := List.isSuffixOf_iff_suffix.1 hclosed
    exact .inl (by rw [withoutClosing_append_closing])
  · exact .inr (if_neg hclosed).symm

/-- A text names what stands before its closing mark, or the whole of it. -/
theorem name?_eq_some_iff {text name : List Char} :
    name? text = some name ↔
      (text = name ++ closing ∨ text = name) ∧ name ≠ [] ∧ '}' ∉ name := by
  constructor
  · intro h
    have hname : withoutClosing text = name ∧ name ≠ [] ∧ '}' ∉ name := by
      unfold name? at h
      grind
    obtain ⟨rfl, hvalid⟩ := hname
    exact ⟨eq_withoutClosing_append text, hvalid⟩
  · rintro ⟨hsplit, hne, hbrace⟩
    have hname : withoutClosing text = name := by
      rcases hsplit with rfl | rfl
      · exact withoutClosing_append_closing name
      · exact withoutClosing_of_not_mem hbrace
    simp [name?, hname, hne, hbrace]

/-- A text that names something is matched as a name. -/
theorem exists_match_of_name? {text name : List Char} (h : name? text = some name) :
    ∃ mark, [name, mark] ∈ Pattern.allMatches Pattern.name text := by
  obtain ⟨hsplit, hne, hbrace⟩ := name?_eq_some_iff.1 h
  have haccepts : (Pattern.Part.oneOrMore (· ≠ '}')).Accepts name :=
    ⟨hne, fun c hc => decide_eq_true fun heq => hbrace (heq ▸ hc)⟩
  rcases hsplit with rfl | rfl
  · exact ⟨closing, Pattern.mem_allMatches.2 ⟨.cons haccepts (.cons (.inl rfl) .nil), by simp⟩⟩
  · exact ⟨[], Pattern.mem_allMatches.2 ⟨.cons haccepts (.cons (.inr rfl) .nil), by simp⟩⟩

/-- Every match of a name shows what the text names. -/
theorem name?_of_match {text : List Char} {pieces : List (List Char)}
    (h : pieces ∈ Pattern.allMatches Pattern.name text) :
    ∃ name, name? text = some name ∧ pieces = [name, text.drop name.length] := by
  obtain ⟨hpieces, rfl⟩ := Pattern.mem_allMatches.1 h
  obtain _ | ⟨⟨hne, haccepts⟩, _ | ⟨hmark, ⟨⟩⟩⟩ := hpieces
  refine ⟨_, name?_eq_some_iff.2 ⟨?_, hne, fun hbrace => ?_⟩, by simp⟩
  · rcases hmark with rfl | rfl
    · exact .inl (by simp)
    · exact .inr (by simp)
  · simpa using haccepts '}' hbrace

/-- A name is matched by what a text names, and by the mark behind it. -/
theorem firstMatch?_name (text : List Char) :
    Pattern.firstMatch? Pattern.name text =
      (name? text).map fun name => [name, text.drop name.length] := by
  cases hmatch : Pattern.firstMatch? Pattern.name text with
  | none =>
    have hnone : Pattern.allMatches Pattern.name text = [] := List.head?_eq_none_iff.1 hmatch
    cases hname : name? text with
    | none => rfl
    | some name =>
      obtain ⟨mark, hmem⟩ := exists_match_of_name? hname
      simp [hnone] at hmem
  | some pieces =>
    obtain ⟨name, hname, rfl⟩ := name?_of_match (List.mem_of_mem_head? hmatch)
    rw [hname, Option.map_some]

/-- What a span is about is what the second part takes in the first match, or the whole text when
there is no match. -/
theorem inner_eq_firstMatch (text : List Char) :
    inner text =
      ((Pattern.firstMatch? [.optional opening, .oneOrMore (· ≠ '}'), .optional closing] text).bind
        (·[1]?)).getD text := by
  -- the opening mark is tried first, and a match without it counts only where none has it
  have hmatches :
      Pattern.firstMatch? (.optional opening :: Pattern.name) text =
        ((if opening.isPrefixOf text then
            Pattern.firstMatch? Pattern.name (text.drop opening.length) else none).map
          (opening :: ·)).or ((Pattern.firstMatch? Pattern.name text).map ([] :: ·)) := by
    rw [Pattern.firstMatch?, Pattern.allMatches, Pattern.Part.take, List.flatMap_append,
      List.head?_append]
    split <;> simp [Pattern.firstMatch?]
  rw [← Pattern.name, hmatches]
  unfold inner
  split
  · cases hopened : name? (text.drop opening.length) <;> cases hname : name? text <;>
      simp [firstMatch?_name, hopened, hname]
  · cases hname : name? text <;> simp [firstMatch?_name, hname]

/-- Where no name would remain, the opening mark is part of the name. -/
example : inner ['{', '{', '}', '}'] = ['{', '{'] := by decide

end Span

end Phrasebook
