import Phrasebook.Lint
import Phrasebook.Proofs.Template.Flaws

/-!
# Templates without extra branches

The branches of an alternative behind the second one are never selected, and cutting them off gives
a template that is read as what is left of the segments. Nothing else is read differently. To tell
where literal text stops, the reader looks no further than the next parenthesis, and a branch stands
behind the parenthesis of its alternative.
-/
namespace Phrasebook

/-- A segment without the branches that are never selected. -/
def Segment.pruned : Segment → Segment
  | .literal text => .literal text
  | .placeholder slot => .placeholder slot
  | .alternative singular plural _ => .alternative singular plural []

/-- A template without the branches that are never selected. -/
def Template.pruned (template : Template) : Template :=
  ⟨template.segments.map Segment.pruned⟩

namespace Segment
variable {segment second : Segment}

@[simp] theorem slot?_pruned (segment : Segment) : segment.pruned.slot? = segment.slot? := by
  cases segment <;> rfl

theorem IsCanonical.pruned (h : segment.IsCanonical) : segment.pruned.IsCanonical := by
  cases segment with
  | literal text => exact h
  | placeholder slot => exact h
  | alternative singular plural others =>
    intro branch hbranch
    exact h branch ((List.prefix_append [singular, plural] others).subset hbranch)

theorem MayPrecede.pruned (h : segment.MayPrecede second) : segment.MayPrecede second.pruned := by
  cases segment <;> cases second <;> exact h

end Segment

namespace Template
variable {text rest after : List Char} {segment : Segment} {segments : List Segment}

/-- A text through its first parenthesis. -/
def throughParen (text : List Char) : List Char :=
  text.takeWhile isInnerChar ++ (text.dropWhile isInnerChar).take 1

@[simp] theorem throughParen_nil : throughParen [] = [] := rfl

@[simp] theorem throughParen_cons (c : Char) (rest : List Char) :
    throughParen (c :: rest) = if isInnerChar c then c :: throughParen rest else [c] := by
  by_cases hc : isInnerChar c = true <;> simp [throughParen, hc]

theorem throughParen_append_congr (h : throughParen rest = throughParen after) (text : List Char) :
    throughParen (text ++ rest) = throughParen (text ++ after) := by
  induction text with
  | nil => exact h
  | cons c text ih => simp [ih]

@[simp] theorem takeWhile_throughParen (text : List Char) :
    (throughParen text).takeWhile isInnerChar = text.takeWhile isInnerChar := by
  induction text with
  | nil => rfl
  | cons c rest ih => by_cases hc : isInnerChar c = true <;> simp [hc, ih]

@[simp] theorem dropWhile_throughParen (text : List Char) :
    (throughParen text).dropWhile isInnerChar = (text.dropWhile isInnerChar).take 1 := by
  induction text with
  | nil => rfl
  | cons c rest ih => by_cases hc : isInnerChar c = true <;> simp [hc, ih]

/-- Whether an alternative starts can be told from the text through the next parenthesis. -/
theorem isSome_alternative?_throughParen (c : Char) (rest : List Char) :
    (alternative? (c :: throughParen rest)).isSome = (alternative? (c :: rest)).isSome := by
  by_cases hc : c = '('
  · subst hc
    simp only [alternative?, takeWhile_throughParen, dropWhile_throughParen]
    cases rest.dropWhile isInnerChar with
    | nil => rfl
    | cons d behind =>
      rw [List.take_succ_cons, List.take_zero]
      obtain ⟨singular, others⟩ := Text.fields '|' (rest.takeWhile isInnerChar)
      by_cases hd : d = ')'
      · subst hd
        cases others <;> rfl
      · simp [hd]
  · simp [alternative?, hc]

/-- Whether literal text stops can be told from the text through the next parenthesis. -/
theorem stopsLiteral_throughParen (c : Char) (rest : List Char) :
    stopsLiteral (c :: throughParen rest) = stopsLiteral (c :: rest) := by
  have hopen : opening <+: c :: throughParen rest ↔ opening <+: c :: rest := by
    cases rest with
    | nil => rfl
    | cons d rest => by_cases hd : isInnerChar d = true <;> simp [opening, hd]
  rw [Bool.eq_iff_iff, stopsLiteral_cons_iff, stopsLiteral_cons_iff, hopen,
    isSome_alternative?_throughParen]

/-- A literal run stays one when the text behind it is changed behind its first parenthesis. -/
theorem literalRun_append_congr (hrun : literalRun (text ++ rest) = (text, rest))
    (hsame : throughParen after = throughParen rest)
    (hstops : after = [] ∨ stopsLiteral after = true) :
    literalRun (text ++ after) = (text, after) := by
  induction text with
  | nil => exact literalRun_of_stops hstops
  | cons c text ih =>
    have hgoes : ¬ stopsLiteral (c :: (text ++ rest)) = true := by
      intro hstop
      simp [literalRun, hstop] at hrun
    have hgoes' : ¬ stopsLiteral (c :: (text ++ after)) = true := by
      rw [← stopsLiteral_throughParen, throughParen_append_congr hsame, stopsLiteral_throughParen]
      exact hgoes
    have hmore : literalRun (text ++ rest) = (text, rest) := by
      simpa [literalRun, hgoes, Prod.ext_iff] using hrun
    simp [literalRun, hgoes', ih hmore]

/-- Cutting branches off changes nothing before the parenthesis of an alternative. -/
theorem throughParen_sourceOf_pruned (segments : List Segment) :
    throughParen (sourceOf (segments.map Segment.pruned)) = throughParen (sourceOf segments) := by
  induction segments with
  | nil => rfl
  | cons segment segments ih =>
    rw [List.map_cons, sourceOf_cons, sourceOf_cons]
    cases segment with
    | literal text => exact throughParen_append_congr ih text.toList
    | placeholder slot => exact throughParen_append_congr ih _
    | alternative singular plural others => simp [Segment.pruned, Segment.source, isInnerChar]

/-- The segment at the front is read without its extra branches when all extra branches are cut
off. -/
theorem segment?_pruned (h : segment? text = some (segment, after))
    (hmore : ReadsTo after segments []) :
    segment? (segment.pruned.source ++ sourceOf (segments.map Segment.pruned)) =
      some (segment.pruned, sourceOf (segments.map Segment.pruned)) := by
  obtain ⟨hafter, hforms⟩ := hmore.source
  rw [List.append_nil] at hafter
  obtain ⟨rfl, hform⟩ := segment?_source h
  have hform' := hform.pruned
  cases segment with
  | placeholder slot => exact segment?_placeholder_append hform' _
  | alternative singular plural others => exact segment?_alternative_append hform' _
  | literal literal =>
    have hnext : ∀ next ∈ (segments.map Segment.pruned).head?,
        (Segment.literal literal).MayPrecede next := by
      intro next hmem
      rw [List.head?_map] at hmem
      obtain ⟨second, hsecond, rfl⟩ := Option.map_eq_some_iff.1 hmem
      exact (ReadsTo.mayPrecede h hmore second hsecond).pruned
    have hforms' : ∀ next ∈ segments.map Segment.pruned, next.IsCanonical := by
      intro next hmem
      obtain ⟨second, hsecond, rfl⟩ := List.mem_map.1 hmem
      exact (hforms second hsecond).pruned
    have hstops := stops_sourceOf hnext hforms'
    have hrun : literalRun (literal.toList ++ after) = (literal.toList, after) :=
      literalRun_of_segment? h
    have hsame : throughParen (sourceOf (segments.map Segment.pruned)) = throughParen after := by
      rw [hafter, throughParen_sourceOf_pruned]
    exact segment?_literal_append hform (literalRun_append_congr hrun hsame hstops)

theorem ReadsTo.pruned (h : ReadsTo text segments rest) (hend : rest = []) :
    ReadsTo (Template.sourceOf (segments.map Segment.pruned)) (segments.map Segment.pruned) [] := by
  induction h with
  | nil text => exact .nil []
  | cons hsegment hmore ih =>
    subst hend
    exact .cons (segment?_pruned hsegment hmore) (ih rfl)

/-- A template is read without its extra branches when they are cut off in its source. -/
theorem parse_pruned {template : String} {parsed : Template}
    (hparse : parse template = .ok parsed) : parse parsed.pruned.print = .ok parsed.pruned := by
  have hreads := (readsTo_of_segmentsOf_ok (segmentsOf_of_parse hparse)).pruned rfl
  have hsegments : segmentsOf parsed.pruned.print.toList = .ok parsed.pruned.segments := by
    rw [print, String.toList_ofList]
    exact hreads.segmentsOf_eq_ok
  simp [parse, hsegments]

end Template

end Phrasebook
