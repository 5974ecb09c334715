import Mathlib.Data.List.DropRight
import Phrasebook.Proofs.Template.RoundTrip
import Phrasebook.Proofs.Text.Positions

/-!
# Where strict reading stops

A template that cannot be read strictly is read as far as segments go. What has been read can be
read on its own: a segment that was found with the rest of the template behind it is found without
it. What is left unread starts with one of three flaws, and its first characters tell which one.
-/
namespace Phrasebook

/-- There is no body when nothing closes it. -/
theorem untilClosing_eq_none_iff {text : List Char} :
    untilClosing text = none ↔ ¬ closing <:+: text := by
  fun_induction untilClosing text with
  | case1 rest =>
    have hmark : closing <:+: '}' :: '}' :: rest := (List.prefix_append closing rest).isInfix
    simpa using hmark
  | case2 c rest hmark ih =>
    have hstart : ¬ closing <+: c :: rest := by
      rintro ⟨tail, htail⟩
      obtain ⟨rfl, hrest⟩ := List.cons.inj htail
      exact hmark tail rfl hrest.symm
    rw [Option.map_eq_none_iff, ih, List.infix_cons_iff, or_iff_right hstart]
  | case3 => simp [closing]

/-- The flaw that a text starts with. An unterminated placeholder has no closing mark behind its
opening one. The body of an unnamed one, up to the nearest closing mark, is empty or starts with a
colon. -/
inductive Flaw.FoundAt : Flaw → List Char → Prop where
  | unterminated {rest : List Char} (hopen : ¬ closing <:+: rest) :
    FoundAt .unterminatedPlaceholder (opening ++ rest)
  | unnamed {body after : List Char} (hnearest : ¬ closing <:+: body ++ ['}'])
    (hname : body = [] ∨ ∃ tail, body = ':' :: tail) :
    FoundAt .unnamedPlaceholder (opening ++ (body ++ closing ++ after))
  | strayBar {rest : List Char} : FoundAt .strayBar ('|' :: rest)

/-- Behind an opening mark it is the closing mark that makes the difference. -/
theorem Flaw.ofUnread_opening (rest : List Char) :
    Flaw.ofUnread (opening ++ rest) =
      if (untilClosing rest).isSome then .unnamedPlaceholder else .unterminatedPlaceholder := rfl

theorem Flaw.FoundAt.start {flaw : Flaw} {unread : List Char} (h : flaw.FoundAt unread) :
    opening <+: unread ∨ ['|'] <+: unread := by
  cases h with
  | unterminated => exact .inl (List.prefix_append _ _)
  | unnamed => exact .inl (List.prefix_append _ _)
  | strayBar => exact .inr (List.prefix_append ['|'] _)

/-- The flaw that a text starts with is the one that is reported there. -/
theorem Flaw.FoundAt.eq_ofUnread {flaw : Flaw} {unread : List Char} (h : flaw.FoundAt unread) :
    flaw = Flaw.ofUnread unread := by
  cases h with
  | unterminated hopen => simp [ofUnread_opening, untilClosing_eq_none_iff.2 hopen]
  | @unnamed body after hnearest _ =>
    have hcut : untilClosing (body ++ closing ++ after) = some (body, after) :=
      untilClosing_eq_some_iff.2 ⟨rfl, hnearest⟩
    simp only [ofUnread_opening, hcut, Option.isSome_some, if_true]
  | strayBar => rfl

theorem Flaw.FoundAt.detail {flaw : Flaw} {unread : List Char} (h : flaw.FoundAt unread) :
    (flaw, flaw.detail?) ∈
      [(.unterminatedPlaceholder, none),
        (.unnamedPlaceholder, some "placeholder has no variable name"),
        (.strayBar, some "'|' outside of an alternative")] := by
  cases h with
  | unterminated => exact .head _
  | unnamed => exact .tail _ (.head _)
  | strayBar => exact .tail _ (.tail _ (.head _))

/-- What a text starts with is a flaw of its own, and not just another character or the end. -/
theorem Flaw.FoundAt.ne_unexpected {flaw : Flaw} {unread : List Char} (h : flaw.FoundAt unread) :
    flaw ≠ .unexpectedEnd ∧ ∀ c, flaw ≠ .unexpectedCharacter c := by
  cases h with
  | unterminated => exact ⟨nofun, nofun⟩
  | unnamed => exact ⟨nofun, nofun⟩
  | strayBar => exact ⟨nofun, nofun⟩

namespace Template
variable {text rest after unread : List Char} {segment : Segment} {segments : List Segment}

/-- An alternative stays one when more text follows. -/
theorem alternative?_append (h : alternative? text = some (segment, after)) (tail : List Char) :
    alternative? (text ++ tail) = some (segment, after ++ tail) := by
  obtain ⟨singular, plural, others, rfl, rfl, hbranches⟩ := alternative?_eq_some h
  have hread := alternative?_of_branches hbranches (after ++ tail)
  simpa using hread

/-- What stops literal text stops it when more text follows. -/
theorem stopsLiteral_append (h : stopsLiteral text = true) (tail : List Char) :
    stopsLiteral (text ++ tail) = true := by
  simp only [stopsLiteral, Bool.or_eq_true, List.isPrefixOf_iff_prefix] at h ⊢
  rcases h with (hbar | hopen) | halternative
  · exact .inl (.inl (hbar.trans (List.prefix_append text tail)))
  · exact .inl (.inr (hopen.trans (List.prefix_append text tail)))
  · obtain ⟨⟨segment, after⟩, hread⟩ := Option.isSome_iff_exists.1 halternative
    exact .inr (by simp [alternative?_append hread tail])

/-- A literal segment is the literal run. -/
theorem literalRun_of_segment? {literal : String}
    (h : segment? text = some (.literal literal, after)) :
    literalRun text = (literal.toList, after) := by
  rcases segment?_cases h with ⟨slot, hkind, -⟩ | halternative | hliteral
  · contradiction
  · obtain ⟨_, _, _, hkind, -⟩ := alternative?_eq_some halternative
    contradiction
  · obtain ⟨hrun, hafter⟩ := literal?_eq_some hliteral
    obtain rfl := Segment.literal.inj hrun
    exact Prod.ext (by simp) hafter

/-- Where no segment starts, no reader of a segment gives one. -/
theorem segment?_eq_none (h : segment? text = none) :
    placeholder? text = none ∧ alternative? text = none ∧ literal? text = none := by
  unfold segment? at h
  split at h
  · contradiction
  · rename_i hplaceholder
    exact ⟨hplaceholder, Option.or_eq_none_iff.1 h⟩

/-- A literal run that ends before `rest` ends there without the text behind `rest`. -/
theorem literalRun_of_append {run tail : List Char}
    (h : literalRun (run ++ (rest ++ tail)) = (run, rest ++ tail))
    (hstops : rest = [] ∨ stopsLiteral rest = true) : literalRun (run ++ rest) = (run, rest) := by
  induction run with
  | nil => exact literalRun_of_stops hstops
  | cons c run ih =>
    have hgoes : ¬ stopsLiteral (c :: (run ++ (rest ++ tail))) = true := by
      intro hstop
      simp [literalRun, hstop] at h
    have hgoes' : ¬ stopsLiteral (c :: (run ++ rest)) = true := by
      intro hstop
      have hmore := stopsLiteral_append hstop tail
      rw [List.cons_append, List.append_assoc] at hmore
      exact hgoes hmore
    have hrun : literalRun (run ++ (rest ++ tail)) = (run, rest ++ tail) := by
      simpa [literalRun, hgoes, Prod.ext_iff] using h
    simp [literalRun, hgoes', ih hrun]

/-- The segments at the front of a text, and the text behind them. -/
inductive ReadsTo : List Char → List Segment → List Char → Prop where
  | nil (text : List Char) : ReadsTo text [] text
  | cons {text after rest : List Char} {segment : Segment} {segments : List Segment}
    (hsegment : segment? text = some (segment, after)) (hmore : ReadsTo after segments rest) :
    ReadsTo text (segment :: segments) rest

namespace ReadsTo

/-- Segments are read off their source. -/
theorem source (h : ReadsTo text segments rest) :
    text = sourceOf segments ++ rest ∧ ∀ segment ∈ segments, segment.IsCanonical := by
  induction h with
  | nil text => simp
  | cons hsegment _ ih =>
    obtain ⟨rfl, hmore⟩ := ih
    obtain ⟨rfl, hform⟩ := segment?_source hsegment
    exact ⟨by simp, List.forall_mem_cons.2 ⟨hform, hmore⟩⟩

/-- The segment that is read next may stand behind the one that was read. -/
theorem mayPrecede (h : segment? text = some (segment, after))
    (hmore : ReadsTo after segments rest) : ∀ next ∈ segments.head?, segment.MayPrecede next := by
  intro next hnext
  cases hmore with
  | nil => simp at hnext
  | cons hsecond _ =>
    obtain rfl : _ = next := by simpa using hnext
    exact mayPrecede_of_segment? h hsecond

/-- The segment at the front is read off its source with only the segments behind it. -/
theorem segment?_sourceOf (h : segment? text = some (segment, after))
    (hmore : ReadsTo after segments rest) :
    segment? (segment.source ++ sourceOf segments) = some (segment, sourceOf segments) := by
  obtain ⟨rfl, hforms⟩ := hmore.source
  obtain ⟨rfl, hform⟩ := segment?_source h
  cases segment with
  | placeholder slot => exact segment?_placeholder_append hform _
  | alternative singular plural others => exact segment?_alternative_append hform _
  | literal literal =>
    have hnext := mayPrecede h hmore
    have hstops := stops_sourceOf hnext hforms
    have hrun : literalRun (literal.toList ++ (sourceOf segments ++ rest)) =
        (literal.toList, sourceOf segments ++ rest) := literalRun_of_segment? h
    exact segment?_literal_append hform (literalRun_of_append hrun hstops)

/-- What was read can be read without the text behind it. -/
theorem sourceOf (h : ReadsTo text segments rest) :
    ReadsTo (Template.sourceOf segments) segments [] := by
  induction h with
  | nil => exact .nil []
  | cons hsegment hmore ih => exact .cons (segment?_sourceOf hsegment hmore) ih

theorem segmentsOf_eq_ok (h : ReadsTo text segments []) : segmentsOf text = .ok segments := by
  generalize hrest : [] = rest at h
  induction h with
  | nil text => exact hrest ▸ segmentsOf_nil
  | cons hsegment _ ih => rw [segmentsOf_eq, hsegment]; simp [ih hrest]

end ReadsTo

/-- Reading that succeeds has read segments up to the end. -/
theorem readsTo_of_segmentsOf_ok (h : segmentsOf text = .ok segments) :
    ReadsTo text segments [] := by
  fun_induction segmentsOf text generalizing segments with
  | case1 text segment after hsegment _ ih =>
    cases hafter : segmentsOf after with
    | error unread => simp [hafter] at h
    | ok more =>
      obtain rfl : segment :: more = segments := by simpa [hafter] using h
      exact .cons hsegment (ih hafter)
  | case2 text _ hempty =>
    obtain rfl : [] = segments := by simpa using h
    obtain rfl : text = [] := by simpa using hempty
    exact .nil []
  | case3 => simp at h

/-- Reading that stops has read segments up to a text that starts with none. -/
theorem readsTo_of_segmentsOf_error (h : segmentsOf text = .error unread) :
    (∃ segments, ReadsTo text segments unread) ∧ segment? unread = none ∧ unread ≠ [] := by
  fun_induction segmentsOf text with
  | case1 text segment after hsegment _ ih =>
    cases hafter : segmentsOf after with
    | ok more => simp [hafter] at h
    | error unread' =>
      obtain rfl : unread' = unread := by simpa [hafter] using h
      obtain ⟨⟨segments, hmore⟩, hstop⟩ := ih hafter
      exact ⟨⟨segment :: segments, .cons hsegment hmore⟩, hstop⟩
  | case2 => simp at h
  | case3 text hnone hempty =>
    obtain rfl : text = unread := by simpa using h
    exact ⟨⟨[], .nil text⟩, hnone, by simpa using hempty⟩

/-- Where no segment starts, a flaw does. -/
theorem exists_foundAt (hne : unread ≠ []) (h : segment? unread = none) :
    ∃ flaw : Flaw, flaw.FoundAt unread := by
  obtain ⟨c, rest, rfl⟩ := List.exists_cons_of_ne_nil hne
  obtain ⟨hplaceholder, halternative, hliteral⟩ := segment?_eq_none h
  have hstops : stopsLiteral (c :: rest) = true := by
    by_contra hgoes
    simp [literal?, literalRun, hgoes] at hliteral
  rcases stopsLiteral_cons_iff.1 hstops with rfl | ⟨tail, htail⟩ | hsome
  · exact ⟨_, .strayBar⟩
  · rw [← htail] at hplaceholder ⊢
    rw [placeholder?_opening, Option.bind_eq_none_iff] at hplaceholder
    cases hcut : untilClosing tail with
    | none => exact ⟨_, .unterminated (untilClosing_eq_none_iff.1 hcut)⟩
    | some cut =>
      obtain ⟨body, after⟩ := cut
      have hname : (Slot.ofBody body).name = "" := by simpa using hplaceholder _ hcut
      obtain ⟨rfl, hnearest⟩ := untilClosing_eq_some_iff.1 hcut
      exact ⟨_, .unnamed hnearest (Slot.name_ofBody_eq_empty_iff.1 hname)⟩
  · simp [halternative] at hsome

/-- The text that is left unread starts with the flaw that is reported. -/
theorem foundAt_ofUnread (h : segmentsOf text = .error unread) :
    (Flaw.ofUnread unread).FoundAt unread := by
  obtain ⟨-, hnone, hne⟩ := readsTo_of_segmentsOf_error h
  obtain ⟨flaw, hfound⟩ := exists_foundAt hne hnone
  obtain rfl := hfound.eq_ofUnread
  exact hfound

/-- An error is about the text that is left unread. -/
theorem exists_unread_of_parse_error {template : String} {error : ParseError}
    (h : parse template = .error error) :
    ∃ unread, segmentsOf template.toList = .error unread ∧
      error = ParseError.ofUnread template.toList unread := by
  unfold parse at h
  split at h
  · contradiction
  · rename_i unread hunread
    exact ⟨unread, hunread, (Except.error.inj h).symm⟩

theorem position_ofUnread (before unread : List Char) :
    (ParseError.ofUnread (before ++ unread) unread).position = Text.Position.after before := by
  simp [ParseError.ofUnread]

end Template

/-- An error fits a template that was read up to `unread`. -/
structure ParseError.Describes (error : ParseError) (template : String)
    (before unread : List Char) : Prop where
  split : template.toList = before ++ unread
  /-- Reading leaves just this text. -/
  unread_left : Template.segmentsOf template.toList = .error unread
  /-- What stands before it can be read on its own. -/
  readable : ∃ parsed, Template.parse (String.ofList before) = .ok parsed
  line : error.position.line = before.count '\n' + 1
  column : error.position.column = (before.rtakeWhile fun c => c ≠ '\n').length + 1
  /-- Reading stops neither at the end of a template nor at any other character. -/
  start : opening <+: unread ∨ ['|'] <+: unread
  /-- The text starts with the flaw that is reported, and with no other one. -/
  flaw : ∀ flaw : Flaw, flaw.FoundAt unread ↔ flaw = error.flaw
  detail : (error.flaw, error.flaw.detail?) ∈
    [(.unterminatedPlaceholder, none),
      (.unnamedPlaceholder, some "placeholder has no variable name"),
      (.strayBar, some "'|' outside of an alternative")]

/-- Every error of strict reading describes where and why it stopped. A text that is left unread
starts with one of the three flaws, so there are no other errors; and reading itself never fails,
since every segment makes the text shorter. -/
theorem Template.describes_of_parse_error {template : String} {error : ParseError}
    (h : parse template = .error error) :
    ∃ before unread : List Char, error.Describes template before unread := by
  obtain ⟨unread, hunread, rfl⟩ := exists_unread_of_parse_error h
  obtain ⟨⟨segments, hreads⟩, -⟩ := readsTo_of_segmentsOf_error hunread
  have hfound : (Flaw.ofUnread unread).FoundAt unread := foundAt_ofUnread hunread
  have hsplit : template.toList = sourceOf segments ++ unread := hreads.source.1
  have hposition : (ParseError.ofUnread template.toList unread).position =
      Text.Position.after (sourceOf segments) := by
    rw [hsplit, position_ofUnread]
  rw [Text.Position.after_eq] at hposition
  refine ⟨sourceOf segments, unread, hsplit, hunread, ⟨⟨segments⟩, ?_⟩,
    congrArg Text.Position.line hposition, congrArg Text.Position.column hposition,
    hfound.start, ?_, hfound.detail⟩
  · simp [parse, hreads.sourceOf.segmentsOf_eq_ok]
  · intro flaw
    constructor
    · exact fun hflaw => hflaw.eq_ofUnread
    · rintro rfl
      exact hfound

/-- A branch with an opening mark, a closing mark outside of placeholders, and a parenthesis that
would open an alternative if the template went on. -/
theorem Template.describes_of_parse_error_unnamed :
    parse "(a{{b|c)}}\né({{:up}}|x" = .error ⟨.unnamedPlaceholder, ⟨2, 3⟩⟩ ∧
      ∃ before unread : List Char,
        ParseError.Describes ⟨.unnamedPlaceholder, ⟨2, 3⟩⟩ "(a{{b|c)}}\né({{:up}}|x" before
          unread := by
  have hparse : parse "(a{{b|c)}}\né({{:up}}|x" = .error ⟨.unnamedPlaceholder, ⟨2, 3⟩⟩ := by
    decide +kernel
  exact ⟨hparse, describes_of_parse_error hparse⟩

/-- Reading stops at no character that could stand for itself, and never at the end of a template:
the two outcomes for such places are not reported for any template. -/
theorem Template.never_unexpected {template : String} {error : ParseError}
    (h : parse template = .error error) :
    error.flaw ≠ .unexpectedEnd ∧ ∀ c, error.flaw ≠ .unexpectedCharacter c := by
  obtain ⟨unread, hunread, rfl⟩ := exists_unread_of_parse_error h
  exact (foundAt_ofUnread hunread).ne_unexpected

end Phrasebook
