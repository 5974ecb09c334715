import Mathlib.Logic.Function.Iterate
import Phrasebook.Proofs.Resolve.Cursor
import Phrasebook.Proofs.Resolve.Step

/-!
# The cursor stays in bounds

A scan holds texts where a cursor has places, and every scan of a template gives the places of its
cursor: how much has been read, how much was written before the open parenthesis, and where the
template goes on behind it. Taking these places and going on commute, so a cursor that starts at the
front of a template goes through the places of the scan, none of its accesses fails, and its output
is what the template resolves to.
-/
namespace Phrasebook

/-- The parenthesis that has been noted stands in the template before the noted place, and its copy
stands in the output behind what was written before. -/
structure ParenMark.InBounds (template : String) (cursor : Cursor) (mark : ParenMark) : Prop where
  source_pos : 0 < mark.sourcePos
  source_le : mark.sourcePos ≤ cursor.pos
  source_boundary : Text.IsBoundary template mark.sourcePos
  source_byte : Text.byteAt? template (mark.sourcePos - 1) = some '('.toUInt8
  output_lt : mark.outputLength < cursor.output.utf8ByteSize
  output_boundary : Text.IsBoundary cursor.output mark.outputLength
  output_byte : Text.byteAt? cursor.output mark.outputLength = some '('.toUInt8

/-- The places of a cursor lie within the template and the output, between characters. -/
structure Cursor.InBounds (template : String) (cursor : Cursor) : Prop where
  boundary : Text.IsBoundary template cursor.pos
  le : cursor.pos ≤ template.utf8ByteSize
  mark : ∀ mark, cursor.mark? = some mark → mark.InBounds template cursor

namespace Scan
variable {context : Context} {template : String} {scan : Scan} {paren : OpenParen}
  {rest read source : List Char} {output : String}

/-- The cursor that has come as far as a scan of the template. -/
def cursor (template : String) (scan : Scan) : Cursor where
  pos := template.utf8ByteSize - Text.byteCount scan.rest
  output := scan.text
  mark? := scan.paren?.map fun paren =>
    ⟨scan.output.utf8ByteSize,
      template.utf8ByteSize - Text.byteCount scan.rest - paren.source.utf8ByteSize⟩

/-- A scan that is in the template: its rest ends the template, and so does all that it has read and
still has to read behind an open parenthesis. -/
structure IsWithin (template : String) (scan : Scan) : Prop where
  rest : scan.rest <:+ template.toList
  paren : ∀ paren, scan.paren? = some paren →
    '(' :: (paren.source.toList ++ scan.rest) <:+ template.toList ∧
      ∃ held, paren.output = "(" ++ held

theorem IsWithin.start (template : String) : IsWithin template (start template.toList) :=
  ⟨List.suffix_rfl, by simp [Scan.start]⟩

/-- Writing what is read stays in the template. -/
theorem IsWithin.write (h : IsWithin template scan) (hrest : scan.rest = source ++ rest)
    (output : String) : IsWithin template (scan.write output (String.ofList source) rest) := by
  have hsuffix : rest <:+ template.toList :=
    (List.suffix_append source rest).trans (hrest ▸ h.rest)
  cases hparen : scan.paren? with
  | none => exact ⟨by simpa using hsuffix, by simp [Scan.write, hparen]⟩
  | some paren =>
    obtain ⟨hbehind, held, hheld⟩ := h.paren paren hparen
    refine ⟨by simpa using hsuffix, ?_⟩
    simp only [Scan.write, hparen, Option.some.injEq, forall_eq']
    refine ⟨?_, held ++ output, by rw [hheld, String.append_assoc]⟩
    rwa [String.toList_append, String.toList_ofList, List.append_assoc, ← hrest]

theorem IsWithin.placeholder (h : IsWithin template scan) (hrest : scan.rest = opening ++ rest) :
    IsWithin template (scan.placeholder context rest) := by
  cases hbody : untilClosing rest with
  | none =>
    rw [placeholder_of_unclosed hbody]
    exact h.write (List.append_nil _).symm _
  | some cut =>
    obtain ⟨body, after⟩ := cut
    rw [placeholder_of_untilClosing hbody]
    exact h.write (by rw [hrest, eq_of_untilClosing hbody]; simp) _

theorem IsWithin.alternative (h : IsWithin template scan) (hrest : scan.rest = '|' :: rest) :
    IsWithin template (scan.alternative context rest) := by
  have hsuffix : rest <:+ template.toList :=
    (List.suffix_cons '|' rest).trans (hrest ▸ h.rest)
  unfold Scan.alternative
  split
  · rename_i hcut
    refine ⟨?_, by simp⟩
    rw [(Text.cutAt_eq_some_iff.1 hcut).1] at hsuffix
    exact ((List.suffix_cons _ _).trans (List.suffix_append _ _)).trans hsuffix
  · exact ⟨hsuffix, by simp⟩

/-- Every step stays in the template. -/
theorem IsWithin.step (h : IsWithin template scan) (context : Context) :
    IsWithin template (scan.step context) := by
  obtain ⟨-, hstep⟩ | ⟨rest, hrest, hstep⟩ | ⟨rest, hrest, hstep⟩ | ⟨rest, hrest, hstep⟩ |
    ⟨c, rest, hrest, -, -, -, hstep⟩ := step_cases context scan
  · rwa [hstep]
  · rw [hstep]
    exact h.placeholder hrest
  · rw [hstep]
    exact h.alternative hrest
  · rw [hstep]
    have hsuffix : '(' :: rest <:+ template.toList := hrest ▸ h.rest
    refine ⟨(List.suffix_cons '(' rest).trans hsuffix, ?_⟩
    rintro paren ⟨⟩
    exact ⟨hsuffix, "", rfl⟩
  · rw [hstep, Char.toString_eq_singleton, String.singleton_eq_ofList]
    exact h.write (by rw [hrest, List.singleton_append]) _

/-- A scan has read what stands in the template before its rest. -/
theorem pos_cursor (h : template.toList = read ++ scan.rest) :
    (scan.cursor template).pos = Text.byteCount read := by
  have hsize : template.utf8ByteSize = Text.byteCount read + Text.byteCount scan.rest := by
    rw [← Text.byteCount_toList, h, Text.byteCount_append]
  rw [cursor, hsize, Nat.add_sub_cancel_right]

/-- A scan that has read more is further on by the bytes of what it has read. -/
theorem IsWithin.pos_cursor_of_rest (h : IsWithin template scan) (last : Scan)
    (hrest : scan.rest = source ++ last.rest) :
    (last.cursor template).pos = (scan.cursor template).pos + Text.byteCount source := by
  obtain ⟨read, hread⟩ := h.rest
  have hlast : template.toList = (read ++ source) ++ last.rest := by
    rw [← hread, hrest, List.append_assoc]
  rw [pos_cursor hlast, pos_cursor hread.symm, Text.byteCount_append]

/-- An open parenthesis is noted at the place behind it. -/
theorem IsWithin.exists_before_paren (h : IsWithin template scan)
    (hparen : scan.paren? = some paren) :
    ∃ before, template.toList = before ++ '(' :: (paren.source.toList ++ scan.rest) ∧
      (scan.cursor template).pos =
        Text.byteCount (before ++ ['(']) + Text.byteCount paren.source.toList ∧
      (scan.cursor template).mark? =
        some ⟨scan.output.utf8ByteSize, Text.byteCount (before ++ ['('])⟩ := by
  obtain ⟨⟨before, hbefore⟩, -⟩ := h.paren paren hparen
  have hread : template.toList = (before ++ ['('] ++ paren.source.toList) ++ scan.rest := by
    simp [← hbefore]
  have hpos := pos_cursor hread
  have hplace : template.utf8ByteSize - Text.byteCount scan.rest - paren.source.utf8ByteSize =
      Text.byteCount (before ++ ['(']) := by
    change (scan.cursor template).pos - paren.source.utf8ByteSize = _
    rw [hpos, Text.byteCount_append _ paren.source.toList, Text.byteCount_toList,
      Nat.add_sub_cancel_right]
  refine ⟨before, hbefore.symm, by rw [hpos, Text.byteCount_append], ?_⟩
  simp [cursor, hparen, hplace]

/-- What is noted of an open parenthesis is in bounds. -/
theorem IsWithin.inBounds_of_paren (h : IsWithin template scan)
    (hparen : scan.paren? = some paren) :
    ∃ mark, (scan.cursor template).mark? = some mark ∧
      mark.InBounds template (scan.cursor template) := by
  obtain ⟨before, hbefore, hpos, hmark⟩ := h.exists_before_paren hparen
  obtain ⟨-, held, hheld⟩ := h.paren paren hparen
  have hsource : template.toList = (before ++ ['(']) ++ (paren.source.toList ++ scan.rest) := by
    simp [hbefore]
  have hplace : Text.byteCount (before ++ ['(']) = Text.byteCount before + 1 :=
    Text.byteCount_append before ['(']
  have houtput : (scan.cursor template).output.toList =
      scan.output.toList ++ '(' :: held.toList := by
    simp [cursor, text, hparen, hheld]
  have hlength := congrArg Text.byteCount houtput
  rw [Text.byteCount_toList, Text.byteCount_append, Text.byteCount_cons] at hlength
  refine ⟨_, hmark, ?_⟩
  rw [← Text.byteCount_toList]
  constructor
  · rw [hplace]
    exact Nat.succ_pos _
  · rw [hpos]
    exact Nat.le_add_right _ _
  · exact Text.isValid_byteCount hsource
  · rw [hplace, Nat.add_sub_cancel]
    exact Text.byteAt?_of_toList hbefore rfl
  · rw [hlength]
    exact Nat.lt_add_of_pos_right (Nat.add_pos_left (Char.utf8Size_pos '(') _)
  · exact Text.isValid_byteCount houtput
  · exact Text.byteAt?_of_toList houtput rfl

/-- The places of a scan that is in the template are in bounds. -/
theorem IsWithin.inBounds (h : IsWithin template scan) :
    (scan.cursor template).InBounds template := by
  obtain ⟨read, hread⟩ := h.rest
  have hpos := pos_cursor hread.symm
  constructor
  · rw [hpos]
    exact Text.isValid_byteCount hread.symm
  · rw [hpos]
    exact Text.byteCount_le hread.symm
  · intro mark hmark
    cases hparen : scan.paren? with
    | none => simp [cursor, hparen] at hmark
    | some paren =>
      obtain ⟨noted, hnoted, hbounds⟩ := h.inBounds_of_paren hparen
      obtain rfl := Option.some.inj (hnoted.symm.trans hmark)
      exact hbounds

/-- Without an open parenthesis nothing is noted. -/
theorem IsWithin.cursor_unheld (h : IsWithin template scan) (hrest : scan.rest = source ++ rest)
    (output : String) :
    (⟨rest, output, none⟩ : Scan).cursor template =
      ⟨(scan.cursor template).pos + Text.byteCount source, output, none⟩ := by
  ext1
  · exact h.pos_cursor_of_rest ⟨rest, output, none⟩ hrest
  · rfl
  · rfl

/-- Writing moves the cursor over what is read. -/
theorem IsWithin.cursor_write (h : IsWithin template scan) (hrest : scan.rest = source ++ rest)
    (output : String) :
    (scan.write output (String.ofList source) rest).cursor template =
      { scan.cursor template with
        pos := (scan.cursor template).pos + Text.byteCount source
        output := (scan.cursor template).output ++ output } := by
  have hpos : ((scan.write output (String.ofList source) rest).cursor template).pos =
      (scan.cursor template).pos + Text.byteCount source :=
    h.pos_cursor_of_rest _ (by rw [hrest, rest_write])
  ext1
  · exact hpos
  · exact text_write ..
  · cases hparen : scan.paren? with
    | none => simp [cursor, Scan.write, hparen]
    | some paren =>
      -- what is added to the source behind the parenthesis is what the cursor moves over
      simp only [cursor, rest_write] at hpos
      simp only [cursor, rest_write, hpos]
      simp only [Scan.write, hparen, Option.map_some, String.utf8ByteSize_append,
        Text.utf8ByteSize_ofList, Nat.add_sub_add_right]

theorem IsWithin.cursor_char {c : Char} (h : IsWithin template scan)
    (hrest : scan.rest = c :: rest) (hparen : c ≠ '(') :
    (scan.write c.toString c.toString rest).cursor template =
      (scan.cursor template).copy c := by
  have hwrite := h.cursor_write (hrest.trans List.singleton_append.symm) c.toString
  rw [← String.singleton_eq_ofList, ← Char.toString_eq_singleton] at hwrite
  rw [hwrite, Cursor.copy, if_neg hparen, String.push_eq_append, Char.toString_eq_singleton]
  rfl

theorem IsWithin.cursor_paren (h : IsWithin template scan) (hrest : scan.rest = '(' :: rest) :
    (⟨rest, scan.text, some ⟨"(", ""⟩⟩ : Scan).cursor template =
      (scan.cursor template).copy '(' := by
  have hsize : Text.byteCount ['('] = 1 := rfl
  have hpos := h.pos_cursor_of_rest ⟨rest, scan.text, some ⟨"(", ""⟩⟩
    (hrest.trans List.singleton_append.symm)
  ext1
  · exact hpos
  · rw [Cursor.copy, String.push_eq_append]
    rfl
  · simp only [cursor, hsize] at hpos
    simp [cursor, Cursor.copy, hpos]

/-- A cursor can cut out any part of what its scan still has to read. -/
theorem IsWithin.slice?_ahead {front part : List Char} (h : IsWithin template scan)
    (hrest : scan.rest = front ++ part ++ rest) :
    Text.slice? template ((scan.cursor template).pos + Text.byteCount front)
        ((scan.cursor template).pos + Text.byteCount front + Text.byteCount part) =
      some (String.ofList part) := by
  obtain ⟨read, hread⟩ := h.rest
  have hsplit : template.toList = (read ++ front) ++ part ++ rest := by
    rw [← hread, hrest]
    simp
  rw [pos_cursor hread.symm, ← Text.byteCount_append]
  exact Text.slice?_of_toList hsplit

/-- A cursor can cut out what its scan still has to read behind some part. -/
theorem IsWithin.slice?_behind {front : List Char} (h : IsWithin template scan)
    (hrest : scan.rest = front ++ rest) :
    Text.slice? template ((scan.cursor template).pos + Text.byteCount front)
      template.utf8ByteSize = some (String.ofList rest) := by
  obtain ⟨read, hread⟩ := h.rest
  have hsplit : template.toList = (read ++ front) ++ rest := by
    rw [← hread, hrest, List.append_assoc]
  rw [pos_cursor hread.symm, ← Text.byteCount_append]
  exact Text.slice?_rest hsplit

theorem IsWithin.slice?_rest (h : IsWithin template scan) :
    Text.slice? template (scan.cursor template).pos template.utf8ByteSize =
      some (String.ofList scan.rest) :=
  h.slice?_behind (List.nil_append _).symm

/-- What is noted of an open parenthesis leads back to the texts that the scan holds: the template
behind the parenthesis and the output before it. -/
theorem IsWithin.exists_slices_of_paren (h : IsWithin template scan)
    (hparen : scan.paren? = some paren) :
    ∃ mark, (scan.cursor template).mark? = some mark ∧
      Text.slice? template mark.sourcePos (scan.cursor template).pos = some paren.source ∧
      Text.slice? (scan.cursor template).output 0 mark.outputLength = some scan.output := by
  obtain ⟨before, hbefore, hpos, hmark⟩ := h.exists_before_paren hparen
  have hsource : template.toList = (before ++ ['(']) ++ paren.source.toList ++ scan.rest := by
    simp [hbefore]
  have houtput : (scan.cursor template).output.toList =
      scan.output.toList ++ paren.output.toList := by
    simp [cursor, text, hparen]
  refine ⟨_, hmark, ?_, ?_⟩
  · rw [hpos, Text.slice?_of_toList hsource, String.ofList_toList]
  · rw [← Text.byteCount_toList, Text.slice?_front houtput, String.ofList_toList]

theorem placeholder?_cursor (h : IsWithin template scan) (hrest : scan.rest = opening ++ rest) :
    (scan.cursor template).placeholder? context template =
      some ((scan.placeholder context rest).cursor template) := by
  have hbehind : Text.slice? template ((scan.cursor template).pos + 2) template.utf8ByteSize =
      some (String.ofList rest) := h.slice?_behind hrest
  simp only [Cursor.placeholder?, Option.bind_eq_bind, hbehind, Option.bind_some,
    String.toList_ofList]
  cases hbody : untilClosing rest with
  | some cut =>
    obtain ⟨body, after⟩ := cut
    have hsplit : scan.rest = opening ++ body ++ closing ++ after := by
      rw [hrest, eq_of_untilClosing hbody]
      simp
    have hslice : Text.slice? template ((scan.cursor template).pos + 2)
        ((scan.cursor template).pos + 2 + Text.byteCount body) = some (String.ofList body) :=
      h.slice?_ahead (hsplit.trans (List.append_assoc _ _ _))
    have hlength : (scan.cursor template).pos + Text.byteCount (opening ++ body ++ closing) =
        (scan.cursor template).pos + 2 + Text.byteCount body + 2 :=
      Text.add_byteCount_append _ opening body closing
    rw [placeholder_of_untilClosing hbody, h.cursor_write hsplit, hlength]
    simp only [Option.map_some, hslice, Option.bind_some, String.toList_ofList]
  | none =>
    have hend : (scan.cursor template).pos + Text.byteCount scan.rest =
        template.utf8ByteSize := by
      rw [← h.pos_cursor_of_rest ⟨[], "", none⟩ (List.append_nil _).symm]
      rfl
    rw [placeholder_of_unclosed hbody, h.cursor_write (List.append_nil _).symm, hend]
    simp only [Option.map_none, h.slice?_rest, Option.bind_some]

theorem alternative?_cursor (h : IsWithin template scan) (hrest : scan.rest = '|' :: rest) :
    (scan.cursor template).alternative? context template =
      some ((scan.alternative context rest).cursor template) := by
  have hbar : scan.rest = ['|'] ++ rest := hrest
  have hbehind : Text.slice? template ((scan.cursor template).pos + 1) template.utf8ByteSize =
      some (String.ofList rest) := h.slice?_behind hbar
  have hcopied : (⟨rest, scan.text.push '|', none⟩ : Scan).cursor template =
      ⟨(scan.cursor template).pos + 1, (scan.cursor template).output.push '|', none⟩ :=
    h.cursor_unheld hbar _
  simp only [Cursor.alternative?, Option.bind_eq_bind, hbehind, Option.bind_some,
    String.toList_ofList]
  cases hparen : scan.paren? with
  | none =>
    have hmark : (scan.cursor template).mark? = none := by simp [cursor, hparen]
    simp only [hmark, Scan.alternative, hparen, hcopied]
  | some paren =>
    obtain ⟨mark, hmark, hsingular, hkept⟩ := h.exists_slices_of_paren hparen
    cases hcut : Text.cutAt ')' rest with
    | none => simp only [hmark, Option.map_none, Scan.alternative, hparen, hcut, hcopied]
    | some cut =>
      obtain ⟨branches, after⟩ := cut
      have hsplit : scan.rest = ['|'] ++ branches ++ [')'] ++ after := by
        rw [hbar, (Text.cutAt_eq_some_iff.1 hcut).1]
        simp
      have hbranches : Text.slice? template ((scan.cursor template).pos + 1)
          ((scan.cursor template).pos + 1 + Text.byteCount branches) =
            some (String.ofList branches) :=
        h.slice?_ahead (hsplit.trans (List.append_assoc _ _ _))
      have hlength : (scan.cursor template).pos + Text.byteCount (['|'] ++ branches ++ [')']) =
          (scan.cursor template).pos + 1 + Text.byteCount branches + 1 :=
        Text.add_byteCount_append _ ['|'] branches [')']
      simp only [hmark, Option.map_some, hsingular, hbranches, hkept, Option.bind_some,
        String.toList_ofList, Scan.alternative, hparen, hcut]
      rw [h.cursor_unheld hsplit, hlength]

/-- At the end the cursor is done with the text of the scan. -/
theorem pass?_cursor_of_end (h : IsWithin template scan) (hrest : scan.rest = []) :
    (scan.cursor template).pass? context template = some (.done scan.text) := by
  simp only [Cursor.pass?, Option.bind_eq_bind, h.slice?_rest, Option.bind_some,
    String.toList_ofList, hrest]
  rfl

/-- Taking the places of a scan and going on commute. -/
theorem pass?_cursor (h : IsWithin template scan) (hrest : scan.rest ≠ []) :
    (scan.cursor template).pass? context template =
      some (.next ((scan.step context).cursor template)) := by
  simp only [Cursor.pass?, Option.bind_eq_bind, h.slice?_rest, Option.bind_some,
    String.toList_ofList]
  obtain ⟨hend, -⟩ | ⟨rest, hread, hstep⟩ | ⟨rest, hread, hstep⟩ | ⟨rest, hread, hstep⟩ |
    ⟨c, rest, hread, hopen, hbar, hparen, hstep⟩ := step_cases context scan
  · exact absurd hend hrest
  · have hhead : scan.rest.head? = some '{' := by rw [hread]; rfl
    have hmark : opening <+: scan.rest := ⟨rest, hread.symm⟩
    rw [hhead, hstep]
    simp only [if_pos hmark, placeholder?_cursor h hread, Option.map_some]
  · have hhead : scan.rest.head? = some '|' := by rw [hread]; rfl
    have hmark : ¬ opening <+: scan.rest := by simp [hread, opening]
    rw [hhead, hstep]
    simp only [if_neg hmark, if_pos, alternative?_cursor h hread, Option.map_some]
  · have hhead : scan.rest.head? = some '(' := by rw [hread]; rfl
    have hmark : ¬ opening <+: scan.rest := by simp [hread, opening]
    rw [hhead, hstep, h.cursor_paren hread]
    simp only [if_neg hmark]
    rfl
  · have hhead : scan.rest.head? = some c := by rw [hread]; rfl
    rw [hhead, hstep, h.cursor_char hread hparen]
    simp only [if_neg (hread ▸ hopen), if_neg hbar]

/-- A cursor runs through the places of a scan, step by step, and writes what the scan writes. It
makes no more passes than there are characters to read. -/
theorem run_cursor (context : Context) (h : IsWithin template scan) :
    ∃ cursors, (scan.cursor template).run context template = some (cursors, scan.run context) ∧
      (∀ count cursor, cursors[count]? = some cursor →
        cursor = ((step context)^[count] scan).cursor template) ∧
      (∀ cursor ∈ cursors, cursor.InBounds template) ∧
      cursors.length ≤ scan.rest.length + 1 := by
  fun_induction run context scan with
  | case1 scan hend =>
    refine ⟨[scan.cursor template], Cursor.run_of_done (pass?_cursor_of_end h hend), ?_, ?_, ?_⟩
    · intro count cursor hcursor
      cases count with
      | zero => exact (Option.some.inj hcursor).symm
      | succ count => simp at hcursor
    · simpa using h.inBounds
    · simp
  | case2 scan hrest _ ih =>
    obtain ⟨cursors, hrun, hsteps, hbounds, hlength⟩ := ih (h.step context)
    refine ⟨scan.cursor template :: cursors, ?_, ?_, ?_, ?_⟩
    · rw [Cursor.run_of_next (pass?_cursor h hrest), hrun]
      rfl
    · intro count cursor hcursor
      cases count with
      | zero => exact (Option.some.inj hcursor).symm
      | succ count => exact hsteps count cursor hcursor
    · exact List.forall_mem_cons.2 ⟨h.inBounds, hbounds⟩
    · have hreads := length_rest_step_lt context scan hrest
      rw [List.length_cons]
      omega

end Scan

/-- Every template can be resolved by places, and none of the accesses fails. The cursor goes through
the steps of the scan. At the head of the loop it is within the template, all its places lie between
characters, and a parenthesis that is noted stands where it is noted, in the template and as its
copy in the output. It is further on each time, so there are no more passes than characters. -/
theorem exists_run_inBounds (template : String) (variables? : Option Variables)
    (modifiers? : Option Registry) :
    ∃ cursors, Cursor.start.run ⟨variables?, modifiers?⟩ template =
        some (cursors, resolve template variables? modifiers?) ∧
      (∀ count cursor, cursors[count]? = some cursor → cursor =
        ((Scan.step ⟨variables?, modifiers?⟩)^[count] (Scan.start template.toList)).cursor
          template) ∧
      (∀ cursor ∈ cursors, cursor.InBounds template ∧ cursor.HasNoted cursors) ∧
      (cursors.Pairwise fun earlier later => earlier.pos < later.pos) ∧
      cursors.length ≤ template.length + 1 := by
  have hstart : (Scan.start template.toList).cursor template = Cursor.start := by
    simp [Scan.cursor, Scan.start, Scan.text, Cursor.start, Text.byteCount_toList]
  obtain ⟨cursors, hrun, hsteps, hbounds, hlength⟩ :=
    Scan.run_cursor ⟨variables?, modifiers?⟩ (Scan.IsWithin.start template)
  rw [hstart] at hrun
  obtain ⟨later, rfl, hchain⟩ := Cursor.exists_isChain_of_run hrun
  have hnoted : Cursor.HasNoted [] Cursor.start := by simp [Cursor.HasNoted, Cursor.start]
  refine ⟨Cursor.start :: later, hrun, hsteps, fun cursor hmem => ⟨hbounds cursor hmem, ?_⟩,
    Cursor.pairwise_pos_of_isChain hchain, ?_⟩
  · simpa using hnoted.isChain hchain cursor hmem
  · rwa [← String.length_toList]

/-- Characters of two bytes around a parenthesis and in a value. The value is taken back at the bar,
where the parenthesis is still noted in both texts. -/
theorem exists_run_inBounds_umlauts :
    ∃ cursors, Cursor.start.run ⟨some ((∅ : Variables).insert "x" (.text "ü")), none⟩
          "ä(ß{{x}}|b)é" = some (cursors, "äß{{x}}é") ∧
      cursors.map Cursor.pos = [0, 2, 3, 5, 10, 13, 15] ∧
      ⟨10, "ä(ßü", some ⟨2, 3⟩⟩ ∈ cursors ∧
      ParenMark.InBounds "ä(ß{{x}}|b)é" ⟨10, "ä(ßü", some ⟨2, 3⟩⟩ ⟨2, 3⟩ := by
  obtain ⟨cursors, hrun, -, hbounds, -, -⟩ := exists_run_inBounds "ä(ß{{x}}|b)é"
    (some ((∅ : Variables).insert "x" (.text "ü"))) none
  have hcursors : Cursor.start.run ⟨some ((∅ : Variables).insert "x" (.text "ü")), none⟩
      "ä(ß{{x}}|b)é" = some ([⟨0, "", none⟩, ⟨2, "ä", none⟩, ⟨3, "ä(", some ⟨2, 3⟩⟩,
        ⟨5, "ä(ß", some ⟨2, 3⟩⟩, ⟨10, "ä(ßü", some ⟨2, 3⟩⟩, ⟨13, "äß{{x}}", none⟩,
        ⟨15, "äß{{x}}é", none⟩], "äß{{x}}é") := by decide +kernel
  obtain ⟨rfl, -⟩ := Prod.mk.inj (Option.some.inj (hrun.symm.trans hcursors))
  exact ⟨_, hcursors, rfl, by simp, (hbounds _ (by simp)).1.mark _ rfl⟩

end Phrasebook
