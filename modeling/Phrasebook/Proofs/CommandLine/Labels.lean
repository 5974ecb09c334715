import Phrasebook.CommandLine.CatalogFile
import Phrasebook.Proofs.Template.Flaws
import Phrasebook.Proofs.Text.Positions

/-!
# Where labels point

The label of a report is a number of bytes, but what went wrong is found by its line and column.
The columns of a template count characters, and so does the label: it points to the character where
strict reading stopped. The columns of a JSON text count bytes, which the label takes for
characters. So it points to the last byte that was read where the characters before it in its line
take one byte each, and too far to the right elsewhere.
-/
namespace Phrasebook

namespace Template

/-- An error of strict reading stands behind what has been read, where a bar or an opening mark
is. -/
theorem exists_split_of_parse_error {template : String} {error : ParseError}
    (h : parse template = .error error) :
    ∃ before unread, template.toList = before ++ unread ∧
      segmentsOf template.toList = .error unread ∧
      error.position = Text.Position.after before ∧
      (opening <+: unread ∨ ['|'] <+: unread) := by
  obtain ⟨unread, hunread, rfl⟩ := exists_unread_of_parse_error h
  obtain ⟨⟨segments, hreads⟩, hnone, hne⟩ := readsTo_of_segmentsOf_error hunread
  obtain ⟨flaw, hflaw⟩ := exists_foundAt hne hnone
  have hsplit : template.toList = sourceOf segments ++ unread := hreads.source.1
  refine ⟨sourceOf segments, unread, hsplit, hunread, ?_, hflaw.start⟩
  rw [hsplit, position_ofUnread]

end Template

namespace CommandLine.Report

/-- Line and column lead back to the bytes that they were counted over. So the label of a malformed
template starts where strict reading stopped, at a bar or an opening mark, and covers one byte of
it. Any line and column lead to a place between two characters, and so does the start of the
line. -/
theorem labels_lead_back :
    (∀ before unread : String,
      (ParseError.ofUnread (before ++ unread).toList unread.toList).position.byteOffset
        (before ++ unread).toList = before.utf8ByteSize) ∧
    (∀ (source template : String) (error : ParseError), Template.parse template = .error error →
      ∃ before unread : String,
        template = before ++ unread ∧
        Template.segmentsOf template.toList = .error unread.toList ∧
        (opening <+: unread.toList ∨ ['|'] <+: unread.toList) ∧
        (ofParseError source template error).labels =
          [⟨"error here", before.utf8ByteSize, 1⟩] ∧
        before.utf8ByteSize + 1 ≤ template.utf8ByteSize) ∧
    ∀ (position : Text.Position) (content : String),
      (String.Pos.Raw.mk (position.lineStart content.toList)).IsValid content ∧
      (String.Pos.Raw.mk (position.byteOffset content.toList)).IsValid content ∧
      position.byteOffset content.toList ≤ content.utf8ByteSize := by
  have hback (before unread : String) :
      (Text.Position.after before.toList).byteOffset (before ++ unread).toList =
        before.utf8ByteSize := by
    rw [String.toList_append, Text.Position.byteOffset_after, Text.byteCount_toList]
  refine ⟨fun before unread => ?_, fun source template error h => ?_, fun position content => ?_⟩
  · have hposition : (ParseError.ofUnread (before ++ unread).toList unread.toList).position =
        Text.Position.after before.toList := by
      rw [String.toList_append, Template.position_ofUnread]
    rw [hposition, hback]
  · obtain ⟨before, unread, hsplit, hunread, hposition, hstart⟩ :=
      Template.exists_split_of_parse_error h
    obtain ⟨before, rfl⟩ : ∃ text : String, before = text.toList := ⟨.ofList before, by simp⟩
    obtain ⟨unread, rfl⟩ : ∃ text : String, unread = text.toList := ⟨.ofList unread, by simp⟩
    have htemplate : template = before ++ unread := by
      rw [← String.toList_inj, hsplit, String.toList_append]
    refine ⟨before, unread, htemplate, hunread, hstart, ?_, ?_⟩
    · simp only [ofParseError, ofSyntax, hposition, htemplate, hback]
    · have hne : unread ≠ "" := by
        rintro rfl
        simp [opening] at hstart
      have hpos : 0 < unread.utf8ByteSize := by
        rw [Nat.pos_iff_ne_zero, Ne, String.utf8ByteSize_eq_zero_iff]
        exact hne
      rw [htemplate, String.utf8ByteSize_append]
      omega
  · exact ⟨position.isValid_lineStart content, position.isValid_byteOffset content⟩

/-- A bar behind an accented letter in the second line: the label starts at byte eight, and the bar
is the seventh character. -/
theorem labels_lead_back_accented :
    Template.parse "{{n}}\né|" = .error ⟨.strayBar, ⟨2, 2⟩⟩ ∧
      (ofParseError "de.json#g.k" "{{n}}\né|" ⟨.strayBar, ⟨2, 2⟩⟩).labels =
        [⟨"error here", 8, 1⟩] ∧
      ∃ before unread : String, "{{n}}\né|" = before ++ unread ∧
        (opening <+: unread.toList ∨ ['|'] <+: unread.toList) ∧
        (ofParseError "de.json#g.k" "{{n}}\né|" ⟨.strayBar, ⟨2, 2⟩⟩).labels =
          [⟨"error here", before.utf8ByteSize, 1⟩] := by
  have hparse : Template.parse "{{n}}\né|" = .error ⟨.strayBar, ⟨2, 2⟩⟩ := by decide +kernel
  obtain ⟨before, unread, hsplit, -, hstart, hlabels, -⟩ :=
    labels_lead_back.2.1 "de.json#g.k" "{{n}}\né|" _ hparse
  exact ⟨hparse, by decide +kernel, before, unread, hsplit, hstart, hlabels⟩

end CommandLine.Report

/-- Going on by bytes in a text ends in one of its lines. The column counts bytes of this line, in
addition to those that the way starts behind. -/
theorem Json.exists_lines_of_advance (place : Text.Position) (text : List Char) (count : Nat) :
    ∃ before line, text = before ++ line ∧ Text.EndsLine before ∧
      (advance place text count).line = place.line + before.count '\n' ∧
      (advance place text count).column ≤
        (if before = [] then place.column else 0) +
          Text.byteCount (line.takeWhile fun c => c ≠ '\n') := by
  fun_induction advance place text count with
  | case1 place count => exact ⟨[], [], rfl, Text.endsLine_nil, by simp, by simp⟩
  | case2 place c text count hinside =>
    refine ⟨[], c :: text, rfl, Text.endsLine_nil, by simp, ?_⟩
    by_cases hbreak : c = '\n'
    · have hsize : c.utf8Size = 1 := hbreak ▸ rfl
      simp only [if_true]
      omega
    · simp [hbreak]
      omega
  | case3 place text count _ ih =>
    obtain ⟨before, line, rfl, hends, hline, hcolumn⟩ := ih
    have hends' : Text.EndsLine ('\n' :: before) := by
      by_cases hempty : before = []
      · simp [hempty, Text.EndsLine]
      · exact (Text.endsLine_cons_iff hempty).2 hends
    refine ⟨'\n' :: before, line, rfl, hends', ?_, ?_⟩
    · rw [hline, List.count_cons_self]
      dsimp only
      omega
    · simpa using hcolumn
  | case4 place c text count _ hbreak ih =>
    obtain ⟨before, line, rfl, hends, hline, hcolumn⟩ := ih
    by_cases hempty : before = []
    · subst hempty
      refine ⟨[], c :: line, rfl, Text.endsLine_nil, hline, ?_⟩
      simp [hbreak] at hcolumn ⊢
      omega
    · refine ⟨c :: before, line, rfl, (Text.endsLine_cons_iff hempty).2 hends, ?_, ?_⟩
      · rw [hline, List.count_cons_of_ne hbreak]
      · simpa [hempty] using hcolumn

/-- Where an error of a text lies: in the line that starts behind `before`, in which its column
counts bytes. -/
structure Json.Error.LiesIn (error : Json.Error) (content : String) (before line : List Char) :
    Prop where
  split : content.toList = before ++ line
  endsLine : Text.EndsLine before
  line_eq : error.place.line = before.count '\n' + 1
  /-- The line is read up to its break at most. -/
  column_le : error.place.column ≤ Text.byteCount (line.takeWhile fun c => c ≠ '\n')

/-- The line is found by its number. -/
theorem Json.Error.LiesIn.cutLines_eq {error : Json.Error} {content : String}
    {before line : List Char} (h : error.LiesIn content before line) :
    Text.cutLines (error.place.line - 1) content.toList = (before, line) := by
  rw [h.split, h.line_eq, Nat.add_sub_cancel, Text.cutLines_of_endsLine h.endsLine]

theorem Json.Error.LiesIn.utf8ByteSize_eq {error : Json.Error} {content : String}
    {before line : List Char} (h : error.LiesIn content before line) :
    content.utf8ByteSize = Text.byteCount before + Text.byteCount line := by
  rw [← Text.byteCount_toList, h.split, Text.byteCount_append]

/-- Every error lies in a line of its text. -/
theorem Json.exists_liesIn_of_readAll_error {α : Type} {reader : Json.Reader α} {content : String}
    {error : Json.Error} (h : reader.readAll content = .error error) :
    ∃ before line, error.LiesIn content before line := by
  have hstop : ∃ stop, error = .ofStop content.toList stop := by
    unfold Reader.readAll at h
    split at h
    · exact ⟨_, (Except.error.inj h).symm⟩
    · split at h
      · contradiction
      · exact ⟨_, (Except.error.inj h).symm⟩
  obtain ⟨stop, rfl⟩ := hstop
  obtain ⟨before, line, hsplit, hends, hline, hcolumn⟩ :=
    exists_lines_of_advance ⟨1, 0⟩ content.toList (Text.byteCount content.toList -
      Text.byteCount stop.unread + min stop.ahead (Text.byteCount stop.unread))
  refine ⟨before, line, hsplit, hends, ?_, ?_⟩
  · rw [Error.ofStop, hline, Nat.add_comm]
  · simpa [Error.ofStop] using hcolumn

namespace CommandLine

/-- A report points to the last byte that was read in the line of a place, or to the start of the
line where nothing of it was read; so it does not point behind the line. -/
def Report.PointsToLastRead (report : Report) (content : String) (place : Text.Position) : Prop :=
  ∃ before line, content.toList = before ++ line ∧ Text.EndsLine before ∧
    place.line = before.count '\n' + 1 ∧
    report.labels = [⟨"error here",
      min (Text.byteCount before + (place.column - 1)) content.utf8ByteSize, 1⟩] ∧
    place.column - 1 ≤ Text.byteCount (line.takeWhile fun c => c ≠ '\n')

variable {content : String} {error : Json.Error} {before line : List Char}

/-- The label goes too far by the extra bytes of the characters that it counts off, and not behind
the end of the text. -/
theorem Report.labels_ofJsonError (path : String) (h : error.LiesIn content before line) :
    (ofJsonError path content error).labels = [⟨"error here",
      min (Text.byteCount before + (error.place.column - 1) +
        Text.extraBytes (line.take (error.place.column - 1))) content.utf8ByteSize, 1⟩] := by
  have hplace : error.place = ⟨before.count '\n' + 1, error.place.column⟩ :=
    congrArg (Text.Position.mk · error.place.column) h.line_eq
  have hoffset : error.place.byteOffset content.toList = Text.byteCount before +
      Text.byteCount (line.take (error.place.column - 1)) := by
    rw [h.split, hplace, Text.Position.byteOffset_of_endsLine h.endsLine]
  rw [Text.byteCount_take, ← Nat.add_min_add_left, ← h.utf8ByteSize_eq, ← Nat.add_assoc] at hoffset
  simp only [ofJsonError, ofSyntax, hoffset]

theorem Report.pointsToLastRead_iff {path : String} (h : error.LiesIn content before line) :
    (ofJsonError path content error).PointsToLastRead content error.place ↔
      ∀ c ∈ line.take (error.place.column - 1), c.utf8Size = 1 := by
  have hlabels := labels_ofJsonError path h
  have hcolumn := h.column_le
  have hline : Text.byteCount (line.takeWhile fun c => c ≠ '\n') ≤ Text.byteCount line :=
    Text.byteCount_le_of_prefix (List.takeWhile_prefix _)
  have hsize := h.utf8ByteSize_eq
  rw [← Text.extraBytes_eq_zero_iff]
  constructor
  · rintro ⟨before', line', hsplit, hends, hcount, hpoints, -⟩
    obtain ⟨rfl, rfl⟩ : before = before' ∧ line = line' := by
      have hcut := h.cutLines_eq
      rw [hcount, Nat.add_sub_cancel, hsplit, Text.cutLines_of_endsLine hends] at hcut
      exact Prod.mk.inj hcut.symm
    rw [hlabels] at hpoints
    have hoffset := congrArg Label.offset (List.singleton_inj.1 hpoints)
    dsimp only at hoffset
    by_cases hread : error.place.column = 0
    · simp [hread, Text.extraBytes]
    · omega
  · intro hplain
    refine ⟨before, line, h.split, h.endsLine, h.line_eq, ?_, by omega⟩
    rw [hlabels, hplain, Nat.add_zero]

/-- A file that holds no catalog is reported with the line of the error and a column that counts
bytes. The label points to the last byte that was read exactly where the characters that it counts
off in this line take one byte each. Elsewhere it goes too far by their extra bytes, up to the end
of the file. -/
theorem readCatalog_pointsToLastRead_iff {files : Files} {path : String}
    (hfile : files path = .ok content) (herror : Catalog.ofJson content = .error error) :
    ∃ report before line, readCatalog files path = .error report ∧
      error.LiesIn content before line ∧
      (report.PointsToLastRead content error.place ↔
        ∀ c ∈ line.take (error.place.column - 1), c.utf8Size = 1) ∧
      report.labels = [⟨"error here",
        min (Text.byteCount before + (error.place.column - 1) +
          Text.extraBytes (line.take (error.place.column - 1))) content.utf8ByteSize, 1⟩] := by
  have hread : Catalog.reader.readAll content = .error error := by
    unfold Catalog.ofJson at herror
    cases hread : Catalog.reader.readAll content with
    | ok groups => simp [hread, Except.map] at herror
    | error error' => simpa [hread, Except.map] using herror
  obtain ⟨before, line, hlies⟩ := Json.exists_liesIn_of_readAll_error hread
  refine ⟨.ofJsonError path content error, before, line, ?_, hlies,
    Report.pointsToLastRead_iff hlies, Report.labels_ofJsonError path hlies⟩
  simp [readCatalog, hfile, herror]

/-- The error of a text that holds no catalog, and its place. -/
theorem exists_error_at (content : String) (place : Text.Position)
    (h : (match Catalog.ofJson content with
      | .error error => some error.place
      | .ok _ => none) = some place) :
    ∃ error, Catalog.ofJson content = .error error ∧ error.place = place := by
  cases hread : Catalog.ofJson content with
  | ok catalog => simp [hread] at h
  | error error => exact ⟨error, rfl, by simpa [hread] using h⟩

/-- A number in the second line. The accented letter before it stands in the first line. -/
theorem readCatalog_pointsToLastRead_iff_secondLine :
    ∃ error report, Catalog.ofJson "\x7b\"é\":\n\x7b\"k\":5\x7d\x7d" = .error error ∧
      readCatalog (fun _ => .ok "\x7b\"é\":\n\x7b\"k\":5\x7d\x7d") "fr.json" = .error report ∧
      report.PointsToLastRead "\x7b\"é\":\n\x7b\"k\":5\x7d\x7d" ⟨2, 6⟩ ∧
      report.labels = [⟨"error here", 12, 1⟩] := by
  obtain ⟨error, herror, hplace⟩ :=
    exists_error_at "\x7b\"é\":\n\x7b\"k\":5\x7d\x7d" ⟨2, 6⟩ (by decide +kernel)
  obtain ⟨report, before, line, hreport, hlies, hpoints, hlabels⟩ :=
    @readCatalog_pointsToLastRead_iff _ _ (fun _ => .ok "\x7b\"é\":\n\x7b\"k\":5\x7d\x7d") "fr.json"
      rfl herror
  have hcut := hlies.cutLines_eq
  rw [hplace] at hcut hpoints hlabels
  obtain ⟨rfl, rfl⟩ : before = ['{', '"', 'é', '"', ':', '\n'] ∧
      line = ['{', '"', 'k', '"', ':', '5', '}', '}'] := by
    simpa [Text.cutLines] using hcut.symm
  have hplain := Text.extraBytes_eq_zero_iff.1 (by decide +kernel :
    Text.extraBytes ['{', '"', 'k', '"', ':'] = 0)
  exact ⟨error, report, herror, hreport, hpoints.2 hplain, hlabels.trans (by decide +kernel)⟩

/-- A number behind a key of umlauts. It is the byte behind the first ten, and the label points
behind thirteen bytes, where the next line starts. -/
theorem not_pointsToLastRead_umlauts :
    ∃ error, Catalog.ofJson "\x7b\"äöü\":1,\n\"b\":\x7b\x7d\x7d" = .error error ∧
      error.place = ⟨1, 11⟩ ∧
      (Report.ofJsonError "de.json" "\x7b\"äöü\":1,\n\"b\":\x7b\x7d\x7d" error).labels =
        [⟨"error here", 13, 1⟩] ∧
      ¬ (Report.ofJsonError "de.json" "\x7b\"äöü\":1,\n\"b\":\x7b\x7d\x7d" error).PointsToLastRead
        "\x7b\"äöü\":1,\n\"b\":\x7b\x7d\x7d" error.place := by
  obtain ⟨error, herror, hplace⟩ :=
    exists_error_at "\x7b\"äöü\":1,\n\"b\":\x7b\x7d\x7d" ⟨1, 11⟩ (by decide +kernel)
  obtain ⟨line, hline⟩ : ∃ line, "\x7b\"äöü\":1,\n\"b\":\x7b\x7d\x7d".toList = line := ⟨_, rfl⟩
  have hlies : error.LiesIn "\x7b\"äöü\":1,\n\"b\":\x7b\x7d\x7d" [] line := by
    refine ⟨hline, Text.endsLine_nil, ?_, ?_⟩
    · rw [hplace]
      rfl
    · rw [hplace, ← hline]
      decide +kernel
  refine ⟨error, herror, hplace, ?_, fun hpoints => ?_⟩
  · rw [Report.labels_ofJsonError "de.json" hlies, hplace, ← hline]
    decide +kernel
  · rw [Report.pointsToLastRead_iff hlies, hplace, ← hline] at hpoints
    exact absurd (hpoints 'ä' (by decide)) (by decide)

end CommandLine

end Phrasebook
