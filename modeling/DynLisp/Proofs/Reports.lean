import DynLisp.Session
import DynLisp.Proofs.Templates

/-!
# Reports that succeed

A notice can be reported if its text can be shown and if its place can be underlined: the line and
the column are those of some text, and there is room for the column and for the number of underlined
columns.  The report of such a notice is written whatever is being run, and a
reporter whose errors are not fatal has dealt with it then.
-/

namespace DynLisp

/-- Whether a notice can be reported where there is some room, whatever is being run. -/
structure Notice.IsReportable (notice : Notice) (room : Nat) : Prop where
  /-- Its text can be shown everywhere, with and without colour. -/
  shown : ∀ (color : Bool) (platform : Platform), ∃ text, notice.shown color platform = .ok text
  /-- It speaks of no line in front of the first one. -/
  line : ∀ position ∈ notice.position, 1 ≤ position.line
  /-- There is room for the blanks in front of its column. -/
  column : ∀ position ∈ notice.position,
    1 ≤ position.column ∧ position.column ≤ room + 1
  /-- There is room for what is underlined. -/
  span : 1 ≤ notice.span ∧ notice.span ≤ room + 1

theorem Platform.copies_of_le (platform : Platform) (character : Char) {count : Int}
    (least : 0 ≤ count) (most : count ≤ platform.room) :
    Text.copies platform.room character count = .ok (List.replicate count.toNat character) := by
  obtain ⟨number, rfl⟩ := Int.eq_ofNat_of_zero_le least
  rw [Text.copies_natCast platform.room_lt character (Int.ofNat_le.mp most), Int.toNat_natCast]

namespace Reporter

theorem withLines_withLines (path : String) (lines lines' : Option (List String))
    (sources : List (String × Option (List String))) :
    withLines path lines (withLines path lines' sources) = withLines path lines sources := by
  induction sources with
  | nil => simp [withLines]
  | cons source sources ih =>
      by_cases same : source.1 = path
      · simp [withLines, same]
      · simp [withLines, same, ih]

/-- A position from a text is on one of the lines or behind all of them. -/
theorem lineAt_eq (lines : List String) {position : Position} (first : 1 ≤ position.line) :
    lineAt lines position = .ok lines[(position.line - 1).toNat]? := by
  obtain ⟨line, line_eq⟩ := Int.eq_ofNat_of_zero_le (show 0 ≤ position.line - 1 by omega)
  have place : position.line = line + 1 := by omega
  unfold lineAt
  rw [line_eq, Text.item?_natCast, Int.toNat_natCast, place]
  by_cases beyond : lines.length ≤ line
  · have none_there : lines[line]? = none := List.getElem?_eq_none beyond
    have outside : (lines.length : Int) < line + 1 := by omega
    simp [none_there, outside]
  · have inside : line < lines.length := Nat.lt_of_not_le beyond
    have not_outside : ¬ (lines.length : Int) < line + 1 := by omega
    have not_empty : lines.isEmpty = false := by
      cases lines with
      | nil => cases inside
      | cons first lines => rfl
    simp [List.getElem?_eq_getElem inside, not_outside, not_empty]

theorem lineOf_eq_ok (reporter : Reporter) {notice : Notice}
    (line : ∀ position ∈ notice.position, 1 ≤ position.line) :
    ∃ quoted, reporter.lineOf notice = .ok quoted := by
  unfold lineOf
  split
  next lines position _ place => exact ⟨_, lineAt_eq lines (line position place)⟩
  next => exact ⟨none, rfl⟩

theorem quotation_eq_ok (reporter : Reporter) (severity : Severity) {notice : Notice}
    (reportable : notice.IsReportable reporter.platform.room) (line : Option String) :
    ∃ quotation, reporter.quotation severity notice line = .ok quotation := by
  unfold quotation
  split
  next line position place =>
    obtain ⟨least, most⟩ := reportable.column position place
    obtain ⟨narrow, wide⟩ := reportable.span
    have blanks := reporter.platform.copies_of_le ' ' (show 0 ≤ position.column - 1 by omega)
      (by omega)
    have waves := reporter.platform.copies_of_le '~' (show 0 ≤ (notice.span : Int) - 1 by omega)
      (by omega)
    split
    · simp only [diagnose, blanks, waves]
      exact ⟨_, rfl⟩
    · exact ⟨"", rfl⟩
  next => exact ⟨"", rfl⟩

/-- The report of such a notice is its first line and perhaps a quotation. -/
theorem report_of_isReportable (reporter : Reporter) (severity : Severity) {notice : Notice}
    (reportable : notice.IsReportable reporter.platform.room) :
    ∃ text quotation, notice.shown reporter.color reporter.platform = .ok text ∧
      reporter.report severity notice =
        (.ok (), (reporter.write (reporter.headline severity notice text)).write quotation) := by
  obtain ⟨line, located⟩ := reporter.lineOf_eq_ok reportable.line
  obtain ⟨text, shown⟩ := reportable.shown reporter.color reporter.platform
  obtain ⟨quotation, quoted⟩ := reporter.quotation_eq_ok severity reportable line
  refine ⟨text, quotation, shown, ?_⟩
  simp only [report, located, shown, quoted]

/-- A reporter whose errors are not fatal deals with an error that can be reported. -/
theorem handle_of_isReportable {reporter : Reporter} (lenient : reporter.fatal = false)
    {failure : Failure} {notice : Notice} (verdict : failure.verdict = .report notice)
    (reportable : notice.IsReportable reporter.platform.room) :
    ∃ text quotation, notice.shown reporter.color reporter.platform = .ok text ∧
      reporter.handle failure =
        (.ok (), ((reporter.write (reporter.headline .error notice text)).write
          quotation).forgetSources) := by
  obtain ⟨text, quotation, shown, reported⟩ := reporter.report_of_isReportable .error reportable
  refine ⟨text, quotation, shown, ?_⟩
  have still : ((reporter.write (reporter.headline .error notice text)).write quotation).fatal =
      false := lenient
  simp only [handle, verdict, raise, reported, still, Bool.false_eq_true, if_false]

/-- A report writes something, or nothing, and changes nothing else. -/
theorem exists_report_eq_write (reporter : Reporter) (severity : Severity) (notice : Notice) :
    ∃ text, (reporter.report severity notice).2 = reporter.write text := by
  have nothing : reporter = reporter.write "" := by simp [write]
  unfold report
  split
  · exact ⟨"", nothing⟩
  · exact ⟨"", nothing⟩
  next line text _ _ =>
    split
    · exact ⟨_, rfl⟩
    next quotation _ =>
      exact ⟨reporter.headline severity notice text ++ quotation, by
        simp [write, String.append_assoc]⟩

theorem exists_warn_eq_write (reporter : Reporter) (notice : Notice) :
    ∃ text, (reporter.warn notice).2 = reporter.write text := by
  obtain ⟨text, written⟩ := reporter.exists_report_eq_write .warning notice
  refine ⟨text, ?_⟩
  unfold warn
  split <;> (rename_i reported; rw [reported] at written; exact written)

/-- Raising an error writes something, or nothing.  Either the report fails, or the program is to
exit, or the error is dealt with. -/
theorem raise_cases (reporter : Reporter) (notice : Notice) :
    ∃ text,
      (∃ cause, reporter.raise notice = (.error (.internal cause), reporter.write text)) ∨
      (reporter.fatal = true ∧ reporter.raise notice = (.error .fatal, reporter.write text)) ∨
      (reporter.fatal = false ∧
        reporter.raise notice = (.ok (), (reporter.write text).forgetSources)) := by
  obtain ⟨text, written⟩ := reporter.exists_report_eq_write .error notice
  refine ⟨text, ?_⟩
  unfold raise
  split <;> rename_i reported <;> rw [reported] at written <;> subst written
  · exact Or.inl ⟨_, rfl⟩
  · cases fatal : reporter.fatal with
    | true => exact Or.inr (Or.inl ⟨rfl, if_pos fatal⟩)
    | false => exact Or.inr (Or.inr ⟨rfl, if_neg (Bool.eq_false_iff.mp fatal)⟩)

/-- Whether a reporter has written something, or nothing, and has perhaps forgotten what is being
run. -/
def HasHandled (before after : Reporter) : Prop :=
  ∃ text, after = before.write text ∨ after = (before.write text).forgetSources

theorem raise_hasHandled (reporter : Reporter) (notice : Notice) :
    reporter.HasHandled (reporter.raise notice).2 := by
  obtain ⟨text, ⟨_, raised⟩ | ⟨_, raised⟩ | ⟨_, raised⟩⟩ := reporter.raise_cases notice
  · exact ⟨text, Or.inl (congrArg Prod.snd raised)⟩
  · exact ⟨text, Or.inl (congrArg Prod.snd raised)⟩
  · exact ⟨text, Or.inr (congrArg Prod.snd raised)⟩

/-- This is all that the handling of a failure does to a reporter. -/
theorem handle_hasHandled (reporter : Reporter) (failure : Failure) :
    reporter.HasHandled (reporter.handle failure).2 := by
  unfold handle
  split
  next notice _ => exact reporter.raise_hasHandled notice
  next => exact ⟨"", Or.inl (by simp [write])⟩
  next cause _ =>
    have raised := reporter.raise_hasHandled (faultNotice cause)
    split <;> (rename_i result; rw [result] at raised; exact raised)

theorem HasHandled.fatal {before after : Reporter} (handled : before.HasHandled after) :
    after.fatal = before.fatal := by
  obtain ⟨text, rfl | rfl⟩ := handled <;> rfl

theorem HasHandled.platform {before after : Reporter} (handled : before.HasHandled after) :
    after.platform = before.platform := by
  obtain ⟨text, rfl | rfl⟩ := handled <;> rfl

end Reporter

/-- Running a text changes neither whether errors are fatal nor where reports are shown. -/
theorem Session.run_reporter_frame (session : Session) (reporter : Reporter) (text : String) :
    (session.run reporter text).2.2.fatal = reporter.fatal ∧
      (session.run reporter text).2.2.platform = reporter.platform := by
  unfold run
  simp only
  split
  · exact ⟨rfl, rfl⟩
  · split
    · obtain ⟨written, warned⟩ := Reporter.exists_warn_eq_write
        (reporter.registerSource session.path text) (emptyNotice session.path)
      rw [warned]
      exact ⟨rfl, rfl⟩
    · exact ⟨rfl, rfl⟩

end DynLisp
