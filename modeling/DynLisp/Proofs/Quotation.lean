import DynLisp.Proofs.Lengths
import DynLisp.Proofs.Lines
import DynLisp.Proofs.Reports

/-!
# Quoted lines

A report quotes a line of the text that is being run, which it looks up by the line number of a
position.  Positions count line feeds, and the lines of reports have other boundaries too.  So the
line around a character is found if no such boundary comes before the end of it, and it is not found
at such a boundary itself.
-/

namespace DynLisp
namespace Reporter

/-- Whether a path is the one known last, and has not been known before. -/
def KnowsLast (reporter : Reporter) (path : String) : Prop :=
  ∃ others lines, reporter.sources = others ++ [(path, lines)] ∧ path ∉ others.map Prod.fst

theorem withLines_append {path : String} {others : List (String × Option (List String))}
    (unknown : path ∉ others.map Prod.fst) (lines : Option (List String))
    (sources : List (String × Option (List String))) :
    withLines path lines (others ++ sources) = others ++ withLines path lines sources := by
  induction others with
  | nil => rfl
  | cons other others ih =>
      simp only [List.map_cons, List.mem_cons, not_or] at unknown
      simp only [List.cons_append, withLines, Ne.symm unknown.1, if_false, ih unknown.2]

theorem registerSource_registerSource (reporter : Reporter) (path text : String) :
    (reporter.registerSource path text).registerSource path text =
      reporter.registerSource path text := by
  simp [registerSource, withLines_withLines]

theorem knowsLast_registerFile {reporter : Reporter} {path : String}
    (unknown : path ∉ reporter.sources.map Prod.fst) :
    (reporter.registerFile path).KnowsLast path := by
  refine ⟨reporter.sources, none, ?_, unknown⟩
  have added := withLines_append unknown none []
  rwa [List.append_nil] at added

namespace KnowsLast

variable {reporter : Reporter} {path : String}

theorem withLines (knows : reporter.KnowsLast path) (lines : Option (List String)) :
    KnowsLast { reporter with sources := Reporter.withLines path lines reporter.sources } path ∧
      (Reporter.withLines path lines reporter.sources).getLast? = some (path, lines) := by
  obtain ⟨others, old, sources, unknown⟩ := knows
  have changed : Reporter.withLines path lines reporter.sources = others ++ [(path, lines)] := by
    rw [sources, withLines_append unknown]
    simp [Reporter.withLines]
  exact ⟨⟨others, lines, changed, unknown⟩, by rw [changed, List.getLast?_concat]⟩

/-- The line of a notice is looked up in the text that is being run. -/
theorem lineOf_registerSource (knows : reporter.KnowsLast path) (text : String) {notice : Notice}
    {position : Position} (place : notice.position = some position) (first : 1 ≤ position.line) :
    (reporter.registerSource path text).lineOf notice =
      .ok ((Text.lines text.toList)[(position.line - 1).toNat]?.map String.ofList) := by
  have last := (knows.withLines (some ((Text.lines text.toList).map String.ofList))).2
  simp only [lineOf, registerSource, last, place]
  rw [lineAt_eq _ first, List.getElem?_map]

end KnowsLast
end Reporter

namespace Text

/-- The line of a text that has a character in it or ends with it, between the line feeds on either
side. -/
def lineAround (text : List Char) (index : Nat) : List Char :=
  lastLine (text.take index) ++ firstLine (text.drop index)

variable {text : List Char} {index : Nat} {character : Char}

theorem drop_eq_cons_of_getElem? (there : text[index]? = some character) :
    text.drop index = character :: text.drop (index + 1) := by
  obtain ⟨inside, rfl⟩ := List.getElem?_eq_some_iff.mp there
  exact List.drop_eq_getElem_cons inside

/-- The column of a character counts those in front of it in its line. -/
theorem lineAround_getElem? (there : text[index]? = some character) :
    (lineAround text index ++ ['\n'])[(lastLine (text.take index)).length]? = some character := by
  rw [lineAround, List.append_assoc, List.getElem?_append_right (Nat.le_refl _), Nat.sub_self,
    drop_eq_cons_of_getElem? there]
  by_cases feed : character = '\n'
  · simp [firstLine, feed]
  · simp [firstLine, feed]

theorem mem_lineAround (there : text[index]? = some character) (no_feed : character ≠ '\n') :
    character ∈ lineAround text index := by
  rw [lineAround, drop_eq_cons_of_getElem? there]
  simp [firstLine, no_feed]

end Text

theorem Cursor.ofText_skip_position (text : String) (index : Nat) :
    ((Cursor.ofText text).skip index).position = .behind (text.toList.take index) :=
  Position.past_behind [] (text.toList.take index)

/-- A notice is placed at a character of the text that is being run under the path known last.  Its
report quotes the line around the character, if nothing but line feeds breaks a line up to the end
of this one; at a character that breaks a line in another way it quotes something else.  The column
of the character counts those in front of it in its line. -/
theorem Reporter.quotes_lineAround {reporter : Reporter} {path text : String}
    (last : (reporter.registerSource path text).KnowsLast path) {index : Nat} {character : Char}
    (there : text.toList[index]? = some character) {notice : Notice} {position : Position}
    (position_eq : ((Cursor.ofText text).skip index).position = position)
    (place : notice.position = some position) :
    let line := Text.lineAround text.toList index
    (Text.FeedsOnly (text.toList.take index ++ Text.firstLine (text.toList.drop index)) →
        (reporter.registerSource path text).lineOf notice = .ok (some (String.ofList line))) ∧
      (Text.isLineBreak character = true → character ≠ '\n' →
        (reporter.registerSource path text).lineOf notice ≠ .ok (some (String.ofList line))) ∧
      (line ++ ['\n'])[(position.column - 1).toNat]? = some character := by
  intro line
  rw [Cursor.ofText_skip_position] at position_eq
  subst position_eq
  have quoted := last.lineOf_registerSource text place (Position.behind_bounds _).1
  rw [registerSource_registerSource, Text.behind_line_toNat] at quoted
  rw [quoted, Text.behind_column_toNat]
  refine ⟨fun feeds => ?_, fun broken no_feed same => ?_, Text.lineAround_getElem? there⟩
  · have something : text.toList.drop index ≠ [] := by
      simp [Text.drop_eq_cons_of_getElem? there]
    have found := Text.lines_getElem? feeds something
    rw [List.take_append_drop] at found
    rw [found]
    rfl
  · obtain ⟨other, found, other_eq⟩ : ∃ other,
        (Text.lines text.toList)[(text.toList.take index).count '\n']? = some other ∧
          String.ofList other = String.ofList line := by
      simpa using same
    obtain rfl := String.ofList_injective other_eq
    have inner := Text.isLineBreak_of_mem_lines (List.mem_of_getElem? found) character
      (Text.mem_lineAround there no_feed)
    rw [broken] at inner
    cases inner

/-- A form feed may follow on a later line. -/
theorem Reporter.quotes_lineAround_bracket :
    let reporter := (Reporter.new false false).registerSource "<in>" "1\n [\n\x0c2"
    let notice := Notice.unexpectedCharacter "[" (some ⟨2, 2⟩)
    reporter.KnowsLast "<in>" ∧ "1\n [\n\x0c2".toList[3]? = some '[' ∧
      ((Cursor.ofText "1\n [\n\x0c2").skip 3).position = ⟨2, 2⟩ ∧
      reporter.lineOf notice = .ok (some " [") := by
  intro reporter notice
  have last : reporter.KnowsLast "<in>" := ⟨[], _, rfl, by simp⟩
  have there : "1\n [\n\x0c2".toList[3]? = some '[' := by decide
  have position_eq : ((Cursor.ofText "1\n [\n\x0c2").skip 3).position = ⟨2, 2⟩ := by decide
  have feeds : Text.FeedsOnly ("1\n [\n\x0c2".toList.take 3 ++
      Text.firstLine ("1\n [\n\x0c2".toList.drop 3)) := by
    decide
  exact ⟨last, there, position_eq, (Reporter.quotes_lineAround last there position_eq rfl).1 feeds⟩

/-- A form feed breaks a line of the report, and what stands behind it is not quoted. -/
theorem Reporter.lineOf_behind_formFeed :
    let reporter := (Reporter.new false false).registerSource "<in>" "1\x0c ["
    let position := ((Cursor.ofText "1\x0c [").skip 3).position
    reporter.KnowsLast "<in>" ∧
      reporter.lineOf (.unexpectedCharacter "[" (some position)) = .ok (some "1") ∧
      Text.lineAround "1\x0c [".toList 3 = "1\x0c [".toList :=
  ⟨⟨[], _, rfl, by simp⟩, rfl, rfl⟩

end DynLisp
