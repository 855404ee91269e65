import DynLisp.Failure
import DynLisp.Text.Copies
import DynLisp.Text.Cut
import DynLisp.Text.Lines

/-!
# Reports

A reporter knows which sources are being run and writes errors and warnings about them: where it
happened, what happened, and the source line with the place underlined.  After a fatal error the
program exits; otherwise the error is dealt with and no source counts as being run any more.

A report can fail itself.  If its place is far in front of the source, or if its template refuses
bold arguments, nothing is written.  If the place cannot be underlined because it is too far off,
the first line has been written by then.  Nothing else changes in either case.
-/

namespace DynLisp

/-- How serious a report is. -/
inductive Severity where
  | error
  | warning
deriving DecidableEq, Repr

namespace Severity

/-- The word that a report begins with. -/
def label : Severity → String
  | error => "error"
  | warning => "warning"

/-- The colour of a report. -/
def color : Severity → Text.Color
  | error => .red
  | warning => .magenta

end Severity

/-- Writes reports about sources. -/
structure Reporter where
  /-- Whether an error ends the program. -/
  fatal : Bool
  /-- Whether reports are coloured. -/
  color : Bool
  /-- The known sources in the order of their first mention, with the lines of those that are
  being run. -/
  sources : List (String × Option (List String))
  /-- The text of all reports so far. -/
  written : String
  /-- Where reports are shown. -/
  platform : Platform := .ordinary

namespace Reporter

/-- A reporter that knows no sources. -/
def new (fatal color : Bool) (platform : Platform := .ordinary) : Reporter :=
  ⟨fatal, color, [], "", platform⟩

/-- A list of sources with the given lines for a path, which keeps its place. -/
def withLines (path : String) (lines : Option (List String)) :
    List (String × Option (List String)) → List (String × Option (List String))
  | [] => [(path, lines)]
  | (known, old) :: rest =>
      if known = path then (path, lines) :: rest else (known, old) :: withLines path lines rest

/-- Makes a path known. -/
def registerFile (reporter : Reporter) (path : String) : Reporter :=
  { reporter with sources := withLines path none reporter.sources }

/-- Notes that a text is being run under a path. -/
def registerSource (reporter : Reporter) (path source : String) : Reporter :=
  { reporter with
    sources := withLines path (some ((Text.lines source.toList).map String.ofList))
      reporter.sources }

/-- Notes that nothing is being run under a path. -/
def removeSource (reporter : Reporter) (path : String) : Reporter :=
  { reporter with sources := withLines path none reporter.sources }

/-- Notes that nothing is being run at all. -/
def forgetSources (reporter : Reporter) : Reporter :=
  { reporter with sources := reporter.sources.map fun (path, _) => (path, none) }

/-- The line of a source that a position is on, if the source has that many lines.  Positions in
front of the first line count from the last one. -/
def lineAt (lines : List String) (position : Position) : Except Cause (Option String) :=
  if lines.isEmpty || lines.length < position.line then
    .ok none
  else
    match Text.item? lines (position.line - 1) with
    | some line => .ok (some line)
    | none =>
        .error (.badIndex
          (if Text.fitsIndex (position.line - 1) then "list index out of range"
          else Text.indexFault))

/-- The line of the source that is being run under the path known last and that a notice speaks of,
if there is one. -/
def lineOf (reporter : Reporter) (notice : Notice) : Except Cause (Option String) :=
  match reporter.sources.getLast?, notice.position with
  | some (_, some lines), some position => lineAt lines position
  | _, _ => .ok none

/-- Where a notice belongs, as its report says. -/
def placeText (reporter : Reporter) (notice : Notice) : String :=
  match reporter.sources.getLast? with
  | none => ""
  | some (path, _) =>
      let place := match notice.position with
        | none => path
        | some position => path ++ ":" ++ position.text
      reporter.platform.bold reporter.color (place ++ ": ")

/-- A text in bold and in a colour, if reports are coloured. -/
def painted (reporter : Reporter) (hue : Text.Color) (text : String) : String :=
  reporter.platform.paint reporter.color hue text

/-- A source line with a stretch of it highlighted. -/
def highlighted (reporter : Reporter) (severity : Severity) (line : String) (start : Int)
    (span : Nat) : String :=
  let characters := line.toList
  String.ofList (Text.before characters start) ++
    reporter.painted severity.color
      (String.ofList (Text.stretch characters start (start + span))) ++
    String.ofList (Text.onward characters (start + span))

/-- A source line with the place of a notice highlighted, and the underlined place below it. -/
def diagnose (reporter : Reporter) (severity : Severity) (line : String) (column : Int)
    (span : Nat) : Except Cause String :=
  let start := column - 1
  let room := reporter.platform.room
  match Text.copies room ' ' start, Text.copies room '~' (span - 1) with
  | .error cause, _ => .error cause
  | .ok _, .error cause => .error cause
  | .ok gap, .ok tail =>
      .ok ("  " ++ reporter.highlighted severity line start span ++ "\n" ++
        "  " ++ String.ofList gap ++
        reporter.painted severity.color (String.ofList ('^' :: tail)))

/-- The diagnosis of a notice on a source line; the notice has to have a place. -/
def diagnosis (reporter : Reporter) (severity : Severity) (line : String) (notice : Notice) :
    Except Cause String :=
  match notice.position with
  | none => .error (.missingPart "NoneType" "column")
  | some position => reporter.diagnose severity line position.column notice.span

/-- The first line of a report. -/
def headline (reporter : Reporter) (severity : Severity) (notice : Notice) (text : String) :
    String :=
  let origin := if notice.internal then reporter.painted .red "[internal] " else ""
  let label := reporter.painted severity.color (severity.label ++ ": ")
  reporter.placeText notice ++ origin ++ label ++ text ++ "\n"

/-- The source line below a report, where there is one to be quoted. -/
def quotation (reporter : Reporter) (severity : Severity) (notice : Notice)
    (line : Option String) : Except Cause String :=
  match line, notice.position with
  | some line, some position =>
      if notice.quotesSource && !notice.internal then
        (reporter.diagnose severity line position.column notice.span).map (· ++ "\n")
      else
        .ok ""
  | _, _ => .ok ""

/-- Writes text. -/
def write (reporter : Reporter) (text : String) : Reporter :=
  { reporter with written := reporter.written ++ text }

/-- Writes a report: its first line, and then the source line below it. -/
def report (reporter : Reporter) (severity : Severity) (notice : Notice) :
    Except Cause Unit × Reporter :=
  match reporter.lineOf notice, notice.shown reporter.color reporter.platform with
  | .error cause, _ => (.error cause, reporter)
  | .ok _, .error error => (.error error.cause, reporter)
  | .ok line, .ok text =>
      let started := reporter.write (reporter.headline severity notice text)
      match reporter.quotation severity notice line with
      | .error cause => (.error cause, started)
      | .ok quotation => (.ok (), started.write quotation)

/-- Warns the user. -/
def warn (reporter : Reporter) (notice : Notice) : Except Failure Unit × Reporter :=
  match reporter.report .warning notice with
  | (.error cause, reporter) => (.error (.internal cause), reporter)
  | (.ok (), reporter) => (.ok (), reporter)

/-- Reports an error, which is dealt with unless errors are fatal. -/
def raise (reporter : Reporter) (notice : Notice) : Except Failure Unit × Reporter :=
  match reporter.report .error notice with
  | (.error cause, reporter) => (.error (.internal cause), reporter)
  | (.ok (), reporter) =>
      if reporter.fatal then
        (.error .fatal, reporter)
      else
        (.ok (), reporter.forgetSources)

/-- The fault of reporting a thing of some sort that is no notice.  Its place is asked for first if
a path is known, and whether it is internal otherwise. -/
def unreportable (reporter : Reporter) (sort : String) : Cause :=
  .missingPart sort (if reporter.sources.isEmpty then "internal" else "position")

/-- The notice about a fault of the interpreter. -/
def faultNotice (cause : Cause) : Notice :=
  { Notice.ofMessage [.plain "unknown error: '", .marked cause.line, .plain "'"] with
    internal := true }

/-- Deals with a failure, or passes on what is left of it. -/
def handle (reporter : Reporter) (failure : Failure) : Except Failure Unit × Reporter :=
  match failure.verdict with
  | .report notice => reporter.raise notice
  | .pass => (.error failure, reporter)
  | .fault cause =>
      match reporter.raise (faultNotice cause) with
      | (.error failure, reporter) => (.error failure, reporter)
      | (.ok (), reporter) => (.error failure, reporter)

end Reporter
end DynLisp
