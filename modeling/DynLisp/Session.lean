import DynLisp.Reporter
import DynLisp.Run
import DynLisp.Text.Utf8

/-!
# Sessions

A session runs texts in one machine, either the contents of a file or what is typed at the command
line.  Values are collected until they are asked for.  While a text is being run the reporter knows
its lines; they are forgotten once the text has been run without an error.
-/

namespace DynLisp

/-- What came of opening a file. -/
inductive Opened where
  /-- There is no such file to read. -/
  | missing
  /-- The contents of the file. -/
  | contents (data : List UInt8)
deriving Repr

/-- Texts being run in one machine. -/
structure Session where
  /-- The path that reports mention. -/
  path : String
  /-- Whether the texts come from the command line. -/
  interactive : Bool
  /-- The contents of the file. -/
  source : String
  /-- The machine that texts are run in. -/
  machine : Machine
  /-- The values that have not been asked for. -/
  results : List Value
  /-- How deeply texts may nest. -/
  limits : Limits

namespace Session

/-- The path that stands for the command line. -/
def commandLinePath : String := "<in>"

/-- The text of a file, in which every line ends in a line feed. -/
def fileText (path : String) (opened : Opened) : Except Failure String :=
  if path.toList.contains '\x00' then
    .error (.internal (.badValue "embedded null byte"))
  else
    match opened with
    | .missing =>
        .error (.other (Notice.ofMessage
          [.plain "'", .marked path, .plain "' could not be opened"]).withoutSource)
    | .contents data =>
        match Text.Utf8.decode data with
        | .error error => .error (.internal (.badEncoding error.text))
        | .ok characters => .ok (String.ofList (Text.joinLineEnds characters))

/-- The text that a new session is about. -/
def sourceText (path : String) (interactive : Bool) (opened : Opened) : Except Failure String :=
  if path ≠ commandLinePath then
    fileText path opened
  else if interactive then
    .ok ""
  else
    .error (.other (.ofMessage [.plain "'<in>' is a reserved filename"]))

/-- Begins a session.  In interactive sessions errors are not fatal. -/
def new (reporter : Reporter) (path : String) (interactive : Bool) (opened : Opened) :
    Except Failure Session × Reporter :=
  let reporter := reporter.registerFile path
  let reporter := if interactive then { reporter with fatal := false } else reporter
  ((sourceText path interactive opened).map fun source =>
    { path := path
      interactive := interactive
      source := source
      machine := .initial
      results := []
      limits := .standard },
    reporter)

/-- The warning about a text without expressions. -/
def emptyNotice (path : String) : Notice :=
  (Notice.ofMessage [.plain "'", .marked path, .plain "' contains no expressions"]).withoutSource

/-- Runs a text and collects the values of its expressions up to the first failure. -/
def run (session : Session) (reporter : Reporter) (text : String) :
    Except Failure Unit × Session × Reporter :=
  let reporter := reporter.registerSource session.path text
  let yield := session.machine.run session.limits (.ofText text)
  let session :=
    { session with machine := yield.machine, results := session.results ++ yield.values }
  match yield.failure with
  | some failure => (.error failure, session, reporter)
  | none =>
      let reporter :=
        if yield.values.isEmpty && !session.interactive then
          (reporter.warn (emptyNotice session.path)).2
        else
          reporter
      (.ok (), session, reporter.removeSource session.path)

/-- A run fails exactly if the run of its text in the machine does. -/
theorem run_outcome (session : Session) (reporter : Reporter) (text : String) :
    (session.run reporter text).1 =
      match (session.machine.run session.limits (.ofText text)).failure with
      | some failure => .error failure
      | none => .ok () := by
  unfold run
  simp only
  split <;> rfl

/-- A run changes the machine and collects values, and leaves the session as it is otherwise. -/
theorem run_session (session : Session) (reporter : Reporter) (text : String) :
    (session.run reporter text).2.1 =
      { session with
        machine := (session.machine.run session.limits (.ofText text)).machine
        results := session.results ++
          (session.machine.run session.limits (.ofText text)).values } := by
  unfold run
  simp only
  split <;> rfl

/-- Runs the contents of the session's file. -/
def runSource (session : Session) (reporter : Reporter) :
    Except Failure Unit × Session × Reporter :=
  session.run reporter session.source

/-- The values collected since they were last asked for. -/
def pop (session : Session) : List Value × Session :=
  (session.results, { session with results := [] })

end Session
end DynLisp
