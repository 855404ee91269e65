import DynLisp.CommandLine
import DynLisp.Shell

/-!
# The program

Given a command line, the files it can open and the lines of its input, the program writes its
output and its reports and comes to an end.  With a file the first error is fatal; without one the
shell takes its place, reports errors and goes on.
-/

namespace DynLisp
namespace Program

/-- How the program is used, in one line. -/
def usage : String := "usage: tini [-h] [--no-color] [--version] [file]\n"

/-- How the program is used, in full. -/
def help : String :=
  usage ++
    "\npositional arguments:\n" ++
    "  file        file to interpret and run (if empty, goes to command-line mode)\n" ++
    "\noptions:\n" ++
    "  -h, --help  show this help message and exit\n" ++
    "  --no-color  disable colored error messages\n" ++
    "  --version   show program's version number and exit\n"

/-- The version of the program. -/
def version : String := "tini 0.1.0\n"

/-- How the program comes to an end. -/
inductive Ending where
  /-- There is nothing left to do. -/
  | finished
  /-- It exits with a status. -/
  | exit (status : Nat)
  /-- A failure is passed on to whoever started it. -/
  | failed (failure : Failure)
deriving Repr

/-- What the program leaves behind. -/
structure Result where
  /-- How it came to an end. -/
  ending : Ending
  /-- What it wrote to its output. -/
  output : String
  /-- What it reported. -/
  reports : String
deriving Repr

/-- The end of a program whose work came out in the given way, once failures are dealt with. -/
def conclude (outcome : Except Failure Unit) (output : String) (reporter : Reporter) : Result :=
  match outcome with
  | .ok () => ⟨.finished, output, reporter.written⟩
  | .error failure =>
      match reporter.handle failure with
      | (.ok (), reporter) => ⟨.finished, output, reporter.written⟩
      | (.error (.exit _), reporter) => ⟨.exit 1, output, reporter.written⟩
      | (.error failure, reporter) => ⟨.failed failure, output, reporter.written⟩

/-- Runs a file. -/
def runFile (color : Bool) (path : String) (opened : Opened)
    (platform : Platform := .ordinary) : Result :=
  match Session.new (.new true color platform) path false opened with
  | (.error failure, reporter) => conclude (.error failure) "" reporter
  | (.ok session, reporter) =>
      let (outcome, session, reporter) := session.runSource reporter
      conclude outcome session.machine.output reporter

/-- Runs the shell on lines of input, which are followed by the mark of their end. -/
def runShell (color : Bool) (lines : List String) (platform : Platform := .ordinary) : Result :=
  match Session.new (.new true color platform) Session.commandLinePath true .missing with
  | (.error failure, reporter) => conclude (.error failure) "" reporter
  | (.ok session, reporter) =>
      let shell := (Shell.new session reporter).write (Shell.intro ++ "\n")
      let (outcome, shell) := shell.loop (lines ++ [Shell.endLine])
      conclude outcome shell.session.machine.output shell.reporter

/-- The lines of the program's input. -/
def inputLines (input : String) : List String :=
  (Text.inputLines (Text.joinLineEnds input.toList)).map String.ofList

/-- Runs the program. -/
def run (arguments : List String) (files : String → Opened) (input : String)
    (platform : Platform := .ordinary) : Result :=
  match CommandLine.request arguments with
  | .error error => ⟨.exit 2, "", usage ++ "tini: error: " ++ error.text ++ "\n"⟩
  | .ok .help => ⟨.exit 0, help, ""⟩
  | .ok .version => ⟨.exit 0, version, ""⟩
  | .ok (.run (some path) color) => runFile color path (files path) platform
  | .ok (.run none color) => runShell color (inputLines input) platform

end Program
end DynLisp
