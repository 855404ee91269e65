import DynLisp.Program

/-!
# The command line program

Connects the program to the terminal and to the files of the machine it runs on.
-/

namespace DynLisp

/-- Opens a file for reading. -/
def openFile (path : String) : IO Opened := do
  try
    let data ← IO.FS.readBinFile path
    pure (.contents data.toList)
  catch _ => pure .missing

/-- Writes what a program left behind and gives its exit status. -/
def finish (result : Program.Result) : IO UInt32 := do
  IO.print result.output
  IO.eprint result.reports
  match result.ending with
  | .finished => pure 0
  | .exit status => pure status.toUInt32
  | .failed _ => pure 1

/-- Writes what a shell has to write, and leaves nothing to be written. -/
def flush (shell : Shell) : IO Shell := do
  IO.print shell.session.machine.output
  (← IO.getStdout).flush
  IO.eprint shell.reporter.written
  let machine := { shell.session.machine with output := "" }
  pure
    { shell with
      session := { shell.session with machine := machine }
      reporter := { shell.reporter with written := "" } }

/-- The next line of the input, or the mark of its end. -/
def readLine : IO String := do
  let line ← (← IO.getStdin).getLine
  if line.isEmpty then
    pure Shell.endLine
  else
    match Program.inputLines line with
    | line :: _ => pure line
    | [] => pure ""

/-- Talks to the user until they leave. -/
partial def converse (shell : Shell) : IO UInt32 := do
  let shell ← flush (shell.write shell.prompt)
  match shell.step (← readLine) with
  | (.ok true, shell) =>
      finish (Program.conclude (.ok ()) shell.session.machine.output shell.reporter)
  | (.ok false, shell) => converse shell
  | (.error failure, shell) =>
      finish (Program.conclude (.error failure) shell.session.machine.output shell.reporter)

end DynLisp

/-- Runs a file, or the shell if no file is given. -/
def main (arguments : List String) : IO UInt32 := do
  match DynLisp.CommandLine.request arguments with
  | .ok (.run none color) =>
      match DynLisp.Session.new (.new true color) DynLisp.Session.commandLinePath true .missing with
      | (.ok session, reporter) =>
          DynLisp.converse
            ((DynLisp.Shell.new session reporter).write (DynLisp.Shell.intro ++ "\n"))
      | (.error failure, reporter) =>
          DynLisp.finish (DynLisp.Program.conclude (.error failure) "" reporter)
  | .ok (.run (some path) color) =>
      DynLisp.finish (DynLisp.Program.runFile color path (← DynLisp.openFile path))
  | _ => DynLisp.finish (DynLisp.Program.run arguments (fun _ => .missing) "")
