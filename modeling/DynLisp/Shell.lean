import DynLisp.Session

/-!
# The interactive shell

The shell reads line by line.  A line is a command if its first word is the name of one; everything
else is code, which is run as soon as its brackets are closed.  While brackets are open every line
continues the code, but for the one that marks the end of the input.
-/

namespace DynLisp

/-- What the user can ask of the shell. -/
inductive Command where
  /-- List the bindings. -/
  | bindings
  /-- Show the introduction. -/
  | help
  /-- Leave, because the input has ended. -/
  | endOfInput
  /-- Leave. -/
  | exit
deriving DecidableEq, Repr

namespace Command

/-- The command with a name. -/
def ofWord? (word : String) : Option Command :=
  if word = "env" then some bindings
  else if word = "help" then some help
  else if word = "EOF" then some endOfInput
  else if word = "exit" then some exit
  else none

end Command

/-- A text without its comments, line by line. -/
def withoutComments (text : List Char) : List (List Char) :=
  (Text.feedLines text).map fun line => line.takeWhile (· != ';')

/-- How often a character stands in the lines of a text. -/
def countIn (lines : List (List Char)) (character : Char) : Nat :=
  lines.flatten.count character

/-- Whether a text has more opening than closing brackets outside comments. -/
def isUnclosed (text : String) : Bool :=
  let code := withoutComments text.toList
  countIn code ')' < countIn code '('

/-- A text continued by another line. -/
def continued (pending line : String) : String :=
  if pending = "" then line else pending ++ "\n" ++ line

/-- An interactive session. -/
structure Shell where
  /-- The session that code is run in. -/
  session : Session
  /-- Reports errors in the code. -/
  reporter : Reporter
  /-- Code whose brackets are not closed yet. -/
  pending : String
  /-- What the user is prompted with. -/
  prompt : String

namespace Shell

/-- Prompts for new code. -/
def primaryPrompt : String := ">> "

/-- Prompts for the continuation of code. -/
def secondaryPrompt : String := ". "

/-- Greets the user. -/
def intro : String :=
  "tini interpreter :: Python backend\nType 'help' for more information."

/-- Introduces the user to the language. -/
def helpText : String :=
  "Welcome to the tini interpreter!\n\n" ++
    "tini is a tiny language of integers and functions, written as parenthesized \n" ++
    "prefix expressions. Builtins are +, -, *, =, >, < and print.\n\n" ++
    "Try it out by typing '(define (inc x) (+ x 1))'. This will bind a function \n" ++
    "to the name 'inc'. Next, try typing '(inc 41)', which gives 42. Expressions \n" ++
    "may span several lines; 'env' lists your definitions.\n"

/-- A shell on a session. -/
def new (session : Session) (reporter : Reporter) : Shell :=
  ⟨session, reporter, "", primaryPrompt⟩

/-- Writes text to the output of the session. -/
def write (shell : Shell) (text : String) : Shell :=
  { shell with session := { shell.session with machine := shell.session.machine.write text } }

/-- The line that shows a value. -/
def resultLine (value : Value) : String := " < " ++ value.text ++ "\n"

/-- The line that shows a binding. -/
def bindingLine (binding : String × Value) : String :=
  binding.1 ++ " = " ++ binding.2.text ++ "\n"

/-- The bindings that are listed for the user. -/
def listed (environment : Environment) : List (String × Value) :=
  environment.bindings.filter fun binding => !binding.2.isBuiltin

/-- Writes lines up to one that cannot be written, and fails for what is wrong with that one. -/
def writeLines (shell : Shell) {α : Type} (line : α → String) (fault : α → Option Cause) :
    List α → Except Failure Unit × Shell
  | [] => (.ok (), shell)
  | item :: rest =>
      match fault item with
      | some cause => (.error (.internal cause), shell)
      | none => (shell.write (line item)).writeLines line fault rest

/-- Runs code and shows the values that were computed, also if the run has failed.  If a value
cannot be shown, that is the failure. -/
def execute (shell : Shell) (code : String) : Except Failure Unit × Shell :=
  let (outcome, session, reporter) := shell.session.run shell.reporter code
  let (values, session) := session.pop
  let shell := { shell with session := session, reporter := reporter }
  let (shown, shell) := shell.writeLines resultLine Value.textFault? values
  (shown.bind fun () => outcome, shell)

/-- Runs code, and reports the failure if there is one. -/
def runCode (shell : Shell) (code : String) : Except Failure Bool × Shell :=
  match shell.execute code with
  | (.ok (), shell) => (.ok false, shell)
  | (.error failure, shell) =>
      match shell.reporter.handle failure with
      | (.ok (), reporter) => (.ok false, { shell with reporter := reporter })
      | (.error failure, reporter) => (.error failure, { shell with reporter := reporter })

/-- Takes in a line of code. -/
def enter (shell : Shell) (line : String) : Except Failure Bool × Shell :=
  let code := continued shell.pending line
  if isUnclosed code then
    (.ok false, { shell with pending := code, prompt := secondaryPrompt })
  else
    { shell with pending := "", prompt := primaryPrompt }.runCode code

/-- The warning about an argument where none is wanted. -/
def exitNotice (argument : String) : Notice :=
  (Notice.ofMessage
    [.plain "unrecognized argument to exit: '", .marked argument, .plain "'"]).withoutSource

/-- Obeys a command, and says whether to leave. -/
def obey (shell : Shell) (command : Command) (argument : String) :
    Except Failure Bool × Shell :=
  match command with
  | .bindings =>
      let bindings := listed shell.session.machine.environment
      let (shown, shell) := shell.writeLines bindingLine (·.2.textFault?) bindings
      (shown.map fun () => false, shell)
  | .help => (.ok false, shell.write helpText)
  | .endOfInput => (.ok true, shell.write "\n")
  | .exit =>
      if argument = "" then
        (.ok true, shell)
      else
        (.ok false, { shell with reporter := (shell.reporter.warn (exitNotice argument)).2 })

/-- The line that marks the end of the input. -/
def endLine : String := "EOF"

/-- Takes in a line, and says whether to leave. -/
def step (shell : Shell) (line : String) : Except Failure Bool × Shell :=
  if shell.pending ≠ "" ∧ line ≠ endLine then
    shell.enter line
  else
    match Text.firstWord? line.toList with
    | none => (.ok false, shell)
    | some (word, rest) =>
        match Command.ofWord? (String.ofList word) with
        | none => shell.enter line
        | some command => shell.obey command (String.ofList (Text.strip rest))

/-- Prompts for lines and takes them in until one of them says to leave. -/
def loop (shell : Shell) : List String → Except Failure Unit × Shell
  | [] => (.ok (), shell)
  | line :: rest =>
      match (shell.write shell.prompt).step line with
      | (.error failure, shell) => (.error failure, shell)
      | (.ok true, shell) => (.ok (), shell)
      | (.ok false, shell) => shell.loop rest

end Shell
end DynLisp
