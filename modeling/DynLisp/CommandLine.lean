import DynLisp.Text.Digit
import DynLisp.Text.Quoted

/-!
# The command line

The command line takes one optional file and three options.  A long option may be shortened as long
as it stays unambiguous, a word after `--` is never an option, and neither is a negative number or
a word with a space in it.  All words are classified before any of them takes effect; then they take
effect from left to right, so that asking for help or for the version ends the program at once.
-/

namespace DynLisp
namespace CommandLine

/-- The options. -/
inductive Flag where
  | help
  | noColor
  | version
deriving DecidableEq, Repr

/-- All spellings of the options. -/
def spellings : List (List Char × Flag) :=
  [("-h".toList, .help), ("--help".toList, .help), ("--no-color".toList, .noColor),
    ("--version".toList, .version)]

/-- How an option is called in an error. -/
def Flag.title : Flag → String
  | help => "-h/--help"
  | noColor => "--no-color"
  | version => "--version"

/-- What a word of the command line is. -/
inductive Word where
  /-- The word that ends the options. -/
  | separator
  /-- A word that is no option. -/
  | positional (text : String)
  /-- A word that looks like an option and is none. -/
  | unknown (text : String)
  /-- An option with nothing attached to it. -/
  | option (flag : Flag)
  /-- An option with an attached text that it does not take. -/
  | overfull (flag : Flag) (attached : String)
deriving DecidableEq, Repr

/-- Why a command line is refused. -/
inductive UsageError where
  /-- A word could be several options. -/
  | ambiguous (word : String) (candidates : List String)
  /-- An option has a text attached to it. -/
  | attachedText (flag : Flag) (attached : String)
  /-- Some words have no meaning. -/
  | unrecognized (words : List String)
deriving DecidableEq, Repr

/-- The wording of an error. -/
def UsageError.text : UsageError → String
  | ambiguous word candidates =>
      "ambiguous option: " ++ word ++ " could match " ++ String.intercalate ", " candidates
  | attachedText flag attached =>
      "argument " ++ flag.title ++ ": ignored explicit argument " ++ Text.quoted attached
  | unrecognized words => "unrecognized arguments: " ++ String.intercalate " " words

/-- Whether a text is a run of decimal digits. -/
def isDigits (text : List Char) : Bool :=
  !text.isEmpty && text.all Text.isDecimalDigit

/-- Whether the text behind a minus sign makes a negative number; a line feed at its end is
overlooked. -/
def isNumeral (text : List Char) : Bool :=
  let text := if text.getLast? = some '\n' then text.dropLast else text
  isDigits text ||
    match text.dropWhile Text.isDecimalDigit with
    | '.' :: fraction => isDigits fraction
    | _ => false

/-- What follows the letter of a short option: nothing, further short options, or a text that the
last of them does not take. -/
def shortTail : List Char → Word
  | [] => .option .help
  | 'h' :: rest => shortTail rest
  | attached => .overfull .help (String.ofList attached)

/-- What follows the first letter of a short option.  An equals sign may stand in front of it, and
has to be followed by something then. -/
def shortWord : List Char → Word
  | ['='] => .overfull .help ""
  | '=' :: rest => shortTail rest
  | rest => shortTail rest

/-- A word that begins with two minus signs and is no spelling of an option in full. -/
def longWord (text : List Char) : Except UsageError (Option Word) :=
  let name := text.takeWhile (· != '=')
  let attached := text.dropWhile (· != '=')
  match spellings.filter fun spelling => name.isPrefixOf spelling.1 with
  | [] => .ok none
  | [(_, flag)] =>
      match attached with
      | [] => .ok (some (.option flag))
      | _ :: attached => .ok (some (.overfull flag (String.ofList attached)))
  | candidates =>
      .error (.ambiguous (String.ofList text)
        (candidates.map fun candidate => String.ofList candidate.1))

/-- The option that a word beginning with a minus sign is, if it is one. -/
def optionWord (text : List Char) : Except UsageError (Option Word) :=
  match text with
  | '-' :: '-' :: _ =>
      match spellings.lookup text with
      | some flag => .ok (some (.option flag))
      | none =>
          match spellings.lookup (text.takeWhile (· != '=')) with
          | some flag =>
              .ok (some (.overfull flag (String.ofList ((text.dropWhile (· != '=')).drop 1))))
          | none => longWord text
  | '-' :: 'h' :: rest => .ok (some (shortWord rest))
  | _ => .ok none

/-- What a word other than the separator is. -/
def classify (text : String) : Except UsageError Word :=
  match text.toList with
  | '-' :: rest =>
      match optionWord ('-' :: rest) with
      | .error error => .error error
      | .ok (some word) => .ok word
      | .ok none =>
          if rest.isEmpty || isNumeral rest || rest.contains ' ' then
            .ok (.positional text)
          else
            .ok (.unknown text)
  | _ => .ok (.positional text)

/-- The words of a command line. -/
def words : List String → Except UsageError (List Word)
  | [] => .ok []
  | text :: rest =>
      if text = "--" then
        .ok (.separator :: rest.map .positional)
      else
        match classify text with
        | .error error => .error error
        | .ok word => (words rest).map (word :: ·)

/-- What a command line asks for. -/
inductive Request where
  /-- Show how to use the program. -/
  | help
  /-- Show the version. -/
  | version
  /-- Run a file, or the shell if there is none. -/
  | run (file : Option String) (color : Bool)
deriving DecidableEq, Repr

/-- What the words read so far ask for. -/
structure Reading where
  /-- The file, once a word has taken its place. -/
  file : Option String
  /-- Whether reports are coloured. -/
  color : Bool
  /-- Words without a meaning. -/
  extras : List String
deriving DecidableEq, Repr

/-- Takes in words from left to right.  The separator has a meaning as long as the place of the file
is free or has been taken by the word in front of it. -/
def read (reading : Reading) : List Word → Except UsageError Request
  | [] =>
      if reading.extras.isEmpty then
        .ok (.run reading.file reading.color)
      else
        .error (.unrecognized reading.extras)
  | .option .help :: _ => .ok .help
  | .option .version :: _ => .ok .version
  | .option .noColor :: rest => read { reading with color := false } rest
  | .overfull flag attached :: _ => .error (.attachedText flag attached)
  | .unknown text :: rest => read { reading with extras := reading.extras ++ [text] } rest
  | .separator :: rest =>
      match reading.file with
      | none => read reading rest
      | some _ => read { reading with extras := reading.extras ++ ["--"] } rest
  | .positional text :: .separator :: rest =>
      match reading.file with
      | none => read { reading with file := some text } rest
      | some _ => read { reading with extras := reading.extras ++ [text, "--"] } rest
  | .positional text :: rest =>
      match reading.file with
      | none => read { reading with file := some text } rest
      | some _ => read { reading with extras := reading.extras ++ [text] } rest

/-- What a command line asks for. -/
def request (arguments : List String) : Except UsageError Request :=
  match words arguments with
  | .error error => .error error
  | .ok words => read ⟨none, true, []⟩ words

end CommandLine
end DynLisp
