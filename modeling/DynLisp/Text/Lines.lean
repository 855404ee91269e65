/-!
# Lines

Three ways to cut a text into lines.  `lines` is the generous one that reports quote from: it knows
every line boundary there is and never ends in an empty line.  `feedLines` cuts at line feeds only
and keeps what follows the last one.  `joinLineEnds` is the reading of a text file, in which every
kind of carriage return has become a line feed.
-/

namespace DynLisp
namespace Text

/-- Whether a character ends a line of a report. -/
def isLineBreak (character : Char) : Bool :=
  character = '\n' || character = '\r' || character = '\x0b' || character = '\x0c' ||
    character = '\x1c' || character = '\x1d' || character = '\x1e' || character = '\u0085' ||
    character = '\u2028' || character = '\u2029'

/-- The lines of a text.  A carriage return and the line feed behind it are one boundary, and a
boundary at the very end opens no further line. -/
def lines : List Char → List (List Char)
  | [] => []
  | '\r' :: '\n' :: rest => [] :: lines rest
  | character :: rest =>
      if isLineBreak character then
        [] :: lines rest
      else
        match rest with
        | [] => [[character]]
        | _ =>
            match lines rest with
            | [] => [[character]]
            | line :: later => (character :: line) :: later

/-- The parts of a text between line feeds, the last of them possibly empty. -/
def feedLines : List Char → List (List Char)
  | [] => [[]]
  | character :: rest =>
      if character = '\n' then
        [] :: feedLines rest
      else
        match feedLines rest with
        | [] => [[character]]
        | line :: later => (character :: line) :: later

/-- The lines that are read from a stream one by one: what follows the last line feed is a line
only if it is not empty. -/
def inputLines (text : List Char) : List (List Char) :=
  match (feedLines text).reverse with
  | [] :: earlier => earlier.reverse
  | parts => parts.reverse

/-- Every carriage return, with the line feed behind it if there is one, becomes a line feed. -/
def joinLineEnds : List Char → List Char
  | [] => []
  | '\r' :: '\n' :: rest => '\n' :: joinLineEnds rest
  | character :: rest => (if character = '\r' then '\n' else character) :: joinLineEnds rest

end Text
end DynLisp
