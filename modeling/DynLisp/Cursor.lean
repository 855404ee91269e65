import DynLisp.Text.Blank
import DynLisp.Text.Digit
import DynLisp.Text.Letter
import DynLisp.Text.Numeral
import DynLisp.Token
import DynLisp.Wording

/-!
# Reading tokens

A cursor stands in a source text and reads it token by token.  Blanks and comments between tokens
are skipped; a comment runs from a semicolon to the end of its line.  Every read leaves the cursor
behind what it consumed, also when it fails, so that reading can always go on.

`Cursor.next_rest_lt` says that a read which gives a token or an error consumes something;
`Cursor.tokens` is the whole reading of a text.
-/

namespace DynLisp

/-- The symbols that may stand in an identifier. -/
def identifierSymbols : List Char :=
  ['\x27', '!', '@', '#', '$', '%', '^', '&', '*', '-', '=', '+', '|', ':', '/', '?', ',', '.',
    '<', '>', '\x60', '~', '_']

/-- Whether an identifier can begin with a character. -/
def isIdentifierStart (character : Char) : Bool :=
  identifierSymbols.contains character || Text.isLetter character

/-- Whether a character can stand in an identifier. -/
def isIdentifierPart (character : Char) : Bool :=
  Text.isDigit character || isIdentifierStart character

/-- Why no token could be read. -/
inductive LexError where
  /-- No token begins with this text. -/
  | unexpectedCharacter (character : String) (position : Position)
  /-- The text ends inside a token. -/
  | unexpectedEnd (expected : String)
  /-- No escape is spelled with this text. -/
  | unknownEscape (character : String) (position : Position)
  /-- Another failure stopped a token of the given length. -/
  | other (cause : Cause) (position : Position) (span : Int)
  /-- A run of digits is no readable number; this is no error of the language. -/
  | unreadable (cause : Cause)
deriving DecidableEq, Inhabited, Repr

/-- Greatest value of an integer literal, `2 ^ 63 - 1`. -/
def greatestLiteral : Nat := 0x7FFFFFFFFFFFFFFF

/-- The value of a run of digits. -/
def literalValue (digits : List Char) : Except Cause Nat :=
  if digits.isEmpty then
    .error (.badValue "invalid literal for int() with base 10: ''")
  else if digitLimit < digits.length then
    .error (Text.tooManyDigits (some digits.length))
  else
    .ok (Nat.ofDigitChars 10 digits 0)

/-- The literal that a run of digits at a position is. -/
def readLiteral (digits : List Char) (position : Position) : Except LexError Lexeme :=
  match literalValue digits with
  | .error cause => .error (.unreadable cause)
  | .ok value =>
      if greatestLiteral < value then
        .error (.other
          (.overflow ("integer literal " ++ String.ofList digits ++ " does not fit in 64 bits"))
          position digits.length)
      else
        .ok (.integer value)

/-- The length of the gap at the front of a text, where `comment` says whether the text begins
inside a comment. -/
def gapLength (comment : Bool) : List Char → Nat
  | [] => 0
  | character :: rest =>
      if comment then
        gapLength (character != '\n') rest + 1
      else if character = ';' then
        gapLength true rest + 1
      else if Text.isBlank character then
        gapLength false rest + 1
      else
        0

/-- A place in a source text. -/
structure Cursor where
  /-- The text that has not been read. -/
  rest : List Char
  /-- Position of the next character. -/
  position : Position
  /-- Number of characters that have been read. -/
  index : Nat
deriving DecidableEq, Repr

namespace Cursor

/-- The beginning of a text. -/
def ofText (text : String) : Cursor := ⟨text.toList, .start, 0⟩

/-- Reads a number of characters. -/
def skip (cursor : Cursor) (count : Nat) : Cursor where
  rest := cursor.rest.drop count
  position := cursor.position.past (cursor.rest.take count)
  index := cursor.index + (cursor.rest.take count).length

/-- The next character, if there is one. -/
def peek? (cursor : Cursor) : Option Char := cursor.rest.head?

/-- Skips the blanks and comments in front of the next token. -/
def skipGap (cursor : Cursor) : Cursor :=
  cursor.skip (gapLength false cursor.rest)

/-- Skips to the end of the line. -/
def skipLine (cursor : Cursor) : Cursor :=
  cursor.skip (cursor.rest.takeWhile (· != '\n')).length

/-- Reads the characters of an identifier, which may turn out to be a keyword. -/
def readName (cursor : Cursor) : Token × Cursor :=
  let name := cursor.rest.takeWhile isIdentifierPart
  (⟨.ofName (String.ofList name), cursor.position⟩, cursor.skip name.length)

/-- Reads a run of digits. -/
def readInteger (cursor : Cursor) : Except LexError Token × Cursor :=
  let digits := cursor.rest.takeWhile Text.isDigit
  ((readLiteral digits cursor.position).map fun lexeme => ⟨lexeme, cursor.position⟩,
    cursor.skip digits.length)

/-- Reads the token that the cursor stands in front of. -/
def readToken (cursor : Cursor) : Except LexError (Option Token) × Cursor :=
  match cursor.rest with
  | [] => (.ok none, cursor)
  | character :: _ =>
      if character = '(' then
        (.ok (some ⟨.leftBracket, cursor.position⟩), cursor.skip 1)
      else if character = ')' then
        (.ok (some ⟨.rightBracket, cursor.position⟩), cursor.skip 1)
      else if isIdentifierStart character then
        let (token, after) := cursor.readName
        (.ok (some token), after)
      else if Text.isDigit character then
        let (token, after) := cursor.readInteger
        (token.map some, after)
      else
        (.error (.unexpectedCharacter (String.singleton character) cursor.position), cursor.skip 1)

/-- Reads the next token, or nothing at the end of the text. -/
def next (cursor : Cursor) : Except LexError (Option Token) × Cursor :=
  cursor.skipGap.readToken

@[simp]
theorem skip_rest (cursor : Cursor) (count : Nat) :
    (cursor.skip count).rest = cursor.rest.drop count := rfl

theorem skipGap_rest_length_le (cursor : Cursor) :
    cursor.skipGap.rest.length ≤ cursor.rest.length := by
  simp [skipGap]

theorem isIdentifierPart_of_start {character : Char} (start : isIdentifierStart character = true) :
    isIdentifierPart character = true := by
  simp [isIdentifierPart, start]

theorem skip_rest_lt {cursor : Cursor} {character : Char} {later : List Char} {count : Nat}
    (rest : cursor.rest = character :: later) (positive : 0 < count) :
    (cursor.skip count).rest.length < cursor.rest.length := by
  simp only [skip_rest, List.length_drop, rest, List.length_cons]
  omega

/-- Reading anything but the end of the text consumes at least one character. -/
theorem readToken_rest_lt (cursor : Cursor) (nonempty : cursor.rest ≠ []) :
    cursor.readToken.2.rest.length < cursor.rest.length := by
  unfold readToken
  split
  next empty => exact absurd empty nonempty
  next character later rest =>
    split
    · exact skip_rest_lt rest Nat.one_pos
    split
    · exact skip_rest_lt rest Nat.one_pos
    split
    next start =>
      refine skip_rest_lt rest ?_
      simp [rest, isIdentifierPart_of_start start]
    split
    next digit =>
      refine skip_rest_lt rest ?_
      simp [rest, digit]
    · exact skip_rest_lt rest Nat.one_pos

theorem next_rest_lt {cursor : Cursor} (more : cursor.next.1 ≠ .ok none) :
    cursor.next.2.rest.length < cursor.rest.length := by
  have nonempty : cursor.skipGap.rest ≠ [] := by
    intro empty
    apply more
    simp [next, readToken, empty]
  exact Nat.lt_of_lt_of_le (cursor.skipGap.readToken_rest_lt nonempty) cursor.skipGap_rest_length_le

theorem next_rest_le (cursor : Cursor) : cursor.next.2.rest.length ≤ cursor.rest.length := by
  by_cases more : cursor.next.1 = .ok none
  · by_cases empty : cursor.skipGap.rest = []
    · have stays : cursor.next.2 = cursor.skipGap := by simp [next, readToken, empty]
      rw [stays]
      exact cursor.skipGap_rest_length_le
    · exact Nat.le_trans (Nat.le_of_lt (cursor.skipGap.readToken_rest_lt empty))
        cursor.skipGap_rest_length_le
  · exact Nat.le_of_lt (cursor.next_rest_lt more)

/-- Everything that is read from a cursor to the end of the text: the tokens and errors in order,
each with the cursor behind it. -/
def tokens (cursor : Cursor) : List (Except LexError Token × Cursor) :=
  match _result : cursor.next with
  | (.ok none, _) => []
  | (.ok (some token), after) => (.ok token, after) :: after.tokens
  | (.error error, after) => (.error error, after) :: after.tokens
termination_by cursor.rest.length
decreasing_by
  · have consumed := cursor.next_rest_lt (by rw [_result]; simp)
    rwa [_result] at consumed
  · have consumed := cursor.next_rest_lt (by rw [_result]; simp)
    rwa [_result] at consumed

/-- The cursor at the end of the text. -/
def finish (cursor : Cursor) : Cursor := cursor.skip cursor.rest.length

end Cursor

namespace LexError

/-- What an error of the lexer has to say; an unreadable number is told by its cause. -/
def notice : LexError → Except Cause Notice
  | unexpectedCharacter character position =>
      .ok (.unexpectedCharacter character (some position))
  | unexpectedEnd expected => .ok (.unexpectedEndOfToken expected)
  | unknownEscape character position => .ok (.unknownEscape character (some position))
  | other cause position span => .ok (.stopped cause.text (some position) span)
  | unreadable cause => .error cause

end LexError
end DynLisp
