import DynLisp.Text.Numeral

/-!
# Positions

A position is a line and a column of a source text, both counted from one.  Only a line feed starts
a new line; every other character advances the column by one.  Positions that are made up and not
read from a text may be any two integers.
-/

namespace DynLisp

/-- A line and a column of a source text. -/
structure Position where
  /-- Line number, counted from one. -/
  line : Int := 1
  /-- Column number in characters, counted from one. -/
  column : Int := 1
deriving DecidableEq, Inhabited, Repr

namespace Position

/-- The first position of a text. -/
def start : Position := {}

/-- The beginning of the next line. -/
def nextLine (position : Position) : Position := ⟨position.line + 1, 1⟩

/-- The next column of the same line. -/
def nextColumn (position : Position) : Position := ⟨position.line, position.column + 1⟩

/-- The position after one character. -/
def advance (position : Position) (character : Char) : Position :=
  if character = '\n' then position.nextLine else position.nextColumn

/-- The position after a stretch of text. -/
def past (position : Position) (text : List Char) : Position :=
  text.foldl advance position

/-- A position as `line:column`. -/
def text (position : Position) : String :=
  position.line.repr ++ ":" ++ position.column.repr

/-- What is wrong with writing a position, if anything is. -/
def textFault? (position : Position) : Option Cause :=
  Text.numeralFault? position.line <|> Text.numeralFault? position.column

/-- A position with the name of its type, for inspection. -/
def tagged (position : Position) : String :=
  "Position(" ++ position.text ++ ")"

@[simp]
theorem past_nil (position : Position) : position.past [] = position := rfl

@[simp]
theorem past_cons (position : Position) (character : Char) (text : List Char) :
    position.past (character :: text) = (position.advance character).past text := rfl

@[simp]
theorem past_append (position : Position) (front back : List Char) :
    position.past (front ++ back) = (position.past front).past back := by
  simp [past]

end Position
end DynLisp
