import DynLisp.Text.Ranges

/-!
# Blanks

The characters that separate tokens and words: the ASCII white space, the four information
separators, and the space separators and line ends of other scripts.
-/

namespace DynLisp
namespace Text

/-- Blank characters, as ascending inclusive code point ranges. -/
def blankRanges : List (Nat × Nat) :=
  [(0x9, 0xD), (0x1C, 0x20), (0x85, 0x85), (0xA0, 0xA0), (0x1680, 0x1680), (0x2000, 0x200A),
    (0x2028, 0x2029), (0x202F, 0x202F), (0x205F, 0x205F), (0x3000, 0x3000)]

/-- Whether a character is blank. -/
def isBlank (character : Char) : Bool :=
  inRanges blankRanges character

/-- A text without the blanks at its two ends. -/
def strip (text : List Char) : List Char :=
  ((text.dropWhile isBlank).reverse.dropWhile isBlank).reverse

/-- The first word of a text and what follows it, if the text is not blank. -/
def firstWord? (text : List Char) : Option (List Char × List Char) :=
  match text.dropWhile isBlank with
  | [] => none
  | start => some (start.takeWhile (!isBlank ·), start.dropWhile (!isBlank ·))

end Text
end DynLisp
