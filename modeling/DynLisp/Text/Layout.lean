import DynLisp.Text.Copies
import DynLisp.Text.Digit

/-!
# Layouts

A layout says how a text or a number is set in a column.  It is written as

```
[[fill] alignment] [sign] [z] [#] [0] [width] [grouping] [. precision] [code]
```

and `Layout.parse` reads what is written.  A text is cut to a greatest length, padded to a least
width, and moved to one side or to the middle.  Signs, groupings and the like are there for numbers;
a layout of text that asks for one of them is refused.  `Layout.read` reads a layout of text and
`Layout.apply` sets a text.
-/

namespace DynLisp
namespace Text

/-- Where a text stands in its column. -/
inductive Alignment where
  | left
  | right
  | center
  /-- Between the sign of a number and its digits. -/
  | inside
deriving DecidableEq, Repr

/-- The alignment that a character stands for. -/
def Alignment.ofChar? (character : Char) : Option Alignment :=
  match character with
  | '<' => some left
  | '>' => some right
  | '^' => some center
  | '=' => some inside
  | _ => none

/-- What can be wrong with a layout. -/
inductive LayoutError where
  /-- A number is too large. -/
  | tooManyDigits
  /-- A point is not followed by a number. -/
  | missingPrecision
  /-- Two ways to group digits are asked for. -/
  | twoGroupings
  /-- Digits cannot be grouped under a code. -/
  | groupingWith (grouping code : Char)
  /-- Something is left over in the layout of a thing of the given sort. -/
  | unreadable (sort layout : String)
  /-- A code is not one for things of the given sort. -/
  | unknownCode (sort : String) (code : Char)
  /-- A space is asked for in place of the sign of a text. -/
  | space
  /-- A sign of a text is asked for. -/
  | sign
  /-- Zeros of a text without a sign are asked for. -/
  | unsignedZero
  /-- The alternate form of a text is asked for. -/
  | alternateForm
  /-- Padding between sign and digits of a text is asked for. -/
  | insideAlignment
  /-- A precision of an integer is asked for. -/
  | integerPrecision
  /-- Integer zeros without a sign are asked for. -/
  | integerUnsignedZero
  /-- A sign of a character is asked for. -/
  | characterSign
  /-- The alternate form of a character is asked for. -/
  | characterAlternateForm
  /-- No character has that number. -/
  | noCharacter
  /-- A precision is out of range. -/
  | greatPrecision
  /-- No memory has room for the column. -/
  | tooWide
deriving DecidableEq, Repr

/-- A character of a layout as a message shows it: itself, or its code if it is no visible ASCII
character. -/
def visible (character : Char) : String :=
  if 32 < character.toNat && character.toNat < 128 then
    String.singleton character
  else
    "\\x" ++ String.ofList (Nat.toDigits 16 character.toNat)

/-- How a faulty layout is named and worded. -/
def LayoutError.cause : LayoutError → Cause
  | tooManyDigits => .badValue "Too many decimal digits in format string"
  | missingPrecision => .badValue "Format specifier missing precision"
  | twoGroupings => .badValue "Cannot specify both ',' and '_'."
  | groupingWith grouping code =>
      .badValue ("Cannot specify '" ++ String.singleton grouping ++ "' with '" ++ visible code ++
        "'.")
  | unreadable sort layout =>
      .badValue ("Invalid format specifier '" ++ layout ++ "' for object of type '" ++ sort ++ "'")
  | unknownCode sort code =>
      .badValue ("Unknown format code '" ++ visible code ++ "' for object of type '" ++ sort ++ "'")
  | space => .badValue "Space not allowed in string format specifier"
  | sign => .badValue "Sign not allowed in string format specifier"
  | unsignedZero =>
      .badValue "Negative zero coercion (z) not allowed in string format specifier"
  | alternateForm => .badValue "Alternate form (#) not allowed in string format specifier"
  | insideAlignment => .badValue "'=' alignment not allowed in string format specifier"
  | integerPrecision => .badValue "Precision not allowed in integer format specifier"
  | integerUnsignedZero =>
      .badValue "Negative zero coercion (z) not allowed in integer format specifier"
  | characterSign => .badValue "Sign not allowed with integer format specifier 'c'"
  | characterAlternateForm =>
      .badValue "Alternate form (#) not allowed with integer format specifier 'c'"
  | noCharacter => .overflow "%c arg not in range(0x110000)"
  | greatPrecision => .badValue "precision too big"
  | tooWide => .memoryExhausted

/-- What a layout asks for, as it is written. -/
structure LayoutRequest where
  /-- The character that pads, if one is given. -/
  fill : Option Char
  /-- The alignment, if one is given. -/
  alignment : Option Alignment
  /-- What stands in front of numbers that are not negative, if anything is said of it. -/
  sign : Option Char
  /-- Whether zeros are to have no sign. -/
  unsignedZero : Bool
  /-- Whether the alternate form of a number is asked for. -/
  alternate : Bool
  /-- Whether padding with zeros is asked for. -/
  zeros : Bool
  /-- The least width, if one is given. -/
  width : Option Nat
  /-- What stands between groups of digits, if anything does. -/
  grouping : Option Char
  /-- The precision, if one is given. -/
  precision : Option Nat
  /-- The code, or the usual one. -/
  code : Char
deriving DecidableEq, Repr

/-- How a text is set in a column. -/
structure Layout where
  /-- The character that pads the text. -/
  fill : Char := ' '
  /-- Where the text stands. -/
  alignment : Alignment := .left
  /-- The least width of the column. -/
  width : Nat := 0
  /-- The greatest length of the text. -/
  precision : Option Nat := none
deriving DecidableEq, Repr

namespace Layout

/-- The fill character and the alignment at the front of a layout, and what follows them. -/
def takeAlignment (layout : List Char) : Option Char × Option Alignment × List Char :=
  match layout with
  | [] => (none, none, [])
  | [mark] =>
      match Alignment.ofChar? mark with
      | some alignment => (none, some alignment, [])
      | none => (none, none, [mark])
  | first :: second :: rest =>
      match Alignment.ofChar? second, Alignment.ofChar? first with
      | some alignment, _ => (some first, some alignment, rest)
      | none, some alignment => (none, some alignment, second :: rest)
      | none, none => (none, none, first :: second :: rest)

/-- The first character if it is one of the given ones, and what follows it. -/
def takeOneOf (choices : List Char) : List Char → Option Char × List Char
  | [] => (none, [])
  | character :: rest =>
      if choices.contains character then (some character, rest) else (none, character :: rest)

/-- The number at the front of a layout if there is one, and what follows it. -/
def takeNumber (layout : List Char) : Except LayoutError (Option Nat × List Char) :=
  match takeCount 0 layout with
  | none => .error .tooManyDigits
  | some (number, rest) =>
      .ok (if rest.length < layout.length then some number else none, rest)

/-- The grouping at the front of a layout if there is one, and what follows it. -/
def takeGrouping : List Char → Except LayoutError (Option Char × List Char)
  | ',' :: '_' :: _ => .error .twoGroupings
  | '_' :: ',' :: _ => .error .twoGroupings
  | ',' :: rest => .ok (some ',', rest)
  | '_' :: rest => .ok (some '_', rest)
  | rest => .ok (none, rest)

/-- The precision at the front of a layout if there is one, and what follows it. -/
def takePrecision : List Char → Except LayoutError (Option Nat × List Char)
  | '.' :: rest =>
      match takeNumber rest with
      | .error error => .error error
      | .ok (none, _) => .error .missingPrecision
      | .ok (some precision, later) => .ok (some precision, later)
  | rest => .ok (none, rest)

/-- The code that ends the layout of a thing of the given sort, or else the usual one; there may be
nothing behind it. -/
def takeCode (sort : String) (usual : Char) (layout : List Char) :
    List Char → Except LayoutError Char
  | [] => .ok usual
  | [code] => .ok code
  | _ => .error (.unreadable sort (String.ofList layout))

/-- Whether digits can be grouped in the given way under a code. -/
def allowsGrouping (grouping code : Char) : Bool :=
  ['d', 'e', 'f', 'g', 'E', 'G', '%', 'F', '\x00'].contains code ||
    (grouping = '_' && ['b', 'o', 'x', 'X'].contains code)

/-- What a layout of a thing of the given sort asks for; the usual code may be left out. -/
def parse (sort : String) (usual : Char) (layout : List Char) :
    Except LayoutError LayoutRequest := do
  let (fill, alignment, rest) := takeAlignment layout
  let (sign, rest) := takeOneOf [' ', '+', '-'] rest
  let (unsignedZero, rest) := takeOneOf ['z'] rest
  let (alternate, rest) := takeOneOf ['#'] rest
  let (zeros, rest) := if fill.isSome then (none, rest) else takeOneOf ['0'] rest
  let (width, rest) ← takeNumber rest
  let (grouping, rest) ← takeGrouping rest
  let (precision, rest) ← takePrecision rest
  let code ← takeCode sort usual layout rest
  match grouping with
  | some grouping => if !allowsGrouping grouping code then throw (.groupingWith grouping code)
  | none => pure ()
  pure
    { fill := fill
      alignment := alignment
      sign := sign
      unsignedZero := unsignedZero.isSome
      alternate := alternate.isSome
      zeros := zeros.isSome
      width := width
      grouping := grouping
      precision := precision
      code := code }

/-- Reads a layout of text, whose column there has to be room for. -/
def read (room : Nat) (layout : List Char) : Except LayoutError Layout := do
  let request ← parse "str" 's' layout
  if request.code ≠ 's' then throw (.unknownCode "str" request.code)
  if request.sign = some ' ' then throw .space
  if request.sign.isSome then throw .sign
  if request.unsignedZero then throw .unsignedZero
  if request.alternate then throw .alternateForm
  if request.alignment = some .inside then throw .insideAlignment
  if room < request.width.getD 0 then throw .tooWide
  pure
    { fill := request.fill.getD (if request.zeros then '0' else ' ')
      alignment := request.alignment.getD .left
      width := request.width.getD 0
      precision := request.precision }

/-- Sets a text in its column. -/
def apply (layout : Layout) (text : List Char) : List Char :=
  let kept := match layout.precision with
    | none => text
    | some precision => text.take precision
  let gap := layout.width - kept.length
  let before := match layout.alignment with
    | .left => 0
    | .inside => 0
    | .right => gap
    | .center => gap / 2
  List.replicate before layout.fill ++ kept ++ List.replicate (gap - before) layout.fill

end Layout
end Text
end DynLisp
