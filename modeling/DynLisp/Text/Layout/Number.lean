import DynLisp.Text.Decimal
import DynLisp.Text.Layout

/-!
# Layouts of numbers

A natural number is written in one of several bases, as a character, or as a decimal fraction, by
the code of its layout.  Its digits may be put into groups, and zeros may fill the column between
its sign and its digits, in groups like the rest.
-/

namespace DynLisp
namespace Text
namespace Layout

/-- Digits from right to left, in groups of the given size with a mark between them.  Zeros are
added until the given width is reached; `room` bounds the number of groups. -/
def groupDigits (size : Nat) (mark : Char) : Nat → Nat → List Char → List Char
  | 0, _, figures => figures
  | room + 1, width, figures =>
      let length := min size (max (max figures.length width) 1)
      let group := figures.take length ++ List.replicate (length - figures.length) '0'
      let later := figures.drop length
      if later.isEmpty && width ≤ length then group
      else group ++ mark :: groupDigits size mark room (width - length - 1) later

/-- The digits of a number, with zeros in front up to the given width, in the groups asked for. -/
def grouped (size : Nat) (grouping : Option Char) (width : Nat) (figures : List Char) :
    List Char :=
  match grouping with
  | none => List.replicate (width - figures.length) '0' ++ figures
  | some mark => (groupDigits size mark (figures.length + width) width figures.reverse).reverse

/-- A number as it is written before it is set in its column. -/
structure Numeral where
  /-- What stands in front of the digits. -/
  base : List Char := []
  /-- The digits in front of the point. -/
  figures : List Char
  /-- What stands behind them. -/
  rest : List Char := []
  /-- The number of digits in a group. -/
  groupSize : Nat := 3
deriving DecidableEq, Repr

/-- What is written in front of a number that is not negative. -/
def signText : Option Char → List Char
  | some '+' => ['+']
  | some ' ' => [' ']
  | _ => []

/-- Sets a number in its column. -/
def setNumeral (request : LayoutRequest) (numeral : Numeral) : List Char :=
  let fill := request.fill.getD (if request.zeros then '0' else ' ')
  let alignment := request.alignment.getD (if request.zeros then .inside else .right)
  let width := request.width.getD 0
  let front := signText request.sign ++ numeral.base
  let taken := front.length + numeral.rest.length
  let least := if fill = '0' && alignment = .inside then width - taken else 0
  let body :=
    if numeral.figures.isEmpty then [] else grouped numeral.groupSize request.grouping least
      numeral.figures
  let gap := width - (taken + body.length)
  let pad (count : Nat) := List.replicate count fill
  match alignment with
  | .left => front ++ body ++ numeral.rest ++ pad gap
  | .right => pad gap ++ front ++ body ++ numeral.rest
  | .center => pad (gap / 2) ++ front ++ body ++ numeral.rest ++ pad (gap - gap / 2)
  | .inside => front ++ pad gap ++ body ++ numeral.rest

/-- An integer in a base, with what announces the base. -/
def inBase (request : LayoutRequest) (base : Nat) (mark : Char) (number : Nat) : Numeral where
  base := if request.alternate then ['0', mark] else []
  figures := Nat.toDigits base number
  groupSize := 4

/-- The numeral of an integer under its code, if the code is one for integers. -/
def integerNumeral? (request : LayoutRequest) (number : Nat) : Option Numeral :=
  match request.code with
  | 'b' => some (inBase request 2 'b' number)
  | 'o' => some (inBase request 8 'o' number)
  | 'x' => some (inBase request 16 'x' number)
  | 'X' =>
      let numeral := inBase request 16 'X' number
      some { numeral with figures := numeral.figures.map Char.toUpper }
  | 'd' => some { figures := Decimal.digits number }
  | 'n' => some { figures := Decimal.digits number }
  | _ => none

/-- The numeral of a fraction: its digits up to the point, and the rest. -/
def fractionNumeral (text : List Char) : Numeral where
  figures := text.takeWhile isDigit
  rest := text.dropWhile isDigit

/-- The decimal fraction of a number under its code, if the code is one for fractions. -/
def fraction? (request : LayoutRequest) (number : Nat) : Option (List Char) :=
  let precision := request.precision.getD 6
  let pointed := request.alternate
  let number := Decimal.nearestBinary number
  match request.code with
  | 'e' => some (Decimal.scientific 'e' pointed precision number)
  | 'E' => some (Decimal.scientific 'E' pointed precision number)
  | 'f' => some (Decimal.fixed pointed precision number)
  | 'F' => some (Decimal.fixed pointed precision number)
  | 'g' => some (Decimal.general 'e' pointed precision number)
  | 'G' => some (Decimal.general 'E' pointed precision number)
  | '%' => some (Decimal.fixed pointed precision (Decimal.nearestBinary (number * 100)) ++ ['%'])
  | _ => none

/-- The codes of decimal fractions. -/
def isFractionCode (code : Char) : Bool := ['e', 'E', 'f', 'F', 'g', 'G', '%'].contains code

/-- A number under its code.  Zeros are never negative here, so that nothing is to be done for zeros
without a sign. -/
def numeral (room : Nat) (sort : String) (request : LayoutRequest) (number : Nat) :
    Except LayoutError Numeral := do
  if isFractionCode request.code then
    if 0x80000000 ≤ request.precision.getD 0 then throw .greatPrecision
    if room < request.precision.getD 0 then throw .tooWide
    match fraction? request number with
    | some text => pure (fractionNumeral text)
    | none => throw (.unknownCode sort request.code)
  else
    let integer := integerNumeral? request number
    if request.code ≠ 'c' && integer.isNone then throw (.unknownCode sort request.code)
    if request.precision.isSome then throw .integerPrecision
    if request.unsignedZero then throw .integerUnsignedZero
    match integer with
    | some numeral => pure numeral
    | none =>
        if request.sign.isSome then throw .characterSign
        if request.alternate then throw .characterAlternateForm
        if 0x110000 ≤ number then throw .noCharacter
        pure { figures := [], rest := [Char.ofNat number] }

/-- A number of the given sort in the layout that is asked for, whose column there has to be room
for. -/
def number (room : Nat) (sort : String) (layout : List Char) (number : Nat) :
    Except LayoutError (List Char) := do
  let request ← parse sort 'd' layout
  let numeral ← numeral room sort request number
  if room < request.width.getD 0 then throw .tooWide
  pure (setNumeral request numeral)

end Layout
end Text
end DynLisp
