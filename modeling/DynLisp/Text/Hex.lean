/-!
# Hexadecimal numerals

Numerals of a fixed width, as escapes and byte values are written.
-/

namespace DynLisp
namespace Text

/-- One lower case hexadecimal digit. -/
def hexDigit (value : Nat) : Char :=
  Nat.digitChar (value % 16)

/-- A number in lower case hexadecimal, in a fixed number of digits. -/
def hexDigits (width value : Nat) : List Char :=
  (List.range width).reverse.map fun place => hexDigit (value / Nat.pow 16 place)

end Text
end DynLisp
