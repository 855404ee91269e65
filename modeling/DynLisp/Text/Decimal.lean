/-!
# Decimal fractions of natural numbers

A natural number is written with a given number of digits behind the point, or with a given number
of digits in all and a power of ten.  What does not fit is rounded to the nearest numeral, and to
the even one of two.
-/

namespace DynLisp
namespace Text
namespace Decimal

/-- A quotient rounded to the nearest number, and to the even one of two. -/
def roundDiv (dividend divisor : Nat) : Nat :=
  let quotient := dividend / divisor
  let twice := 2 * (dividend % divisor)
  if twice < divisor || (twice = divisor && quotient % 2 = 0) then quotient else quotient + 1

/-- The nearest number with at most 53 binary digits in front of its zeros. -/
def nearestBinary (number : Nat) : Nat :=
  let unit := Nat.pow 2 ((Nat.log2 number + 1) - 53)
  roundDiv number unit * unit

/-- The decimal digits of a number. -/
def digits (number : Nat) : List Char := Nat.toDigits 10 number

/-- The power of ten of the first digit of a number. -/
def magnitude (number : Nat) : Nat := (digits number).length - 1

/-- The first digits of a number, rounded to the given number of digits, and the power of ten of the
first one. -/
def leading (count number : Nat) : List Char × Nat :=
  let exponent := magnitude number
  if exponent + 1 ≤ count then
    (digits number ++ List.replicate (count - (exponent + 1)) '0', exponent)
  else
    let rounded := roundDiv number (Nat.pow 10 (exponent + 1 - count))
    if magnitude rounded < count then (digits rounded, exponent)
    else ((digits rounded).take count, exponent + 1)

/-- A whole part and the digits behind the point.  The point is kept on its own if that is
wanted. -/
def withPoint (pointed : Bool) (whole fraction : List Char) : List Char :=
  if fraction.isEmpty && !pointed then whole else whole ++ '.' :: fraction

/-- A number with the given number of digits behind the point. -/
def fixed (pointed : Bool) (places number : Nat) : List Char :=
  withPoint pointed (digits number) (List.replicate places '0')

/-- A power of ten, of two digits at least. -/
def power (mark : Char) (exponent : Nat) : List Char :=
  mark :: '+' :: ((if exponent < 10 then ['0'] else []) ++ digits exponent)

/-- A number with the given number of digits behind the point and a power of ten. -/
def scientific (mark : Char) (pointed : Bool) (places number : Nat) : List Char :=
  let (figures, exponent) := leading (places + 1) number
  withPoint pointed (figures.take 1) (figures.drop 1) ++ power mark exponent

/-- Digits without the zeros at their end. -/
def trimmed (figures : List Char) : List Char := (figures.reverse.dropWhile (· = '0')).reverse

/-- A number with the given number of digits in all, which is one at least, and a power of ten where
these do not reach the point.  Zeros at the end stay if the point is to be kept. -/
def general (mark : Char) (pointed : Bool) (count number : Nat) : List Char :=
  let count := max count 1
  let (figures, exponent) := leading count number
  let kept (fraction : List Char) := if pointed then fraction else trimmed fraction
  if exponent < count then
    withPoint pointed (figures.take (exponent + 1)) (kept (figures.drop (exponent + 1)))
  else
    withPoint pointed (figures.take 1) (kept (figures.drop 1)) ++ power mark exponent

end Decimal
end Text
end DynLisp
