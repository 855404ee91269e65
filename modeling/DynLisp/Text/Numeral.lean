import DynLisp.Cause

/-!
# Decimal numerals

Numbers of more than `digitLimit` digits are neither read nor written.  `numeralFault?` says what is
wrong with writing an integer.
-/

namespace DynLisp

/-- Greatest number of digits of a number that is read or written. -/
def digitLimit : Nat := 4300

namespace Text

/-- What is said of a number with too many digits, and of their number if it is given. -/
def tooManyDigits (count : Option Nat) : Cause :=
  let detail := match count with
    | some count => ": value has " ++ count.repr ++ " digits"
    | none => ""
  .badValue
    ("Exceeds the limit (" ++ digitLimit.repr ++ " digits) for integer string conversion" ++
      detail ++ "; use sys.set_int_max_str_digits() to increase the limit")

/-- What is wrong with writing an integer, if anything is.  A sign is no digit. -/
def numeralFault? (number : Int) : Option Cause :=
  if digitLimit < (Nat.toDigits 10 number.natAbs).length then some (tooManyDigits none) else none

theorem numeralFault?_eq_none_iff (number : Int) :
    numeralFault? number = none ↔ (Nat.toDigits 10 number.natAbs).length ≤ digitLimit := by
  unfold numeralFault?
  split
  next long => simpa using long
  next short => simpa using short

/-- Integers in the signed 64-bit range are written. -/
theorem numeralFault?_of_word {number : Int} (least : -0x8000000000000000 ≤ number)
    (most : number ≤ 0x7FFFFFFFFFFFFFFF) : numeralFault? number = none := by
  have small : number.natAbs < 0x10000000000000000 := by omega
  have small := Nat.lt_trans small (show 0x10000000000000000 < Nat.pow 10 20 by decide)
  have short := (Nat.length_toDigits_le_iff (by decide) (by decide)).mpr small
  exact (numeralFault?_eq_none_iff number).mpr (Nat.le_trans short (by decide))

end Text
end DynLisp
