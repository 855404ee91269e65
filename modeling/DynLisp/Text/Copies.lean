import DynLisp.Cause

/-!
# Copies of a text

A number of copies is a signed 64-bit number, and so is the length of the text that they make, for
which there has to be room.  No copies are made for a negative number.  `copiesFault?` says what is
wrong with a number of copies, and `copies` makes them if nothing is.
-/

namespace DynLisp
namespace Text

/-- Whether a number can be a place in a text or a number of copies: it lies from `-2 ^ 63` up to
`2 ^ 63`, without that. -/
def fitsIndex (number : Int) : Bool :=
  -0x8000000000000000 ≤ number && number < 0x8000000000000000

/-- What is said of a number that can be neither. -/
def indexFault : String := "cannot fit 'int' into an index-sized integer"

/-- What is wrong with making copies of a text of the given length, if anything is.  There is room
for texts up to some length. -/
def copiesFault? (room length : Nat) (count : Int) : Option Cause :=
  if !fitsIndex count then
    some (.overflow indexFault)
  else if 0x8000000000000000 ≤ length * count then
    some (.overflow "repeated string is too long")
  else if room < length * count then
    some .memoryExhausted
  else
    none

/-- Copies of a character. -/
def copies (room : Nat) (character : Char) (count : Int) : Except Cause (List Char) :=
  match copiesFault? room 1 count with
  | some cause => .error cause
  | none => .ok (List.replicate count.toNat character)

/-- Nothing is wrong with copies that there is room for, if the room is one for 64-bit lengths. -/
theorem copiesFault?_natCast {room length count : Nat} (limited : room < 0x8000000000000000)
    (moderate : count ≤ room) (short : length * count ≤ room) :
    copiesFault? room length count = none := by
  have product : (length : Int) * (count : Int) = ((length * count : Nat) : Int) := by simp
  have fits : fitsIndex count = true := by
    simp only [fitsIndex, Bool.and_eq_true, decide_eq_true_eq]
    omega
  have notLong : ¬ (0x8000000000000000 : Int) ≤ ((length * count : Nat) : Int) := by omega
  have enough : ¬ (room : Int) < ((length * count : Nat) : Int) := by omega
  simp only [copiesFault?, fits, product, notLong, enough, Bool.not_true, Bool.false_eq_true,
    if_false]

/-- Copies of a character that there is room for. -/
theorem copies_natCast {room count : Nat} (limited : room < 0x8000000000000000) (character : Char)
    (moderate : count ≤ room) :
    copies room character count = .ok (List.replicate count character) := by
  have faultless : copiesFault? room 1 count = none :=
    copiesFault?_natCast limited moderate (le_of_eq_of_le (Nat.one_mul count) moderate)
  rw [copies, faultless, Int.toNat_natCast]

end Text
end DynLisp
