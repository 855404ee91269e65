import DynLisp.Expr

/-!
# Values

The values of the language are integers and functions.  A function defined by a program keeps its
body unevaluated and captures nothing.  Arithmetic is that of signed 64-bit integers in two's
complement.
-/

namespace DynLisp

/-- The integer in the signed 64-bit range that differs by a multiple of `2 ^ 64`. -/
def wrap (number : Int) : Int := Int.bmod number 0x10000000000000000

/-- The functions that are there from the start. -/
inductive Builtin where
  | add
  | subtract
  | multiply
  | equal
  | greater
  | less
  | print
deriving DecidableEq, Repr

namespace Builtin

/-- All builtin functions in the order in which they are bound. -/
def all : List Builtin := [add, subtract, multiply, equal, greater, less, print]

/-- The name under which a builtin function is bound at first. -/
def name : Builtin → String
  | add => "+"
  | subtract => "-"
  | multiply => "*"
  | equal => "="
  | greater => ">"
  | less => "<"
  | print => "print"

/-- The builtin function that is bound to a name at first. -/
def ofName? (name : String) : Option Builtin :=
  all.find? fun builtin => builtin.name == name

end Builtin

/-- A value of the language. -/
inductive Value where
  /-- An integer. -/
  | integer (value : Int)
  /-- A function defined by a program. -/
  | function (parameters : List String) (body : Expr)
  /-- A function that is there from the start. -/
  | builtin (builtin : Builtin)
deriving Inhabited, Repr

namespace Value

/-- A value as it is printed. -/
def text : Value → String
  | integer value => value.repr
  | function _ _ => "<function>"
  | builtin _ => "<function>"

/-- What is wrong with printing a value, if anything is. -/
def textFault? : Value → Option Cause
  | integer value => Text.numeralFault? value
  | _ => none

/-- The name of a value's type. -/
def typeName : Value → String
  | integer _ => "int"
  | function _ _ => "function"
  | builtin _ => "function"

/-- Whether a value is the integer zero, the only value that counts as false. -/
def isZero : Value → Bool
  | integer value => value == 0
  | _ => false

/-- Whether a value is a builtin function. -/
def isBuiltin : Value → Bool
  | builtin _ => true
  | _ => false

/-- The integer that stands for a truth value. -/
def ofBool (truth : Bool) : Value := integer (if truth then 1 else 0)

end Value
end DynLisp
