import DynLisp.Environment
import DynLisp.Wording

/-!
# Evaluation

Expressions are evaluated in a machine: the one environment and the text written so far.  Scoping is
dynamic.  A call of a function binds its parameters in the environment, one after the other while
the arguments are evaluated, evaluates the body, and restores what the parameter names were bound to
before, however the evaluation ends.  A body therefore sees the bindings of its callers.

Every evaluation nested in another one takes one unit of a stack budget.  Inside a call it takes one
more if the function is defined by a program, and two more if it is builtin.  An evaluation without
budget ends with the stack exhausted.
-/

namespace DynLisp

/-- Why an evaluation has no value. -/
inductive EvalError where
  /-- A name is not bound. -/
  | unknownVariable (name : String) (position : Position) (span : Int)
  /-- A value of one type stands where another one is needed. -/
  | typeMismatch (expected found : String) (position : Position)
  /-- A function defined by a program is called with the wrong number of arguments. -/
  | arity (expected got : Nat) (position : Position)
  /-- A builtin function is called with the wrong number of arguments. -/
  | builtinArity (name expected : String) (got : Nat)
  /-- A builtin function is called with an argument of the wrong type. -/
  | builtinType (name expected found : String)
  /-- There is no expression to evaluate; this is no error of the language. -/
  | notEvaluable
  /-- A value cannot be printed; this is no error of the language either. -/
  | unprintable (cause : Cause)
  /-- The stack budget is used up. -/
  | stackExhausted
deriving DecidableEq, Repr

/-- What evaluation reads and changes. -/
structure Machine where
  /-- The one environment. -/
  environment : Environment
  /-- The text written so far. -/
  output : String
deriving Inhabited, Repr

/-- A computation on a machine that may fail.  The machine is kept in either case. -/
abbrev Evaluation (α : Type) := EStateM EvalError Machine α

namespace Machine

/-- The machine in which programs start. -/
def initial : Machine := ⟨.initial, ""⟩

/-- Binds a name to a value. -/
def set (machine : Machine) (name : String) (value : Value) : Machine :=
  { machine with environment := machine.environment.set name value }

/-- Restores the captured bindings. -/
def restore (machine : Machine) (shadow : Shadow) : Machine :=
  { machine with environment := machine.environment.restore shadow }

/-- Writes text. -/
def write (machine : Machine) (text : String) : Machine :=
  { machine with output := machine.output ++ text }

end Machine

namespace Builtin

/-- Applies an operation to two integers, wrapping the result around. -/
def arithmetic (builtin : Builtin) (operation : Int → Int → Int) :
    List Value → Except EvalError Value
  | [.integer left, .integer right] => .ok (.integer (wrap (operation left right)))
  | [.integer _, right] => .error (.builtinType builtin.name "int" right.typeName)
  | [left, _] => .error (.builtinType builtin.name "int" left.typeName)
  | arguments => .error (.builtinArity builtin.name "2" arguments.length)

/-- Compares two integers; any other two values compare as false. -/
def comparison (builtin : Builtin) (relation : Int → Int → Bool) :
    List Value → Except EvalError Value
  | [.integer left, .integer right] => .ok (.ofBool (relation left right))
  | [_, _] => .ok (.ofBool false)
  | arguments => .error (.builtinArity builtin.name "2" arguments.length)

/-- Accepts any values that can be printed. -/
def printing (arguments : List Value) : Except EvalError Value :=
  match arguments.findSome? Value.textFault? with
  | some cause => .error (.unprintable cause)
  | none => .ok (.integer 0)

/-- The value of a builtin function other than its printing. -/
def result (builtin : Builtin) (arguments : List Value) : Except EvalError Value :=
  match builtin with
  | add => arithmetic add (· + ·) arguments
  | subtract => arithmetic subtract (· - ·) arguments
  | multiply => arithmetic multiply (· * ·) arguments
  | equal => comparison equal (· == ·) arguments
  | greater => comparison greater (fun left right => right < left) arguments
  | less => comparison less (fun left right => left < right) arguments
  | print => printing arguments

/-- The text that a builtin function writes. -/
def written (builtin : Builtin) (arguments : List Value) : String :=
  match builtin with
  | print => String.intercalate " " (arguments.map Value.text) ++ "\n"
  | _ => ""

/-- Calls a builtin function with evaluated arguments. -/
def call (builtin : Builtin) (arguments : List Value) : Evaluation Value := fun machine =>
  match builtin.result arguments with
  | .ok value => .ok value (machine.write (builtin.written arguments))
  | .error error => .error error machine

end Builtin

/-- Runs a computation and restores some names afterwards, however it ends. -/
def shadowing {α : Type} (names : List String) (body : Evaluation α) : Evaluation α :=
  fun machine =>
  let shadow := machine.environment.capture names
  match body machine with
  | .ok value after => .ok value (after.restore shadow)
  | .error error after => .error error (after.restore shadow)

/-- Looks up a name that an expression at a position mentions. -/
def lookup (name : String) (position : Position) (span : Int) : Evaluation Value := fun machine =>
  match machine.environment.get? name with
  | some value => .ok value machine
  | none => .error (.unknownVariable name position span) machine

/-- Binds a name to a value. -/
def define (name : String) (value : Value) : Evaluation Unit := fun machine =>
  .ok () (machine.set name value)

/-- Evaluates expressions from left to right. -/
def evaluateAll (evaluate : Expr → Evaluation Value) : List Expr → Evaluation (List Value)
  | [] => pure []
  | expression :: rest => do
      let value ← evaluate expression
      let values ← evaluateAll evaluate rest
      pure (value :: values)

/-- Binds each parameter to the value of its argument before the next argument is evaluated. -/
def bindParameters (evaluate : Expr → Evaluation Value) :
    List String → List Expr → Evaluation Unit
  | name :: names, expression :: rest => do
      let value ← evaluate expression
      define name value
      bindParameters evaluate names rest
  | _, _ => pure ()

/-- Calls a function defined by a program with unevaluated arguments. -/
def callFunction (evaluate : Expr → Evaluation Value) (parameters : List String) (body : Expr)
    (arguments : List Expr) (position : Position) : Evaluation Value :=
  if parameters.length = arguments.length then
    shadowing parameters do
      bindParameters evaluate parameters arguments
      evaluate body
  else
    throw (.arity parameters.length arguments.length position)

mutual

/-- Evaluates an expression within a stack budget. -/
def evaluate : Nat → Expr → Evaluation Value
  | 0, _ => throw .stackExhausted
  | budget + 1, expression =>
      match expression with
      | .integer _ value => pure (.integer value)
      | .identifier position name => lookup name position name.length
      | .conditional _ condition consequence alternative => do
          let chosen ← evaluate budget condition
          if chosen.isZero then evaluate budget alternative else evaluate budget consequence
      | .define _ name none value => do
          let result ← evaluate budget value
          define name result
          pure (.integer 0)
      | .define _ name (some parameters) value => do
          define name (.function parameters value)
          pure (.integer 0)
      | .call position name arguments => do
          let callee ← lookup name position (name.length + 1)
          callValue budget callee arguments position
      | .hole _ => throw .notEvaluable

/-- Calls a value with unevaluated arguments within a stack budget. -/
def callValue : Nat → Value → List Expr → Position → Evaluation Value
  | 0, _, _, _ => throw .stackExhausted
  | budget + 1, callee, arguments, position =>
      match callee with
      | .builtin builtin => do
          let values ← evaluateArguments budget arguments
          builtin.call values
      | .function parameters body =>
          callFunction (evaluate budget) parameters body arguments position
      | .integer value =>
          throw (.typeMismatch "function in function call" (Value.integer value).typeName position)

/-- Evaluates the arguments of a builtin function within a stack budget. -/
def evaluateArguments : Nat → List Expr → Evaluation (List Value)
  | 0, _ => throw .stackExhausted
  | budget + 1, arguments => evaluateAll (evaluate budget) arguments

end

/-- The stack budget of a program. -/
def stackBudget : Nat := 10000

namespace EvalError

/-- What an evaluation error has to say. -/
def notice : EvalError → Except Cause Notice
  | unknownVariable name position span => .ok (.unknownVariable name (some position) span)
  | typeMismatch expected found position => .ok (.typeMismatch expected found (some position))
  | arity expected got position => .ok (.arity expected.repr got.repr (some position))
  | builtinArity name expected got => .ok (.builtinArity name expected got.repr)
  | builtinType name expected found => .ok (.builtinType name expected found)
  | notEvaluable => .error (.badType "cannot evaluate Expression")
  | unprintable cause => .error cause
  | stackExhausted => .ok (Notice.ofMessage [.plain Cause.stackExhausted.text]).withoutSource

end EvalError
end DynLisp
