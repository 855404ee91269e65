import DynLisp.Evaluation

/-!
# Evaluation with a stack of frames

Dynamic scoping in its plainest form.  The global bindings lie below a stack of frames, one for each
call in progress.  A frame owns the parameter names of its call and gives each of them a value or
nothing.  A name means what the innermost frame that owns it says, and what the global bindings say
if no frame owns it; a definition writes to the same place.  Nothing that a caller bound is ever
overwritten, so leaving a call means dropping its frame.

Budgets and errors are those of `evaluate`.
-/

namespace DynLisp

/-- The parameter names of a call with their values, if they have one. -/
abbrev Frame := List (String × Option Value)

namespace Frame

/-- The names that a frame owns. -/
def names (frame : Frame) : List String := frame.map Prod.fst

/-- The entry of a name in a frame that owns it. -/
def slot? (name : String) : Frame → Option (Option Value)
  | [] => none
  | (owned, entry) :: rest => if owned = name then some entry else slot? name rest

/-- Gives a value to the entry of a name. -/
def store (name : String) (value : Value) (frame : Frame) : Frame :=
  frame.map fun entry => if entry.1 = name then (name, some value) else entry

end Frame

/-- The global bindings with the frames of the calls in progress on top of them. -/
inductive Scopes where
  /-- The global bindings alone. -/
  | base (globals : Environment)
  /-- The frame of the innermost call and what surrounds it. -/
  | frame (entries : Frame) (outer : Scopes)

namespace Scopes

/-- What a name means: the innermost frame that owns it decides. -/
def get? : Scopes → String → Option Value
  | base globals, name => globals.get? name
  | frame entries outer, name =>
      match entries.slot? name with
      | some entry => entry
      | none => outer.get? name

/-- Gives a value to a name where it has its meaning from. -/
def set : Scopes → String → Value → Scopes
  | base globals, name, value => base (globals.set name value)
  | frame entries outer, name, value =>
      match entries.slot? name with
      | some _ => frame (entries.store name value) outer
      | none => frame entries (outer.set name value)

/-- Puts a frame on top that owns the given names and leaves their meaning as it is. -/
def push (scopes : Scopes) (names : List String) : Scopes :=
  frame (names.map fun name => (name, scopes.get? name)) scopes

/-- Gives a value to a name in the innermost frame. -/
def store : Scopes → String → Value → Scopes
  | base globals, _, _ => base globals
  | frame entries outer, name, value => frame (entries.store name value) outer

/-- Drops the innermost frame. -/
def pop : Scopes → Scopes
  | base globals => base globals
  | frame _ outer => outer

end Scopes

/-- What evaluation with frames reads and changes. -/
structure ScopedMachine where
  /-- The global bindings and the frames. -/
  scopes : Scopes
  /-- The text written so far. -/
  output : String

/-- A computation with frames that may fail.  The machine is kept in either case. -/
abbrev ScopedEvaluation (α : Type) := EStateM EvalError ScopedMachine α

namespace ScopedEvaluation

/-- Looks up a name that an expression at a position mentions. -/
def lookup (name : String) (position : Position) (span : Int) : ScopedEvaluation Value :=
  fun machine =>
    match machine.scopes.get? name with
    | some value => .ok value machine
    | none => .error (.unknownVariable name position span) machine

/-- Defines a name. -/
def define (name : String) (value : Value) : ScopedEvaluation Unit := fun machine =>
  .ok () { machine with scopes := machine.scopes.set name value }

/-- Gives a value to a parameter of the innermost call. -/
def store (name : String) (value : Value) : ScopedEvaluation Unit := fun machine =>
  .ok () { machine with scopes := machine.scopes.store name value }

/-- Runs a computation in a new frame, which is dropped however the computation ends. -/
def framed {α : Type} (names : List String) (body : ScopedEvaluation α) : ScopedEvaluation α :=
  fun machine =>
    match body { machine with scopes := machine.scopes.push names } with
    | .ok value after => .ok value { after with scopes := after.scopes.pop }
    | .error error after => .error error { after with scopes := after.scopes.pop }

/-- Calls a builtin function with evaluated arguments. -/
def callBuiltin (builtin : Builtin) (arguments : List Value) : ScopedEvaluation Value :=
  fun machine =>
    match builtin.result arguments with
    | .ok value => .ok value { machine with output := machine.output ++ builtin.written arguments }
    | .error error => .error error machine

/-- Evaluates expressions from left to right. -/
def evaluateAll (evaluate : Expr → ScopedEvaluation Value) :
    List Expr → ScopedEvaluation (List Value)
  | [] => pure []
  | expression :: rest => do
      let value ← evaluate expression
      let values ← evaluateAll evaluate rest
      pure (value :: values)

/-- Stores the value of each argument in its parameter's entry before the next one is evaluated. -/
def storeArguments (evaluate : Expr → ScopedEvaluation Value) :
    List String → List Expr → ScopedEvaluation Unit
  | name :: names, expression :: rest => do
      let value ← evaluate expression
      store name value
      storeArguments evaluate names rest
  | _, _ => pure ()

/-- Calls a function defined by a program with unevaluated arguments. -/
def callFunction (evaluate : Expr → ScopedEvaluation Value) (parameters : List String)
    (body : Expr) (arguments : List Expr) (position : Position) : ScopedEvaluation Value :=
  if parameters.length = arguments.length then
    framed parameters do
      storeArguments evaluate parameters arguments
      evaluate body
  else
    throw (.arity parameters.length arguments.length position)

mutual

/-- Evaluates an expression within a stack budget. -/
def evaluate : Nat → Expr → ScopedEvaluation Value
  | 0, _ => throw .stackExhausted
  | budget + 1, expression =>
      match expression with
      | .integer _ value => pure (.integer value)
      | .identifier position name => lookup name position name.length
      | .conditional _ condition consequence alternative => do
          let chosen ← evaluate budget condition
          if chosen.isZero then evaluate budget alternative else evaluate budget consequence
      | .define _ name none value => do
          let result ← evaluate budget value
          define name result
          pure (.integer 0)
      | .define _ name (some parameters) value => do
          define name (.function parameters value)
          pure (.integer 0)
      | .call position name arguments => do
          let callee ← lookup name position (name.length + 1)
          callValue budget callee arguments position
      | .hole _ => throw .notEvaluable

/-- Calls a value with unevaluated arguments within a stack budget. -/
def callValue : Nat → Value → List Expr → Position → ScopedEvaluation Value
  | 0, _, _, _ => throw .stackExhausted
  | budget + 1, callee, arguments, position =>
      match callee with
      | .builtin builtin => do
          let values ← evaluateArguments budget arguments
          callBuiltin builtin values
      | .function parameters body =>
          callFunction (evaluate budget) parameters body arguments position
      | .integer value =>
          throw (.typeMismatch "function in function call" (Value.integer value).typeName position)

/-- Evaluates the arguments of a builtin function within a stack budget. -/
def evaluateArguments : Nat → List Expr → ScopedEvaluation (List Value)
  | 0, _ => throw .stackExhausted
  | budget + 1, arguments => evaluateAll (evaluate budget) arguments

end

end ScopedEvaluation

namespace Frame

theorem slot?_eq_none_iff {name : String} {frame : Frame} :
    frame.slot? name = none ↔ name ∉ frame.names := by
  induction frame with
  | nil => simp [slot?, names]
  | cons entry rest ih => grind [slot?, names]

@[simp]
theorem names_store (name : String) (value : Value) (frame : Frame) :
    (frame.store name value).names = frame.names := by
  simp only [names, store, List.map_map]
  apply List.map_congr_left
  intro entry _
  by_cases same : entry.1 = name <;> simp [same]

@[simp]
theorem names_map (look : String → Option Value) (names : List String) :
    Frame.names (names.map fun name => (name, look name)) = names := by
  simp [Frame.names, Function.comp_def]

theorem slot?_store (name other : String) (value : Value) (frame : Frame) :
    (frame.store name value).slot? other =
      if other = name then (frame.slot? name).map fun _ => some value else frame.slot? other := by
  induction frame with
  | nil => simp [store, slot?]
  | cons entry rest ih => grind [store, slot?]

theorem slot?_map (look : String → Option Value) (name : String) (names : List String) :
    Frame.slot? name (names.map fun owned => (owned, look owned)) =
      if name ∈ names then some (look name) else none := by
  induction names with
  | nil => simp [slot?]
  | cons first rest ih => grind [slot?]

end Frame

namespace Scopes

theorem set_frame_of_mem {name : String} {entries : Frame} (member : name ∈ entries.names)
    (value : Value) (outer : Scopes) :
    (frame entries outer).set name value = frame (entries.store name value) outer := by
  cases slot : entries.slot? name with
  | none => exact absurd member (Frame.slot?_eq_none_iff.mp slot)
  | some entry => simp [set, slot]

theorem set_frame_of_not_mem {name : String} {entries : Frame} (outside : name ∉ entries.names)
    (value : Value) (outer : Scopes) :
    (frame entries outer).set name value = frame entries (outer.set name value) := by
  simp [set, Frame.slot?_eq_none_iff.mpr outside]

theorem get?_set (scopes : Scopes) (name other : String) (value : Value) :
    (scopes.set name value).get? other =
      if other = name then some value else scopes.get? other := by
  induction scopes with
  | base globals => exact globals.get?_set name other value
  | frame entries outer ih =>
      simp only [set]
      split
      next entry owned =>
        simp only [get?, Frame.slot?_store, owned]
        by_cases same : other = name <;> simp [same]
      next free =>
        simp only [get?, ih]
        by_cases same : other = name
        · simp [same, free]
        · simp [same]

@[simp]
theorem get?_push (scopes : Scopes) (names : List String) (name : String) :
    (scopes.push names).get? name = scopes.get? name := by
  simp only [push, get?, Frame.slot?_map]
  split
  next entry owned => grind
  next => rfl

end Scopes
end DynLisp
