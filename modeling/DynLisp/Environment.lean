import DynLisp.Value

/-!
# Environments

There is one flat environment.  Its bindings stand in the order in which their names were first
bound: rebinding a name keeps its place, and a name that was removed and is bound again moves to
the end.  A call shadows the names of its parameters: what they are bound to is captured before,
and restored after.
-/

namespace DynLisp

/-- The value bound to a name in a binding list. -/
def lookUp (name : String) : List (String × Value) → Option Value
  | [] => none
  | (bound, value) :: rest => if bound = name then some value else lookUp name rest

/-- A binding list with a name bound to a value. -/
def assign (name : String) (value : Value) : List (String × Value) → List (String × Value)
  | [] => [(name, value)]
  | (bound, old) :: rest =>
      if bound = name then (name, value) :: rest else (bound, old) :: assign name value rest

/-- A binding list without the bindings of a name. -/
def unassign (name : String) : List (String × Value) → List (String × Value)
  | [] => []
  | (bound, value) :: rest =>
      if bound = name then unassign name rest else (bound, value) :: unassign name rest

theorem lookUp_assign (name other : String) (value : Value) (bindings : List (String × Value)) :
    lookUp other (assign name value bindings) =
      if other = name then some value else lookUp other bindings := by
  induction bindings with
  | nil => grind [lookUp, assign]
  | cons binding rest ih => grind [lookUp, assign]

theorem lookUp_unassign (name other : String) (bindings : List (String × Value)) :
    lookUp other (unassign name bindings) =
      if other = name then none else lookUp other bindings := by
  induction bindings with
  | nil => grind [lookUp, unassign]
  | cons binding rest ih => grind [lookUp, unassign]

/-- Values bound to names. -/
structure Environment where
  /-- The bindings, oldest name first. -/
  bindings : List (String × Value)
deriving Inhabited, Repr

/-- What some names were bound to at a time, if they were bound. -/
abbrev Shadow := List (String × Option Value)

namespace Environment

/-- The environment without bindings. -/
def empty : Environment := ⟨[]⟩

/-- The value bound to a name. -/
def get? (environment : Environment) (name : String) : Option Value :=
  lookUp name environment.bindings

/-- Binds a name to a value. -/
def set (environment : Environment) (name : String) (value : Value) : Environment :=
  ⟨assign name value environment.bindings⟩

/-- Removes the binding of a name. -/
def erase (environment : Environment) (name : String) : Environment :=
  ⟨unassign name environment.bindings⟩

/-- Whether a name is bound. -/
def contains (environment : Environment) (name : String) : Bool :=
  (environment.get? name).isSome

/-- Number of bindings. -/
def size (environment : Environment) : Nat := environment.bindings.length

/-- The bound names in order. -/
def names (environment : Environment) : List String := environment.bindings.map Prod.fst

/-- What some names are bound to at present. -/
def capture (environment : Environment) (names : List String) : Shadow :=
  names.map fun name => (name, environment.get? name)

/-- Gives one name the binding it had, or none. -/
def reset (environment : Environment) (saved : String × Option Value) : Environment :=
  match saved.2 with
  | none => environment.erase saved.1
  | some value => environment.set saved.1 value

/-- Gives every captured name the binding it had, in order. -/
def restore (environment : Environment) (shadow : Shadow) : Environment :=
  shadow.foldl reset environment

/-- Binds every builtin function to its name. -/
def addBuiltins (environment : Environment) : Environment :=
  Builtin.all.foldl (fun environment builtin => environment.set builtin.name (.builtin builtin))
    environment

/-- The environment in which programs start. -/
def initial : Environment := empty.addBuiltins

/-- The bindings but for builtin functions under their own names. -/
def ownBindings (environment : Environment) : List (String × Value) :=
  environment.bindings.filter fun (name, value) =>
    match value with
    | .builtin builtin => builtin.name != name
    | _ => true

@[simp]
theorem get?_empty (name : String) : empty.get? name = none := rfl

@[simp]
theorem get?_set (environment : Environment) (name other : String) (value : Value) :
    (environment.set name value).get? other =
      if other = name then some value else environment.get? other :=
  lookUp_assign name other value environment.bindings

@[simp]
theorem get?_erase (environment : Environment) (name other : String) :
    (environment.erase name).get? other =
      if other = name then none else environment.get? other :=
  lookUp_unassign name other environment.bindings

theorem get?_reset (environment : Environment) (saved : String × Option Value) (other : String) :
    (environment.reset saved).get? other =
      if other = saved.1 then saved.2 else environment.get? other := by
  obtain ⟨name, value⟩ := saved
  cases value <;> simp [reset]

end Environment
end DynLisp
