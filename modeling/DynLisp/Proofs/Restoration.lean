import DynLisp.Environment

/-!
# Restoring bindings

What a call does to the environment is undone by restoring the captured bindings.  The lemmas here
say when restoration commutes with a later binding and when it undoes one, down to the order of the
bindings.  All of them hold of lists in which a name occurs more than once as well.
-/

namespace DynLisp

theorem assign_lookUp {name : String} {value : Value} {bindings : List (String × Value)}
    (bound : lookUp name bindings = some value) : assign name value bindings = bindings := by
  induction bindings with
  | nil => simp [lookUp] at bound
  | cons binding rest ih => grind [lookUp, assign]

theorem unassign_of_lookUp {name : String} {bindings : List (String × Value)}
    (unbound : lookUp name bindings = none) : unassign name bindings = bindings := by
  induction bindings with
  | nil => rfl
  | cons binding rest ih => grind [lookUp, unassign]

theorem assign_assign (name : String) (old new : Value) (bindings : List (String × Value)) :
    assign name new (assign name old bindings) = assign name new bindings := by
  induction bindings with
  | nil => simp [assign]
  | cons binding rest ih => grind [assign]

theorem unassign_assign (name : String) (value : Value) (bindings : List (String × Value)) :
    unassign name (assign name value bindings) = unassign name bindings := by
  induction bindings with
  | nil => simp [assign, unassign]
  | cons binding rest ih => grind [assign, unassign]

theorem unassign_assign_of_ne {name other : String} (ne : name ≠ other) (value : Value)
    (bindings : List (String × Value)) :
    unassign other (assign name value bindings) = assign name value (unassign other bindings) := by
  induction bindings with
  | nil => simp [assign, unassign, ne]
  | cons binding rest ih => grind [assign, unassign]

/-- Two names can be bound in either order if one of them is bound already and keeps its place. -/
theorem assign_comm {name other : String} (ne : name ≠ other) (value new : Value)
    {bindings : List (String × Value)} (bound : (lookUp other bindings).isSome) :
    assign other new (assign name value bindings) =
      assign name value (assign other new bindings) := by
  induction bindings with
  | nil => simp [lookUp] at bound
  | cons binding rest ih => grind [lookUp, assign]

namespace Environment

/-- What names are bound to according to a given look-up. -/
def saved (look : String → Option Value) (names : List String) : Shadow :=
  names.map fun name => (name, look name)

@[simp]
theorem restore_cons (environment : Environment) (entry : String × Option Value) (shadow : Shadow) :
    environment.restore (entry :: shadow) = (environment.reset entry).restore shadow := rfl

theorem reset_current (environment : Environment) (name : String) :
    environment.reset (name, environment.get? name) = environment := by
  cases bound : environment.get? name with
  | none => exact congrArg Environment.mk (unassign_of_lookUp bound)
  | some value => exact congrArg Environment.mk (assign_lookUp bound)

/-- Restoring what has just been captured changes nothing. -/
theorem restore_capture (environment : Environment) (names : List String) :
    environment.restore (environment.capture names) = environment := by
  induction names with
  | nil => rfl
  | cons name names ih =>
      simp only [capture, List.map_cons, restore_cons, reset_current]
      exact ih

theorem reset_set (environment : Environment) (name : String) (value : Value)
    (old : Option Value) :
    (environment.set name value).reset (name, old) = environment.reset (name, old) := by
  cases old with
  | none => exact congrArg Environment.mk (unassign_assign name value environment.bindings)
  | some old => exact congrArg Environment.mk (assign_assign name value old environment.bindings)

theorem reset_set_of_ne (environment : Environment) {name other : String} (ne : name ≠ other)
    (value : Value) {old : Option Value} (bound : old.isSome → (environment.get? other).isSome) :
    (environment.set name value).reset (other, old) =
      (environment.reset (other, old)).set name value := by
  cases old with
  | none =>
      exact congrArg Environment.mk (unassign_assign_of_ne ne value environment.bindings)
  | some old => exact congrArg Environment.mk (assign_comm ne value old (bound rfl))

/-- What was bound when names were saved is still bound. -/
def Holds (environment : Environment) (look : String → Option Value) (names : List String) : Prop :=
  ∀ name ∈ names, (look name).isSome → (environment.get? name).isSome

theorem Holds.reset {environment : Environment} {look : String → Option Value} {name : String}
    {names : List String} (holds : environment.Holds look (name :: names)) :
    (environment.reset (name, look name)).Holds look names := by
  intro other member bound
  rw [get?_reset]
  split
  next same =>
    obtain rfl : other = name := same
    exact bound
  next => exact holds other (List.mem_cons_of_mem name member) bound

theorem Holds.set {environment : Environment} {look : String → Option Value} {names : List String}
    (holds : environment.Holds look names) (name : String) (value : Value) :
    (environment.set name value).Holds look names := by
  intro other member bound
  rw [get?_set]
  split
  · rfl
  · exact holds other member bound

/-- Restoration undoes the binding of a saved name. -/
theorem restore_set_of_mem {environment : Environment} {look : String → Option Value}
    {names : List String} (holds : environment.Holds look names) {name : String}
    (member : name ∈ names) (value : Value) :
    (environment.set name value).restore (saved look names) =
      environment.restore (saved look names) := by
  induction names generalizing environment with
  | nil => cases member
  | cons first names ih =>
      simp only [saved, List.map_cons, restore_cons]
      by_cases same : first = name
      · subst same
        rw [reset_set]
      · have later : name ∈ names := by
          cases member with
          | head => exact absurd rfl same
          | tail _ later => exact later
        rw [reset_set_of_ne environment (Ne.symm same) value (holds first List.mem_cons_self)]
        exact ih holds.reset later

/-- Restoration leaves the binding of any other name alone. -/
theorem restore_set_of_not_mem {environment : Environment} {look : String → Option Value}
    {names : List String} (holds : environment.Holds look names) {name : String}
    (outside : name ∉ names) (value : Value) :
    (environment.set name value).restore (saved look names) =
      (environment.restore (saved look names)).set name value := by
  induction names generalizing environment with
  | nil => rfl
  | cons first names ih =>
      simp only [saved, List.map_cons, restore_cons]
      obtain ⟨ne, later⟩ : name ≠ first ∧ name ∉ names := by simpa using outside
      rw [reset_set_of_ne environment ne value (holds first List.mem_cons_self)]
      exact ih holds.reset later

end Environment
end DynLisp
