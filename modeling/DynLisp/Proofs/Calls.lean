import DynLisp.Proofs.Lockstep
import DynLisp.Proofs.Tasks

/-!
# Calls of functions defined by a program

A call binds its parameters one after the other, evaluates the body, and restores the parameters.
`CallEnds` lists the evaluations that can be the last one inside a call: that of an argument which
fails, and that of the body.  `call_transparent` says that the call gives what this last evaluation
gives, with every parameter bound as it was before the call and every other name as the last
evaluation has left it.
-/

namespace DynLisp

/-- The binding of parameters one after the other.  Each argument is evaluated with the parameters
in front of it bound. -/
inductive Binds (budget : Nat) : List String → List Expr → Machine → Machine → Prop
  /-- No parameter is left. -/
  | nil (machine : Machine) : Binds budget [] [] machine machine
  /-- A parameter is bound and then others. -/
  | cons {name : String} {names : List String} {argument : Expr} {arguments : List Expr}
      {value : Value} {machine after last : Machine}
      (evaluated : evaluate budget argument machine = .ok value after)
      (later : Binds budget names arguments (after.set name value) last) :
      Binds budget (name :: names) (argument :: arguments) machine last

/-- How the last evaluation inside a call ends, before the parameters are restored. -/
inductive CallEnds (parameters : List String) (body : Expr) (arguments : List Expr)
    (machine : Machine) : Nat → EStateM.Result EvalError Machine Value → Prop
  /-- There is no budget for the call, and nothing is evaluated. -/
  | unbegun : CallEnds parameters body arguments machine 0 (.error .stackExhausted machine)
  /-- An argument fails, with the parameters in front of it bound. -/
  | argument {budget : Nat} {names names' : List String} {name : String} {front back : List Expr}
      {argument : Expr} {middle after : Machine} {error : EvalError}
      (parameters_eq : parameters = names ++ name :: names')
      (arguments_eq : arguments = front ++ argument :: back)
      (bound : Binds budget names front machine middle)
      (failed : evaluate budget argument middle = .error error after) :
      CallEnds parameters body arguments machine (budget + 1) (.error error after)
  /-- The body is evaluated, with all parameters bound. -/
  | body {budget : Nat} {inside : Machine}
      (bound : Binds budget parameters arguments machine inside) :
      CallEnds parameters body arguments machine (budget + 1) (evaluate budget body inside)

/-- Whether a machine has some names bound as they were before, and is as the one inside has been
left otherwise. -/
structure Machine.Restores (before : Machine) (names : List String) (inside after : Machine) :
    Prop where
  /-- The names are bound as before, or not at all if they were not. -/
  restored : ∀ name ∈ names, after.environment.get? name = before.environment.get? name
  /-- All other names are bound as inside. -/
  kept : ∀ name, name ∉ names → after.environment.get? name = inside.environment.get? name
  /-- Nothing is written. -/
  output : after.output = inside.output

theorem Machine.restores_self (machine : Machine) (names : List String) :
    machine.Restores names machine machine :=
  ⟨fun _ _ => rfl, fun _ _ => rfl, rfl⟩

theorem Machine.restores_restore (before inside : Machine) (names : List String) :
    before.Restores names inside (inside.restore (before.environment.capture names)) where
  restored name member := by
    rw [restore, Environment.get?_restore_capture, if_pos member]
  kept name outside := by
    rw [restore, Environment.get?_restore_capture, if_neg outside]
  output := rfl

/-- A computation whose names are restored gives what it gives without that. -/
theorem shadowing_restores {α : Type} (names : List String) (computation : Evaluation α)
    (machine : Machine) :
    Lockstep (machine.Restores names) Eq Eq (computation machine)
      (shadowing names computation machine) := by
  unfold shadowing
  cases computation machine with
  | ok value inside => exact .ok rfl (machine.restores_restore inside names)
  | error error inside => exact .error rfl (machine.restores_restore inside names)

theorem binds_of_bindParameters {budget : Nat} {names : List String} {arguments : List Expr}
    (count : names.length = arguments.length) {machine last : Machine}
    (bound : bindParameters (evaluate budget) names arguments machine = .ok () last) :
    Binds budget names arguments machine last := by
  induction names generalizing arguments machine with
  | nil =>
      obtain rfl : arguments = [] := List.length_eq_zero_iff.mp count.symm
      cases bound
      exact .nil _
  | cons name names ih =>
      cases arguments with
      | nil => cases count
      | cons argument arguments =>
          cases evaluated : evaluate budget argument machine with
          | error error after =>
              simp only [bindParameters, Bind.bind, EStateM.bind, evaluated] at bound
              cases bound
          | ok value after =>
              rw [bindParameters, Evaluation.bind_eq_ok evaluated] at bound
              exact .cons evaluated (ih (by simpa using count) bound)

/-- What is evaluated inside a call ends with an argument that fails or with the body. -/
theorem callEnds_of_count {parameters : List String} {arguments : List Expr}
    (count : parameters.length = arguments.length) (budget : Nat) (body : Expr)
    (machine : Machine) :
    CallEnds parameters body arguments machine (budget + 1)
      ((bindParameters (evaluate budget) parameters arguments >>= fun _ => evaluate budget body)
        machine) := by
  cases binding : bindParameters (evaluate budget) parameters arguments machine with
  | ok _ inside =>
      rw [Evaluation.bind_eq_ok binding]
      exact .body (binds_of_bindParameters count binding)
  | error error after =>
      obtain ⟨names, name, names', front, argument, back, middle, parameters_eq, arguments_eq,
        length, -, earlier, failed⟩ := Evaluation.bindParameters_eq_error count binding
      simp only [Bind.bind, EStateM.bind, binding]
      exact .argument parameters_eq arguments_eq (binds_of_bindParameters length earlier) failed

/-- A call of a function is transparent for its parameters, whatever they are called and however
often one of them occurs.  Given as many arguments as there are parameters, the call ends as the
last evaluation inside it does: that of the body, with each parameter bound in order to the value
that its argument has under the bindings of those in front, or that of the first argument which
fails so.  Afterwards every parameter is bound as before the call, and every other name as the last
evaluation has left it.  Given another number of arguments, the call fails at once and changes
nothing.  The expression that calls the function by a name does all this if the name is bound to the
function. -/
theorem call_transparent (budget : Nat) (parameters : List String) (body : Expr)
    (arguments : List Expr) (position : Position) (machine : Machine) :
    (parameters.length = arguments.length →
      ∃ last, CallEnds parameters body arguments machine budget last ∧
        Lockstep (machine.Restores parameters) Eq Eq last
          (callValue budget (.function parameters body) arguments position machine)) ∧
    (parameters.length ≠ arguments.length →
      callValue (budget + 1) (.function parameters body) arguments position machine =
        .error (.arity parameters.length arguments.length position) machine) ∧
    ∀ name, machine.environment.get? name = some (.function parameters body) →
      evaluate (budget + 1) (.call position name arguments) machine =
        callValue budget (.function parameters body) arguments position machine := by
  refine ⟨fun count => ?_, fun count => ?_, fun name bound => ?_⟩
  · cases budget with
    | zero => exact ⟨_, .unbegun, .error rfl (machine.restores_self parameters)⟩
    | succ budget =>
        refine ⟨_, callEnds_of_count count budget body machine, ?_⟩
        rw [callValue, callFunction, if_pos count]
        exact shadowing_restores parameters _ machine
  · rw [callValue, callFunction, if_neg count]
    rfl
  · have found : lookup name position (name.length + 1) machine =
        .ok (.function parameters body) machine := by
      rw [lookup, bound]
    rw [evaluate, Evaluation.bind_eq_ok found]

/-- A function with a parameter that occurs twice and one that is called as a builtin function is.
An argument defines one of them, and the body fails because another one is called.  Both are bound
as before afterwards, and what an argument has defined besides stays. -/
theorem call_transparent_failing :
    let parameters := ["x", "x", "+"]
    let body := Expr.call .start "+" [.identifier .start "x", .integer .start 1]
    let arguments := [Expr.define .start "y" none (.integer .start 3),
      .define .start "x" none (.integer .start 2), .identifier .start "x"]
    let machine : Machine := ⟨(Environment.initial.set "x" (.integer 7)).set "f"
      (.function parameters body), ""⟩
    let after := (evaluate 8 (.call .start "f" arguments)).leaves machine
    parameters.length = arguments.length ∧
      evaluate 8 (.call .start "f" arguments) machine =
        .error (.typeMismatch "function in function call" "int" .start) after ∧
      after.environment.get? "x" = some (.integer 7) ∧
      after.environment.get? "+" = some (.builtin .add) ∧
      after.environment.get? "y" = some (.integer 3) ∧
      callValue 1 (.function parameters body) [] .start machine =
        .error (.arity 3 0 .start) machine := by
  intro parameters body arguments machine after
  have transparent := call_transparent 7 parameters body arguments .start machine
  have failed : evaluate 8 (.call .start "f" arguments) machine =
      .error (.typeMismatch "function in function call" "int" .start) after := by rfl
  obtain ⟨last, -, restored⟩ := transparent.1 rfl
  rw [← transparent.2.2 "f" rfl, failed] at restored
  cases restored with
  | error _ restores =>
      have refused := (call_transparent 0 parameters body [] .start machine).2.1 (by decide)
      refine ⟨rfl, failed, ?_, ?_, rfl, refused⟩
      · rw [restores.restored "x" (by decide)]
        rfl
      · rw [restores.restored "+" (by decide)]
        rfl

end DynLisp
