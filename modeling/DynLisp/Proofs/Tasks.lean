import DynLisp.Proofs.Discipline
import Mathlib.Logic.Relation

/-!
# Evaluations inside evaluations

While an expression is evaluated, others are: its parts, and the bodies of the functions it calls.
`Task.Starts` lists the evaluations that one starts itself, each with the machine it begins in, and
`Task.Contains` those that take place inside at any depth.  A lawful discipline is kept at every
point of an evaluation, not only at its end.  And every error has an origin: one of the evaluations
inside raises it itself, in one of the few ways that `Task.Raises` lists.
-/

namespace DynLisp

/-- An expression that is evaluated in a machine, within a stack budget. -/
structure Task where
  /-- The stack budget. -/
  budget : Nat
  /-- The expression. -/
  tree : Expr
  /-- The machine in which the evaluation begins. -/
  machine : Machine

namespace Task

/-- How the evaluation ends. -/
def outcome (task : Task) : EStateM.Result EvalError Machine Value :=
  evaluate task.budget task.tree task.machine

/-- The evaluations that an evaluation starts itself. -/
inductive Starts : Task → Task → Prop
  /-- The condition of a conditional is evaluated first. -/
  | condition {budget : Nat} {position : Position} {condition consequence alternative : Expr}
      {machine : Machine} :
      Starts ⟨budget + 1, .conditional position condition consequence alternative, machine⟩
        ⟨budget, condition, machine⟩
  /-- Then one of its branches is evaluated. -/
  | branch {budget : Nat} {position : Position} {condition consequence alternative : Expr}
      {machine after : Machine} {chosen : Value}
      (tested : evaluate budget condition machine = .ok chosen after) :
      Starts ⟨budget + 1, .conditional position condition consequence alternative, machine⟩
        ⟨budget, if chosen.isZero then alternative else consequence, after⟩
  /-- The value of a variable definition is evaluated. -/
  | value {budget : Nat} {position : Position} {name : String} {value : Expr} {machine : Machine} :
      Starts ⟨budget + 1, .define position name none value, machine⟩ ⟨budget, value, machine⟩
  /-- The arguments of a builtin function are evaluated one after the other. -/
  | operand {budget : Nat} {position : Position} {name : String} {builtin : Builtin}
      {front back : List Expr} {argument : Expr} {machine after : Machine} {values : List Value}
      (bound : machine.environment.get? name = some (.builtin builtin))
      (earlier : evaluateAll (evaluate budget) front machine = .ok values after) :
      Starts ⟨budget + 3, .call position name (front ++ argument :: back), machine⟩
        ⟨budget, argument, after⟩
  /-- The arguments of any other function are evaluated with the parameters in front bound. -/
  | argument {budget : Nat} {position : Position} {name parameter : String}
      {names names' : List String} {body : Expr} {front back : List Expr} {argument : Expr}
      {machine after : Machine}
      (bound : machine.environment.get? name = some (.function (names ++ parameter :: names') body))
      (count : names.length = front.length) (count' : names'.length = back.length)
      (earlier : bindParameters (evaluate budget) names front machine = .ok () after) :
      Starts ⟨budget + 2, .call position name (front ++ argument :: back), machine⟩
        ⟨budget, argument, after⟩
  /-- The body of a function is evaluated with all parameters bound. -/
  | body {budget : Nat} {position : Position} {name : String} {parameters : List String}
      {body : Expr} {arguments : List Expr} {machine after : Machine}
      (bound : machine.environment.get? name = some (.function parameters body))
      (count : parameters.length = arguments.length)
      (earlier : bindParameters (evaluate budget) parameters arguments machine = .ok () after) :
      Starts ⟨budget + 2, .call position name arguments, machine⟩ ⟨budget, body, after⟩

/-- The evaluations that take place inside an evaluation, itself included. -/
def Contains : Task → Task → Prop := Relation.ReflTransGen Starts

/-- The values that an evaluation passes to a builtin function. -/
inductive Passes : Task → Builtin → List Value → Prop
  /-- The arguments of a call. -/
  | call {budget : Nat} {position : Position} {name : String} {builtin : Builtin}
      {arguments : List Expr} {machine after : Machine} {values : List Value}
      (bound : machine.environment.get? name = some (.builtin builtin))
      (evaluated : evaluateAll (evaluate budget) arguments machine = .ok values after) :
      Passes ⟨budget + 3, .call position name arguments, machine⟩ builtin values

/-- The errors that an evaluation raises itself, and not because one that it starts has failed. -/
inductive Raises : Task → EvalError → Prop
  /-- There is no budget for the evaluation. -/
  | exhausted {tree : Expr} {machine : Machine} : Raises ⟨0, tree, machine⟩ .stackExhausted
  /-- There is no budget for the call. -/
  | uncalled {position : Position} {name : String} {arguments : List Expr} {machine : Machine}
      {callee : Value} (bound : machine.environment.get? name = some callee) :
      Raises ⟨1, .call position name arguments, machine⟩ .stackExhausted
  /-- There is no budget for the arguments of a builtin function. -/
  | unpassed {position : Position} {name : String} {arguments : List Expr} {machine : Machine}
      {builtin : Builtin} (bound : machine.environment.get? name = some (.builtin builtin)) :
      Raises ⟨2, .call position name arguments, machine⟩ .stackExhausted
  /-- A name is not bound. -/
  | unknown {budget : Nat} {position : Position} {name : String} {machine : Machine}
      (free : machine.environment.get? name = none) :
      Raises ⟨budget + 1, .identifier position name, machine⟩
        (.unknownVariable name position name.length)
  /-- The name of a function is not bound. -/
  | unknownCallee {budget : Nat} {position : Position} {name : String} {arguments : List Expr}
      {machine : Machine} (free : machine.environment.get? name = none) :
      Raises ⟨budget + 1, .call position name arguments, machine⟩
        (.unknownVariable name position (name.length + 1))
  /-- An integer is called. -/
  | mismatch {budget : Nat} {position : Position} {name : String} {arguments : List Expr}
      {machine : Machine} {value : Int}
      (bound : machine.environment.get? name = some (.integer value)) :
      Raises ⟨budget + 2, .call position name arguments, machine⟩
        (.typeMismatch "function in function call" "int" position)
  /-- A function is called with the wrong number of arguments. -/
  | arity {budget : Nat} {position : Position} {name : String} {parameters : List String}
      {body : Expr} {arguments : List Expr} {machine : Machine}
      (bound : machine.environment.get? name = some (.function parameters body))
      (count : parameters.length ≠ arguments.length) :
      Raises ⟨budget + 2, .call position name arguments, machine⟩
        (.arity parameters.length arguments.length position)
  /-- A builtin function refuses its arguments. -/
  | refused {task : Task} {builtin : Builtin} {values : List Value} {error : EvalError}
      (passes : task.Passes builtin values) (refuses : builtin.result values = .error error) :
      Raises task error
  /-- There is no expression to evaluate. -/
  | hole {budget : Nat} {position : Position} {machine : Machine} :
      Raises ⟨budget + 1, .hole position, machine⟩ .notEvaluable

end Task

namespace Evaluation

theorem bind_eq_error {α β : Type} {first : Evaluation α} {later : α → Evaluation β}
    {machine after : Machine} {error : EvalError}
    (fails : (first >>= later) machine = .error error after) :
    first machine = .error error after ∨
      ∃ value middle, first machine = .ok value middle ∧
        later value middle = .error error after := by
  simp only [Bind.bind, EStateM.bind] at fails
  cases begun : first machine with
  | ok value middle =>
      rw [begun] at fails
      exact Or.inr ⟨value, middle, rfl, fails⟩
  | error error' middle =>
      rw [begun] at fails
      cases fails
      exact Or.inl rfl

theorem bind_eq_ok {α β : Type} {first : Evaluation α} {later : α → Evaluation β}
    {machine middle : Machine} {value : α} (begun : first machine = .ok value middle) :
    (first >>= later) machine = later value middle := by
  simp only [Bind.bind, EStateM.bind, begun]

theorem shadowing_eq_error {α : Type} {names : List String} {body : Evaluation α}
    {machine after : Machine} {error : EvalError}
    (fails : shadowing names body machine = .error error after) :
    ∃ inner, body machine = .error error inner := by
  simp only [shadowing] at fails
  split at fails
  · cases fails
  next inner ended =>
    cases fails
    exact ⟨_, ended⟩

variable {evaluate : Expr → Evaluation Value} {machine after : Machine} {error : EvalError}

/-- A list of expressions fails at one of them, behind others that succeed. -/
theorem evaluateAll_eq_error {trees : List Expr}
    (fails : evaluateAll evaluate trees machine = .error error after) :
    ∃ front tree back values middle, trees = front ++ tree :: back ∧
      evaluateAll evaluate front machine = .ok values middle ∧
      evaluate tree middle = .error error after := by
  induction trees generalizing machine with
  | nil => cases fails
  | cons tree trees ih =>
      rcases bind_eq_error fails with first | ⟨value, middle, first, fails⟩
      · exact ⟨[], tree, trees, [], machine, rfl, rfl, first⟩
      rcases bind_eq_error fails with second | ⟨values, last, second, fails⟩
      · obtain ⟨front, other, back, values, place, rfl, earlier, failed⟩ := ih second
        refine ⟨tree :: front, other, back, value :: values, place, rfl, ?_, failed⟩
        rw [evaluateAll, bind_eq_ok first, bind_eq_ok earlier]
        rfl
      · cases fails

/-- The binding of parameters fails at one of the arguments, with those in front bound. -/
theorem bindParameters_eq_error {parameters : List String} {arguments : List Expr}
    (count : parameters.length = arguments.length)
    (fails : bindParameters evaluate parameters arguments machine = .error error after) :
    ∃ names name names' front tree back middle,
      parameters = names ++ name :: names' ∧ arguments = front ++ tree :: back ∧
      names.length = front.length ∧ names'.length = back.length ∧
      bindParameters evaluate names front machine = .ok () middle ∧
      evaluate tree middle = .error error after := by
  induction parameters generalizing arguments machine with
  | nil => cases fails
  | cons name parameters ih =>
      cases arguments with
      | nil => cases count
      | cons tree arguments =>
          have count' : parameters.length = arguments.length := by simpa using count
          rcases bind_eq_error fails with first | ⟨value, middle, first, fails⟩
          · exact ⟨[], name, parameters, [], tree, arguments, machine, rfl, rfl, rfl, count', rfl,
              first⟩
          rcases bind_eq_error fails with second | ⟨_, last, second, fails⟩
          · cases second
          obtain ⟨names, other, names', front, tree', back, place, rfl, rfl, length, length',
            earlier, failed⟩ := ih count' fails
          refine ⟨name :: names, other, names', tree :: front, tree', back, place, rfl, rfl,
            by simp [length], length', ?_, failed⟩
          rw [bindParameters, bind_eq_ok first, bind_eq_ok second]
          exact earlier

end Evaluation

namespace Task

theorem Starts.budget_lt {task started : Task} (starts : task.Starts started) :
    started.budget < task.budget := by
  cases starts <;> simp

/-- Whether an evaluation raises an error itself or has started one that fails with it. -/
def Incurs (task : Task) (error : EvalError) : Prop :=
  task.Raises error ∨ ∃ started after, task.Starts started ∧ started.outcome = .error error after

theorem incurs_of_builtin {budget : Nat} {position : Position} {name : String} {builtin : Builtin}
    {arguments : List Expr} {machine after : Machine} {error : EvalError}
    (bound : machine.environment.get? name = some (.builtin builtin))
    (fails : callValue budget (.builtin builtin) arguments position machine = .error error after) :
    Incurs ⟨budget + 1, .call position name arguments, machine⟩ error := by
  match budget with
  | 0 =>
      cases fails
      exact Or.inl (.uncalled bound)
  | 1 =>
      cases fails
      exact Or.inl (.unpassed bound)
  | budget + 2 =>
      rcases Evaluation.bind_eq_error fails with first | ⟨values, middle, first, refused⟩
      · obtain ⟨front, tree, back, values, place, rfl, earlier, failed⟩ :=
          Evaluation.evaluateAll_eq_error first
        exact Or.inr ⟨_, _, .operand bound earlier, failed⟩
      · unfold Builtin.call at refused
        split at refused
        · cases refused
        next refuses =>
          cases refused
          exact Or.inl (.refused (.call bound first) refuses)

theorem incurs_of_function {budget : Nat} {position : Position} {name : String}
    {parameters : List String} {body : Expr} {arguments : List Expr} {machine after : Machine}
    {error : EvalError}
    (bound : machine.environment.get? name = some (.function parameters body))
    (fails : callValue budget (.function parameters body) arguments position machine =
      .error error after) :
    Incurs ⟨budget + 1, .call position name arguments, machine⟩ error := by
  match budget with
  | 0 =>
      cases fails
      exact Or.inl (.uncalled bound)
  | budget + 1 =>
      simp only [callValue, callFunction] at fails
      split at fails
      next count =>
        obtain ⟨inner, failed⟩ := Evaluation.shadowing_eq_error fails
        rcases Evaluation.bind_eq_error failed with first | ⟨_, middle, first, failed⟩
        · obtain ⟨names, parameter, names', front, tree, back, place, rfl, rfl, length, length',
            earlier, failed⟩ := Evaluation.bindParameters_eq_error count first
          exact Or.inr ⟨_, _, .argument bound length length' earlier, failed⟩
        · exact Or.inr ⟨_, _, .body bound count first, failed⟩
      next count =>
        cases fails
        exact Or.inl (.arity bound count)

theorem incurs_of_integer {budget : Nat} {position : Position} {name : String} {value : Int}
    {arguments : List Expr} {machine after : Machine} {error : EvalError}
    (bound : machine.environment.get? name = some (.integer value))
    (fails : callValue budget (.integer value) arguments position machine = .error error after) :
    Incurs ⟨budget + 1, .call position name arguments, machine⟩ error := by
  cases budget with
  | zero =>
      cases fails
      exact Or.inl (.uncalled bound)
  | succ budget =>
      cases fails
      exact Or.inl (.mismatch bound)

/-- A name is looked up without a change, or it is not bound. -/
theorem lookup_cases (name : String) (position : Position) (span : Int) (machine : Machine) :
    (∃ value, machine.environment.get? name = some value ∧
        lookup name position span machine = .ok value machine) ∨
      machine.environment.get? name = none ∧
        lookup name position span machine =
          .error (.unknownVariable name position span) machine := by
  unfold lookup
  cases bound : machine.environment.get? name with
  | none => exact Or.inr ⟨rfl, rfl⟩
  | some value => exact Or.inl ⟨value, rfl, rfl⟩

/-- An evaluation that fails incurs the error in one of two ways. -/
theorem incurs_of_error {task : Task} {error : EvalError} {after : Machine}
    (fails : task.outcome = .error error after) : task.Incurs error := by
  obtain ⟨budget, tree, machine⟩ := task
  cases budget with
  | zero =>
      cases fails
      exact Or.inl .exhausted
  | succ budget =>
      cases tree with
      | integer position value => cases fails
      | identifier position name =>
          simp only [outcome, evaluate] at fails
          rcases lookup_cases name position name.length machine with
            ⟨value, _, found⟩ | ⟨free, missing⟩
          · rw [found] at fails
            cases fails
          · rw [missing] at fails
            cases fails
            exact Or.inl (.unknown free)
      | conditional position condition consequence alternative =>
          rcases Evaluation.bind_eq_error fails with first | ⟨chosen, middle, tested, failed⟩
          · exact Or.inr ⟨_, _, .condition, first⟩
          · refine Or.inr ⟨_, after, .branch tested, ?_⟩
            simp only [outcome]
            split at failed <;> simp_all
      | define position name parameters value =>
          cases parameters with
          | none =>
              rcases Evaluation.bind_eq_error fails with first | ⟨result, middle, _, failed⟩
              · exact Or.inr ⟨_, _, .value, first⟩
              · cases failed
          | some parameters => cases fails
      | call position name arguments =>
          rcases lookup_cases name position (name.length + 1) machine with
            ⟨callee, bound, found⟩ | ⟨free, missing⟩
          · have failed : callValue budget callee arguments position machine =
                .error error after := by
              simpa only [outcome, evaluate, Evaluation.bind_eq_ok found] using fails
            cases callee with
            | integer value => exact incurs_of_integer bound failed
            | function parameters body => exact incurs_of_function bound failed
            | builtin builtin => exact incurs_of_builtin bound failed
          · rcases Evaluation.bind_eq_error fails with first | ⟨_, _, first, _⟩
            · rw [missing] at first
              cases first
              exact Or.inl (.unknownCallee free)
            · rw [missing] at first
              cases first
      | hole position =>
          cases fails
          exact Or.inl .hole

/-- Every error has an origin inside the evaluation that fails with it. -/
theorem exists_raises {task : Task} {error : EvalError} {after : Machine}
    (fails : task.outcome = .error error after) :
    ∃ origin, task.Contains origin ∧ origin.Raises error := by
  rcases incurs_of_error fails with raises | ⟨started, last, starts, failed⟩
  · exact ⟨task, .refl, raises⟩
  · -- What an evaluation starts has a smaller budget.
    have smaller := starts.budget_lt
    obtain ⟨origin, contains, raises⟩ := exists_raises failed
    exact ⟨origin, .head starts contains, raises⟩
termination_by task.budget

end Task

namespace Discipline

/-- Whether an evaluation begins in accordance with a discipline. -/
structure Admits (discipline : Discipline) (task : Task) : Prop where
  /-- The expression may be evaluated. -/
  tree : discipline.expressions task.tree
  /-- All values that are bound may arise. -/
  all : task.machine.environment.All discipline.values

theorem Admits.right {left right : Discipline} {task : Task}
    (admits : (left.meet right).Admits task) : right.Admits task :=
  ⟨admits.tree.2, fun name value bound => (admits.all name value bound).2⟩

theorem Keeps.of_ok {discipline : Discipline} {α : Type} {names : List String}
    {results : α → Prop} {computation : Evaluation α}
    (keeps : discipline.Keeps names results computation) {machine after : Machine} {value : α}
    (all : machine.environment.All discipline.values)
    (ended : computation machine = .ok value after) :
    results value ∧ after.environment.All discipline.values := by
  have ends := keeps machine all
  rw [ended] at ends
  exact ⟨ends.1, ends.2.all⟩

namespace Lawful

variable {discipline : Discipline} (lawful : discipline.Lawful)
include lawful

/-- The machine in which a function's parameters are bound. -/
theorem all_of_bindParameters {budget : Nat} {names : List String} {front : List Expr}
    (good : ∀ tree ∈ front, discipline.expressions tree) {machine after : Machine}
    (all : machine.environment.All discipline.values)
    (bound : bindParameters (evaluate budget) names front machine = .ok () after) :
    after.environment.All discipline.values :=
  (Keeps.of_ok (.bindParameters lawful (lawful.within budget).1 (fun _ member => member) good) all
    bound).2

/-- An evaluation is started in accordance with the discipline. -/
theorem admits_of_starts {task started : Task} (starts : task.Starts started)
    (admits : discipline.Admits task) : discipline.Admits started := by
  obtain ⟨good, all⟩ := admits
  have part {tree : Expr} (member : tree ∈ task.tree.parts) : discipline.expressions tree :=
    lawful.parts good member
  cases starts with
  | condition => exact ⟨part (by simp [Expr.parts]), all⟩
  | @branch budget position condition consequence alternative machine after chosen tested =>
      have keeps := (lawful.within budget).1 condition (part (by simp [Expr.parts]))
      refine ⟨part ?_, (keeps.of_ok all tested).2⟩
      simp only [Expr.parts]
      split <;> simp
  | value => exact ⟨part (by simp [Expr.parts]), all⟩
  | @operand budget position name builtin front back argument machine after values bound earlier =>
      have keeps : discipline.Keeps [] _ (evaluateAll (evaluate budget) front) :=
        .evaluateAll lawful (lawful.within budget).1 fun tree member =>
          part (List.mem_append_left _ member)
      exact ⟨part (by simp [Expr.parts]), (keeps.of_ok all earlier).2⟩
  | argument bound count count' earlier =>
      refine ⟨part (by simp [Expr.parts]), lawful.all_of_bindParameters ?_ all earlier⟩
      exact fun tree member => part (List.mem_append_left _ member)
  | body bound count earlier =>
      exact ⟨lawful.body (all _ _ bound),
        lawful.all_of_bindParameters (fun tree member => part member) all earlier⟩

/-- All evaluations inside an evaluation begin in accordance with the discipline. -/
theorem admits_of_contains {task inner : Task} (contains : task.Contains inner)
    (admits : discipline.Admits task) : discipline.Admits inner := by
  induction contains with
  | refl => exact admits
  | tail earlier starts ih => exact lawful.admits_of_starts starts ih

/-- They pass such values to builtin functions only that may arise. -/
theorem values_of_passes {task : Task} {builtin : Builtin} {values : List Value}
    (passes : task.Passes builtin values) (admits : discipline.Admits task) :
    ∀ value ∈ values, discipline.values value := by
  obtain ⟨good, all⟩ := admits
  cases passes with
  | @call budget position name builtin arguments machine after values bound evaluated =>
      have keeps : discipline.Keeps [] _ (evaluateAll (evaluate budget) arguments) :=
        .evaluateAll lawful (lawful.within budget).1 fun tree member => lawful.parts good member
      exact (keeps.of_ok all evaluated).1

end Lawful
end Discipline
end DynLisp
