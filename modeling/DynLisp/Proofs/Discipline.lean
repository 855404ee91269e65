import DynLisp.Evaluation

/-!
# What evaluation keeps

A discipline says which expressions may be evaluated, which values may arise, and how bindings may
change.  It is lawful if the single things that evaluation does are in accordance with it: taking an
expression apart, making a value, binding a name, and restoring the names of parameters.  A lawful
discipline is kept by evaluation as a whole, whatever the budget and however the evaluation ends.
-/

namespace DynLisp

/-- The expressions that an expression is immediately made of. -/
def Expr.parts : Expr → List Expr
  | conditional _ condition consequence alternative => [condition, consequence, alternative]
  | define _ _ _ value => [value]
  | call _ _ arguments => arguments
  | _ => []

/-- The machine that a computation leaves behind, however it ends. -/
def Evaluation.leaves {α : Type} (computation : Evaluation α) (machine : Machine) : Machine :=
  match computation machine with
  | .ok _ after => after
  | .error _ after => after

namespace Environment

/-- Whether all values that are bound have a property. -/
def All (values : Value → Prop) (environment : Environment) : Prop :=
  ∀ name value, environment.get? name = some value → values value

theorem All.set {values : Value → Prop} {environment : Environment} (all : environment.All values)
    (name : String) {value : Value} (good : values value) :
    (environment.set name value).All values := by
  intro other bound
  rw [get?_set]
  split
  · rintro ⟨⟩
    exact good
  · exact all other bound

/-- Restored names mean what they meant when they were captured, and all others what they mean
now. -/
theorem get?_restore_capture (environment captured : Environment) (names : List String)
    (name : String) :
    (environment.restore (captured.capture names)).get? name =
      if name ∈ names then captured.get? name else environment.get? name := by
  induction names generalizing environment with
  | nil => rfl
  | cons first names ih =>
      have later := ih (environment.reset (first, captured.get? first))
      rw [get?_reset] at later
      refine later.trans ?_
      by_cases same : name = first <;> simp [same]

theorem All.restore_capture {values : Value → Prop} {environment captured : Environment}
    (all : environment.All values) (all_captured : captured.All values) (names : List String) :
    (environment.restore (captured.capture names)).All values := by
  intro name value
  rw [get?_restore_capture]
  split
  · exact all_captured name value
  · exact all name value

end Environment

/-- Which expressions and values may occur, and how bindings may change. -/
structure Discipline where
  /-- The expressions that may be evaluated. -/
  expressions : Expr → Prop
  /-- The values that may arise and be bound. -/
  values : Value → Prop
  /-- How an environment may change while the given names are those of parameters. -/
  changes : List String → Environment → Environment → Prop

namespace Discipline

/-- A discipline that the single things evaluation does are in accordance with. -/
structure Lawful (discipline : Discipline) : Prop where
  /-- The parts of an expression may be evaluated as well. -/
  parts {tree part : Expr} : discipline.expressions tree → part ∈ tree.parts →
    discipline.expressions part
  /-- An integer has its value. -/
  integer {position : Position} {value : Int} :
    discipline.expressions (.integer position value) → discipline.values (.integer value)
  /-- The definition of a function makes the function. -/
  function {position : Position} {name : String} {parameters : List String} {body : Expr} :
    discipline.expressions (.define position name (some parameters) body) →
      discipline.values (.function parameters body)
  /-- The body of a function may be evaluated. -/
  body {parameters : List String} {body : Expr} :
    discipline.values (.function parameters body) → discipline.expressions body
  /-- A definition gives zero. -/
  zero : discipline.values (.integer 0)
  /-- Builtin functions make values of values. -/
  result {builtin : Builtin} {arguments : List Value} {value : Value} :
    (∀ argument ∈ arguments, discipline.values argument) →
      builtin.result arguments = .ok value → discipline.values value
  /-- Nothing need change. -/
  refl (names : List String) (environment : Environment) :
    discipline.changes names environment environment
  /-- Changes can follow each other. -/
  trans {names : List String} {first second third : Environment} :
    discipline.changes names first second → discipline.changes names second third →
      discipline.changes names first third
  /-- What may change outside of a call may change inside. -/
  inside {names : List String} {before after : Environment} :
    discipline.changes [] before after → discipline.changes names before after
  /-- A definition binds its name. -/
  define {position : Position} {name : String} {parameters : Option (List String)} {tree : Expr} :
    discipline.expressions (.define position name parameters tree) →
      ∀ environment value, discipline.changes [] environment (environment.set name value)
  /-- A parameter is bound. -/
  bind {names : List String} {name : String} : name ∈ names →
    ∀ environment value, discipline.changes names environment (environment.set name value)
  /-- The names of parameters are restored. -/
  restore {names : List String} {before after : Environment} :
    discipline.changes names before after →
      discipline.changes [] before (after.restore (before.capture names))

/-- Whether a computation may lead from one environment to another one. -/
structure Reaches (discipline : Discipline) (names : List String) (before after : Environment) :
    Prop where
  /-- All values that are bound may arise. -/
  all : after.All discipline.values
  /-- The environment may change in this way. -/
  change : discipline.changes names before after

/-- How a computation may end that began with some bindings. -/
def Allows (discipline : Discipline) {α : Type} (names : List String) (results : α → Prop)
    (before : Environment) : EStateM.Result EvalError Machine α → Prop
  | .ok value after => results value ∧ discipline.Reaches names before after.environment
  | .error _ after => discipline.Reaches names before after.environment

/-- A computation that keeps a discipline while the given names are those of parameters. -/
def Keeps (discipline : Discipline) {α : Type} (names : List String) (results : α → Prop)
    (computation : Evaluation α) : Prop :=
  ∀ machine : Machine, machine.environment.All discipline.values →
    discipline.Allows names results machine.environment (computation machine)

namespace Keeps

variable {discipline : Discipline} {α β : Type} {names : List String} {results : α → Prop}
  {results' : β → Prop}

theorem reaches_leaves {computation : Evaluation α}
    (keeps : discipline.Keeps names results computation) {machine : Machine}
    (all : machine.environment.All discipline.values) :
    discipline.Reaches names machine.environment (computation.leaves machine).environment := by
  have ends := keeps machine all
  unfold Evaluation.leaves
  cases ended : computation machine with
  | ok value after =>
      rw [ended] at ends
      exact ends.2
  | error error after =>
      rw [ended] at ends
      exact ends

theorem define {name : String} {value : Value} (good : discipline.values value)
    (change : ∀ environment value,
      discipline.changes names environment (environment.set name value)) :
    discipline.Keeps names (fun _ => True) (DynLisp.define name value) :=
  fun machine all => ⟨trivial, all.set name good, change machine.environment value⟩

section Lawful

variable (lawful : discipline.Lawful)
include lawful

theorem pure {value : α} (good : results value) :
    discipline.Keeps names results (Pure.pure value) :=
  fun machine all => ⟨good, all, lawful.refl names machine.environment⟩

theorem throw (error : EvalError) : discipline.Keeps names results (MonadExcept.throw error) :=
  fun machine all => ⟨all, lawful.refl names machine.environment⟩

theorem bind {first : Evaluation α} {later : α → Evaluation β}
    (keeps : discipline.Keeps names results first)
    (second : ∀ value, results value → discipline.Keeps names results' (later value)) :
    discipline.Keeps names results' (first >>= later) := by
  intro machine all
  have begun := keeps machine all
  simp only [Bind.bind, EStateM.bind]
  cases ended : first machine with
  | error error after =>
      rw [ended] at begun
      exact begun
  | ok value after =>
      rw [ended] at begun
      obtain ⟨good, reached⟩ := begun
      -- The second computation begins with bindings that the first one was allowed to make.
      have gone_on := second value good after reached.all
      simp only
      cases finished : later value after with
      | error error last =>
          rw [finished] at gone_on
          exact ⟨gone_on.all, lawful.trans reached.change gone_on.change⟩
      | ok value' last =>
          rw [finished] at gone_on
          exact ⟨gone_on.1, gone_on.2.all, lawful.trans reached.change gone_on.2.change⟩

/-- What is kept outside of calls is kept inside of them. -/
theorem inside {computation : Evaluation α} (keeps : discipline.Keeps [] results computation) :
    discipline.Keeps names results computation := by
  intro machine all
  have ends := keeps machine all
  cases ended : computation machine with
  | ok value after =>
      rw [ended] at ends
      exact ⟨ends.1, ends.2.all, lawful.inside ends.2.change⟩
  | error error after =>
      rw [ended] at ends
      exact ⟨ends.all, lawful.inside ends.change⟩

theorem lookup (name : String) (position : Position) (span : Int) :
    discipline.Keeps names discipline.values (DynLisp.lookup name position span) := by
  intro machine all
  unfold DynLisp.lookup
  cases bound : machine.environment.get? name with
  | none => exact ⟨all, lawful.refl names machine.environment⟩
  | some value => exact ⟨all name value bound, all, lawful.refl names machine.environment⟩

theorem call (builtin : Builtin) {arguments : List Value}
    (good : ∀ argument ∈ arguments, discipline.values argument) :
    discipline.Keeps names discipline.values (builtin.call arguments) := by
  intro machine all
  unfold Builtin.call
  cases computed : builtin.result arguments with
  | error error => exact ⟨all, lawful.refl names machine.environment⟩
  | ok value => exact ⟨lawful.result good computed, all, lawful.refl names machine.environment⟩

/-- Inside a call, parameters may change that are restored behind it. -/
theorem shadowing {body : Evaluation α} (keeps : discipline.Keeps names results body) :
    discipline.Keeps [] results (DynLisp.shadowing names body) := by
  intro machine all
  have ends := keeps machine all
  unfold DynLisp.shadowing
  cases ended : body machine with
  | ok value after =>
      rw [ended] at ends
      exact ⟨ends.1, ends.2.all.restore_capture all names, lawful.restore ends.2.change⟩
  | error error after =>
      rw [ended] at ends
      exact ⟨ends.all.restore_capture all names, lawful.restore ends.change⟩

variable {evaluate : Expr → Evaluation Value}
  (each : ∀ tree, discipline.expressions tree →
    discipline.Keeps [] discipline.values (evaluate tree))
include each

theorem evaluateAll {trees : List Expr} (good : ∀ tree ∈ trees, discipline.expressions tree) :
    discipline.Keeps [] (fun values => ∀ value ∈ values, discipline.values value)
      (DynLisp.evaluateAll evaluate trees) := by
  induction trees with
  | nil => exact pure lawful (by simp)
  | cons tree trees ih =>
      simp only [List.mem_cons, forall_eq_or_imp] at good
      refine bind lawful (each tree good.1) fun value arisen => ?_
      refine bind lawful (ih good.2) fun values all_arisen => pure lawful ?_
      simpa using ⟨arisen, all_arisen⟩

theorem bindParameters {parameters : List String} (owned : ∀ name ∈ parameters, name ∈ names)
    {arguments : List Expr} (good : ∀ tree ∈ arguments, discipline.expressions tree) :
    discipline.Keeps names (fun _ => True)
      (DynLisp.bindParameters evaluate parameters arguments) := by
  induction parameters generalizing arguments with
  | nil => cases arguments <;> exact pure lawful trivial
  | cons name parameters ih =>
      cases arguments with
      | nil => exact pure lawful trivial
      | cons tree arguments =>
          simp only [List.mem_cons, forall_eq_or_imp] at good owned
          refine bind lawful (inside lawful (each tree good.1)) fun value arisen => ?_
          exact bind lawful (define arisen (lawful.bind owned.1)) fun _ _ => ih owned.2 good.2

theorem callFunction {parameters : List String} {body : Expr}
    (function : discipline.values (.function parameters body)) {arguments : List Expr}
    (good : ∀ tree ∈ arguments, discipline.expressions tree) (position : Position) :
    discipline.Keeps [] discipline.values
      (DynLisp.callFunction evaluate parameters body arguments position) := by
  unfold DynLisp.callFunction
  split
  -- Arguments and body are evaluated as outside of the call; only the binding of parameters is not.
  · apply shadowing lawful
    have bound := bindParameters lawful each (fun name (member : name ∈ parameters) => member) good
    exact bind lawful bound fun _ _ => inside lawful (each body (lawful.body function))
  · exact throw lawful _

end Lawful
end Keeps

/-- Whatever the budget, a lawful discipline is kept by all parts of evaluation. -/
theorem Lawful.within {discipline : Discipline} (lawful : discipline.Lawful) (budget : Nat) :
    (∀ tree, discipline.expressions tree →
      discipline.Keeps [] discipline.values (evaluate budget tree)) ∧
    (∀ callee arguments position, discipline.values callee →
      (∀ tree ∈ arguments, discipline.expressions tree) →
      discipline.Keeps [] discipline.values (callValue budget callee arguments position)) ∧
    (∀ arguments, (∀ tree ∈ arguments, discipline.expressions tree) →
      discipline.Keeps [] (fun values => ∀ value ∈ values, discipline.values value)
        (evaluateArguments budget arguments)) := by
  -- A nested evaluation has a smaller budget, but its expression need not be a smaller one.
  induction budget with
  | zero =>
      exact ⟨fun _ _ => .throw lawful _, fun _ _ _ _ _ => .throw lawful _,
        fun _ _ => .throw lawful _⟩
  | succ budget ih =>
      obtain ⟨evaluate, callValue, evaluateArguments⟩ := ih
      refine ⟨?_, ?_, fun arguments good => .evaluateAll lawful evaluate good⟩
      · intro tree good
        have parts {part : Expr} (member : part ∈ tree.parts) :=
          evaluate part (lawful.parts good member)
        cases tree with
        | integer position value => exact .pure lawful (lawful.integer good)
        | identifier position name => exact .lookup lawful name position name.length
        | conditional position condition consequence alternative =>
            refine .bind lawful (parts (by simp [Expr.parts])) fun chosen _ => ?_
            split
            · exact parts (by simp [Expr.parts])
            · exact parts (by simp [Expr.parts])
        | define position name parameters value =>
            have defined {result : Value} (arisen : discipline.values result) :
                discipline.Keeps [] discipline.values
                  (DynLisp.define name result >>= fun _ => Pure.pure (.integer 0)) :=
              .bind lawful (.define arisen (lawful.define good)) fun _ _ =>
                .pure lawful lawful.zero
            cases parameters with
            | none =>
                exact .bind lawful (parts (by simp [Expr.parts])) fun _ arisen => defined arisen
            | some parameters => exact defined (lawful.function good)
        | call position name arguments =>
            refine .bind lawful (.lookup lawful name position _) fun callee arisen => ?_
            exact callValue callee arguments position arisen fun _ => lawful.parts good
        | hole position => exact .throw lawful _
      · intro callee arguments position arisen good
        cases callee with
        | integer value => exact .throw lawful _
        | function parameters body => exact .callFunction lawful evaluate arisen good position
        | builtin builtin =>
            exact .bind lawful (evaluateArguments arguments good) fun _ all_arisen =>
              .call lawful builtin all_arisen

/-- Two disciplines at a time. -/
def meet (left right : Discipline) : Discipline where
  expressions tree := left.expressions tree ∧ right.expressions tree
  values value := left.values value ∧ right.values value
  changes names before after := left.changes names before after ∧ right.changes names before after

theorem Lawful.meet {left right : Discipline} (first : left.Lawful) (second : right.Lawful) :
    (left.meet right).Lawful where
  parts good member := ⟨first.parts good.1 member, second.parts good.2 member⟩
  integer good := ⟨first.integer good.1, second.integer good.2⟩
  function good := ⟨first.function good.1, second.function good.2⟩
  body good := ⟨first.body good.1, second.body good.2⟩
  zero := ⟨first.zero, second.zero⟩
  result good computed :=
    ⟨first.result (fun argument member => (good argument member).1) computed,
      second.result (fun argument member => (good argument member).2) computed⟩
  refl names environment := ⟨first.refl names environment, second.refl names environment⟩
  trans early late := ⟨first.trans early.1 late.1, second.trans early.2 late.2⟩
  inside change := ⟨first.inside change.1, second.inside change.2⟩
  define good environment value :=
    ⟨first.define good.1 environment value, second.define good.2 environment value⟩
  bind member environment value :=
    ⟨first.bind member environment value, second.bind member environment value⟩
  restore change := ⟨first.restore change.1, second.restore change.2⟩

/-- Evaluation keeps a lawful discipline. -/
theorem Lawful.reaches_evaluate {discipline : Discipline} (lawful : discipline.Lawful)
    (budget : Nat) {tree : Expr} (good : discipline.expressions tree) {machine : Machine}
    (all : machine.environment.All discipline.values) :
    discipline.Reaches [] machine.environment
      ((evaluate budget tree).leaves machine).environment :=
  ((lawful.within budget).1 tree good).reaches_leaves all

end Discipline
end DynLisp
