import DynLisp.Proofs.Correspondence

/-!
# Evaluation does not depend on positions

Two evaluations of expressions that differ in positions only, in environments that differ in
positions inside function bodies only, run in lockstep: they print the same text, whatever was
printed before, and give values, errors and environments that are again the same but for positions.
-/

namespace DynLisp

/-- A value with all positions forgotten. -/
def Value.unplaced : Value → Value
  | integer value => .integer value
  | function parameters body => .function parameters body.unplaced
  | builtin primitive => .builtin primitive

/-- An evaluation error with all positions forgotten. -/
def EvalError.unplaced : EvalError → EvalError
  | unknownVariable name _ span => .unknownVariable name .start span
  | typeMismatch expected found _ => .typeMismatch expected found .start
  | arity expected got _ => .arity expected got .start
  | builtinArity name expected got => .builtinArity name expected got
  | builtinType name expected found => .builtinType name expected found
  | notEvaluable => .notEvaluable
  | unprintable cause => .unprintable cause
  | stackExhausted => .stackExhausted

theorem Expr.allUnplaced_eq_map (expressions : List Expr) :
    allUnplaced expressions = expressions.map unplaced := by
  induction expressions with
  | nil => rfl
  | cons expression expressions ih => rw [allUnplaced, ih, List.map_cons]

/-- Bindings with all positions in their values forgotten. -/
def unplacedBindings (bindings : List (String × Value)) : List (String × Value) :=
  bindings.map fun (name, value) => (name, value.unplaced)

theorem lookUp_unplaced (name : String) (bindings : List (String × Value)) :
    lookUp name (unplacedBindings bindings) = (lookUp name bindings).map Value.unplaced := by
  induction bindings with
  | nil => rfl
  | cons binding bindings ih =>
      simp only [unplacedBindings, List.map_cons, lookUp] at ih ⊢
      split
      · rfl
      · exact ih

theorem assign_unplaced (name : String) (value : Value) (bindings : List (String × Value)) :
    unplacedBindings (assign name value bindings) =
      assign name value.unplaced (unplacedBindings bindings) := by
  induction bindings with
  | nil => rfl
  | cons binding bindings ih =>
      simp only [unplacedBindings, List.map_cons, assign] at ih ⊢
      split
      · rfl
      · rw [List.map_cons, ih]

theorem unassign_unplaced (name : String) (bindings : List (String × Value)) :
    unplacedBindings (unassign name bindings) = unassign name (unplacedBindings bindings) := by
  induction bindings with
  | nil => rfl
  | cons binding bindings ih =>
      simp only [unplacedBindings, List.map_cons, unassign] at ih ⊢
      split
      · exact ih
      · rw [List.map_cons, ih]

namespace Environment

/-- An environment with all positions in its values forgotten. -/
def unplaced (environment : Environment) : Environment := ⟨unplacedBindings environment.bindings⟩

theorem get?_unplaced (environment : Environment) (name : String) :
    environment.unplaced.get? name = (environment.get? name).map Value.unplaced :=
  lookUp_unplaced name environment.bindings

theorem set_unplaced (environment : Environment) (name : String) (value : Value) :
    (environment.set name value).unplaced = environment.unplaced.set name value.unplaced := by
  simp only [unplaced, set, assign_unplaced]

theorem reset_unplaced (environment : Environment) (name : String) (value : Option Value) :
    (environment.reset (name, value)).unplaced =
      environment.unplaced.reset (name, value.map Value.unplaced) := by
  cases value with
  | none => simp only [unplaced, reset, erase, unassign_unplaced, Option.map_none]
  | some value => exact environment.set_unplaced name value

/-- Restoring what names were bound to in one environment does not depend on positions. -/
theorem restore_capture_unplaced (environment captured : Environment) (names : List String) :
    (environment.restore (captured.capture names)).unplaced =
      environment.unplaced.restore (captured.unplaced.capture names) := by
  induction names generalizing environment with
  | nil => rfl
  | cons name names ih =>
      have later := ih (environment.reset (name, captured.get? name))
      rw [reset_unplaced, ← get?_unplaced] at later
      exact later

end Environment

/-- Machines that differ in positions only and have printed the same text since some time. -/
structure Machine.Alike (front front' : String) (left right : Machine) : Prop where
  /-- The environments are the same but for positions. -/
  environment : left.environment.unplaced = right.environment.unplaced
  /-- The same text has been printed behind what was there before. -/
  output : ∃ printed, left.output = front ++ printed ∧ right.output = front' ++ printed

/-- Computations that give the same answers but for positions. -/
def Concur {α : Type} (forget : α → α) (left right : Evaluation α) : Prop :=
  ∀ front front', Agree (Machine.Alike front front')
    (fun error error' => error.unplaced = error'.unplaced)
    (fun value value' => forget value = forget value') left right

/-- The correspondence of expressions and machines that differ in positions only. -/
def Correspondence.placeless (front front' : String) : Correspondence where
  expressions left right := left.unplaced = right.unplaced
  names _ := True
  positions _ _ := True
  machines := Machine.Alike front front'

namespace Correspondence

variable {front front' : String}

theorem values_placeless_iff {value value' : Value} :
    (placeless front front').Values value value' ↔ value.unplaced = value'.unplaced := by
  constructor
  · intro same
    cases same with
    | integer value => rfl
    | function _ part => exact congrArg (Value.function _) part
    | builtin builtin => rfl
  · intro same
    cases value <;> cases value' <;>
      simp only [Value.unplaced, reduceCtorEq, Value.integer.injEq, Value.function.injEq,
        Value.builtin.injEq] at same
    case integer.integer => exact same ▸ .integer _
    case function.function =>
        obtain ⟨rfl, part⟩ := same
        exact .function (fun _ _ => trivial) part
    case builtin.builtin => exact same ▸ .builtin _

theorem shapes_placeless {tree tree' : Expr} (same : tree.unplaced = tree'.unplaced) :
    (placeless front front').Shapes tree tree' := by
  cases tree <;> cases tree' <;>
    simp only [Expr.unplaced, reduceCtorEq, Expr.integer.injEq, Expr.identifier.injEq,
      Expr.conditional.injEq, Expr.define.injEq, Expr.call.injEq, true_and] at same
  case integer.integer => exact same ▸ .integer _
  case identifier.identifier => exact same ▸ .identifier trivial
  case conditional.conditional => exact .conditional same.1 same.2.1 same.2.2
  case define.define =>
      obtain ⟨rfl, rfl, part⟩ := same
      exact .define trivial (fun _ _ => trivial) part
  case call.call =>
      obtain ⟨rfl, each⟩ := same
      rw [Expr.allUnplaced_eq_map, Expr.allUnplaced_eq_map, ← List.forall₂_eq_eq_eq,
        List.forall₂_map_left_iff, List.forall₂_map_right_iff] at each
      exact .call trivial each
  case hole.hole => exact .hole

theorem placeless_lawful (front front' : String) : (placeless front front').Lawful where
  shape same := shapes_placeless same
  place _ := trivial
  get? {left right name} alike _ := by
    have bound : (left.environment.get? name).map Value.unplaced =
        (right.environment.get? name).map Value.unplaced := by
      rw [← Environment.get?_unplaced, ← Environment.get?_unplaced, alike.environment]
    cases here : left.environment.get? name <;> cases there : right.environment.get? name <;>
      simp only [here, there, Option.map_none, Option.map_some, reduceCtorEq, Option.some.injEq]
        at bound
    case none.none => exact .none
    case some.some => exact .some (values_placeless_iff.mpr bound)
  set alike _ same := by
    refine ⟨?_, alike.output⟩
    simp only [Machine.set, Environment.set_unplaced, alike.environment,
      values_placeless_iff.mp same]
  write text alike := ⟨alike.environment, Machine.output_write text alike.output⟩
  restore before after _ := by
    refine ⟨?_, after.output⟩
    simp only [Machine.restore, Environment.restore_capture_unplaced, before.environment,
      after.environment]

theorem Errors.unplaced_eq {error error' : EvalError}
    (same : (placeless front front').Errors error error') : error.unplaced = error'.unplaced := by
  cases same <;> rfl

end Correspondence

/-- Whatever the budget, evaluation does not depend on positions. -/
theorem Concur.evaluate (budget : Nat) {tree tree' : Expr} (same : tree.unplaced = tree'.unplaced) :
    Concur Value.unplaced (DynLisp.evaluate budget tree) (DynLisp.evaluate budget tree') := by
  intro front front'
  have agrees := (Correspondence.placeless_lawful front front').agrees_evaluate budget same
  exact agrees.imp (fun _ _ => Correspondence.Errors.unplaced_eq)
    fun _ _ => Correspondence.values_placeless_iff.mp

end DynLisp
