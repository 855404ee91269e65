import DynLisp.Proofs.Correspondence
import Mathlib.Data.Set.Basic

/-!
# Evaluation depends on the names in sight only

A set of names is closed in an environment if the functions bound to them mention no other names.
An evaluation that starts with names of a closed set never gets to see another one, although a
function sees the bindings of its callers and functions are handed over as values: it reads and
binds names of the set only, and leaves the set closed.  Two environments that bind these names
alike therefore give the same answer and the same output, and all other bindings stay as they are.
-/

namespace DynLisp

mutual

/-- The names that occur in an expression. -/
def Expr.names : Expr → List String
  | integer _ _ => []
  | identifier _ name => [name]
  | conditional _ condition consequence alternative =>
      condition.names ++ consequence.names ++ alternative.names
  | define _ name parameters value => name :: (parameters.getD [] ++ value.names)
  | call _ name arguments => name :: namesOfAll arguments
  | hole _ => []

/-- The names that occur in some expressions. -/
def Expr.namesOfAll : List Expr → List String
  | [] => []
  | tree :: trees => tree.names ++ namesOfAll trees

end

theorem Expr.mem_namesOfAll {trees : List Expr} {tree : Expr} (member : tree ∈ trees)
    {name : String} (occurs : name ∈ tree.names) : name ∈ namesOfAll trees := by
  induction trees with
  | nil => cases member
  | cons first trees ih =>
      rw [namesOfAll, List.mem_append]
      rcases List.mem_cons.mp member with rfl | member
      · exact Or.inl occurs
      · exact Or.inr (ih member)

/-- Whether an expression mentions names of a set only. -/
def Expr.IsWithin (names : Set String) (tree : Expr) : Prop := ∀ name ∈ tree.names, name ∈ names

instance (names : Set String) [DecidablePred (· ∈ names)] (tree : Expr) :
    Decidable (tree.IsWithin names) :=
  inferInstanceAs (Decidable (∀ name ∈ tree.names, name ∈ names))

theorem Expr.IsWithin.part {names : Set String} {tree part : Expr} (within : tree.IsWithin names)
    (member : part ∈ tree.parts) : part.IsWithin names := by
  intro name occurs
  apply within
  cases tree with
  | conditional position condition consequence alternative =>
      simp only [parts, List.mem_cons, List.not_mem_nil, or_false] at member
      simp only [Expr.names, List.mem_append]
      rcases member with rfl | rfl | rfl
      · exact Or.inl (Or.inl occurs)
      · exact Or.inl (Or.inr occurs)
      · exact Or.inr occurs
  | define position defined parameters value =>
      obtain rfl : part = value := by simpa [parts] using member
      simp only [Expr.names, List.mem_cons, List.mem_append]
      exact Or.inr (Or.inr occurs)
  | call position callee arguments =>
      exact List.mem_cons_of_mem _ (mem_namesOfAll member occurs)
  | _ => cases member

/-- Whether a value mentions names of a set only. -/
def Value.IsWithin (names : Set String) : Value → Prop
  | function parameters body => (∀ name ∈ parameters, name ∈ names) ∧ body.IsWithin names
  | _ => True

instance (names : Set String) [DecidablePred (· ∈ names)] :
    DecidablePred (Value.IsWithin names)
  | .integer _ => inferInstanceAs (Decidable True)
  | .function parameters body =>
      inferInstanceAs (Decidable ((∀ name ∈ parameters, name ∈ names) ∧ body.IsWithin names))
  | .builtin _ => inferInstanceAs (Decidable True)

namespace Environment

/-- Whether the names of a set are bound to values that mention names of this set only. -/
def ClosedOn (names : Set String) (environment : Environment) : Prop :=
  ∀ name ∈ names, ∀ value, environment.get? name = some value → value.IsWithin names

variable {names : Set String} {environment captured : Environment}

theorem ClosedOn.set (closed : environment.ClosedOn names) (name : String) {value : Value}
    (within : value.IsWithin names) : (environment.set name value).ClosedOn names := by
  intro other member bound
  rw [get?_set]
  split
  · rintro ⟨⟩
    exact within
  · exact closed other member bound

theorem ClosedOn.restore_capture (closed : environment.ClosedOn names)
    (closed_captured : captured.ClosedOn names) (restored : List String) :
    (environment.restore (captured.capture restored)).ClosedOn names := by
  intro name member value
  rw [get?_restore_capture]
  split
  · exact closed_captured name member value
  · exact closed name member value

end Environment

/-- Machines that two others have come to without a difference on a set of names. -/
structure Machine.AgreeOn (names : Set String) (left right here there : Machine) : Prop where
  /-- The names of the set are bound alike. -/
  bound : ∀ name ∈ names, here.environment.get? name = there.environment.get? name
  /-- The set is closed in both environments. -/
  closed : here.environment.ClosedOn names ∧ there.environment.ClosedOn names
  /-- All other names mean what they meant before. -/
  untouched : ∀ name ∉ names, here.environment.get? name = left.environment.get? name ∧
    there.environment.get? name = right.environment.get? name
  /-- The same text has been printed behind what was there before. -/
  output : ∃ printed, here.output = left.output ++ printed ∧ there.output = right.output ++ printed

/-- The correspondence of an expression with itself, in machines that agree on the names in
sight. -/
def Correspondence.confined (names : Set String) (left right : Machine) : Correspondence where
  expressions tree tree' := tree = tree' ∧ tree.IsWithin names
  names name := name ∈ names
  positions := Eq
  machines := Machine.AgreeOn names left right

namespace Correspondence

variable {names : Set String} {left right : Machine}

theorem values_confined_iff {value value' : Value} :
    (confined names left right).Values value value' ↔ value = value' ∧ value.IsWithin names := by
  constructor
  · intro same
    cases same with
    | integer value => exact ⟨rfl, trivial⟩
    | function owned part => exact ⟨congrArg (Value.function _) part.1, owned, part.2⟩
    | builtin builtin => exact ⟨rfl, trivial⟩
  · rintro ⟨rfl, within⟩
    cases value with
    | integer value => exact .integer value
    | function parameters body => exact .function within.1 ⟨rfl, within.2⟩
    | builtin builtin => exact .builtin builtin

theorem shapes_confined {tree : Expr} (within : tree.IsWithin names) :
    (confined names left right).Shapes tree tree := by
  have parts {part : Expr} (member : part ∈ tree.parts) :
      (confined names left right).expressions part part := ⟨rfl, within.part member⟩
  cases tree with
  | integer position value => exact .integer value
  | identifier position name => exact .identifier (within name List.mem_cons_self)
  | conditional position condition consequence alternative =>
      exact .conditional (parts (by simp [Expr.parts])) (parts (by simp [Expr.parts]))
        (parts (by simp [Expr.parts]))
  | define position name parameters value =>
      refine .define (within name List.mem_cons_self) (fun parameter member => ?_)
        (parts (by simp [Expr.parts]))
      exact within parameter (List.mem_cons_of_mem _ (List.mem_append_left _ member))
  | call position name arguments =>
      exact .call (within name List.mem_cons_self)
        (List.forall₂_same.mpr fun _ member => parts member)
  | hole position => exact .hole

theorem confined_lawful (names : Set String) (left right : Machine) :
    (confined names left right).Lawful where
  shape := by
    rintro tree _ ⟨rfl, within⟩
    exact shapes_confined within
  place pair := congrArg Expr.position pair.1
  get? {here there name} agree known := by
    rw [agree.bound name known]
    cases value : there.environment.get? name with
    | none => exact .none
    | some value' =>
        exact .some (values_confined_iff.mpr ⟨rfl, agree.closed.2 name known value' value⟩)
  set {here there name value value'} agree known same := by
    obtain ⟨rfl, within⟩ := values_confined_iff.mp same
    refine ⟨fun other member => ?_,
      ⟨agree.closed.1.set name within, agree.closed.2.set name within⟩,
      fun other outside => ?_, agree.output⟩
    · simp only [Machine.set, Environment.get?_set, agree.bound other member]
    · have different : other ≠ name := fun same => outside (same ▸ known)
      simpa only [Machine.set, Environment.get?_set, different, if_false] using
        agree.untouched other outside
  write text agree :=
    ⟨agree.bound, agree.closed, agree.untouched, Machine.output_write text agree.output⟩
  restore {before before' after after' parameters} start agree owned := by
    refine ⟨fun name member => ?_,
      ⟨agree.closed.1.restore_capture start.closed.1 parameters,
        agree.closed.2.restore_capture start.closed.2 parameters⟩,
      fun name outside => ?_, agree.output⟩
    · simp only [Machine.restore, Environment.get?_restore_capture, start.bound name member,
        agree.bound name member]
    · have different : name ∉ parameters := fun member => outside (owned name member)
      simpa only [Machine.restore, Environment.get?_restore_capture, different, if_false] using
        agree.untouched name outside

theorem Errors.eq_of_confined {error error' : EvalError}
    (same : (confined names left right).Errors error error') : error = error' := by
  cases same with
  | unknownVariable name span place => exact congrArg (EvalError.unknownVariable name · span) place
  | typeMismatch expected found place =>
      exact congrArg (EvalError.typeMismatch expected found) place
  | arity expected got place => exact congrArg (EvalError.arity expected got) place
  | same error => rfl

end Correspondence

/-- Evaluation depends on the names in sight only.  If all names of an expression are in a set, the
set is closed in one of two environments, and they bind its names alike, then the expression has the
same value or the same error in both, and the same text is printed.  Both environments bind the
names of the set alike afterwards, the set is closed in both, and all other names mean what they
meant before. -/
theorem evaluate_confined (budget : Nat) {names : Set String} {tree : Expr}
    (within : ∀ name ∈ tree.names, name ∈ names) {left right : Machine}
    (closed : left.environment.ClosedOn names)
    (alike : ∀ name ∈ names, left.environment.get? name = right.environment.get? name) :
    Lockstep (Machine.AgreeOn names left right) Eq Eq (evaluate budget tree left)
      (evaluate budget tree right) := by
  have closed' : right.environment.ClosedOn names := by
    intro name member value bound
    exact closed name member value ((alike name member).trans bound)
  have start : Machine.AgreeOn names left right left right :=
    ⟨alike, ⟨closed, closed'⟩, fun _ _ => ⟨rfl, rfl⟩, "", by simp, by simp⟩
  have agrees := (Correspondence.confined_lawful names left right).agrees_evaluate budget
    (show tree = tree ∧ tree.IsWithin names from ⟨rfl, within⟩)
  exact agrees.imp (fun _ _ => Correspondence.Errors.eq_of_confined)
    (fun _ _ same => (Correspondence.values_confined_iff.mp same).1) left right start

/-- A function handed to another one adds to `total`, which only its own body names.  A second
environment has a further binding in front and one behind, and `total` at another place. -/
theorem evaluate_confined_handed :
    let names : Set String := {name | name ∈ ["apply", "f", "bump", "n", "total", "+"]}
    let apply := Value.function ["f"] (.call .start "f" [.integer .start 2])
    let bump := Value.function ["n"] (.define .start "total" none
      (.call .start "+" [.identifier .start "n", .identifier .start "total"]))
    let left : Machine :=
      ⟨⟨[("+", .builtin .add), ("apply", apply), ("bump", bump), ("total", .integer 1)]⟩, ""⟩
    let right : Machine :=
      ⟨⟨[("secret", .integer 7), ("total", .integer 1), ("bump", bump), ("apply", apply),
        ("+", .builtin .add), ("leak", .function [] (.identifier .start "secret"))]⟩, "before"⟩
    let tree := Expr.call .start "apply" [.identifier .start "bump"]
    (∀ name ∈ tree.names, name ∈ names) ∧ left.environment.ClosedOn names ∧
      (∀ name ∈ names, left.environment.get? name = right.environment.get? name) ∧
      ((evaluate 20 tree).leaves left).environment.get? "total" = some (.integer 3) ∧
      Lockstep (Machine.AgreeOn names left right) Eq Eq (evaluate 20 tree left)
        (evaluate 20 tree right) := by
  intro names apply bump left right tree
  have within : ∀ name ∈ tree.names, name ∈ names := by decide
  have bodies : ∀ binding ∈ left.environment.bindings, binding.2.IsWithin names := by
    decide
  have closed : left.environment.ClosedOn names := fun name _ value bound =>
    bodies _ (mem_of_lookUp bound)
  have alike : ∀ name ∈ names, left.environment.get? name = right.environment.get? name := by
    change ∀ name ∈ ["apply", "f", "bump", "n", "total", "+"], _
    simp only [List.forall_mem_cons]
    exact ⟨rfl, rfl, rfl, rfl, rfl, rfl, by simp⟩
  exact ⟨within, closed, alike, rfl, evaluate_confined 20 within closed alike⟩

end DynLisp
