import DynLisp.Proofs.KeptBindings
import DynLisp.Proofs.Lockstep
import Mathlib.Data.List.Forall2

/-!
# Two evaluations side by side

A correspondence says which expressions are evaluated side by side, which names they may mention,
which of their positions go together, and how the two machines are related.  It is lawful if such
expressions have the same shape and the same names, and if machines stay related under the single
things that evaluation does to them: looking up a name, binding it, writing, and restoring the names
of parameters.  Evaluations in a lawful correspondence run in lockstep, whatever the budget.
-/

namespace DynLisp

/-- Machines that have printed the same text since some time still have after one more text. -/
theorem Machine.output_write {front front' : String} {left right : Machine} (text : String)
    (output : ∃ printed, left.output = front ++ printed ∧ right.output = front' ++ printed) :
    ∃ printed, (left.write text).output = front ++ printed ∧
      (right.write text).output = front' ++ printed := by
  obtain ⟨printed, here, there⟩ := output
  refine ⟨printed ++ text, ?_, ?_⟩
  · rw [Machine.write, here, String.append_assoc]
  · rw [Machine.write, there, String.append_assoc]

/-- What two evaluations have in common. -/
structure Correspondence where
  /-- The expressions that are evaluated side by side. -/
  expressions : Expr → Expr → Prop
  /-- The names that these expressions may mention. -/
  names : String → Prop
  /-- The positions that go together. -/
  positions : Position → Position → Prop
  /-- How the machines are related. -/
  machines : Machine → Machine → Prop

namespace Correspondence

/-- Expressions of the same shape with the same names, whose parts are evaluated side by side. -/
inductive Shapes (correspondence : Correspondence) : Expr → Expr → Prop
  /-- The same integer. -/
  | integer {position position' : Position} (value : Int) :
      Shapes correspondence (.integer position value) (.integer position' value)
  /-- The same name. -/
  | identifier {position position' : Position} {name : String}
      (known : correspondence.names name) :
      Shapes correspondence (.identifier position name) (.identifier position' name)
  /-- Conditionals. -/
  | conditional {position position' : Position}
      {test test' chosen chosen' other other' : Expr}
      (first : correspondence.expressions test test')
      (second : correspondence.expressions chosen chosen')
      (third : correspondence.expressions other other') :
      Shapes correspondence (.conditional position test chosen other)
        (.conditional position' test' chosen' other')
  /-- Definitions of the same name, with the same parameters. -/
  | define {position position' : Position} {name : String} {parameters : Option (List String)}
      {value value' : Expr} (known : correspondence.names name)
      (owned : ∀ parameter ∈ parameters.getD [], correspondence.names parameter)
      (part : correspondence.expressions value value') :
      Shapes correspondence (.define position name parameters value)
        (.define position' name parameters value')
  /-- Calls of the same name. -/
  | call {position position' : Position} {name : String} {arguments arguments' : List Expr}
      (known : correspondence.names name)
      (each : List.Forall₂ correspondence.expressions arguments arguments') :
      Shapes correspondence (.call position name arguments) (.call position' name arguments')
  /-- No expressions at all. -/
  | hole {position position' : Position} : Shapes correspondence (.hole position) (.hole position')

/-- Values that are the same but for function bodies, which are evaluated side by side. -/
inductive Values (correspondence : Correspondence) : Value → Value → Prop
  /-- The same integer. -/
  | integer (value : Int) : Values correspondence (.integer value) (.integer value)
  /-- Functions with the same parameters. -/
  | function {parameters : List String} {body body' : Expr}
      (owned : ∀ parameter ∈ parameters, correspondence.names parameter)
      (part : correspondence.expressions body body') :
      Values correspondence (.function parameters body) (.function parameters body')
  /-- The same builtin function. -/
  | builtin (builtin : Builtin) : Values correspondence (.builtin builtin) (.builtin builtin)

/-- Errors that are the same but for positions that go together. -/
inductive Errors (correspondence : Correspondence) : EvalError → EvalError → Prop
  /-- The same name is not bound. -/
  | unknownVariable {position position' : Position} (name : String) (span : Int)
      (place : correspondence.positions position position') :
      Errors correspondence (.unknownVariable name position span)
        (.unknownVariable name position' span)
  /-- A value of the same type stands where another one is needed. -/
  | typeMismatch {position position' : Position} (expected found : String)
      (place : correspondence.positions position position') :
      Errors correspondence (.typeMismatch expected found position)
        (.typeMismatch expected found position')
  /-- A function is called with the same wrong number of arguments. -/
  | arity {position position' : Position} (expected got : Nat)
      (place : correspondence.positions position position') :
      Errors correspondence (.arity expected got position) (.arity expected got position')
  /-- The errors are the same. -/
  | same (error : EvalError) : Errors correspondence error error

/-- A correspondence that the single things evaluation does are in accordance with. -/
structure Lawful (correspondence : Correspondence) : Prop where
  /-- Expressions that are evaluated side by side have the same shape. -/
  shape {tree tree' : Expr} : correspondence.expressions tree tree' →
    correspondence.Shapes tree tree'
  /-- Their positions go together. -/
  place {tree tree' : Expr} : correspondence.expressions tree tree' →
    correspondence.positions tree.position tree'.position
  /-- A name is bound to corresponding values, or to none. -/
  get? {machine machine' : Machine} {name : String} : correspondence.machines machine machine' →
    correspondence.names name →
      Option.Rel correspondence.Values (machine.environment.get? name)
        (machine'.environment.get? name)
  /-- A name is bound. -/
  set {machine machine' : Machine} {name : String} {value value' : Value} :
    correspondence.machines machine machine' → correspondence.names name →
      correspondence.Values value value' →
        correspondence.machines (machine.set name value) (machine'.set name value')
  /-- Something is written. -/
  write {machine machine' : Machine} (text : String) : correspondence.machines machine machine' →
    correspondence.machines (machine.write text) (machine'.write text)
  /-- Names are restored. -/
  restore {before before' after after' : Machine} {names : List String} :
    correspondence.machines before before' → correspondence.machines after after' →
      (∀ name ∈ names, correspondence.names name) →
        correspondence.machines (after.restore (before.environment.capture names))
          (after'.restore (before'.environment.capture names))

section Values

variable {correspondence : Correspondence}

theorem Values.text_eq {value value' : Value} (same : correspondence.Values value value') :
    value.text = value'.text := by
  cases same <;> rfl

theorem Values.textFault?_eq {value value' : Value} (same : correspondence.Values value value') :
    value.textFault? = value'.textFault? := by
  cases same <;> rfl

theorem Values.isZero_eq {value value' : Value} (same : correspondence.Values value value') :
    value.isZero = value'.isZero := by
  cases same <;> rfl

variable {arguments arguments' : List Value}
  (same : List.Forall₂ correspondence.Values arguments arguments')
include same

theorem Values.texts_eq : arguments.map Value.text = arguments'.map Value.text := by
  induction same with
  | nil => rfl
  | cons first _ ih => rw [List.map_cons, List.map_cons, first.text_eq, ih]

theorem Values.printing_eq : Builtin.printing arguments = Builtin.printing arguments' := by
  have faults : arguments.findSome? Value.textFault? = arguments'.findSome? Value.textFault? := by
    induction same with
    | nil => rfl
    | cons first _ ih => rw [List.findSome?_cons, List.findSome?_cons, first.textFault?_eq, ih]
  rw [Builtin.printing, Builtin.printing, faults]

theorem Values.arithmetic_eq (builtin : Builtin) (operation : Int → Int → Int) :
    builtin.arithmetic operation arguments = builtin.arithmetic operation arguments' := by
  cases same with
  | nil => rfl
  | cons first later =>
      cases later with
      | nil => cases first <;> rfl
      | cons second later =>
          cases later with
          | nil => cases first <;> cases second <;> rfl
          | cons _ later => simp [Builtin.arithmetic, later.length_eq]

theorem Values.comparison_eq (builtin : Builtin) (relation : Int → Int → Bool) :
    builtin.comparison relation arguments = builtin.comparison relation arguments' := by
  cases same with
  | nil => rfl
  | cons first later =>
      cases later with
      | nil => cases first <;> rfl
      | cons second later =>
          cases later with
          | nil => cases first <;> cases second <;> rfl
          | cons _ later => simp [Builtin.comparison, later.length_eq]

/-- Builtin functions compute the same from corresponding values. -/
theorem Values.result_eq (builtin : Builtin) :
    builtin.result arguments = builtin.result arguments' := by
  cases builtin with
  | add => exact arithmetic_eq same _ _
  | subtract => exact arithmetic_eq same _ _
  | multiply => exact arithmetic_eq same _ _
  | equal => exact comparison_eq same _ _
  | greater => exact comparison_eq same _ _
  | less => exact comparison_eq same _ _
  | print => exact printing_eq same

theorem Values.written_eq (builtin : Builtin) :
    builtin.written arguments = builtin.written arguments' := by
  cases builtin with
  | print => simp only [Builtin.written, texts_eq same]
  | _ => rfl

end Values

/-- Computations that run in lockstep from all machines that are related. -/
def Agrees (correspondence : Correspondence) {α β : Type} (results : α → β → Prop)
    (left : Evaluation α) (right : Evaluation β) : Prop :=
  Agree correspondence.machines correspondence.Errors results left right

namespace Agrees

variable {correspondence : Correspondence} {α β : Type} {results : α → β → Prop}
  (lawful : correspondence.Lawful)
include lawful

theorem lookup {name : String} (known : correspondence.names name) {position position' : Position}
    (place : correspondence.positions position position') (span : Int) :
    correspondence.Agrees correspondence.Values (DynLisp.lookup name position span)
      (DynLisp.lookup name position' span) := by
  intro here there related
  have bound := lawful.get? related known
  unfold DynLisp.lookup
  generalize here.environment.get? name = value at bound ⊢
  generalize there.environment.get? name = value' at bound ⊢
  cases bound with
  | none => exact .error (.unknownVariable name span place) related
  | some same => exact .ok same related

theorem define {name : String} (known : correspondence.names name) {value value' : Value}
    (same : correspondence.Values value value') :
    correspondence.Agrees (fun _ _ => True) (DynLisp.define name value)
      (DynLisp.define name value') := by
  intro here there related
  exact .ok trivial (lawful.set related known same)

theorem call (builtin : Builtin) {arguments arguments' : List Value}
    (same : List.Forall₂ correspondence.Values arguments arguments') :
    correspondence.Agrees correspondence.Values (builtin.call arguments)
      (builtin.call arguments') := by
  intro here there related
  unfold Builtin.call
  rw [← Values.result_eq same, ← Values.written_eq same]
  cases computed : builtin.result arguments with
  | error error => exact .error (.same error) related
  | ok value =>
      obtain ⟨number, rfl⟩ := Builtin.result_eq_ok computed
      exact .ok (.integer number) (lawful.write _ related)

/-- Names are restored side by side, however the computations in between end. -/
theorem shadowing {names : List String} (owned : ∀ name ∈ names, correspondence.names name)
    {body : Evaluation α} {body' : Evaluation β}
    (agrees : correspondence.Agrees results body body') :
    correspondence.Agrees results (DynLisp.shadowing names body)
      (DynLisp.shadowing names body') := by
  intro here there related
  have inner := agrees here there related
  unfold DynLisp.shadowing
  generalize body here = result at inner ⊢
  generalize body' there = result' at inner ⊢
  cases inner with
  | ok value state => exact .ok value (lawful.restore related state owned)
  | error error state => exact .error error (lawful.restore related state owned)

variable {evaluate : Expr → Evaluation Value}
  (each : ∀ tree tree', correspondence.expressions tree tree' →
    correspondence.Agrees correspondence.Values (evaluate tree) (evaluate tree'))
include each

omit lawful in
theorem evaluateAll {trees trees' : List Expr}
    (pairs : List.Forall₂ correspondence.expressions trees trees') :
    correspondence.Agrees (List.Forall₂ correspondence.Values)
      (DynLisp.evaluateAll evaluate trees) (DynLisp.evaluateAll evaluate trees') := by
  induction pairs with
  | nil => exact Agree.pure .nil
  | cons first _ ih =>
      refine Agree.bind (each _ _ first) fun value value' same => ?_
      refine Agree.bind ih fun values values' later => ?_
      exact Agree.pure (.cons same later)

theorem bindParameters {parameters : List String}
    (owned : ∀ name ∈ parameters, correspondence.names name) {arguments arguments' : List Expr}
    (pairs : List.Forall₂ correspondence.expressions arguments arguments') :
    correspondence.Agrees (fun _ _ => True) (DynLisp.bindParameters evaluate parameters arguments)
      (DynLisp.bindParameters evaluate parameters arguments') := by
  induction parameters generalizing arguments arguments' with
  | nil => cases pairs <;> exact Agree.pure trivial
  | cons name parameters ih =>
      simp only [List.mem_cons, forall_eq_or_imp] at owned
      cases pairs with
      | nil => exact Agree.pure trivial
      | cons first later =>
          refine Agree.bind (each _ _ first) fun value value' same => ?_
          exact Agree.bind (define lawful owned.1 same) fun _ _ _ => ih owned.2 later

theorem callFunction {parameters : List String}
    (owned : ∀ name ∈ parameters, correspondence.names name) {body body' : Expr}
    (part : correspondence.expressions body body') {arguments arguments' : List Expr}
    (pairs : List.Forall₂ correspondence.expressions arguments arguments')
    {position position' : Position} (place : correspondence.positions position position') :
    correspondence.Agrees correspondence.Values
      (DynLisp.callFunction evaluate parameters body arguments position)
      (DynLisp.callFunction evaluate parameters body' arguments' position') := by
  unfold DynLisp.callFunction
  rw [pairs.length_eq]
  split
  · apply shadowing lawful owned
    exact Agree.bind (bindParameters lawful each owned pairs) fun _ _ _ => each _ _ part
  · exact Agree.throw (.arity _ _ place)

end Agrees

/-- Whatever the budget, all parts of evaluation run in lockstep. -/
theorem Lawful.within {correspondence : Correspondence} (lawful : correspondence.Lawful)
    (budget : Nat) :
    (∀ tree tree', correspondence.expressions tree tree' →
      correspondence.Agrees correspondence.Values (evaluate budget tree)
        (evaluate budget tree')) ∧
    (∀ callee callee' arguments arguments' position position',
      correspondence.Values callee callee' →
      List.Forall₂ correspondence.expressions arguments arguments' →
      correspondence.positions position position' →
      correspondence.Agrees correspondence.Values (callValue budget callee arguments position)
        (callValue budget callee' arguments' position')) ∧
    (∀ arguments arguments', List.Forall₂ correspondence.expressions arguments arguments' →
      correspondence.Agrees (List.Forall₂ correspondence.Values)
        (evaluateArguments budget arguments) (evaluateArguments budget arguments')) := by
  -- A nested evaluation has a smaller budget, but its expression need not be a smaller one.
  induction budget with
  | zero =>
      refine ⟨?_, ?_, ?_⟩
      · exact fun _ _ _ => Agree.throw (.same _)
      · exact fun _ _ _ _ _ _ _ _ _ => Agree.throw (.same _)
      · exact fun _ _ _ => Agree.throw (.same _)
  | succ budget ih =>
      obtain ⟨evaluate, callValue, evaluateArguments⟩ := ih
      refine ⟨?_, ?_, fun _ _ pairs => Agrees.evaluateAll evaluate pairs⟩
      · intro tree tree' pair
        have place := lawful.place pair
        cases lawful.shape pair with
        | integer value => exact Agree.pure (.integer value)
        | identifier known => exact Agrees.lookup lawful known place _
        | conditional first second third =>
            refine Agree.bind (evaluate _ _ first) fun chosen chosen' same => ?_
            rw [same.isZero_eq]
            split
            · exact evaluate _ _ third
            · exact evaluate _ _ second
        | @define _ _ name parameters value value' known owned part =>
            have defined {result result' : Value} (same : correspondence.Values result result') :
                correspondence.Agrees correspondence.Values
                  (DynLisp.define name result >>= fun _ => pure (.integer 0))
                  (DynLisp.define name result' >>= fun _ => pure (.integer 0)) :=
              Agree.bind (Agrees.define lawful known same) fun _ _ _ => Agree.pure (.integer 0)
            cases parameters with
            | none => exact Agree.bind (evaluate _ _ part) fun _ _ same => defined same
            | some parameters => exact defined (.function owned part)
        | call known each =>
            refine Agree.bind (Agrees.lookup lawful known place _) fun callee callee' same => ?_
            exact callValue _ _ _ _ _ _ same each place
        | hole => exact Agree.throw (.same _)
      · intro callee callee' arguments arguments' position position' same pairs place
        cases same with
        | integer value => exact Agree.throw (.typeMismatch _ _ place)
        | function owned part => exact Agrees.callFunction lawful evaluate owned part pairs place
        | builtin builtin =>
            exact Agree.bind (evaluateArguments _ _ pairs) fun _ _ values =>
              Agrees.call lawful builtin values

/-- Evaluations in a lawful correspondence run in lockstep. -/
theorem Lawful.agrees_evaluate {correspondence : Correspondence} (lawful : correspondence.Lawful)
    (budget : Nat) {tree tree' : Expr} (pair : correspondence.expressions tree tree') :
    correspondence.Agrees correspondence.Values (evaluate budget tree) (evaluate budget tree') :=
  (lawful.within budget).1 tree tree' pair

end Correspondence
end DynLisp
