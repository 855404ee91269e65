import DynLisp.Proofs.Lockstep
import DynLisp.Proofs.Restoration
import DynLisp.Proofs.Scopes

/-!
# Saving and restoring is dynamic scoping

Evaluation in one flat environment that saves and restores parameter names gives the same answers as
evaluation with a stack of frames.  The invariant is `Mirrors`: every name means the same on both
sides, and restoring the pending shadows from the innermost to the outermost one leads from the flat
environment through the meanings without the frames to the global bindings themselves.
-/

namespace DynLisp

open Environment (saved)

/-- An environment that stands for scopes, given the shadows of the calls in progress, innermost
first. -/
inductive Mirrors : List Shadow → Scopes → Environment → Prop
  /-- Outside of all calls the environment is the global bindings. -/
  | base (globals : Environment) : Mirrors [] (.base globals) globals
  /-- Inside a call the environment agrees with the scopes on every name, has kept what was bound
  outside, and stands for the outer scopes once the shadow is restored. -/
  | frame {pending : List Shadow} {entries : Frame} {outer : Scopes} {environment : Environment}
      (same : ∀ name, environment.get? name = (Scopes.frame entries outer).get? name)
      (holds : environment.Holds outer.get? entries.names)
      (restored : Mirrors pending outer (environment.restore (saved outer.get? entries.names))) :
      Mirrors (saved outer.get? entries.names :: pending) (.frame entries outer) environment

namespace Mirrors

theorem get?_eq {pending : List Shadow} {scopes : Scopes} {environment : Environment}
    (mirrors : Mirrors pending scopes environment) (name : String) :
    environment.get? name = scopes.get? name := by
  cases mirrors with
  | base => rfl
  | frame same => exact same name

/-- A definition of a name that the innermost frame owns is undone with the shadow. -/
theorem set_of_mem {pending : List Shadow} {entries : Frame} {outer : Scopes}
    {environment : Environment} {name : String}
    (mirrors : Mirrors pending (.frame entries outer) environment) (member : name ∈ entries.names)
    (value : Value) :
    Mirrors pending ((Scopes.frame entries outer).set name value) (environment.set name value) := by
  cases mirrors with
  | frame same holds restored =>
      have same' : ∀ other, (environment.set name value).get? other =
          (Scopes.frame (entries.store name value) outer).get? other := by
        intro other
        rw [← Scopes.set_frame_of_mem member, Environment.get?_set, Scopes.get?_set, same]
      rw [Scopes.set_frame_of_mem member, ← Frame.names_store name value entries]
      refine .frame same' ?_ ?_
      · rw [Frame.names_store]
        exact holds.set name value
      · rw [Frame.names_store, Environment.restore_set_of_mem holds member]
        exact restored

/-- A definition keeps the invariant, in whichever scope it ends up. -/
theorem set {pending : List Shadow} {scopes : Scopes} {environment : Environment}
    (mirrors : Mirrors pending scopes environment) (name : String) (value : Value) :
    Mirrors pending (scopes.set name value) (environment.set name value) := by
  induction mirrors with
  | base globals => exact .base _
  | @frame pending entries outer environment same holds restored ih =>
      by_cases member : name ∈ entries.names
      · exact set_of_mem (.frame same holds restored) member value
      · have same' : ∀ other, (environment.set name value).get? other =
            (Scopes.frame entries (outer.set name value)).get? other := by
          intro other
          rw [← Scopes.set_frame_of_not_mem member, Environment.get?_set, Scopes.get?_set, same]
        -- What the shadow holds are meanings of names that the definition does not touch.
        have untouched : ∀ other ∈ entries.names,
            (outer.set name value).get? other = outer.get? other := by
          intro other owned
          rw [Scopes.get?_set, if_neg]
          rintro rfl
          exact member owned
        have shadow : saved (outer.set name value).get? entries.names =
            saved outer.get? entries.names := by
          apply List.map_congr_left
          intro other owned
          rw [untouched other owned]
        rw [Scopes.set_frame_of_not_mem member, ← shadow]
        refine .frame same' ?_ ?_
        · intro other owned bound
          rw [untouched other owned] at bound
          exact holds.set name value other owned bound
        · rw [shadow, Environment.restore_set_of_not_mem holds member]
          exact ih

theorem push {pending : List Shadow} {scopes : Scopes} {environment : Environment}
    (mirrors : Mirrors pending scopes environment) (names : List String) :
    Mirrors (environment.capture names :: pending) (scopes.push names) environment := by
  have look : environment.get? = scopes.get? := funext mirrors.get?_eq
  have shadow : environment.capture names =
      saved scopes.get? (Frame.names (names.map fun name => (name, scopes.get? name))) := by
    rw [Frame.names_map, ← look]
    rfl
  rw [shadow]
  refine .frame ?_ ?_ ?_
  · intro name
    rw [mirrors.get?_eq]
    exact (scopes.get?_push names name).symm
  · intro name _ bound
    rwa [mirrors.get?_eq]
  · rw [← shadow, Environment.restore_capture]
    exact mirrors

theorem pop {shadow : Shadow} {pending : List Shadow} {scopes : Scopes} {environment : Environment}
    (mirrors : Mirrors (shadow :: pending) scopes environment) :
    Mirrors pending scopes.pop (environment.restore shadow) := by
  cases mirrors with
  | frame same holds restored => exact restored

/-- Storing an argument binds a parameter of the innermost call. -/
theorem store {shadow : Shadow} {pending : List Shadow} {scopes : Scopes}
    {environment : Environment} (mirrors : Mirrors (shadow :: pending) scopes environment)
    {name : String} (member : name ∈ shadow.map Prod.fst) (value : Value) :
    Mirrors (shadow :: pending) (scopes.store name value) (environment.set name value) := by
  cases mirrors with
  | @frame _ entries outer _ same holds restored =>
      have owned : name ∈ entries.names := by simpa [saved] using member
      have kept := set_of_mem (.frame same holds restored) owned value
      rwa [Scopes.set_frame_of_mem owned] at kept

end Mirrors

/-- A machine that stands for one with frames, given the shadows of the calls in progress. -/
def Simulates (pending : List Shadow) (machine : Machine) (stacked : ScopedMachine) : Prop :=
  Mirrors pending stacked.scopes machine.environment ∧ machine.output = stacked.output

/-- A computation that gives the answers of one with frames, whatever calls are in progress. -/
def Implements {α : Type} (flat : Evaluation α) (stacked : ScopedEvaluation α) : Prop :=
  ∀ pending, Agree (Simulates pending) Eq Eq flat stacked

namespace Implements

open ScopedEvaluation (framed storeArguments callBuiltin)

theorem pure {α : Type} (value : α) : Implements (Pure.pure value) (Pure.pure value) :=
  fun _ => Agree.pure rfl

theorem throw {α : Type} (error : EvalError) :
    Implements (α := α) (MonadExcept.throw error) (MonadExcept.throw error) :=
  fun _ => Agree.throw rfl

theorem bind {α β : Type} {flat : Evaluation α} {stacked : ScopedEvaluation α}
    {later : α → Evaluation β} {later' : α → ScopedEvaluation β} (first : Implements flat stacked)
    (second : ∀ value, Implements (later value) (later' value)) :
    Implements (flat >>= later) (stacked >>= later') := by
  intro pending
  refine (first pending).bind ?_
  rintro value _ rfl
  exact second value pending

theorem lookup (name : String) (position : Position) (span : Int) :
    Implements (DynLisp.lookup name position span)
      (ScopedEvaluation.lookup name position span) := by
  rintro pending machine stacked ⟨mirrors, written⟩
  simp only [DynLisp.lookup, ScopedEvaluation.lookup, mirrors.get?_eq]
  cases stacked.scopes.get? name with
  | none => exact .error rfl ⟨mirrors, written⟩
  | some value => exact .ok rfl ⟨mirrors, written⟩

theorem define (name : String) (value : Value) :
    Implements (DynLisp.define name value) (ScopedEvaluation.define name value) := by
  rintro pending machine stacked ⟨mirrors, written⟩
  exact .ok rfl ⟨mirrors.set name value, written⟩

theorem call (builtin : Builtin) (arguments : List Value) :
    Implements (builtin.call arguments) (callBuiltin builtin arguments) := by
  rintro pending machine stacked ⟨mirrors, written⟩
  simp only [Builtin.call, callBuiltin]
  cases builtin.result arguments with
  | error error => exact .error rfl ⟨mirrors, written⟩
  | ok value =>
      refine .ok rfl ⟨mirrors, ?_⟩
      simp only [Machine.write, written]

variable {evaluate : Expr → Evaluation Value} {stacked : Expr → ScopedEvaluation Value}

theorem evaluateAll (each : ∀ expression, Implements (evaluate expression) (stacked expression))
    (expressions : List Expr) :
    Implements (DynLisp.evaluateAll evaluate expressions)
      (ScopedEvaluation.evaluateAll stacked expressions) := by
  induction expressions with
  | nil => exact pure []
  | cons expression rest ih =>
      refine bind (each expression) fun value => ?_
      exact bind ih fun values => pure (value :: values)

/-- Binding parameters in the flat environment is storing arguments in the innermost frame. -/
theorem bindParameters
    (each : ∀ expression, Implements (evaluate expression) (stacked expression))
    {shadow : Shadow} {pending : List Shadow} {names : List String}
    (owned : ∀ name ∈ names, name ∈ shadow.map Prod.fst) (arguments : List Expr) :
    Agree (Simulates (shadow :: pending)) Eq Eq (DynLisp.bindParameters evaluate names arguments)
      (storeArguments stacked names arguments) := by
  induction names generalizing arguments with
  | nil => cases arguments <;> exact Agree.pure rfl
  | cons name names ih =>
      cases arguments with
      | nil => exact Agree.pure rfl
      | cons expression rest =>
          refine (each expression (shadow :: pending)).bind ?_
          rintro value _ rfl
          have stored : Agree (Simulates (shadow :: pending)) Eq Eq (DynLisp.define name value)
              (ScopedEvaluation.store name value) := by
            rintro machine stacked ⟨mirrors, written⟩
            exact .ok rfl ⟨mirrors.store (owned name List.mem_cons_self) value, written⟩
          refine stored.bind fun _ _ _ => ih ?_ rest
          intro other member
          exact owned other (List.mem_cons_of_mem name member)

/-- Restoring names is dropping the frame that owns them, however the computation in between
ends. -/
theorem shadowing {names : List String} {body : Evaluation Value} {body' : ScopedEvaluation Value}
    (agree : ∀ shadow pending, shadow.map Prod.fst = names →
      Agree (Simulates (shadow :: pending)) Eq Eq body body') :
    Implements (DynLisp.shadowing names body) (framed names body') := by
  rintro pending machine stacked ⟨mirrors, written⟩
  have owned : (machine.environment.capture names).map Prod.fst = names :=
    Frame.names_map machine.environment.get? names
  have inner := agree _ pending owned machine { stacked with scopes := stacked.scopes.push names }
    ⟨mirrors.push names, written⟩
  simp only [DynLisp.shadowing, framed]
  generalize body machine = left at inner ⊢
  generalize body' { stacked with scopes := stacked.scopes.push names } = right at inner ⊢
  cases inner with
  | ok value state => exact .ok value ⟨state.1.pop, state.2⟩
  | error error state => exact .error error ⟨state.1.pop, state.2⟩

theorem callFunction
    (each : ∀ expression, Implements (evaluate expression) (stacked expression))
    (parameters : List String) (body : Expr) (arguments : List Expr) (position : Position) :
    Implements (DynLisp.callFunction evaluate parameters body arguments position)
      (ScopedEvaluation.callFunction stacked parameters body arguments position) := by
  simp only [DynLisp.callFunction, ScopedEvaluation.callFunction]
  split
  · refine shadowing fun shadow pending owned => ?_
    refine Agree.bind (bindParameters each ?_ arguments) fun _ _ _ => each body (shadow :: pending)
    intro name member
    rwa [owned]
  · exact throw _

/-- Whatever the budget, all three parts of evaluation give the answers of those with frames. -/
theorem within (budget : Nat) :
    (∀ expression, Implements (DynLisp.evaluate budget expression)
      (ScopedEvaluation.evaluate budget expression)) ∧
    (∀ callee arguments position, Implements (DynLisp.callValue budget callee arguments position)
      (ScopedEvaluation.callValue budget callee arguments position)) ∧
    (∀ arguments, Implements (DynLisp.evaluateArguments budget arguments)
      (ScopedEvaluation.evaluateArguments budget arguments)) := by
  induction budget with
  | zero => exact ⟨fun _ => throw _, fun _ _ _ => throw _, fun _ => throw _⟩
  | succ budget ih =>
      obtain ⟨evaluate, callValue, evaluateArguments⟩ := ih
      refine ⟨?_, ?_, evaluateAll evaluate⟩
      · intro expression
        cases expression with
        | integer position value => exact pure _
        | identifier position name => exact lookup name position name.length
        | conditional position condition consequence alternative =>
            refine bind (evaluate condition) fun chosen => ?_
            split
            · exact evaluate alternative
            · exact evaluate consequence
        | define position name parameters value =>
            cases parameters with
            | none =>
                refine bind (evaluate value) fun result => ?_
                exact bind (define name result) fun _ => pure _
            | some parameters => exact bind (define name _) fun _ => pure _
        | call position name arguments =>
            refine bind (lookup name position (name.length + 1)) fun callee => ?_
            exact callValue callee arguments position
        | hole position => exact throw _
      · intro callee arguments position
        cases callee with
        | integer value => exact throw _
        | function parameters body =>
            exact callFunction evaluate parameters body arguments position
        | builtin builtin => exact bind (evaluateArguments arguments) (call builtin)

end Implements

/-- A machine with its bindings as the global ones and no call in progress. -/
def Machine.scoped (machine : Machine) : ScopedMachine :=
  ⟨.base machine.environment, machine.output⟩

theorem Simulates.scoped_eq {machine : Machine} {stacked : ScopedMachine}
    (simulates : Simulates [] machine stacked) : stacked = machine.scoped := by
  obtain ⟨environment, output⟩ := machine
  obtain ⟨scopes, written⟩ := stacked
  obtain ⟨mirrors, rfl⟩ := simulates
  cases mirrors with
  | base globals => rfl

/-- Evaluation in one flat environment is evaluation with a stack of frames: from the same bindings
and within the same budget both give the same value or the same error, the same output, and the same
bindings in the same order, and no frame is left behind. -/
theorem evaluate_scoped (budget : Nat) (expression : Expr) (machine : Machine) :
    ScopedEvaluation.evaluate budget expression machine.scoped =
      match evaluate budget expression machine with
      | .ok value after => .ok value after.scoped
      | .error error after => .error error after.scoped := by
  have simulates : Simulates [] machine machine.scoped := ⟨.base machine.environment, rfl⟩
  have agree := (Implements.within budget).1 expression [] machine machine.scoped simulates
  generalize evaluate budget expression machine = flat at agree ⊢
  generalize ScopedEvaluation.evaluate budget expression machine.scoped = stacked at agree ⊢
  cases agree with
  | ok value state => rw [value, state.scoped_eq]
  | error error state => rw [error, state.scoped_eq]

end DynLisp
