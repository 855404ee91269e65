import DynLisp.Proofs.Nesting
import DynLisp.Run

/-!
# Greater budgets

An evaluation without budget ends with the stack exhausted, and nothing on the way out turns that
into another answer: a computation passes it on, and a call restores its parameters and passes it on
as well.  `Prolongs` compares a computation with one that has more budget, and its rules follow the
parts of evaluation.  So a greater budget gives the same answer unless the stack was exhausted, and
then it writes at least what had been written (`Prolonged.of_le`).  The same holds of reading and of
whole runs, which is `greater_budget_answers`.
-/

namespace DynLisp

/-- Whether a machine has written what another one has, and possibly more. -/
def Machine.WritesOn (before after : Machine) : Prop :=
  ∃ more, after.output = before.output ++ more

namespace Machine.WritesOn

theorem refl (machine : Machine) : machine.WritesOn machine := ⟨"", by simp⟩

theorem trans {first second third : Machine} (early : first.WritesOn second)
    (late : second.WritesOn third) : first.WritesOn third := by
  obtain ⟨text, written⟩ := early
  obtain ⟨text', written'⟩ := late
  exact ⟨text ++ text', by rw [written', written, String.append_assoc]⟩

end Machine.WritesOn

/-- The machine that a computation has left behind. -/
def machineOf {α : Type} : EStateM.Result EvalError Machine α → Machine
  | .ok _ machine => machine
  | .error _ machine => machine

/-- How a computation ends with more budget, if it ends in the first way with less.  Unless the
stack was exhausted, nothing changes. -/
inductive Outlasts {α : Type} (before : Machine) :
    EStateM.Result EvalError Machine α → EStateM.Result EvalError Machine α → Prop
  /-- Both computations end in the same way. -/
  | same {result : EStateM.Result EvalError Machine α}
      (written : before.WritesOn (machineOf result)) : Outlasts before result result
  /-- The stack was exhausted, and all that was written then is written again. -/
  | exhausted {here : Machine} {result : EStateM.Result EvalError Machine α}
      (written : before.WritesOn here) (more : here.WritesOn (machineOf result)) :
      Outlasts before (.error .stackExhausted here) result

namespace Outlasts

variable {α : Type} {before : Machine} {less more : EStateM.Result EvalError Machine α}

theorem writesOn (outlasts : Outlasts before less more) : before.WritesOn (machineOf more) := by
  cases outlasts with
  | same written => exact written
  | exhausted written later => exact written.trans later

theorem eq_of_finished (outlasts : Outlasts before less more)
    (finished : ∀ after, less ≠ .error .stackExhausted after) : more = less := by
  cases outlasts with
  | same written => rfl
  | exhausted written later => exact absurd rfl (finished _)

/-- What is written before the stack is exhausted is written again. -/
theorem output_of_exhausted (outlasts : Outlasts before less more) {after : Machine}
    (exhausted : less = .error .stackExhausted after) :
    ∃ printed later, after.output = before.output ++ printed ∧
      (machineOf more).output = before.output ++ (printed ++ later) := by
  subst exhausted
  cases outlasts with
  | same written =>
      obtain ⟨printed, written⟩ := written
      exact ⟨printed, "", written, by simpa using written⟩
  | exhausted written later =>
      obtain ⟨printed, written⟩ := written
      obtain ⟨rest, later⟩ := later
      exact ⟨printed, rest, written, by rw [later, written, String.append_assoc]⟩

/-- What is compared from one machine on can be compared from an earlier one on. -/
theorem of_writesOn {start : Machine} (written : start.WritesOn before)
    (outlasts : Outlasts before less more) : Outlasts start less more := by
  cases outlasts with
  | same written' => exact .same (written.trans written')
  | exhausted written' later => exact .exhausted (written.trans written') later

end Outlasts

/-- Whether a computation has the answers of one with less budget, as far as that has answers. -/
def Prolongs {α : Type} (less more : Evaluation α) : Prop :=
  ∀ machine, Outlasts machine (less machine) (more machine)

namespace Prolongs

variable {α β : Type}

theorem pure (value : α) : Prolongs (Pure.pure value) (Pure.pure value) :=
  fun machine => .same (.refl machine)

theorem throw (error : EvalError) :
    Prolongs (MonadExcept.throw error : Evaluation α) (MonadExcept.throw error) :=
  fun machine => .same (.refl machine)

/-- A computation that has no budget at all is prolonged by every one. -/
theorem of_exhausted {less more : Evaluation α} (prolongs : Prolongs less more) :
    Prolongs (MonadExcept.throw .stackExhausted) more :=
  fun machine => .exhausted (.refl machine) (prolongs machine).writesOn

theorem lookup (name : String) (position : Position) (span : Int) :
    Prolongs (DynLisp.lookup name position span) (DynLisp.lookup name position span) := by
  intro machine
  unfold DynLisp.lookup
  split <;> exact .same (.refl machine)

theorem define (name : String) (value : Value) :
    Prolongs (DynLisp.define name value) (DynLisp.define name value) :=
  fun machine => .same (.refl machine)

theorem call (builtin : Builtin) (arguments : List Value) :
    Prolongs (builtin.call arguments) (builtin.call arguments) := by
  intro machine
  unfold Builtin.call
  split
  · exact .same ⟨builtin.written arguments, rfl⟩
  · exact .same (.refl machine)

/-- If the first of two computations exhausts the stack with less budget, then the second one is
reached with more budget at most, and only adds to what is written. -/
theorem bind {first first' : Evaluation α} {second second' : α → Evaluation β}
    (prolongs : Prolongs first first')
    (later : ∀ value, Prolongs (second value) (second' value)) :
    Prolongs (first >>= second) (first' >>= second') := by
  intro machine
  have begun := prolongs machine
  simp only [Bind.bind, EStateM.bind]
  generalize first machine = less at begun ⊢
  generalize first' machine = more at begun ⊢
  cases begun with
  | same written =>
      cases less with
      | error error after => exact .same written
      | ok value after => exact (later value after).of_writesOn written
  | exhausted written begun =>
      cases more with
      | error error after => exact .exhausted written begun
      | ok value after => exact .exhausted written (begun.trans (later value after).writesOn)

/-- Restoring the names of parameters keeps what has been written, and an exhausted stack stays
exhausted. -/
theorem shadowing (names : List String) {body body' : Evaluation α}
    (prolongs : Prolongs body body') :
    Prolongs (DynLisp.shadowing names body) (DynLisp.shadowing names body') := by
  intro machine
  have inside := prolongs machine
  simp only [DynLisp.shadowing]
  generalize body machine = less at inside ⊢
  generalize body' machine = more at inside ⊢
  cases inside with
  | same written => cases less <;> exact .same written
  | exhausted written later => cases more <;> exact .exhausted written later

variable {evaluate evaluate' : Expr → Evaluation Value}

theorem evaluateAll (each : ∀ tree, Prolongs (evaluate tree) (evaluate' tree))
    (trees : List Expr) :
    Prolongs (DynLisp.evaluateAll evaluate trees) (DynLisp.evaluateAll evaluate' trees) := by
  induction trees with
  | nil => exact pure []
  | cons tree trees ih =>
      refine bind (each tree) fun value => ?_
      exact bind ih fun values => pure (value :: values)

theorem bindParameters (each : ∀ tree, Prolongs (evaluate tree) (evaluate' tree))
    (names : List String) (arguments : List Expr) :
    Prolongs (DynLisp.bindParameters evaluate names arguments)
      (DynLisp.bindParameters evaluate' names arguments) := by
  induction names generalizing arguments with
  | nil => cases arguments <;> exact pure ()
  | cons name names ih =>
      cases arguments with
      | nil => exact pure ()
      | cons argument arguments =>
          refine bind (each argument) fun value => ?_
          exact bind (define name value) fun _ => ih arguments

theorem callFunction (each : ∀ tree, Prolongs (evaluate tree) (evaluate' tree))
    (parameters : List String) (body : Expr) (arguments : List Expr) (position : Position) :
    Prolongs (DynLisp.callFunction evaluate parameters body arguments position)
      (DynLisp.callFunction evaluate' parameters body arguments position) := by
  unfold DynLisp.callFunction
  split
  · refine shadowing parameters ?_
    exact bind (bindParameters each parameters arguments) fun _ => each body
  · exact throw _

end Prolongs

/-- Whether all three parts of evaluation with one budget prolong those with another one. -/
structure Prolonged (budget budget' : Nat) : Prop where
  /-- Expressions. -/
  evaluate (tree : Expr) : Prolongs (evaluate budget tree) (evaluate budget' tree)
  /-- Calls. -/
  callValue (callee : Value) (arguments : List Expr) (position : Position) :
    Prolongs (callValue budget callee arguments position)
      (callValue budget' callee arguments position)
  /-- Arguments of builtin functions. -/
  evaluateArguments (arguments : List Expr) :
    Prolongs (evaluateArguments budget arguments) (evaluateArguments budget' arguments)

namespace Prolonged

/-- One more unit of budget on both sides makes no difference. -/
theorem succ {budget budget' : Nat} (prolonged : Prolonged budget budget') :
    Prolonged (budget + 1) (budget' + 1) where
  evaluate tree := by
    cases tree with
    | integer position value => exact .pure _
    | identifier position name => exact .lookup name position name.length
    | conditional position condition consequence alternative =>
        refine .bind (prolonged.evaluate condition) fun chosen => ?_
        split
        · exact prolonged.evaluate alternative
        · exact prolonged.evaluate consequence
    | define position name parameters value =>
        cases parameters with
        | none =>
            refine .bind (prolonged.evaluate value) fun result => ?_
            exact .bind (.define name result) fun _ => .pure _
        | some parameters => exact .bind (.define name _) fun _ => .pure _
    | call position name arguments =>
        refine .bind (.lookup name position (name.length + 1)) fun callee => ?_
        exact prolonged.callValue callee arguments position
    | hole position => exact .throw _
  callValue callee arguments position := by
    cases callee with
    | integer value => exact .throw _
    | function parameters body =>
        exact .callFunction prolonged.evaluate parameters body arguments position
    | builtin builtin => exact .bind (prolonged.evaluateArguments arguments) (.call builtin)
  evaluateArguments := .evaluateAll prolonged.evaluate

/-- Evaluation only ever adds to what is written. -/
theorem refl (budget : Nat) : Prolonged budget budget := by
  induction budget with
  | zero => exact ⟨fun _ => .throw _, fun _ _ _ => .throw _, fun _ => .throw _⟩
  | succ budget ih => exact ih.succ

/-- Evaluation with a greater budget prolongs evaluation with a smaller one. -/
theorem of_le {budget budget' : Nat} (le : budget ≤ budget') : Prolonged budget budget' := by
  induction budget generalizing budget' with
  | zero =>
      obtain ⟨evaluate, callValue, evaluateArguments⟩ := refl budget'
      exact ⟨fun tree => (evaluate tree).of_exhausted,
        fun callee arguments position => (callValue callee arguments position).of_exhausted,
        fun arguments => (evaluateArguments arguments).of_exhausted⟩
  | succ budget ih =>
      obtain ⟨budget', rfl⟩ := Nat.exists_eq_add_one.mpr (Nat.lt_of_lt_of_le budget.succ_pos le)
      exact (ih (Nat.le_of_succ_le_succ le)).succ

end Prolonged

/-- Whether a failure comes of a limit: brackets are nested too deeply, or the stack is used up. -/
def Failure.IsOfLimit : Failure → Prop
  | syntactic error => error.IsOfStack
  | evaluation .stackExhausted => True
  | _ => False

/-- What is read within a limit, with the reader behind it, is read within a greater one. -/
theorem Reader.readExpr_of_le {limit limit' : Nat} (le : limit ≤ limit') {reader after : Reader}
    {result : Except ParseError (Option Expr)} (read : reader.readExpr limit = (result, after))
    (finished : ∀ position, result ≠ .error (.tooDeep position)) :
    reader.readExpr limit' = (result, after) := by
  have roomy : reader.IsRoomy limit := by
    intro position
    rw [read]
    exact finished position
  rw [roomy.readExpr_of_le le, read]

/-- What is evaluated within a budget is evaluated within a greater one. -/
theorem evaluate_of_le {budget budget' : Nat} (le : budget ≤ budget') {tree : Expr}
    {machine : Machine} {result : EStateM.Result EvalError Machine Value}
    (evaluated : evaluate budget tree machine = result)
    (finished : ∀ after, result ≠ .error .stackExhausted after) :
    evaluate budget' tree machine = result := by
  subst evaluated
  exact ((Prolonged.of_le le).evaluate tree machine).eq_of_finished finished

/-- A run that no limit ends is the same within greater limits. -/
theorem Machine.run_of_le {limits limits' : Limits} (nesting : limits.nesting ≤ limits'.nesting)
    (budget : limits.budget ≤ limits'.budget) (machine : Machine) (reader : Reader)
    (finished : ∀ failure, (machine.run limits reader).failure = some failure →
      ¬ failure.IsOfLimit) :
    machine.run limits' reader = machine.run limits reader := by
  fun_induction Machine.run limits machine reader with
  | case1 machine reader error after read =>
      refine run_of_error (Reader.readExpr_of_le nesting read ?_) machine
      rintro position ⟨⟩
      exact finished _ rfl trivial
  | case2 machine reader after read =>
      exact run_of_none (Reader.readExpr_of_le nesting read (by simp)) machine
  | case3 machine reader tree after read error machine' evaluated =>
      rw [run_of_some (Reader.readExpr_of_le nesting read (by simp)),
        evaluate_of_le budget evaluated]
      rintro after ⟨⟩
      exact finished _ rfl trivial
  | case4 machine reader tree after read value machine' evaluated later ih =>
      rw [run_of_some (Reader.readExpr_of_le nesting read (by simp)),
        evaluate_of_le budget evaluated (by simp)]
      exact congrArg (Yield.behind · [value]) (ih finished)

/-- A greater limit on the stack never changes an answer.  What can be read or evaluated within a
limit is read or evaluated within every greater one, with the same result and the same reader or
machine behind it, and so is a whole text.  This holds of reading whether open forms are counted or
frames of the stack.  An evaluation that runs out has printed the beginning of what is printed
within every greater limit. -/
theorem greater_budget_answers {budget budget' : Nat} (le : budget ≤ budget') :
    (∀ reader : Reader,
      (∀ position, (reader.readExpr budget).1 ≠ .error (.tooDeep position)) →
        reader.readExpr budget' = reader.readExpr budget) ∧
    (∀ reader : Reader,
      ¬ Reading.Exhausted ((Stack.expression budget).run reader) →
        (Stack.expression budget').run reader = (Stack.expression budget).run reader) ∧
    (∀ (tree : Expr) (machine : Machine),
      (∀ after, evaluate budget tree machine ≠ .error .stackExhausted after) →
        evaluate budget' tree machine = evaluate budget tree machine) ∧
    (∀ (tree : Expr) (machine after : Machine),
      evaluate budget tree machine = .error .stackExhausted after →
        ∃ printed later, after.output = machine.output ++ printed ∧
          ((evaluate budget' tree).leaves machine).output =
            machine.output ++ (printed ++ later)) ∧
    ∀ (machine : Machine) (reader : Reader),
      (∀ failure, (machine.run ⟨budget, budget⟩ reader).failure = some failure →
        ¬ failure.IsOfLimit) →
      machine.run ⟨budget', budget'⟩ reader = machine.run ⟨budget, budget⟩ reader := by
  refine ⟨fun reader finished => ?_, fun reader finished => ?_, fun tree machine finished => ?_,
    fun tree machine after exhausted => ?_, fun machine reader finished => ?_⟩
  · exact Reader.readExpr_of_le le rfl finished
  · exact ((Stack.extended_of_le le).expression reader).resolve_left finished
  · exact evaluate_of_le le rfl finished
  · exact ((Prolonged.of_le le).evaluate tree machine).output_of_exhausted exhausted
  · exact machine.run_of_le le le reader finished

set_option maxRecDepth 4000 in
/-- A function prints the double of its argument, whose evaluation prints as well.  A budget of six
lasts for the argument and a budget of twenty for all of it.  Six frames last to read a conditional,
and four do not. -/
theorem greater_budget_answers_printing :
    let tree := Expr.call .start "f" [.call .start "print" [.integer .start 7]]
    let body := Expr.call .start "print"
      [.call .start "+" [.identifier .start "x", .identifier .start "x"]]
    let machine : Machine := ⟨Environment.initial.set "f" (.function ["x"] body), ""⟩
    let reader := Reader.ofText "(f 1)"
    evaluate 6 tree machine = .error .stackExhausted (machine.write "7\n") ∧
      evaluate 20 tree machine = .ok (.integer 0) (machine.write "7\n0\n") ∧
      (∃ printed later, (machine.write "7\n").output = machine.output ++ printed ∧
        ((evaluate 20 tree).leaves machine).output = machine.output ++ (printed ++ later)) ∧
      reader.IsRoomy 6 ∧ reader.readExpr 20 = reader.readExpr 6 ∧
      ((Stack.expression 4).run (.ofText "(if x 1 2)")).1 = .error (.tooDeep .start) ∧
      ((Stack.expression 6).run (.ofText "(if x 1 2)")).1 =
        .ok (some (.conditional .start (.identifier ⟨1, 5⟩ "x") (.integer ⟨1, 7⟩ 1)
          (.integer ⟨1, 9⟩ 2))) ∧
      (Stack.expression 20).run (.ofText "(if x 1 2)") =
        (Stack.expression 6).run (.ofText "(if x 1 2)") := by
  intro tree body machine reader
  have exhausted : evaluate 6 tree machine = .error .stackExhausted (machine.write "7\n") := rfl
  have finished : evaluate 20 tree machine = .ok (.integer 0) (machine.write "7\n0\n") := rfl
  have roomy : reader.IsRoomy 6 := Reader.isRoomy_of_length (by decide)
  have read : ((Stack.expression 6).run (.ofText "(if x 1 2)")).1 =
      .ok (some (.conditional .start (.identifier ⟨1, 5⟩ "x") (.integer ⟨1, 7⟩ 1)
        (.integer ⟨1, 9⟩ 2))) := rfl
  obtain ⟨reads, within, -, prints, -⟩ := greater_budget_answers (show 6 ≤ 20 by decide)
  refine ⟨exhausted, finished, prints tree machine _ exhausted, roomy, reads reader roomy, rfl,
    read, within _ ?_⟩
  rintro ⟨error, failed, -⟩
  rw [read] at failed
  cases failed

end DynLisp
