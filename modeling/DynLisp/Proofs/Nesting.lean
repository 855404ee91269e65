import DynLisp.Proofs.Composition
import DynLisp.Proofs.Sources

/-!
# The limit on open forms

Reading gives up where more forms are open than the limit allows, and the limit does nothing else.
Whatever is read within a limit is read within every greater one (`Reader.IsRoomy.readExpr_of_le`),
and a limit of the length of the text is never exceeded (`Reader.isRoomy_of_length`).  What is read
within a limit is nested no deeper than that (`Reader.depth_le_of_readExpr`).
-/

namespace DynLisp

/-- Only an opening bracket can be too deep, if as many forms are open as the limit allows. -/
theorem Expectation.le_of_tooDeep {limit : Nat} {expectation : Expectation} {token : Token}
    {position : Position} (refused : expectation.step limit token = .error (.tooDeep position)) :
    ∃ waiting, expectation = .expression waiting ∧ limit ≤ waiting.length := by
  have accepted (tree : Expr) (waiting : List Form) :
      deliver tree waiting ≠ .error (.tooDeep position) := by
    intro refused
    obtain ⟨culprit, -, impossible⟩ := deliver_eq_error refused
    cases impossible
  obtain ⟨lexeme, place⟩ := token
  cases expectation with
  | expression waiting =>
      cases lexeme with
      | leftBracket =>
          simp only [Expectation.step, readExpression] at refused
          split at refused
          next => cases refused
          next full => exact ⟨waiting, rfl, Nat.le_of_not_lt full⟩
      | rightBracket =>
          cases waiting with
          | nil => cases refused
          | cons form waiting =>
              cases form with
              | call start name arguments => exact absurd refused (accepted _ waiting)
              | _ => cases refused
      | integer value => exact absurd refused (accepted _ waiting)
      | identifier name => exact absurd refused (accepted _ waiting)
      | ifKeyword => cases refused
      | defineKeyword => cases refused
  | head start waiting => cases lexeme <;> cases refused
  | close form waiting =>
      cases lexeme with
      | rightBracket => exact absurd refused (accepted form waiting)
      | _ => cases refused

/-- Every form that waits has taken in its opening bracket at least. -/
theorem Grammar.Opened.length_le {waiting : List Form} {tokens : List Token}
    (opened : Opened waiting tokens) : waiting.length ≤ tokens.length := by
  induction opened with
  | nil => exact Nat.le_refl _
  | _ => simp only [List.length_append, List.length_cons]; omega

/-- Forms under construction are opened only within the limit. -/
theorem Expectation.length_lt_of_opening {limit : Nat} {waiting : List Form} {position : Position}
    {progress : Progress}
    (step : (Expectation.expression waiting).step limit ⟨.leftBracket, position⟩ = .ok progress) :
    waiting.length < limit := by
  simp only [Expectation.step, readExpression] at step
  split at step
  next room => exact room
  next => cases step

namespace Reader

/-- Whether the next expression can be read without more forms being open than the limit allows. -/
def IsRoomy (limit : Nat) (reader : Reader) : Prop :=
  ∀ position, (reader.readExpr limit).1 ≠ .error (.tooDeep position)

theorem next_eq_error {reader after : Reader} {error : ParseError}
    (failed : reader.next = (.error error, after)) : ∃ cause, error = .lexical cause := by
  unfold next at failed
  split at failed
  · cases failed
  · split at failed <;> cases failed
    exact ⟨_, rfl⟩

/-- Reading reports at a bracket that there is no room. -/
theorem readExpr_eq_tooDeep {limit : Nat} {reader : Reader} {error : ParseError}
    (failed : (reader.readExpr limit).1 = .error error) (ofStack : error.IsOfStack) :
    ∃ position, error = .tooDeep position := by
  rw [readExpr_eq] at failed
  generalize Expectation.expression [] = expectation at failed
  fun_induction readFrom limit expectation reader with
  | case1 expectation reader error' after result =>
      obtain ⟨cause, rfl⟩ := next_eq_error result
      cases failed
      exact ofStack.elim
  | case2 expectation reader after result =>
      rcases atEnd_cases expectation with ended | ⟨expected, ended⟩
      · rw [ended] at failed
        cases failed
      · rw [ended] at failed
        cases failed
        exact ofStack.elim
  | case3 expectation reader token after result error' step =>
      cases failed
      rcases Expectation.step_eq_error step with rfl | rfl | ⟨culprit, rfl⟩
      · exact ofStack.elim
      · exact ⟨_, rfl⟩
      · exact ofStack.elim
  | case4 expectation reader token after result tree step => cases failed
  | case5 expectation reader token after result expectation' step ih => exact ih failed

theorem IsRoomy.not_exhausted {limit : Nat} {reader : Reader} (roomy : reader.IsRoomy limit) :
    ¬ Reading.Exhausted (reader.readExpr limit) := by
  rintro ⟨error, failed, ofStack⟩
  obtain ⟨position, rfl⟩ := readExpr_eq_tooDeep failed ofStack
  exact roomy position failed

/-- What is read within a limit is read within every greater one. -/
theorem IsRoomy.readExpr_of_le {limit limit' : Nat} {reader : Reader} (roomy : reader.IsRoomy limit)
    (le : limit ≤ limit') : reader.readExpr limit' = reader.readExpr limit :=
  (Reading.Extends.expression (.formWithin le) reader).resolve_left roomy.not_exhausted

/-- What is read within a number of frames is read within a third of them as open forms. -/
theorem readExpr_of_frames {frames limit : Nat} (le : frames ≤ 3 * limit + 1) {reader : Reader}
    (lasting : ¬ Reading.Exhausted ((Stack.expression frames).run reader)) :
    reader.readExpr limit = (Stack.expression frames).run reader :=
  (Stack.readExpr_extends le reader).resolve_left lasting

/-- What is read within a number of open forms is read within four frames for each of them. -/
theorem IsRoomy.run_stack {frames limit : Nat} (le : 4 * limit + 1 ≤ frames) {reader : Reader}
    (roomy : reader.IsRoomy limit) :
    (Stack.expression frames).run reader = reader.readExpr limit :=
  (Stack.expression_extends le reader).resolve_left roomy.not_exhausted

/-- A text cannot open more forms than it has characters. -/
theorem isRoomy_of_length {limit : Nat} {cursor : Cursor} (ideal : cursor.rest.length ≤ limit) :
    IsRoomy limit ⟨cursor, none⟩ := by
  intro position
  obtain ⟨tokens, last, place, result, after, expected, reads, ends, result_eq⟩ :=
    Grammar.readExpr_cases limit cursor
  rw [result_eq]
  rintro rfl
  generalize deep : Except.error (ParseError.tooDeep position) = result at ends
  cases ends with
  | textEnd nothing =>
      rcases atEnd_cases last with ended | ⟨expected, ended⟩ <;> rw [ended] at deep <;> cases deep
  | unreadable fails => cases deep
  | refused read step =>
      cases deep
      obtain ⟨waiting, rfl, full⟩ := Expectation.le_of_tooDeep step
      have opened : Grammar.Opened waiting tokens := expected
      have taken := opened.length_le
      have room := (reads.append (.single read)).length_le
      simp only [List.length_append, List.length_singleton] at room
      omega
  | finished read step => cases deep

end Reader

mutual

/-- How deeply forms are nested in an expression. -/
def Expr.depth : Expr → Nat
  | integer _ _ => 0
  | identifier _ _ => 0
  | conditional _ condition consequence alternative =>
      max condition.depth (max consequence.depth alternative.depth) + 1
  | define _ _ _ value => value.depth + 1
  | call _ _ arguments => greatestDepth arguments + 1
  | hole _ => 0

/-- How deeply forms are nested in the deepest of some expressions. -/
def Expr.greatestDepth : List Expr → Nat
  | [] => 0
  | tree :: trees => max tree.depth (greatestDepth trees)

end

theorem Expr.greatestDepth_add_lt {outer limit : Nat} {trees : List Expr} (room : outer < limit)
    (shallow : ∀ tree ∈ trees, tree.depth + outer < limit) :
    greatestDepth trees + outer < limit := by
  induction trees with
  | nil => simpa [greatestDepth] using room
  | cons tree trees ih =>
      rw [List.forall_mem_cons] at shallow
      have later := ih shallow.2
      simp only [greatestDepth]
      omega

/-- The expressions that a waiting form has been given and will hold. -/
def Form.given : Form → List Expr
  | call _ _ arguments => arguments
  | consequence _ test => [test]
  | alternative _ test chosen => [test, chosen]
  | _ => []

/-- Whether the limit leaves room for the forms that wait and for what they have been given. -/
def Shallow (limit : Nat) : List Form → Prop
  | [] => True
  | form :: waiting =>
      waiting.length < limit ∧ (∀ tree ∈ form.given, tree.depth + waiting.length < limit) ∧
        Shallow limit waiting

theorem Shallow.length_le {limit : Nat} {waiting : List Form} (shallow : Shallow limit waiting) :
    waiting.length ≤ limit := by
  cases waiting with
  | nil => exact Nat.zero_le limit
  | cons form waiting => exact shallow.1

/-- Whether the limit leaves room for the forms under construction. -/
def Expectation.IsShallow (limit : Nat) : Expectation → Prop
  | expression waiting => Shallow limit waiting
  | head _ waiting => waiting.length < limit ∧ Shallow limit waiting
  | close form waiting => form.depth + waiting.length ≤ limit ∧ Shallow limit waiting

/-- Whether the limit leaves room for what a token leads to. -/
def Progress.IsShallow (limit : Nat) : Progress → Prop
  | finished tree => tree.depth ≤ limit
  | reading expectation => expectation.IsShallow limit

/-- What is handed to a form is nested less deeply than what becomes of the form. -/
theorem deliver_isShallow {limit : Nat} {tree : Expr} {waiting : List Form} {progress : Progress}
    (depth : tree.depth + waiting.length ≤ limit) (shallow : Shallow limit waiting)
    (delivered : deliver tree waiting = .ok progress) : progress.IsShallow limit := by
  cases waiting with
  | nil =>
      cases delivered
      exact depth
  | cons form waiting =>
      obtain ⟨room, given, outer⟩ := shallow
      rw [List.length_cons] at depth
      have smaller : tree.depth + waiting.length < limit := by omega
      cases form with
      | call position name arguments =>
          cases delivered
          refine ⟨room, ?_, outer⟩
          simp only [Form.given, List.forall_mem_append, List.forall_mem_singleton]
          exact ⟨given, smaller⟩
      | condition position =>
          cases delivered
          exact ⟨room, by simpa [Form.given] using smaller, outer⟩
      | consequence position test =>
          cases delivered
          refine ⟨room, ?_, outer⟩
          simp only [Form.given, List.forall_mem_cons] at given ⊢
          exact ⟨given.1, smaller, given.2⟩
      | alternative position test chosen =>
          cases delivered
          refine ⟨?_, outer⟩
          simp only [Form.given, List.forall_mem_cons] at given
          simp only [Expr.depth]
          omega
      | target position =>
          obtain ⟨name, parameters, -, rfl⟩ := deliver_target delivered
          exact ⟨room, by simp [Form.given], outer⟩
      | value position name parameters =>
          cases delivered
          refine ⟨?_, outer⟩
          simp only [Expr.depth]
          omega

/-- Every token that is taken in leaves the room that there was. -/
theorem Expectation.step_isShallow {limit : Nat} {expectation : Expectation} {token : Token}
    {progress : Progress} (shallow : expectation.IsShallow limit)
    (step : expectation.step limit token = .ok progress) : progress.IsShallow limit := by
  cases takes_of_step step with
  | integer delivered =>
      exact deliver_isShallow (by simpa [Expr.depth] using shallow.length_le) shallow delivered
  | identifier delivered =>
      exact deliver_isShallow (by simpa [Expr.depth] using shallow.length_le) shallow delivered
  | opening position waiting => exact ⟨length_lt_of_opening step, shallow⟩
  | called delivered =>
      obtain ⟨room, given, outer⟩ := shallow
      have inside := Expr.greatestDepth_add_lt room given
      refine deliver_isShallow ?_ outer delivered
      simp only [Expr.depth, Form.given] at inside ⊢
      omega
  | call start position name waiting => exact ⟨shallow.1, by simp [Form.given], shallow.2⟩
  | conditional start position waiting => exact ⟨shallow.1, by simp [Form.given], shallow.2⟩
  | define start position waiting => exact ⟨shallow.1, by simp [Form.given], shallow.2⟩
  | closing delivered => exact deliver_isShallow shallow.1 shallow.2 delivered

namespace Reader

theorem depth_le_of_readFrom {limit : Nat} {expectation : Expectation} {reader after : Reader}
    {tree : Expr} (shallow : expectation.IsShallow limit)
    (read : reader.readFrom limit expectation = (.ok (some tree), after)) : tree.depth ≤ limit := by
  fun_induction readFrom limit expectation reader with
  | case1 expectation reader error after' result => cases read
  | case2 expectation reader after' result =>
      exact absurd (congrArg Prod.fst read) (atEnd_ne_some expectation tree)
  | case3 expectation reader token after' result error step => cases read
  | case4 expectation reader token after' result tree' step =>
      cases read
      exact Expectation.step_isShallow shallow step
  | case5 expectation reader token after' result expectation' step ih =>
      exact ih (Expectation.step_isShallow shallow step) read

/-- What is read within a limit is nested no deeper than that. -/
theorem depth_le_of_readExpr {limit : Nat} {reader after : Reader} {tree : Expr}
    (read : reader.readExpr limit = (.ok (some tree), after)) : tree.depth ≤ limit := by
  have shallow : (Expectation.expression []).IsShallow limit := trivial
  rw [readExpr_eq] at read
  exact depth_le_of_readFrom shallow read

end Reader
end DynLisp
