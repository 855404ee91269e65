import DynLisp.Proofs.Placement
import DynLisp.Proofs.Reading
import DynLisp.Run

/-!
# Running a text from another position

From two places in front of the same text the same tokens are read, and the same expressions, but
for their positions.  Since evaluation does not depend on positions, the two runs of the text give
the same values, the same failure and the same environment but for positions, and print the same
text.
-/

namespace DynLisp

/-- A token with its position forgotten. -/
def Token.unplaced (token : Token) : Token := ⟨token.lexeme, .start⟩

/-- An error of the lexer with its position forgotten. -/
def LexError.unplaced : LexError → LexError
  | unexpectedCharacter character _ => .unexpectedCharacter character .start
  | unexpectedEnd expected => .unexpectedEnd expected
  | unknownEscape character _ => .unknownEscape character .start
  | other cause _ span => .other cause .start span
  | unreadable cause => .unreadable cause

/-- A parse error with its positions forgotten. -/
def ParseError.unplaced : ParseError → ParseError
  | unexpectedToken token => .unexpectedToken token.unplaced
  | unexpectedExpression expression => .unexpectedExpression expression.unplaced
  | unexpectedEnd expected => .unexpectedEnd expected
  | lexical error => .lexical error.unplaced
  | tooDeep _ => .tooDeep .start
  | stackExhausted => .stackExhausted

/-- A failure with its positions forgotten. -/
def Failure.unplaced : Failure → Failure
  | lexical error => .lexical error.unplaced
  | syntactic error => .syntactic error.unplaced
  | evaluation error => .evaluation error.unplaced
  | failure => failure

/-- A form under construction with its positions forgotten. -/
def Form.unplaced : Form → Form
  | call _ name arguments => .call .start name (Expr.allUnplaced arguments)
  | condition _ => .condition .start
  | consequence _ test => .consequence .start test.unplaced
  | alternative _ test chosen => .alternative .start test.unplaced chosen.unplaced
  | target _ => .target .start
  | value _ name parameters => .value .start name parameters

/-- An expectation with its positions forgotten. -/
def Expectation.unplaced : Expectation → Expectation
  | expression waiting => .expression (waiting.map Form.unplaced)
  | head _ waiting => .head .start (waiting.map Form.unplaced)
  | close form waiting => .close form.unplaced (waiting.map Form.unplaced)

/-- Progress with its positions forgotten. -/
def Progress.unplaced : Progress → Progress
  | finished expression => .finished expression.unplaced
  | reading expectation => .reading expectation.unplaced

/-- A result of parsing with its positions forgotten. -/
def forgotten {α : Type} (forget : α → α) : Except ParseError α → Except ParseError α
  | .ok value => .ok (forget value)
  | .error error => .error error.unplaced

theorem Form.parameterNames_unplaced (arguments : List Expr) :
    parameterNames (Expr.allUnplaced arguments) = forgotten id (parameterNames arguments) := by
  induction arguments with
  | nil => rfl
  | cons argument arguments ih =>
      cases argument with
      | identifier position name =>
          simp only [Expr.allUnplaced, Expr.unplaced, parameterNames, ih]
          cases parameterNames arguments <;> rfl
      | _ => rfl

theorem Form.definitionTarget_unplaced (tree : Expr) :
    definitionTarget tree.unplaced = forgotten id (definitionTarget tree) := by
  cases tree with
  | call position name arguments =>
      simp only [Expr.unplaced, definitionTarget, parameterNames_unplaced]
      cases parameterNames arguments <;> rfl
  | _ => rfl

theorem deliver_unplaced (tree : Expr) (waiting : List Form) :
    deliver tree.unplaced (waiting.map Form.unplaced) =
      forgotten Progress.unplaced (deliver tree waiting) := by
  cases waiting with
  | nil => rfl
  | cons form waiting =>
      cases form with
      | call position name arguments =>
          simp only [List.map_cons, Form.unplaced, deliver, Form.receive, Except.map, forgotten,
            Progress.unplaced, Expectation.unplaced, Expr.allUnplaced_eq_map, List.map_append,
            List.map_nil]
      | target position =>
          simp only [List.map_cons, Form.unplaced, deliver, Form.receive,
            Form.definitionTarget_unplaced]
          cases Form.definitionTarget tree <;> rfl
      | _ => rfl

/-- Taking in a token does not depend on positions. -/
theorem Expectation.step_unplaced (limit : Nat) (expectation : Expectation) (token : Token) :
    expectation.unplaced.step limit token.unplaced =
      forgotten Progress.unplaced (expectation.step limit token) := by
  obtain ⟨lexeme, position⟩ := token
  cases expectation with
  | expression waiting =>
      cases lexeme with
      | integer value => exact deliver_unplaced (.integer position value) waiting
      | identifier name => exact deliver_unplaced (.identifier position name) waiting
      | leftBracket =>
          simp only [unplaced, step, readExpression, Token.unplaced, List.length_map]
          split <;> rfl
      | rightBracket =>
          cases waiting with
          | nil => rfl
          | cons form waiting =>
              cases form with
              | call start name arguments =>
                  exact deliver_unplaced (.call start name arguments) waiting
              | _ => rfl
      | ifKeyword => rfl
      | defineKeyword => rfl
  | head start waiting => cases lexeme <;> rfl
  | close form waiting =>
      cases lexeme with
      | rightBracket => exact deliver_unplaced form waiting
      | _ => rfl

theorem Expectation.atEnd_unplaced (expectation : Expectation) :
    expectation.unplaced.atEnd = forgotten (Option.map Expr.unplaced) expectation.atEnd := by
  cases expectation with
  | expression waiting =>
      cases waiting with
      | nil => rfl
      | cons form waiting => cases form <;> rfl
  | head position waiting => rfl
  | close form waiting => rfl

theorem spelled_unplaced (first : Char) (body : List Char) (position position' : Position) :
    (∃ lexeme, spelled first body position = .ok lexeme ∧
        spelled first body position' = .ok lexeme) ∨
      ∃ error error', spelled first body position = .error error ∧
        spelled first body position' = .error error' ∧ error.unplaced = error'.unplaced := by
  unfold spelled
  split
  · exact Or.inl ⟨_, rfl, rfl⟩
  split
  · exact Or.inl ⟨_, rfl, rfl⟩
  split
  · exact Or.inl ⟨_, rfl, rfl⟩
  split
  · unfold readLiteral
    split
    · exact Or.inr ⟨_, _, rfl, rfl, rfl⟩
    split
    · exact Or.inr ⟨_, _, rfl, rfl, rfl⟩
    · exact Or.inl ⟨_, rfl, rfl⟩
  · exact Or.inr ⟨_, _, rfl, rfl, rfl⟩

/-- What is read from two places in front of the same text. -/
theorem Cursor.next_relocated {cursor cursor' : Cursor} (same : cursor.rest = cursor'.rest) :
    ∃ after after', after.rest = after'.rest ∧
      ((cursor.next = (.ok none, after) ∧ cursor'.next = (.ok none, after')) ∨
        (∃ token token', cursor.next = (.ok (some token), after) ∧
          cursor'.next = (.ok (some token'), after') ∧ token.unplaced = token'.unplaced) ∨
        ∃ error error', cursor.next = (.error error, after) ∧
          cursor'.next = (.error error', after') ∧ error.unplaced = error'.unplaced) := by
  rcases finalGap_or_splits cursor.rest with final | ⟨gap, first, body, tail, splits⟩
  · have final' := final
    rw [same] at final'
    refine ⟨cursor.finish, cursor'.finish, ?_,
      Or.inl ⟨next_of_finalGap final, next_of_finalGap final'⟩⟩
    simp [finish]
  · have splits' := splits
    rw [same] at splits'
    rw [next_of_splits splits, next_of_splits splits']
    refine ⟨cursor.skip (gap.length + (body.length + 1)),
      cursor'.skip (gap.length + (body.length + 1)), by rw [skip_rest, skip_rest, same], Or.inr ?_⟩
    rcases spelled_unplaced first body (cursor.position.past gap) (cursor'.position.past gap) with
      ⟨lexeme, here, there⟩ | ⟨error, error', here, there, alike⟩
    · rw [here, there]
      exact Or.inl ⟨_, _, rfl, rfl, rfl⟩
    · rw [here, there]
      exact Or.inr ⟨error, error', rfl, rfl, alike⟩

namespace Reader

/-- Two readings that give the same but for positions and leave the same text. -/
inductive Relocated : Except ParseError (Option Expr) × Reader →
    Except ParseError (Option Expr) × Reader → Prop
  /-- Nothing is left to read. -/
  | nothing {after after' : Cursor} (rest : after.rest = after'.rest) :
      Relocated (.ok none, ⟨after, none⟩) (.ok none, ⟨after', none⟩)
  /-- An expression is read. -/
  | expression {tree tree' : Expr} {after after' : Cursor} (alike : tree.unplaced = tree'.unplaced)
      (rest : after.rest = after'.rest) :
      Relocated (.ok (some tree), ⟨after, none⟩) (.ok (some tree'), ⟨after', none⟩)
  /-- Reading fails. -/
  | error {error error' : ParseError} {after after' : Cursor}
      (alike : error.unplaced = error'.unplaced) (rest : after.rest = after'.rest) :
      Relocated (.error error, ⟨after, none⟩) (.error error', ⟨after', none⟩)

theorem Relocated.of_forgotten {left right : Except ParseError (Option Expr)}
    (alike : forgotten (Option.map Expr.unplaced) left = forgotten (Option.map Expr.unplaced) right)
    {after after' : Cursor} (rest : after.rest = after'.rest) :
    Relocated (left, ⟨after, none⟩) (right, ⟨after', none⟩) := by
  match left, right with
  | .ok none, .ok none => exact .nothing rest
  | .ok (some tree), .ok (some tree') =>
      simp only [forgotten, Option.map_some, Except.ok.injEq, Option.some.injEq] at alike
      exact .expression alike rest
  | .error failure, .error failure' =>
      simp only [forgotten, Except.error.injEq] at alike
      exact .error alike rest
  | .ok none, .ok (some tree) => simp [forgotten] at alike
  | .ok (some tree), .ok none => simp [forgotten] at alike
  | .ok _, .error _ => simp [forgotten] at alike
  | .error _, .ok _ => simp [forgotten] at alike

/-- What a token makes of expectations that are alike. -/
theorem proceed_relocated {limit : Nat} {left right : Except ParseError Progress}
    (alike : forgotten Progress.unplaced left = forgotten Progress.unplaced right)
    {after after' : Cursor} (rest : after.rest = after'.rest)
    (later : ∀ {expectation expectation' : Expectation},
      expectation.unplaced = expectation'.unplaced →
      Relocated (readFrom limit expectation ⟨after, none⟩)
        (readFrom limit expectation' ⟨after', none⟩)) :
    Relocated (proceed limit left ⟨after, none⟩) (proceed limit right ⟨after', none⟩) := by
  match left, right with
  | .error error, .error error' =>
      simp only [forgotten, Except.error.injEq] at alike
      exact .error alike rest
  | .ok (.finished tree), .ok (.finished tree') =>
      simp only [forgotten, Except.ok.injEq, Progress.unplaced, Progress.finished.injEq] at alike
      exact .expression alike rest
  | .ok (.reading expectation), .ok (.reading expectation') =>
      simp only [forgotten, Except.ok.injEq, Progress.unplaced, Progress.reading.injEq] at alike
      exact later alike
  | .ok (.finished tree), .ok (.reading expectation) => simp [forgotten, Progress.unplaced] at alike
  | .ok (.reading expectation), .ok (.finished tree) => simp [forgotten, Progress.unplaced] at alike
  | .ok _, .error _ => simp [forgotten] at alike
  | .error _, .ok _ => simp [forgotten] at alike

theorem readFrom_relocated (limit : Nat) {expectation expectation' : Expectation}
    {cursor cursor' : Cursor} (alike : expectation.unplaced = expectation'.unplaced)
    (same : cursor.rest = cursor'.rest) :
    Relocated (readFrom limit expectation ⟨cursor, none⟩)
      (readFrom limit expectation' ⟨cursor', none⟩) := by
  generalize size : cursor.rest.length = length
  induction length using Nat.strongRecOn generalizing expectation expectation' cursor cursor' with
  | ind length ih =>
      rw [readFrom_eq, readFrom_eq]
      obtain ⟨after, after', rest, nothing | token | error⟩ := Cursor.next_relocated same
      · obtain ⟨here, there⟩ := nothing
        rw [here, there]
        apply Relocated.of_forgotten _ rest
        rw [← Expectation.atEnd_unplaced, ← Expectation.atEnd_unplaced, alike]
      · obtain ⟨token, token', here, there, token_alike⟩ := token
        have shorter := cursor.next_rest_lt (by rw [here]; simp)
        simp only [here, size] at shorter
        rw [here, there]
        apply proceed_relocated _ rest
        · intro expectation expectation' alike'
          exact ih after.rest.length shorter alike' rest rfl
        · rw [← Expectation.step_unplaced, ← Expectation.step_unplaced, alike, token_alike]
      · obtain ⟨error, error', here, there, error_alike⟩ := error
        rw [here, there]
        exact .error (by simp only [ParseError.unplaced, error_alike]) rest

/-- An expression is read alike from all places. -/
theorem readExpr_relocated (limit : Nat) {cursor cursor' : Cursor}
    (same : cursor.rest = cursor'.rest) :
    Relocated (readExpr limit ⟨cursor, none⟩) (readExpr limit ⟨cursor', none⟩) := by
  rw [readExpr_eq, readExpr_eq]
  exact readFrom_relocated limit rfl same

end Reader

/-- Yields that differ in positions only and whose machines have printed the same since some
time. -/
structure Yield.Alike (front front' : String) (left right : Yield) : Prop where
  /-- The values are the same but for positions. -/
  values : left.values.map Value.unplaced = right.values.map Value.unplaced
  /-- The failures are the same but for positions. -/
  failure : left.failure.map Failure.unplaced = right.failure.map Failure.unplaced
  /-- The machines are the same but for positions. -/
  machine : left.machine.Alike front front' right.machine

/-- A yield with the values of earlier expressions in front of its own. -/
def Yield.behind (later : Yield) (values : List Value) : Yield :=
  { later with values := values ++ later.values }

namespace Machine

theorem run_of_error {limits : Limits} {reader after : Reader} {error : ParseError}
    (read : reader.readExpr limits.nesting = (.error error, after)) (machine : Machine) :
    machine.run limits reader = ⟨[], some (.syntactic error), machine⟩ := by
  rw [run]
  split <;> simp_all

theorem run_of_none {limits : Limits} {reader after : Reader}
    (read : reader.readExpr limits.nesting = (.ok none, after)) (machine : Machine) :
    machine.run limits reader = ⟨[], none, machine⟩ := by
  rw [run]
  split <;> simp_all

theorem run_of_some {limits : Limits} {reader after : Reader} {expression : Expr}
    (read : reader.readExpr limits.nesting = (.ok (some expression), after)) (machine : Machine) :
    machine.run limits reader =
      match evaluate limits.budget expression machine with
      | .error error machine => ⟨[], some (.evaluation error), machine⟩
      | .ok value machine => (machine.run limits after).behind [value] := by
  rw [run]
  split
  next error after' read' => simp [read] at read'
  next after' read' => simp [read] at read'
  next expression' after' read' =>
    rw [read] at read'
    cases read'
    rfl

/-- A text is run alike from all places, in all machines that are alike. -/
theorem run_relocated (limits : Limits) {front front' : String} {machine machine' : Machine}
    (alike : machine.Alike front front' machine') {cursor cursor' : Cursor}
    (same : cursor.rest = cursor'.rest) :
    (machine.run limits ⟨cursor, none⟩).Alike front front'
      (machine'.run limits ⟨cursor', none⟩) := by
  generalize size : cursor.rest.length = length
  induction length using Nat.strongRecOn generalizing machine machine' cursor cursor' with
  | ind length ih =>
      have read := Reader.readExpr_relocated limits.nesting same
      generalize left : Reader.readExpr limits.nesting ⟨cursor, none⟩ = here at read
      generalize right : Reader.readExpr limits.nesting ⟨cursor', none⟩ = there at read
      cases read with
      | nothing rest =>
          rw [run_of_none left, run_of_none right]
          exact ⟨rfl, rfl, alike⟩
      | error error rest =>
          rw [run_of_error left, run_of_error right]
          exact ⟨rfl, by simp [Failure.unplaced, error], alike⟩
      | @expression tree tree' after after' expression rest =>
          rw [run_of_some left, run_of_some right]
          have evaluated := Concur.evaluate limits.budget expression front front' machine machine'
            alike
          generalize evaluate limits.budget tree machine = here at evaluated ⊢
          generalize evaluate limits.budget tree' machine' = there at evaluated ⊢
          cases evaluated with
          | error error state => exact ⟨rfl, by simp [Failure.unplaced, error], state⟩
          | ok value state =>
              have shorter : after.rest.length < length := by
                rw [← size]
                exact Reader.rest_lt_of_readExpr left
              have later := ih after.rest.length shorter state rest rfl
              exact ⟨by simp [Yield.behind, value, later.values], later.failure, later.machine⟩

end Machine
end DynLisp
