import DynLisp.Reader

/-!
# Reading expressions

Expressions are read by recursive descent, with one token of look-ahead in forms and in arguments.

```
expression ::= integer | identifier | "(" form
form       ::= "if" expression expression expression ")"
             | "define" (identifier | "(" identifier identifier* ")") expression ")"
             | identifier expression* ")"
```

The first slot of a definition is read as any expression and judged when it is complete.

Each rule of the grammar is a reading that is given the readings of its parts.  The recursion is
tied in two ways.  `Reader.readExpr` bounds the number of forms that are open at a time.
`ExprReading.within` bounds the number of frames on the stack: every rule takes one, so a call takes
three and a conditional or a definition takes four, and when there is none left the innermost form
reports it.
-/

namespace DynLisp
namespace Form

/-- The names of parameters, which have to be identifiers. -/
def parameterNames : List Expr → Except ParseError (List String)
  | [] => .ok []
  | .identifier _ name :: rest => (parameterNames rest).map (name :: ·)
  | expression :: _ => .error (.unexpectedExpression expression)

/-- What a definition defines: a variable by its name, or a function by a call of it. -/
def definitionTarget : Expr → Except ParseError (String × Option (List String))
  | .identifier _ name => .ok (name, none)
  | .call _ name arguments => (parameterNames arguments).map fun names => (name, some names)
  | expression => .error (.unexpectedExpression expression)

end Form

/-- A reading of expressions, which gives nothing at the end of the text. -/
structure ExprReading extends Reading (Option Expr) where
  /-- An expression that is given has been consumed. -/
  consumes : ∀ {reader : Reader} {tree : Expr},
    (run reader).1 = .ok (some tree) → (run reader).2.size < reader.size

namespace Reading

/-- What follows a token that has been consumed where an expression stands; `form` reads what is
behind the bracket at a position. -/
def expressionAt (form : Position → Reading Expr) (token : Token) : Reading Expr :=
  match token.lexeme with
  | .integer value => pure (.integer token.position value)
  | .identifier name => pure (.identifier token.position name)
  | .leftBracket => form token.position
  | _ => fail (.unexpectedToken token)

/-- Reads an expression, or nothing at the end of the text. -/
def expression (form : Position → Reading Expr) : Reading (Option Expr) := do
  match ← token with
  | none => pure none
  | some token => some <$> expressionAt form token

/-- Reading an expression or an error leaves less to read. -/
theorem expression_size_lt (form : Position → Reading Expr) {reader : Reader}
    (more : ((expression form).run reader).1 ≠ .ok none) :
    ((expression form).run reader).2.size < reader.size := by
  have consumed : reader.next.1 ≠ .ok none → _ := reader.next_size_lt
  simp only [expression, bind_run, token_run] at more ⊢
  rcases result : reader.next with ⟨error | (_ | token), after⟩
  · rw [result] at consumed
    exact consumed (by simp)
  · rw [result] at more
    exact absurd rfl more
  · rw [result] at consumed
    refine Nat.lt_of_le_of_lt ?_ (consumed (by simp))
    exact (some <$> expressionAt form token).forward after

end Reading

/-- Reads expressions whose forms are read as given. -/
def ExprReading.ofForm (form : Position → Reading Expr) : ExprReading where
  toReading := .expression form
  consumes given := Reading.expression_size_lt form (by rw [given]; simp)

namespace Reading

/-- Reads an expression that has to be there; `expected` names it otherwise. -/
def expect (read : ExprReading) (expected : String) : Reading Expr := do
  match ← read.toReading with
  | none => fail (.unexpectedEnd expected)
  | some tree => pure tree

/-- Reads further arguments of a call, up to its closing bracket. -/
def argumentsFrom (read : ExprReading) (found : List Expr) (reader : Reader) :
    Except ParseError (List Expr) × Reader :=
  match _looked : reader.peek with
  | (.error error, after) => (.error error, after)
  | (.ok none, after) => (.error (.unexpectedEnd "function parameter or `)`"), after)
  | (.ok (some token), after) =>
      if token.lexeme = .rightBracket then
        (.ok found, after)
      else
        match _given : read.run after with
        | (.error error, after) => (.error error, after)
        | (.ok none, after) => (.error (.unexpectedEnd "function parameter or `)`"), after)
        | (.ok (some tree), after) => argumentsFrom read (found ++ [tree]) after
termination_by reader.size
decreasing_by
  have remaining := reader.peek_size_le
  have consumed := read.consumes (congrArg Prod.fst _given)
  rw [_looked] at remaining
  rw [_given] at consumed
  exact Nat.lt_of_lt_of_le consumed remaining

theorem run_size_le_of_peek {α : Type} (reading : Reading α) {reader ahead after : Reader}
    {token? : Except ParseError (Option Token)} {result : Except ParseError α}
    (looked : reader.peek = (token?, ahead)) (given : reading.run ahead = (result, after)) :
    after.size ≤ reader.size := by
  have remaining := reader.peek_size_le
  have forward := reading.forward ahead
  rw [looked] at remaining
  rw [given] at forward
  exact Nat.le_trans forward remaining

theorem argumentsFrom_size_le (read : ExprReading) (found : List Expr) (reader : Reader) :
    (argumentsFrom read found reader).2.size ≤ reader.size := by
  fun_induction argumentsFrom read found reader with
  | case1 found reader error ahead looked => exact run_size_le_of_peek (pure ()) looked rfl
  | case2 found reader ahead looked => exact run_size_le_of_peek (pure ()) looked rfl
  | case3 found reader token ahead looked closing =>
      exact run_size_le_of_peek (pure ()) looked rfl
  | case4 found reader token ahead looked other error after given =>
      exact run_size_le_of_peek read.toReading looked given
  | case5 found reader token ahead looked other after given =>
      exact run_size_le_of_peek read.toReading looked given
  | case6 found reader token ahead looked other tree after given ih =>
      exact Nat.le_trans ih (run_size_le_of_peek read.toReading looked given)

/-- Reads the arguments of a call. -/
def arguments (read : ExprReading) : Reading (List Expr) :=
  ⟨argumentsFrom read [], argumentsFrom_size_le read []⟩

/-- Reads a call whose name has been looked at. -/
def call (read : ExprReading) (position : Position) (name : String) : Reading Expr := do
  let _ ← token
  let arguments ← arguments read
  let _ ← token
  pure (.call position name arguments)

/-- Reads a conditional whose keyword has been looked at. -/
def conditional (expect : String → Reading Expr) (position : Position) : Reading Expr := do
  let _ ← token
  let test ← expect "condition in if expression"
  let chosen ← expect "consequence in if expression"
  let other ← expect "alternative in if expression"
  rightBracket
  pure (.conditional position test chosen other)

/-- Reads a definition whose keyword has been looked at. -/
def definition (expect : String → Reading Expr) (position : Position) : Reading Expr := do
  let _ ← token
  let target ← expect "name in define expression"
  let (name, parameters) ← ofExcept (Form.definitionTarget target)
  let value ← expect "value in define expression"
  rightBracket
  pure (.define position name parameters value)

/-- Reads what follows an opening bracket: the next token tells which form it is. -/
def form (call : String → Reading Expr) (conditional definition : Reading Expr) :
    Reading Expr := do
  match ← lookAhead with
  | none => fail (.unexpectedEnd "`if`, `define`, a value, or an identifier")
  | some ahead =>
      match ahead.lexeme with
      | .identifier name => call name
      | .ifKeyword => conditional
      | .defineKeyword => definition
      | _ => do
          let _ ← token
          fail (.unexpectedToken ahead)

/-- Reads what follows the bracket at a position while at most a number of forms may be open. -/
def formWithin : Nat → Position → Reading Expr
  | 0 => fun position => fail (.tooDeep position)
  | limit + 1 => fun position =>
      let read := ExprReading.ofForm (formWithin limit)
      form (call read position) (conditional (expect read) position)
        (definition (expect read) position)

end Reading

namespace Reader

/-- How many forms may be open at a time. -/
def nestingLimit : Nat := 2900

/-- Reads the next expression, or nothing at the end of the text. -/
def readExpr (limit : Nat) (reader : Reader) : Except ParseError (Option Expr) × Reader :=
  (ExprReading.ofForm (Reading.formWithin limit)).run reader

/-- Reading an expression or an error leaves less to read. -/
theorem readExpr_size_lt {limit : Nat} {reader : Reader}
    (more : (reader.readExpr limit).1 ≠ .ok none) :
    (reader.readExpr limit).2.size < reader.size :=
  Reading.expression_size_lt _ more

/-- All that is read from a reader to the end of the text, going on after every error except that
brackets are nested too deeply. -/
def readAll (limit : Nat) (reader : Reader) : List (Except ParseError Expr) :=
  match _result : reader.readExpr limit with
  | (.ok none, _) => []
  | (.ok (some expression), after) => .ok expression :: after.readAll limit
  | (.error (.tooDeep position), _) => [.error (.tooDeep position)]
  | (.error error, after) => .error error :: after.readAll limit
termination_by reader.size
decreasing_by
  · have consumed := reader.readExpr_size_lt (by rw [_result]; simp)
    rwa [_result] at consumed
  · have consumed := reader.readExpr_size_lt (by rw [_result]; simp)
    rwa [_result] at consumed

end Reader

/-- Reports at a position that the stack is used up. -/
def Reading.located {α : Type} (position : Position) (reading : Reading α) : Reading α where
  run reader :=
    match reading.run reader with
    | (.error .stackExhausted, after) => (.error (.tooDeep position), after)
    | outcome => outcome
  forward reader := by
    have remaining := reading.forward reader
    split
    next after result => rwa [result] at remaining
    next => exact remaining

namespace Stack

mutual

/-- Reads expressions on a stack with so many frames left.  Every rule takes one of them. -/
def expression : Nat → ExprReading
  | 0 => ⟨.fail .stackExhausted, by simp [Reading.fail]⟩
  | frames + 1 => .ofForm (form frames)

/-- Reads what follows the bracket at a position and reports there if the stack is used up. -/
def form : Nat → Position → Reading Expr
  | 0 => fun _ => .fail .stackExhausted
  | frames + 1 => fun position =>
      .form (fun name => (call frames position name).located position)
        ((conditional frames position).located position)
        ((definition frames position).located position)

/-- Reads a call whose name has been looked at. -/
def call : Nat → Position → String → Reading Expr
  | 0 => fun _ _ => .fail .stackExhausted
  | frames + 1 => .call (expression frames)

/-- Reads a conditional whose keyword has been looked at. -/
def conditional : Nat → Position → Reading Expr
  | 0 => fun _ => .fail .stackExhausted
  | frames + 1 => .conditional (expect frames)

/-- Reads a definition whose keyword has been looked at. -/
def definition : Nat → Position → Reading Expr
  | 0 => fun _ => .fail .stackExhausted
  | frames + 1 => .definition (expect frames)

/-- Reads an expression that has to be there. -/
def expect : Nat → String → Reading Expr
  | 0 => fun _ => .fail .stackExhausted
  | frames + 1 => .expect (expression frames)

end

end Stack
end DynLisp
