import DynLisp.Parser

/-!
# Forms under construction

Expressions can also be put together token by token, without recursion and without look-ahead.  The
forms that have been opened and not yet closed wait in a list, innermost first; each of them knows
which part it is waiting for.  A finished expression is handed to the innermost waiting form, which
may thereby be finished in turn.

`Reader.readExpr_eq` says that recursive descent does the same.
-/

namespace DynLisp

/-- A form that waits for one of its parts. -/
inductive Form where
  /-- A call with the arguments read so far; it waits for another one or for its end. -/
  | call (position : Position) (name : String) (arguments : List Expr)
  /-- A conditional that waits for its condition. -/
  | condition (position : Position)
  /-- A conditional that waits for its consequence. -/
  | consequence (position : Position) (condition : Expr)
  /-- A conditional that waits for its alternative. -/
  | alternative (position : Position) (condition consequence : Expr)
  /-- A definition that waits for what it defines. -/
  | target (position : Position)
  /-- A definition that waits for its value. -/
  | value (position : Position) (name : String) (parameters : Option (List String))
deriving Repr

/-- What is read next. -/
inductive Expectation where
  /-- An expression, for the innermost of the waiting forms if there is one. -/
  | expression (waiting : List Form)
  /-- The head of the form whose bracket stands at the position. -/
  | head (position : Position) (waiting : List Form)
  /-- The closing bracket of a form that is complete otherwise. -/
  | close (form : Expr) (waiting : List Form)
deriving Repr

/-- Where a token leads. -/
inductive Progress where
  /-- A whole expression has been read. -/
  | finished (expression : Expr)
  /-- More has to be read. -/
  | reading (expectation : Expectation)
deriving Repr

namespace Form

/-- What a form is waiting for. -/
def expected : Form → String
  | call _ _ _ => "function parameter or `)`"
  | condition _ => "condition in if expression"
  | consequence _ _ => "consequence in if expression"
  | alternative _ _ _ => "alternative in if expression"
  | target _ => "name in define expression"
  | value _ _ _ => "value in define expression"

/-- What is read next once a form has the part it was waiting for. -/
def receive (expression : Expr) (waiting : List Form) : Form → Except ParseError Expectation
  | call position name arguments =>
      .ok (.expression (call position name (arguments ++ [expression]) :: waiting))
  | condition position => .ok (.expression (consequence position expression :: waiting))
  | consequence position test =>
      .ok (.expression (alternative position test expression :: waiting))
  | alternative position test chosen =>
      .ok (.close (.conditional position test chosen expression) waiting)
  | target position =>
      (definitionTarget expression).map fun (name, parameters) =>
        .expression (value position name parameters :: waiting)
  | value position name parameters =>
      .ok (.close (.define position name parameters expression) waiting)

end Form

/-- Hands an expression to the innermost waiting form. -/
def deliver (expression : Expr) : List Form → Except ParseError Progress
  | [] => .ok (.finished expression)
  | form :: waiting => (form.receive expression waiting).map .reading

namespace Expectation

/-- What a token at the beginning of a form makes of it. -/
def readHead (position : Position) (waiting : List Form) (token : Token) :
    Except ParseError Progress :=
  match token.lexeme with
  | .identifier name => .ok (.reading (.expression (.call position name [] :: waiting)))
  | .ifKeyword => .ok (.reading (.expression (.condition position :: waiting)))
  | .defineKeyword => .ok (.reading (.expression (.target position :: waiting)))
  | _ => .error (.unexpectedToken token)

/-- What a token makes of a form that only lacks its closing bracket. -/
def readClose (form : Expr) (waiting : List Form) (token : Token) : Except ParseError Progress :=
  match token.lexeme with
  | .rightBracket => deliver form waiting
  | _ => .error (.unexpectedToken token)

/-- What a token makes of the forms that wait for an expression. -/
def readExpression (limit : Nat) (waiting : List Form) (token : Token) :
    Except ParseError Progress :=
  match token.lexeme, waiting with
  | .integer value, _ => deliver (.integer token.position value) waiting
  | .identifier name, _ => deliver (.identifier token.position name) waiting
  | .leftBracket, _ =>
      if waiting.length < limit then
        .ok (.reading (.head token.position waiting))
      else
        .error (.tooDeep token.position)
  | .rightBracket, .call position name arguments :: outer =>
      deliver (.call position name arguments) outer
  | _, _ => .error (.unexpectedToken token)

/-- Takes in one token.  At most `limit` forms may be open at a time. -/
def step (limit : Nat) (expectation : Expectation) (token : Token) : Except ParseError Progress :=
  match expectation with
  | expression waiting => readExpression limit waiting token
  | head position waiting => readHead position waiting token
  | close form waiting => readClose form waiting token

/-- What the end of the text means: nothing if no form is open, an error otherwise. -/
def atEnd : Expectation → Except ParseError (Option Expr)
  | expression [] => .ok none
  | expression (form :: _) => .error (.unexpectedEnd form.expected)
  | head _ _ => .error (.unexpectedEnd "`if`, `define`, a value, or an identifier")
  | close _ _ => .error (.unexpectedEnd "`)`")

end Expectation

namespace Reader

/-- Reads on from an expectation until an expression is finished, an error occurs or the text
ends. -/
def readFrom (limit : Nat) (expectation : Expectation) (reader : Reader) :
    Except ParseError (Option Expr) × Reader :=
  match _result : reader.next with
  | (.error error, after) => (.error error, after)
  | (.ok none, after) => (expectation.atEnd, after)
  | (.ok (some token), after) =>
      match expectation.step limit token with
      | .error error => (.error error, after)
      | .ok (.finished expression) => (.ok (some expression), after)
      | .ok (.reading expectation) => after.readFrom limit expectation
termination_by reader.size
decreasing_by
  have consumed := reader.next_size_lt (by rw [_result]; simp)
  rwa [_result] at consumed

/-- How reading goes on after a token has been taken in. -/
def proceed (limit : Nat) (progress : Except ParseError Progress) (reader : Reader) :
    Except ParseError (Option Expr) × Reader :=
  match progress with
  | .error error => (.error error, reader)
  | .ok (.finished expression) => (.ok (some expression), reader)
  | .ok (.reading expectation) => reader.readFrom limit expectation

/-- One step of reading. -/
theorem readFrom_next (limit : Nat) (expectation : Expectation) (reader : Reader) :
    reader.readFrom limit expectation =
      match reader.next with
      | (.error error, after) => (.error error, after)
      | (.ok none, after) => (expectation.atEnd, after)
      | (.ok (some token), after) => proceed limit (expectation.step limit token) after := by
  rw [readFrom]
  split
  next error after result => rw [result]
  next after result => rw [result]
  next token after result =>
    rw [result]
    unfold proceed
    rfl

/-- Reading depends on the token that comes next and not on whether it has been looked at. -/
theorem readFrom_congr {reader reader' : Reader} (same : reader'.next = reader.next) (limit : Nat)
    (expectation : Expectation) :
    reader'.readFrom limit expectation = reader.readFrom limit expectation := by
  rw [readFrom_next, readFrom_next, same]

/-- A token that has been looked at comes next. -/
theorem next_of_peek {reader ahead : Reader} {token : Token}
    (looked : reader.peek = (.ok (some token), ahead)) :
    ahead.peeked = some token ∧ ahead.next = (.ok (some token), { ahead with peeked := none }) ∧
      reader.next = (.ok (some token), { ahead with peeked := none }) := by
  have behind := reader.next_peeked
  unfold peek at looked
  split at looked
  next token' after result =>
    cases looked
    rw [result] at behind
    obtain ⟨cursor, peeked⟩ := after
    cases behind
    exact ⟨rfl, rfl, result⟩
  next error after result => cases looked

theorem next_of_peek_none {reader ahead : Reader} (looked : reader.peek = (.ok none, ahead)) :
    reader.next = (.ok none, ahead) := by
  have behind := reader.next_peeked
  unfold peek at looked
  split at looked
  next token' after result =>
    cases looked
    rw [result] at behind
    obtain ⟨cursor, peeked⟩ := after
    cases behind
    exact result
  next error after result => cases looked

theorem next_of_peek_error {reader ahead : Reader} {error : ParseError}
    (looked : reader.peek = (.error error, ahead)) : reader.next = (.error error, ahead) := by
  unfold peek at looked
  split at looked
  next token after result => cases looked
  next error' after result => rw [result, looked]

open Reading (follow follow_congr formWithin)

/-- Hands an expression to the waiting forms and reads on. -/
def handOver (limit : Nat) (waiting : List Form) (tree : Expr) (reader : Reader) :
    Except ParseError (Option Expr) × Reader :=
  proceed limit (deliver tree waiting) reader

/-- Hands an expression to the waiting forms, if there is one. -/
def handOver? (limit : Nat) (waiting : List Form) (tree? : Option Expr) (reader : Reader) :
    Except ParseError (Option Expr) × Reader :=
  match tree? with
  | none => ((Expectation.expression waiting).atEnd, reader)
  | some tree => handOver limit waiting tree reader

/-- Whether what follows an opening bracket is read by descent as it is put together from its
tokens. -/
def FormAgrees (limit depth : Nat) : Prop :=
  ∀ (waiting : List Form), waiting.length + depth = limit → 0 < depth →
    ∀ (position : Position) (reader : Reader),
      reader.readFrom limit (.head position waiting) =
        follow ((formWithin depth position).run reader) (handOver limit waiting)

/-- An expression is read by descent as it is put together from its tokens, unless the token that
comes next closes a call. -/
theorem readFrom_expression {limit depth : Nat} (agrees : FormAgrees limit depth)
    {waiting : List Form} (opened : waiting.length + depth = limit) {reader : Reader}
    (free : ∀ position name arguments outer, waiting = .call position name arguments :: outer →
      ∀ place after, reader.next ≠ (.ok (some ⟨.rightBracket, place⟩), after)) :
    reader.readFrom limit (.expression waiting) =
      follow ((ExprReading.ofForm (formWithin depth)).run reader) (handOver? limit waiting) := by
  change _ = follow ((Reading.expression (formWithin depth)).run reader) _
  rw [readFrom_next, Reading.expression, Reading.bind_run, Reading.follow_follow, Reading.token_run]
  rcases result : reader.next with ⟨error | (_ | ⟨lexeme, place⟩), after⟩
  · rfl
  · rfl
  · simp only [Reading.follow_ok, Reading.map_run, Reading.follow_follow]
    cases lexeme with
    | integer value => rfl
    | identifier name => rfl
    | leftBracket =>
        change proceed limit (if waiting.length < limit then _ else _) after = _
        cases depth with
        | zero =>
            rw [if_neg (by omega)]
            rfl
        | succ depth =>
            rw [if_pos (by omega)]
            exact agrees waiting opened depth.succ_pos place after
    | rightBracket =>
        cases waiting with
        | nil => rfl
        | cons form outer =>
            cases form with
            | call position name arguments =>
                exact absurd result (free position name arguments outer rfl place after)
            | _ => rfl
    | ifKeyword => rfl
    | defineKeyword => rfl

/-- A part that has to be there is read by descent as it is put together from its tokens. -/
theorem readFrom_part {limit depth : Nat} (agrees : FormAgrees limit depth) {form : Form}
    {waiting : List Form} (opened : (form :: waiting).length + depth = limit)
    (other : ∀ position name arguments, form ≠ .call position name arguments) (reader : Reader) :
    reader.readFrom limit (.expression (form :: waiting)) =
      follow ((Reading.expect (.ofForm (formWithin depth)) form.expected).run reader)
        (handOver limit (form :: waiting)) := by
  rw [readFrom_expression agrees opened, Reading.expect, Reading.bind_run, Reading.follow_follow]
  · apply follow_congr
    intro tree? after
    cases tree? <;> rfl
  · rintro position name arguments outer ⟨⟩
    exact absurd rfl (other position name arguments)

/-- If a token has been looked at that does not close the call, another argument is read. -/
theorem readFrom_argument {limit depth : Nat} (agrees : FormAgrees limit depth)
    {position : Position} {name : String} {waiting : List Form}
    (opened : waiting.length + 1 + depth = limit) (found : List Expr) {reader ahead : Reader}
    {token : Token} (looked : reader.peek = (.ok (some token), ahead))
    (other : token.lexeme ≠ .rightBracket) :
    reader.readFrom limit (.expression (.call position name found :: waiting)) =
      follow ((ExprReading.ofForm (formWithin depth)).run ahead)
        (handOver? limit (.call position name found :: waiting)) := by
  obtain ⟨-, next_ahead, next_reader⟩ := next_of_peek looked
  rw [← readFrom_congr (next_ahead.trans next_reader.symm)]
  have length : (Form.call position name found :: waiting).length + depth = limit := opened
  refine readFrom_expression agrees length fun _ _ _ _ _ place after closing => ?_
  rw [next_ahead] at closing
  cases closing
  exact other rfl

/-- The arguments of a call are read by descent as the call is put together from its tokens. -/
theorem readFrom_arguments {limit depth : Nat} (agrees : FormAgrees limit depth)
    {position : Position} {name : String} {waiting : List Form}
    (opened : waiting.length + 1 + depth = limit) (found : List Expr) (reader : Reader) :
    reader.readFrom limit (.expression (.call position name found :: waiting)) =
      follow (Reading.argumentsFrom (.ofForm (formWithin depth)) found reader)
        fun arguments after => follow after.next fun _ =>
          handOver limit waiting (.call position name arguments) := by
  fun_induction Reading.argumentsFrom (.ofForm (formWithin depth)) found reader with
  | case1 found reader error ahead looked =>
      rw [readFrom_next, next_of_peek_error looked]
      rfl
  | case2 found reader ahead looked =>
      rw [readFrom_next, next_of_peek_none looked]
      rfl
  | case3 found reader token ahead looked closing =>
      obtain ⟨lexeme, place⟩ := token
      cases closing
      obtain ⟨-, next_ahead, next_reader⟩ := next_of_peek looked
      rw [readFrom_next, next_reader, Reading.follow_ok, next_ahead]
      rfl
  | case4 found reader token ahead looked other error after given =>
      rw [readFrom_argument agrees opened found looked other, given]
      rfl
  | case5 found reader token ahead looked other after given =>
      rw [readFrom_argument agrees opened found looked other, given]
      rfl
  | case6 found reader token ahead looked other tree after given ih =>
      rw [readFrom_argument agrees opened found looked other, given, ← ih]
      rfl

/-- A closing bracket is consumed by descent as it is taken in by a form that only lacks it. -/
theorem readFrom_close (limit : Nat) (form : Expr) (waiting : List Form) (reader : Reader) :
    reader.readFrom limit (.close form waiting) =
      follow (Reading.rightBracket.run reader) fun _ => handOver limit waiting form := by
  rw [readFrom_next, Reading.rightBracket, Reading.bind_run, Reading.follow_follow,
    Reading.token_run]
  rcases reader.next with ⟨error | (_ | ⟨lexeme, place⟩), after⟩
  · rfl
  · rfl
  · cases lexeme <;> rfl

theorem readFrom_conditional {limit depth : Nat} (agrees : FormAgrees limit depth)
    {waiting : List Form} (opened : waiting.length + 1 + depth = limit) (position : Position)
    (reader : Reader) :
    follow reader.next (fun _ after =>
        after.readFrom limit (.expression (.condition position :: waiting))) =
      follow ((Reading.conditional (.expect (.ofForm (formWithin depth))) position).run reader)
        (handOver limit waiting) := by
  simp only [Reading.conditional, Reading.bind_run, Reading.follow_follow, Reading.token_run]
  apply follow_congr
  intro _ after
  rw [readFrom_part agrees opened (by simp)]
  apply follow_congr
  intro test after
  change readFrom limit (.expression (.consequence position test :: waiting)) after = _
  rw [readFrom_part agrees opened (by simp)]
  apply follow_congr
  intro chosen after
  change readFrom limit (.expression (.alternative position test chosen :: waiting)) after = _
  rw [readFrom_part agrees opened (by simp)]
  exact follow_congr fun other after => readFrom_close limit _ waiting after

theorem readFrom_definition {limit depth : Nat} (agrees : FormAgrees limit depth)
    {waiting : List Form} (opened : waiting.length + 1 + depth = limit) (position : Position)
    (reader : Reader) :
    follow reader.next (fun _ after =>
        after.readFrom limit (.expression (.target position :: waiting))) =
      follow ((Reading.definition (.expect (.ofForm (formWithin depth))) position).run reader)
        (handOver limit waiting) := by
  simp only [Reading.definition, Reading.bind_run, Reading.follow_follow, Reading.token_run]
  apply follow_congr
  intro _ after
  rw [readFrom_part agrees opened (by simp)]
  apply follow_congr
  intro target after
  rw [handOver, deliver, Form.receive]
  rcases Form.definitionTarget target with error | ⟨name, parameters⟩
  · rfl
  · change readFrom limit (.expression (.value position name parameters :: waiting)) after = _
    rw [readFrom_part agrees opened (by simp)]
    exact follow_congr fun value after => readFrom_close limit _ waiting after

/-- Every form is read by descent as it is put together from its tokens. -/
theorem formAgrees (limit depth : Nat) : FormAgrees limit depth := by
  -- As many forms may still be opened as there is depth left; the form that is opened takes one.
  induction depth with
  | zero =>
      intro waiting _ positive
      exact absurd positive (Nat.lt_irrefl 0)
  | succ depth ih =>
      intro waiting opened _ position reader
      have opened : waiting.length + 1 + depth = limit := by omega
      simp only [formWithin, Reading.form, Reading.bind_run, Reading.follow_follow,
        Reading.lookAhead_run]
      rcases looked : reader.peek with ⟨error | (_ | token), ahead⟩
      · rw [readFrom_next, next_of_peek_error looked]
        rfl
      · rw [readFrom_next, next_of_peek_none looked]
        rfl
      · obtain ⟨-, next_ahead, next_reader⟩ := next_of_peek looked
        obtain ⟨lexeme, place⟩ := token
        rw [readFrom_next, next_reader, Reading.follow_ok]
        cases lexeme with
        | identifier name =>
            simp only [Reading.call, Reading.bind_run, Reading.follow_follow, Reading.token_run,
              next_ahead]
            exact readFrom_arguments ih opened [] _
        | ifKeyword =>
            rw [← readFrom_conditional ih opened, next_ahead]
            rfl
        | defineKeyword =>
            rw [← readFrom_definition ih opened, next_ahead]
            rfl
        | _ =>
            simp only [Reading.bind_run, Reading.follow_follow, Reading.token_run, next_ahead]
            rfl

/-- Recursive descent reads what is put together token by token. -/
theorem readExpr_eq (limit : Nat) (reader : Reader) :
    reader.readExpr limit = reader.readFrom limit (.expression []) := by
  rw [readFrom_expression (formAgrees limit limit) (by simp) (by simp), readExpr]
  rcases (ExprReading.ofForm (formWithin limit)).run reader with ⟨error | (_ | tree), after⟩ <;> rfl

end Reader
end DynLisp
