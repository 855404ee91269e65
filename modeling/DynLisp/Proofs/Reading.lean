import DynLisp.Proofs.Forms
import DynLisp.Proofs.Lexing

/-!
# Reading token by token

`Cursor.Reads` says which tokens are read one after the other from a place in a text, and
`Expectation.Advances` says how the forms under construction take in tokens without being finished.
The reading of an expression is a stretch of both followed by one of four endings, which
`Reader.readExpr_cases` lists: the text ends, no token can be read, a token stands where it cannot,
or the expression is finished.
-/

namespace DynLisp
namespace Cursor

/-- What reading once can do. -/
theorem next_cases (cursor : Cursor) :
    (FinalGap cursor.rest ∧ cursor.next = (.ok none, cursor.finish)) ∨
      ∃ gap first body tail, Splits cursor.rest gap first body tail ∧
        cursor.next =
          ((spelled first body (cursor.position.past gap)).map fun lexeme =>
              some ⟨lexeme, cursor.position.past gap⟩,
            cursor.skip (gap.length + (body.length + 1))) := by
  rcases finalGap_or_splits cursor.rest with final | ⟨gap, first, body, tail, splits⟩
  · exact Or.inl ⟨final, next_of_finalGap final⟩
  · exact Or.inr ⟨gap, first, body, tail, splits, next_of_splits splits⟩

/-- Nothing is read exactly if only blanks and comments are left. -/
theorem next_eq_none_iff (cursor : Cursor) :
    cursor.next.1 = .ok none ↔ FinalGap cursor.rest := by
  constructor
  · intro nothing
    rcases cursor.next_cases with ⟨final, _⟩ | ⟨gap, first, body, tail, splits, result⟩
    · exact final
    · rw [result] at nothing
      cases lexeme : spelled first body (cursor.position.past gap) <;>
        simp [lexeme, Except.map] at nothing
  · intro final
    rw [next_of_finalGap final]

theorem next_finish (cursor : Cursor) : cursor.finish.next = (.ok none, cursor.finish) := by
  have final : FinalGap cursor.finish.rest := by
    simpa [finish] using FinalGap.closed .nil
  rw [next_of_finalGap final]
  simp [finish, skip]

theorem splits_skip {cursor : Cursor} {gap body tail : List Char} {first : Char}
    (splits : Splits cursor.rest gap first body tail) :
    cursor.skip (gap.length + (body.length + 1)) =
      ⟨tail, cursor.position.past (gap ++ first :: body),
        cursor.index + (gap ++ first :: body).length⟩ := by
  have length : gap.length + (body.length + 1) = (gap ++ first :: body).length := by simp
  have text : cursor.rest = (gap ++ first :: body) ++ tail := by simp [splits.text_eq]
  rw [length]
  simp only [skip, text, List.drop_left, List.take_left]

/-- A token is read exactly if the text splits accordingly. -/
theorem next_eq_token {cursor after : Cursor} {token : Token}
    (read : cursor.next = (.ok (some token), after)) :
    ∃ gap first body, Splits cursor.rest gap first body after.rest ∧
      spelled first body (cursor.position.past gap) = .ok token.lexeme ∧
      token.position = cursor.position.past gap ∧
      after.position = cursor.position.past (gap ++ first :: body) ∧
      after.index = cursor.index + (gap ++ first :: body).length := by
  rcases cursor.next_cases with ⟨_, result⟩ | ⟨gap, first, body, tail, splits, result⟩
  · rw [result] at read
    simp at read
  · rw [result, splits_skip splits] at read
    cases lexeme : spelled first body (cursor.position.past gap) with
    | error error => simp [lexeme, Except.map] at read
    | ok lexeme' =>
        simp only [lexeme, Except.map, Prod.mk.injEq, Except.ok.injEq, Option.some.injEq] at read
        obtain ⟨rfl, rfl⟩ := read
        exact ⟨gap, first, body, splits, lexeme, rfl, rfl, rfl⟩

/-- The tokens that are read one after the other from one place to another. -/
inductive Reads : Cursor → List Token → Cursor → Prop
  /-- No token is read. -/
  | nil (cursor : Cursor) : Reads cursor [] cursor
  /-- One token is read and then others. -/
  | cons {cursor middle after : Cursor} {token : Token} {tokens : List Token}
      (first : cursor.next = (.ok (some token), middle)) (later : Reads middle tokens after) :
      Reads cursor (token :: tokens) after

/-- Whether a cursor stands immediately behind the characters of a token of the text in front of
which another one stood. -/
def StandsBehind (after : Cursor) (token : Token) (cursor : Cursor) : Prop :=
  ∃ earlier first body,
    cursor.rest = (earlier ++ first :: body) ++ after.rest ∧
      after.index = cursor.index + (earlier ++ first :: body).length ∧
      token.position = cursor.position.past earlier ∧
      spelled first body token.position = .ok token.lexeme

namespace Reads

theorem append {cursor middle after : Cursor} {front back : List Token}
    (first : Reads cursor front middle) (second : Reads middle back after) :
    Reads cursor (front ++ back) after := by
  induction first with
  | nil => exact second
  | cons head later ih => exact .cons head (ih second)

theorem single {cursor after : Cursor} {token : Token}
    (read : cursor.next = (.ok (some token), after)) : Reads cursor [token] after :=
  .cons read (.nil after)

theorem next_eq {cursor after : Cursor} {token : Token} (reads : Reads cursor [token] after) :
    cursor.next = (.ok (some token), after) := by
  cases reads with
  | cons first later =>
      cases later with
      | nil => exact first

/-- Reading a list of tokens can be interrupted anywhere. -/
theorem split {cursor after : Cursor} {front back : List Token}
    (reads : Reads cursor (front ++ back) after) :
    ∃ middle, Reads cursor front middle ∧ Reads middle back after := by
  induction front generalizing cursor with
  | nil => exact ⟨cursor, .nil cursor, reads⟩
  | cons token front ih =>
      cases reads with
      | cons first later =>
          obtain ⟨middle, reads, rest⟩ := ih later
          exact ⟨middle, .cons first reads, rest⟩

/-- Every token takes at least one character. -/
theorem length_le {cursor after : Cursor} {tokens : List Token}
    (reads : Reads cursor tokens after) :
    tokens.length + after.rest.length ≤ cursor.rest.length := by
  induction reads with
  | nil => simp
  | @cons cursor middle after token tokens read later ih =>
      have consumed := cursor.next_rest_lt (by rw [read]; simp)
      simp only [read] at consumed
      simp only [List.length_cons]
      omega

/-- From one place to another one there is only one list of tokens to read. -/
theorem tokens_unique {cursor after : Cursor} {front back : List Token}
    (first : Reads cursor front after) (second : Reads cursor back after) : front = back := by
  induction first generalizing back with
  | nil cursor =>
      have room := second.length_le
      exact (List.length_eq_zero_iff.mp (by omega)).symm
  | cons read later ih =>
      cases second with
      | nil =>
          have room := (Reads.cons read later).length_le
          simp only [List.length_cons] at room
          omega
      | cons read' later' =>
          rw [read] at read'
          cases read'
          rw [ih later']

/-- The cursor has moved over the text between its two places. -/
theorem exists_consumed {cursor after : Cursor} {tokens : List Token}
    (reads : Reads cursor tokens after) :
    ∃ consumed, cursor.rest = consumed ++ after.rest ∧
      after.position = cursor.position.past consumed ∧
      after.index = cursor.index + consumed.length := by
  induction reads with
  | nil cursor => exact ⟨[], rfl, rfl, rfl⟩
  | @cons cursor middle after token tokens read later ih =>
      obtain ⟨gap, first, body, splits, -, -, position, index⟩ := next_eq_token read
      obtain ⟨consumed, rest_eq, position', index'⟩ := ih
      refine ⟨(gap ++ first :: body) ++ consumed, ?_, ?_, ?_⟩
      · rw [splits.text_eq, rest_eq]
        simp
      · rw [position', position, ← Position.past_append]
      · rw [index', index, Nat.add_assoc, ← List.length_append]

theorem standsBehind {cursor after : Cursor} {tokens : List Token} {token : Token}
    (reads : Reads cursor (tokens ++ [token]) after) : after.StandsBehind token cursor := by
  obtain ⟨place, front, last⟩ := reads.split
  obtain ⟨consumed, rest_eq, place_eq, index⟩ := front.exists_consumed
  obtain ⟨gap, first, body, splits, spelling, position, -, index'⟩ := next_eq_token last.next_eq
  refine ⟨consumed ++ gap, first, body, ?_, ?_, ?_, ?_⟩
  · rw [rest_eq, splits.text_eq]
    simp
  · rw [index', index]
    simp only [List.length_append]
    omega
  · rw [position, place_eq, Position.past_append]
  · rw [position]
    exact spelling

/-- Whatever follows the last token can be exchanged for any text in front of which it ends. -/
theorem exchange {cursor after : Cursor} {tokens : List Token} (reads : Reads cursor tokens after)
    {consumed : List Char} (rest : cursor.rest = consumed ++ after.rest) {tail : List Char}
    (ends : ∀ token ∈ tokens.getLast?, token.lexeme.EndsBefore tail) :
    Reads { cursor with rest := consumed ++ tail } tokens { after with rest := tail } := by
  induction reads generalizing consumed with
  | nil cursor =>
      obtain rfl : consumed = [] := by simpa using rest
      exact .nil _
  | @cons cursor middle after token tokens read later ih =>
      obtain ⟨gap, first, body, splits, spelling, position, position', index⟩ := next_eq_token read
      obtain ⟨text, middle_rest, -⟩ := later.exists_consumed
      obtain rfl : consumed = (gap ++ first :: body) ++ text := by
        apply List.append_cancel_right
        rw [← rest, splits.text_eq, middle_rest]
        simp
      -- The token ends in front of the next one, or of the tail if there is no next one.
      have stop : ∀ character ∈ (text ++ tail).head?, continuesToken first character = false := by
        cases text with
        | nil =>
            have none_left : tokens = [] := by
              have room := later.length_le
              rw [middle_rest, List.nil_append] at room
              exact List.length_eq_zero_iff.mp (by omega)
            subst none_left
            exact (endsBefore_iff spelling tail).mp (ends token rfl)
        | cons character text =>
            intro other head
            apply splits.tail other
            rw [middle_rest]
            exact head
      have later_ends : ∀ token ∈ tokens.getLast?, token.lexeme.EndsBefore tail := by
        intro other last
        apply ends other
        cases tokens with
        | nil => cases last
        | cons next tokens => simpa using last
      refine .cons ?_ (ih middle_rest later_ends)
      have splits' : Splits (((gap ++ first :: body) ++ text) ++ tail) gap first body
          (text ++ tail) := by
        simpa using splits.exchange stop
      rw [next_of_splits splits', splits_skip splits', spelling, ← position, position', index]
      rfl

end Reads
end Cursor

namespace Form

theorem parameterNames_cons_eq_ok {argument : Expr} {arguments : List Expr} {names : List String}
    (parameters : parameterNames (argument :: arguments) = .ok names) :
    ∃ position name later, argument = .identifier position name ∧
      parameterNames arguments = .ok later ∧ names = name :: later := by
  cases argument with
  | identifier position name =>
      cases rest : parameterNames arguments with
      | error error =>
          simp only [parameterNames, rest] at parameters
          cases parameters
      | ok later =>
          simp only [parameterNames, rest] at parameters
          cases parameters
          exact ⟨position, name, later, rfl, rfl, rfl⟩
  | _ => cases parameters

theorem definitionTarget_eq_ok {tree : Expr} {name : String} {parameters : Option (List String)}
    (target : definitionTarget tree = .ok (name, parameters)) :
    (∃ position, tree = .identifier position name ∧ parameters = none) ∨
      ∃ position arguments names, tree = .call position name arguments ∧
        parameterNames arguments = .ok names ∧ parameters = some names := by
  cases tree with
  | identifier position name =>
      cases target
      exact Or.inl ⟨position, rfl, rfl⟩
  | call position name arguments =>
      cases rest : parameterNames arguments with
      | error error =>
          simp only [definitionTarget, rest] at target
          cases target
      | ok names =>
          simp only [definitionTarget, rest] at target
          cases target
          exact Or.inr ⟨position, arguments, names, rfl, rest, rfl⟩
  | _ => cases target

end Form

/-- A definition is given what it defines only if that is a name or a call of names. -/
theorem deliver_target {tree : Expr} {position : Position} {waiting : List Form}
    {progress : Progress} (delivered : deliver tree (.target position :: waiting) = .ok progress) :
    ∃ name parameters, Form.definitionTarget tree = .ok (name, parameters) ∧
      progress = .reading (.expression (.value position name parameters :: waiting)) := by
  cases target : Form.definitionTarget tree with
  | error error =>
      simp only [deliver, Form.receive, target] at delivered
      cases delivered
  | ok defined =>
      simp only [deliver, Form.receive, target] at delivered
      cases delivered
      exact ⟨_, _, rfl, rfl⟩

namespace Expectation

/-- All that a token can do if it is taken in. -/
inductive Takes : Expectation → Token → Progress → Prop
  /-- An integer is an expression. -/
  | integer {position : Position} {value : Int} {waiting : List Form} {progress : Progress}
      (delivered : deliver (.integer position value) waiting = .ok progress) :
      Takes (.expression waiting) ⟨.integer value, position⟩ progress
  /-- A name is an expression. -/
  | identifier {position : Position} {name : String} {waiting : List Form} {progress : Progress}
      (delivered : deliver (.identifier position name) waiting = .ok progress) :
      Takes (.expression waiting) ⟨.identifier name, position⟩ progress
  /-- A form is opened. -/
  | opening (position : Position) (waiting : List Form) :
      Takes (.expression waiting) ⟨.leftBracket, position⟩ (.reading (.head position waiting))
  /-- A call has all its arguments. -/
  | called {start position : Position} {name : String} {arguments : List Expr}
      {waiting : List Form} {progress : Progress}
      (delivered : deliver (.call start name arguments) waiting = .ok progress) :
      Takes (.expression (.call start name arguments :: waiting)) ⟨.rightBracket, position⟩ progress
  /-- A form is a call. -/
  | call (start position : Position) (name : String) (waiting : List Form) :
      Takes (.head start waiting) ⟨.identifier name, position⟩
        (.reading (.expression (.call start name [] :: waiting)))
  /-- A form is a conditional. -/
  | conditional (start position : Position) (waiting : List Form) :
      Takes (.head start waiting) ⟨.ifKeyword, position⟩
        (.reading (.expression (.condition start :: waiting)))
  /-- A form is a definition. -/
  | define (start position : Position) (waiting : List Form) :
      Takes (.head start waiting) ⟨.defineKeyword, position⟩
        (.reading (.expression (.target start :: waiting)))
  /-- A conditional or a definition is closed. -/
  | closing {position : Position} {form : Expr} {waiting : List Form} {progress : Progress}
      (delivered : deliver form waiting = .ok progress) :
      Takes (.close form waiting) ⟨.rightBracket, position⟩ progress

theorem takes_of_step {limit : Nat} {expectation : Expectation} {token : Token}
    {progress : Progress} (step : expectation.step limit token = .ok progress) :
    Takes expectation token progress := by
  obtain ⟨lexeme, position⟩ := token
  cases expectation with
  | expression waiting =>
      cases lexeme with
      | integer value => exact .integer step
      | identifier name => exact .identifier step
      | leftBracket =>
          simp only [Expectation.step, readExpression] at step
          split at step
          · cases step
            exact .opening position waiting
          · cases step
      | rightBracket =>
          cases waiting with
          | nil => cases step
          | cons form waiting =>
              cases form with
              | call start name arguments => exact .called step
              | _ => cases step
      | ifKeyword => cases step
      | defineKeyword => cases step
  | head start waiting =>
      cases lexeme with
      | identifier name =>
          cases step
          exact .call start position name waiting
      | ifKeyword =>
          cases step
          exact .conditional start position waiting
      | defineKeyword =>
          cases step
          exact .define start position waiting
      | _ => cases step
  | close form waiting =>
      cases lexeme with
      | rightBracket => exact .closing step
      | _ => cases step

/-- Tokens that are taken in one after the other while no expression is finished by them. -/
inductive Advances (limit : Nat) : Expectation → List Token → Expectation → Prop
  /-- No token is taken in. -/
  | nil (expectation : Expectation) : Advances limit expectation [] expectation
  /-- One token is taken in and then others. -/
  | cons {expectation middle after : Expectation} {token : Token} {tokens : List Token}
      (first : expectation.step limit token = .ok (.reading middle))
      (later : Advances limit middle tokens after) :
      Advances limit expectation (token :: tokens) after

end Expectation

namespace Reader

theorem readFrom_peeked (limit : Nat) (expectation : Expectation) (reader : Reader) :
    (reader.readFrom limit expectation).2.peeked = none := by
  have behind := reader.next_peeked
  fun_induction readFrom limit expectation reader with
  | case1 expectation reader error after result => simpa only [result] using behind
  | case2 expectation reader after result => simpa only [result] using behind
  | case3 expectation reader token after result error step => simpa only [result] using behind
  | case4 expectation reader token after result tree step => simpa only [result] using behind
  | case5 expectation reader token after result expectation' step ih => exact ih after.next_peeked

/-- One step of reading with nothing looked at. -/
theorem readFrom_eq (limit : Nat) (expectation : Expectation) (cursor : Cursor) :
    readFrom limit expectation ⟨cursor, none⟩ =
      match cursor.next with
      | (.error error, after) => (.error (.lexical error), ⟨after, none⟩)
      | (.ok none, after) => (expectation.atEnd, ⟨after, none⟩)
      | (.ok (some token), after) =>
          proceed limit (expectation.step limit token) ⟨after, none⟩ := by
  rw [readFrom_next]
  simp only [next]
  rcases cursor.next with ⟨error | (_ | token), after⟩ <;> rfl

theorem readFrom_of_token {limit : Nat} (expectation : Expectation) {cursor after : Cursor}
    {token : Token} (read : cursor.next = (.ok (some token), after)) :
    readFrom limit expectation ⟨cursor, none⟩ =
      proceed limit (expectation.step limit token) ⟨after, none⟩ := by
  rw [readFrom_eq, read]

theorem atEnd_cases (expectation : Expectation) :
    expectation.atEnd = .ok none ∨
      ∃ expected, expectation.atEnd = .error (.unexpectedEnd expected) := by
  unfold Expectation.atEnd
  split
  · exact Or.inl rfl
  · exact Or.inr ⟨_, rfl⟩
  · exact Or.inr ⟨_, rfl⟩
  · exact Or.inr ⟨_, rfl⟩

/-- How reading ends at a place where the forms under construction are as given. -/
inductive Ends (limit : Nat) (last : Expectation) (place : Cursor) :
    Except ParseError (Option Expr) → Cursor → Prop
  /-- The text ends. -/
  | textEnd {after : Cursor} (nothing : place.next = (.ok none, after)) :
      Ends limit last place last.atEnd after
  /-- No token can be read. -/
  | unreadable {after : Cursor} {error : LexError} (fails : place.next = (.error error, after)) :
      Ends limit last place (.error (.lexical error)) after
  /-- A token is refused. -/
  | refused {after : Cursor} {token : Token} {error : ParseError}
      (read : place.next = (.ok (some token), after))
      (step : last.step limit token = .error error) : Ends limit last place (.error error) after
  /-- A token finishes the expression. -/
  | finished {after : Cursor} {token : Token} {expression : Expr}
      (read : place.next = (.ok (some token), after))
      (step : last.step limit token = .ok (.finished expression)) :
      Ends limit last place (.ok (some expression)) after

/-- Reading takes in tokens that finish nothing and then ends in one of four ways. -/
theorem readFrom_cases (limit : Nat) (expectation : Expectation) (cursor : Cursor) :
    ∃ tokens last place result after,
      expectation.Advances limit tokens last ∧ cursor.Reads tokens place ∧
        Ends limit last place result after ∧
        readFrom limit expectation ⟨cursor, none⟩ = (result, ⟨after, none⟩) := by
  generalize size : cursor.rest.length = length
  induction length using Nat.strongRecOn generalizing expectation cursor with
  | ind length ih =>
      rw [readFrom_eq]
      match read : cursor.next with
      | (.error error, after) =>
          exact ⟨[], expectation, cursor, _, after, .nil _, .nil _, .unreadable read, rfl⟩
      | (.ok none, after) =>
          exact ⟨[], expectation, cursor, _, after, .nil _, .nil _, .textEnd read, rfl⟩
      | (.ok (some token), after) =>
          match step : expectation.step limit token with
          | .error error =>
              refine ⟨[], expectation, cursor, _, after, .nil _, .nil _, .refused read step, ?_⟩
              simp only [step, proceed]
          | .ok (.finished expression) =>
              refine ⟨[], expectation, cursor, _, after, .nil _, .nil _, .finished read step, ?_⟩
              simp only [step, proceed]
          | .ok (.reading middle) =>
              have shorter := cursor.next_rest_lt (by rw [read]; simp)
              simp only [read, size] at shorter
              obtain ⟨tokens, last, place, result, final, advances, reads, ends, result_eq⟩ :=
                ih after.rest.length shorter middle after rfl
              refine ⟨token :: tokens, last, place, result, final, .cons step advances,
                .cons read reads, ends, ?_⟩
              simpa only [step, proceed] using result_eq

/-- An expression is read by taking in tokens that finish nothing and one of four endings. -/
theorem readExpr_cases (limit : Nat) (cursor : Cursor) :
    ∃ tokens last place result after,
      Expectation.Advances limit (.expression []) tokens last ∧ cursor.Reads tokens place ∧
        Ends limit last place result after ∧
        readExpr limit ⟨cursor, none⟩ = (result, ⟨after, none⟩) := by
  rw [readExpr_eq]
  exact readFrom_cases limit (.expression []) cursor

/-- Every token that was looked at has been consumed when the reading of an expression ends. -/
theorem readExpr_peeked (limit : Nat) (reader : Reader) :
    (reader.readExpr limit).2.peeked = none := by
  rw [readExpr_eq]
  exact reader.readFrom_peeked limit (.expression [])

theorem peeked_of_readExpr {limit : Nat} {reader : Reader}
    {result : Except ParseError (Option Expr)} {after : Cursor} {peeked : Option Token}
    (read : reader.readExpr limit = (result, ⟨after, peeked⟩)) : peeked = none := by
  have behind := reader.readExpr_peeked limit
  rwa [read] at behind

theorem rest_lt_of_readExpr {limit : Nat} {cursor after : Cursor} {tree : Expr}
    (read : readExpr limit ⟨cursor, none⟩ = (.ok (some tree), ⟨after, none⟩)) :
    after.rest.length < cursor.rest.length := by
  have consumed := readExpr_size_lt (by rw [read]; simp)
  rw [read] at consumed
  simpa [size] using consumed

end Reader
end DynLisp
