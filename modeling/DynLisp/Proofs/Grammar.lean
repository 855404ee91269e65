import DynLisp.Proofs.Reading

/-!
# The grammar of expressions

The grammar says which token lists are expressions and which trees they stand for.  The first slot
of a definition is an identifier or a bracketed list of identifiers and nothing else, although it is
read as any expression at first.

`Grammar.Expression.read` says that reading finds every derivable tree, `Grammar.Opened` is the
invariant that ties the forms under construction to the tokens taken in so far, and
`Grammar.readExpr_accepts` puts both together.
-/

namespace DynLisp
namespace Grammar

/-- The token lists that can stand in the first slot of a definition, with what they define. -/
inductive Slot : List Token → String → Option (List String) → Prop
  /-- A variable. -/
  | identifier (position : Position) (name : String) : Slot [⟨.identifier name, position⟩] name none
  /-- A function with its parameters. -/
  | function (start middle close : Position) (name : String)
      (parameters : List (String × Position)) :
      Slot
        (⟨.leftBracket, start⟩ :: ⟨.identifier name, middle⟩ ::
          (parameters.map (fun (name, position) => ⟨.identifier name, position⟩) ++
            [⟨.rightBracket, close⟩]))
        name (some (parameters.map Prod.fst))

mutual

/-- The token lists that are an expression, with its tree. -/
inductive Expression : List Token → Expr → Prop
  /-- An integer. -/
  | integer (position : Position) (value : Int) :
      Expression [⟨.integer value, position⟩] (.integer position value)
  /-- An identifier. -/
  | identifier (position : Position) (name : String) :
      Expression [⟨.identifier name, position⟩] (.identifier position name)
  /-- A form behind its bracket. -/
  | bracketed {position : Position} {tokens : List Token} {tree : Expr}
      (form : Bracketed position tokens tree) :
      Expression (⟨.leftBracket, position⟩ :: tokens) tree

/-- The token lists that are a form whose bracket stands at the position, with its tree. -/
inductive Bracketed : Position → List Token → Expr → Prop
  /-- A conditional. -/
  | conditional {position keyword close : Position} {first second third : List Token}
      {condition consequence alternative : Expr} (test : Expression first condition)
      (chosen : Expression second consequence) (other : Expression third alternative) :
      Bracketed position
        (⟨.ifKeyword, keyword⟩ :: (first ++ (second ++ (third ++ [⟨.rightBracket, close⟩]))))
        (.conditional position condition consequence alternative)
  /-- A definition. -/
  | define {position keyword close : Position} {first second : List Token} {name : String}
      {parameters : Option (List String)} {value : Expr} (slot : Slot first name parameters)
      (body : Expression second value) :
      Bracketed position
        (⟨.defineKeyword, keyword⟩ :: (first ++ (second ++ [⟨.rightBracket, close⟩])))
        (.define position name parameters value)
  /-- A call. -/
  | call {position middle close : Position} {tokens : List Token} {name : String}
      {arguments : List Expr} (each : Expressions tokens arguments) :
      Bracketed position (⟨.identifier name, middle⟩ :: (tokens ++ [⟨.rightBracket, close⟩]))
        (.call position name arguments)

/-- The token lists that are a sequence of expressions, with their trees. -/
inductive Expressions : List Token → List Expr → Prop
  /-- No expression. -/
  | nil : Expressions [] []
  /-- An expression and those behind it. -/
  | cons {front back : List Token} {tree : Expr} {trees : List Expr}
      (first : Expression front tree) (later : Expressions back trees) :
      Expressions (front ++ back) (tree :: trees)

end

theorem Expressions.append {front back : List Token} {trees trees' : List Expr}
    (first : Expressions front trees) (second : Expressions back trees') :
    Expressions (front ++ back) (trees ++ trees') := by
  match first with
  | .nil => exact second
  | .cons head later =>
      rw [List.append_assoc]
      exact .cons head (later.append second)

open Reader (proceed readFrom readFrom_of_token)

/-- Identifiers are read as arguments one after the other. -/
theorem read_identifiers {limit : Nat} (parameters : List (String × Position))
    {position : Position} {name : String} {arguments : List Expr} {waiting : List Form}
    {cursor after : Cursor}
    (reads : cursor.Reads
      (parameters.map fun (name, position) => ⟨.identifier name, position⟩) after) :
    readFrom limit (.expression (.call position name arguments :: waiting)) ⟨cursor, none⟩ =
      readFrom limit
        (.expression
          (.call position name
            (arguments ++ parameters.map fun (name, position) => .identifier position name) ::
              waiting))
        ⟨after, none⟩ := by
  induction parameters generalizing arguments cursor with
  | nil =>
      cases reads
      simp
  | cons parameter parameters ih =>
      cases reads with
      | cons read later =>
          rw [readFrom_of_token _ read]
          change readFrom limit
            (.expression (.call position name (arguments ++ [_]) :: waiting)) _ = _
          rw [ih later, List.append_assoc]
          rfl

theorem parameterNames_identifiers (parameters : List (String × Position)) :
    Form.parameterNames (parameters.map fun (name, position) => .identifier position name) =
      .ok (parameters.map Prod.fst) := by
  induction parameters with
  | nil => rfl
  | cons parameter parameters ih =>
      simp only [List.map_cons, Form.parameterNames, ih]
      rfl

/-- A slot of a definition is read as an expression and recognized for what it defines. -/
theorem Slot.read {limit : Nat} {tokens : List Token} {name : String}
    {parameters : Option (List String)} (slot : Slot tokens name parameters)
    {position : Position} {waiting : List Form}
    (room : waiting.length + 1 < limit) {cursor after : Cursor}
    (reads : cursor.Reads tokens after) :
    readFrom limit (.expression (.target position :: waiting)) ⟨cursor, none⟩ =
      readFrom limit (.expression (.value position name parameters :: waiting))
        ⟨after, none⟩ := by
  cases slot with
  | identifier =>
      rw [readFrom_of_token _ reads.next_eq]
      rfl
  | function start middle close _ parameters =>
      cases reads with
      | cons bracket later =>
          cases later with
          | cons head later =>
              obtain ⟨place, reads_parameters, last⟩ := later.split
              rw [readFrom_of_token _ bracket]
              simp only [Expectation.step, Expectation.readExpression, List.length_cons, room,
                if_true, proceed]
              rw [readFrom_of_token _ head]
              change readFrom limit (.expression (.call start name [] :: _)) _ = _
              rw [read_identifiers parameters reads_parameters, readFrom_of_token _ last.next_eq]
              simp only [Expectation.step, Expectation.readExpression, deliver, Form.receive,
                Form.definitionTarget, List.nil_append, parameterNames_identifiers]
              rfl

mutual

/-- Reading hands a derivable expression to the forms that wait for it, if they leave room. -/
theorem Expression.read {limit : Nat} {tokens : List Token} {tree : Expr}
    (expression : Expression tokens tree) {waiting : List Form}
    (room : waiting.length + tokens.length ≤ limit) {cursor after : Cursor}
    (reads : cursor.Reads tokens after) :
    readFrom limit (.expression waiting) ⟨cursor, none⟩ =
      proceed limit (deliver tree waiting) ⟨after, none⟩ := by
  match expression with
  | .integer position value =>
      rw [readFrom_of_token _ reads.next_eq]
      rfl
  | .identifier position name =>
      rw [readFrom_of_token _ reads.next_eq]
      rfl
  | .bracketed form =>
      cases reads with
      | cons read later =>
          simp only [List.length_cons] at room
          have deeper : waiting.length < limit := by omega
          rw [readFrom_of_token _ read]
          simp only [Expectation.step, Expectation.readExpression, deeper, if_true, proceed]
          exact form.read (by omega) later

/-- Reading hands a derivable form behind its bracket to the forms that wait for it. -/
theorem Bracketed.read {limit : Nat} {position : Position} {tokens : List Token} {tree : Expr}
    (form : Bracketed position tokens tree) {waiting : List Form}
    (room : waiting.length + tokens.length < limit) {cursor after : Cursor}
    (reads : cursor.Reads tokens after) :
    readFrom limit (.head position waiting) ⟨cursor, none⟩ =
      proceed limit (deliver tree waiting) ⟨after, none⟩ := by
  match form with
  | .conditional test chosen other =>
      cases reads with
      | cons read later =>
          simp only [List.length_cons, List.length_append] at room
          obtain ⟨place, reads_test, later⟩ := later.split
          obtain ⟨place', reads_chosen, later⟩ := later.split
          obtain ⟨place'', reads_other, close⟩ := later.split
          rw [readFrom_of_token _ read]
          change readFrom limit (.expression (.condition position :: waiting)) _ = _
          rw [test.read (by simp only [List.length_cons]; omega) reads_test]
          change readFrom limit (.expression (.consequence position _ :: waiting)) _ = _
          rw [chosen.read (by simp only [List.length_cons]; omega) reads_chosen]
          change readFrom limit (.expression (.alternative position _ _ :: waiting)) _ = _
          rw [other.read (by simp only [List.length_cons]; omega) reads_other]
          change readFrom limit (.close _ waiting) _ = _
          rw [readFrom_of_token _ close.next_eq]
          rfl
  | .define slot body =>
      cases reads with
      | cons read later =>
          simp only [List.length_cons, List.length_append] at room
          obtain ⟨place, reads_slot, later⟩ := later.split
          obtain ⟨place', reads_body, close⟩ := later.split
          rw [readFrom_of_token _ read]
          change readFrom limit (.expression (.target position :: waiting)) _ = _
          rw [slot.read (by omega) reads_slot,
            body.read (by simp only [List.length_cons]; omega) reads_body]
          change readFrom limit (.close _ waiting) _ = _
          rw [readFrom_of_token _ close.next_eq]
          rfl
  | .call each =>
      cases reads with
      | cons read later =>
          simp only [List.length_cons, List.length_append] at room
          obtain ⟨place, reads_each, close⟩ := later.split
          rw [readFrom_of_token _ read]
          change readFrom limit (.expression (.call position _ [] :: waiting)) _ = _
          rw [each.read (by omega) reads_each, readFrom_of_token _ close.next_eq]
          rfl

/-- Reading adds derivable expressions to the arguments of a call. -/
theorem Expressions.read {limit : Nat} {tokens : List Token} {trees : List Expr}
    (expressions : Expressions tokens trees) {position : Position} {name : String}
    {arguments : List Expr} {waiting : List Form}
    (room : waiting.length + 1 + tokens.length ≤ limit) {cursor after : Cursor}
    (reads : cursor.Reads tokens after) :
    readFrom limit (.expression (.call position name arguments :: waiting)) ⟨cursor, none⟩ =
      readFrom limit (.expression (.call position name (arguments ++ trees) :: waiting))
        ⟨after, none⟩ := by
  match expressions with
  | .nil =>
      cases reads
      rw [List.append_nil]
  | .cons first later =>
      simp only [List.length_append] at room
      obtain ⟨place, reads_first, reads_later⟩ := reads.split
      rw [first.read (by simp only [List.length_cons]; omega) reads_first]
      change readFrom limit (.expression (.call position name (arguments ++ [_]) :: waiting)) _ = _
      rw [later.read (by omega) reads_later, List.append_assoc]
      rfl

end

/-- Arguments that pass as parameters were spelled as a list of identifiers. -/
theorem Expressions.identifiers {tokens : List Token} {arguments : List Expr}
    (each : Expressions tokens arguments) {names : List String}
    (parameters : Form.parameterNames arguments = .ok names) :
    ∃ parameters : List (String × Position),
      tokens = parameters.map (fun (name, position) => ⟨.identifier name, position⟩) ∧
        names = parameters.map Prod.fst := by
  induction arguments generalizing tokens names with
  | nil =>
      cases each
      cases parameters
      exact ⟨[], rfl, rfl⟩
  | cons argument arguments ih =>
      obtain ⟨position, name, names', rfl, rest, rfl⟩ := Form.parameterNames_cons_eq_ok parameters
      cases each with
      | cons first later =>
          cases first with
          | identifier =>
              obtain ⟨identifiers, rfl, rfl⟩ := ih later rest
              exact ⟨(name, position) :: identifiers, rfl, rfl⟩
          | bracketed form => nomatch form

/-- An expression that passes as the target of a definition was spelled as a slot. -/
theorem Expression.slot {tokens : List Token} {tree : Expr} (expression : Expression tokens tree)
    {name : String} {parameters : Option (List String)}
    (target : Form.definitionTarget tree = .ok (name, parameters)) :
    Slot tokens name parameters := by
  rcases Form.definitionTarget_eq_ok target with
    ⟨position, rfl, rfl⟩ | ⟨position, arguments, names, rfl, spelling, rfl⟩
  · cases expression with
    | identifier => exact .identifier position name
    | bracketed form => nomatch form
  · cases expression with
    | bracketed form =>
        cases form with
        | @call _ middle close _ _ _ each =>
            obtain ⟨parameters, rfl, rfl⟩ := each.identifiers spelling
            exact .function position middle close name parameters

/-- The tokens that have been taken in for the forms that wait, innermost first. -/
inductive Opened : List Form → List Token → Prop
  /-- No form waits. -/
  | nil : Opened [] []
  /-- A call waits for another argument or its end. -/
  | call {waiting : List Form} {before front : List Token} {position middle : Position}
      {name : String} {arguments : List Expr} (outer : Opened waiting before)
      (each : Expressions front arguments) :
      Opened (.call position name arguments :: waiting)
        (before ++ ⟨.leftBracket, position⟩ :: ⟨.identifier name, middle⟩ :: front)
  /-- A conditional waits for its condition. -/
  | condition {waiting : List Form} {before : List Token} {position keyword : Position}
      (outer : Opened waiting before) :
      Opened (.condition position :: waiting)
        (before ++ [⟨.leftBracket, position⟩, ⟨.ifKeyword, keyword⟩])
  /-- A conditional waits for its consequence. -/
  | consequence {waiting : List Form} {before first : List Token} {position keyword : Position}
      {condition : Expr} (outer : Opened waiting before) (test : Expression first condition) :
      Opened (.consequence position condition :: waiting)
        (before ++ ⟨.leftBracket, position⟩ :: ⟨.ifKeyword, keyword⟩ :: first)
  /-- A conditional waits for its alternative. -/
  | alternative {waiting : List Form} {before first second : List Token}
      {position keyword : Position} {condition consequence : Expr} (outer : Opened waiting before)
      (test : Expression first condition) (chosen : Expression second consequence) :
      Opened (.alternative position condition consequence :: waiting)
        (before ++ ⟨.leftBracket, position⟩ :: ⟨.ifKeyword, keyword⟩ :: (first ++ second))
  /-- A definition waits for what it defines. -/
  | target {waiting : List Form} {before : List Token} {position keyword : Position}
      (outer : Opened waiting before) :
      Opened (.target position :: waiting)
        (before ++ [⟨.leftBracket, position⟩, ⟨.defineKeyword, keyword⟩])
  /-- A definition waits for its value. -/
  | value {waiting : List Form} {before front : List Token} {position keyword : Position}
      {name : String} {parameters : Option (List String)} (outer : Opened waiting before)
      (slot : Slot front name parameters) :
      Opened (.value position name parameters :: waiting)
        (before ++ ⟨.leftBracket, position⟩ :: ⟨.defineKeyword, keyword⟩ :: front)

/-- The tokens that lead to an expectation. -/
def Expected : Expectation → List Token → Prop
  | .expression waiting, tokens => Opened waiting tokens
  | .head position waiting, tokens =>
      ∃ before, Opened waiting before ∧ tokens = before ++ [⟨.leftBracket, position⟩]
  | .close form waiting, tokens =>
      ∃ before front, Opened waiting before ∧ tokens = before ++ front ∧
        ∀ close, Expression (front ++ [⟨.rightBracket, close⟩]) form

/-- The tokens that lead to a finished expression or to an expectation. -/
def Reached : Progress → List Token → Prop
  | .finished tree, tokens => Expression tokens tree
  | .reading expectation, tokens => Expected expectation tokens

theorem Opened.deliver {waiting : List Form} {before front : List Token} {tree : Expr}
    {progress : Progress} (opened : Opened waiting before) (expression : Expression front tree)
    (delivered : deliver tree waiting = .ok progress) : Reached progress (before ++ front) := by
  cases opened with
  | nil =>
      cases delivered
      exact expression
  | call outer each =>
      cases delivered
      have longer := each.append (.cons expression .nil)
      rw [List.append_nil] at longer
      simpa only [Reached, Expected, List.append_assoc, List.cons_append] using
        Opened.call outer longer
  | condition outer =>
      cases delivered
      simpa only [Reached, Expected, List.append_assoc, List.cons_append, List.nil_append] using
        Opened.consequence outer expression
  | consequence outer test =>
      cases delivered
      simpa only [Reached, Expected, List.append_assoc, List.cons_append] using
        Opened.alternative outer test expression
  | @alternative waiting before first second position keyword condition consequence outer test
      chosen =>
      cases delivered
      refine ⟨before,
        ⟨.leftBracket, position⟩ :: ⟨.ifKeyword, keyword⟩ :: (first ++ (second ++ front)), outer,
        by simp, ?_⟩
      intro close
      simpa only [List.append_assoc, List.cons_append] using
        Expression.bracketed (.conditional test chosen expression)
  | target outer =>
      obtain ⟨name, parameters, target, rfl⟩ := deliver_target delivered
      simpa only [Reached, Expected, List.append_assoc, List.cons_append, List.nil_append] using
        Opened.value outer (expression.slot target)
  | @value waiting before first position keyword name parameters outer slot =>
      cases delivered
      refine ⟨before, ⟨.leftBracket, position⟩ :: ⟨.defineKeyword, keyword⟩ :: (first ++ front),
        outer, by simp, ?_⟩
      intro close
      simpa only [List.append_assoc, List.cons_append] using
        Expression.bracketed (.define slot expression)

/-- Every token that is taken in keeps the forms under construction in step with the grammar. -/
theorem Expected.step {limit : Nat} {expectation : Expectation} {tokens : List Token}
    {token : Token} {progress : Progress} (expected : Expected expectation tokens)
    (step : expectation.step limit token = .ok progress) :
    Reached progress (tokens ++ [token]) := by
  cases Expectation.takes_of_step step with
  | integer delivered => exact Opened.deliver expected (.integer _ _) delivered
  | identifier delivered => exact Opened.deliver expected (.identifier _ _) delivered
  | opening position waiting => exact ⟨tokens, expected, rfl⟩
  | @called start position name arguments waiting _ delivered =>
      -- Of the forms that can wait here only a call can be closed by a bracket.
      cases expected with
      | @call _ before front _ middle _ _ outer each =>
          have complete : Expression
              (⟨.leftBracket, start⟩ :: ⟨.identifier name, middle⟩ ::
                (front ++ [⟨.rightBracket, position⟩]))
              (.call start name arguments) := .bracketed (.call each)
          simpa only [List.append_assoc, List.cons_append] using outer.deliver complete delivered
  | call start position name waiting =>
      obtain ⟨before, opened, rfl⟩ := expected
      simpa only [Reached, Expected, List.append_assoc, List.cons_append, List.nil_append] using
        Opened.call opened .nil
  | conditional start position waiting =>
      obtain ⟨before, opened, rfl⟩ := expected
      simpa only [Reached, Expected, List.append_assoc, List.cons_append, List.nil_append] using
        Opened.condition opened
  | define start position waiting =>
      obtain ⟨before, opened, rfl⟩ := expected
      simpa only [Reached, Expected, List.append_assoc, List.cons_append, List.nil_append] using
        Opened.target opened
  | closing delivered =>
      obtain ⟨before, front, opened, rfl, complete⟩ := expected
      rw [List.append_assoc]
      exact opened.deliver (complete _) delivered

theorem Expected.advances {limit : Nat} {expectation last : Expectation}
    {before tokens : List Token} (expected : Expected expectation before)
    (advances : expectation.Advances limit tokens last) : Expected last (before ++ tokens) := by
  induction advances generalizing before with
  | nil => simpa using expected
  | @cons expectation middle last token tokens step later ih =>
      have reached := ih (expected.step step)
      rwa [List.append_assoc] at reached

/-- Only before the first token does the end of the text count as the end of the input. -/
theorem Expected.atEnd {expectation : Expectation} {tokens : List Token}
    (expected : Expected expectation tokens) {result : Option Expr}
    (atEnd : expectation.atEnd = .ok result) : tokens = [] ∧ result = none := by
  cases expectation with
  | expression waiting =>
      cases expected with
      | nil =>
          cases atEnd
          exact ⟨rfl, rfl⟩
      | _ => cases atEnd
  | head position waiting => cases atEnd
  | close form waiting => cases atEnd

/-- What the reading of an expression can do, in step with the grammar up to its last token. -/
theorem readExpr_cases (limit : Nat) (cursor : Cursor) :
    ∃ tokens last place result after,
      Expected last tokens ∧ cursor.Reads tokens place ∧
        Reader.Ends limit last place result after ∧
        Reader.readExpr limit ⟨cursor, none⟩ = (result, ⟨after, none⟩) := by
  obtain ⟨tokens, last, place, result, after, advances, reads, ends, result_eq⟩ :=
    Reader.readExpr_cases limit cursor
  have start : Expected (.expression []) [] := Opened.nil
  exact ⟨tokens, last, place, result, after, start.advances advances, reads, ends, result_eq⟩

/-- An expression that is read has a derivation from the tokens that were consumed. -/
theorem reads_of_readExpr {limit : Nat} {cursor : Cursor} {tree : Expr} {after : Reader}
    (read : Reader.readExpr limit ⟨cursor, none⟩ = (.ok (some tree), after)) :
    ∃ tokens place, cursor.Reads tokens place ∧ Expression tokens tree ∧ after = ⟨place, none⟩ := by
  obtain ⟨tokens, last, place, result, final, expected, reads, ends, result_eq⟩ :=
    readExpr_cases limit cursor
  rw [result_eq] at read
  cases ends with
  | textEnd nothing =>
      obtain ⟨atEnd, -⟩ := Prod.mk.inj read
      obtain ⟨-, impossible⟩ := expected.atEnd atEnd
      cases impossible
  | unreadable fails => cases read
  | refused token step => cases read
  | @finished _ token _ next step =>
      cases read
      exact ⟨tokens ++ [token], final, reads.append (.single next), expected.step step, rfl⟩

/-- Reading gives nothing exactly if only blanks and comments are left. -/
theorem readExpr_eq_none_iff (limit : Nat) (cursor : Cursor) :
    (∃ after, Reader.readExpr limit ⟨cursor, none⟩ = (.ok none, after)) ↔
      FinalGap cursor.rest := by
  constructor
  · rintro ⟨after, read⟩
    obtain ⟨tokens, last, place, result, final, expected, reads, ends, result_eq⟩ :=
      readExpr_cases limit cursor
    rw [result_eq] at read
    cases ends with
    | textEnd nothing =>
        obtain ⟨atEnd, -⟩ := Prod.mk.inj read
        obtain ⟨rfl, -⟩ := expected.atEnd atEnd
        cases reads
        rw [← Cursor.next_eq_none_iff, nothing]
    | unreadable fails => cases read
    | refused token step => cases read
    | finished next step => cases read
  · intro final
    refine ⟨⟨cursor.finish, none⟩, ?_⟩
    rw [Reader.readExpr_eq, Reader.readFrom_eq, Cursor.next_of_finalGap final]
    rfl

theorem Expression.exists_last {tokens : List Token} {tree : Expr}
    (expression : Expression tokens tree) : ∃ front token, tokens = front ++ [token] := by
  have nonempty : tokens ≠ [] := by cases expression <;> simp
  exact ⟨tokens.dropLast, tokens.getLast nonempty, (List.dropLast_concat_getLast nonempty).symm⟩

theorem Expression.readExpr {limit : Nat} {tokens : List Token} {tree : Expr}
    (expression : Expression tokens tree) (room : tokens.length ≤ limit) {cursor after : Cursor}
    (reads : cursor.Reads tokens after) :
    Reader.readExpr limit ⟨cursor, none⟩ = (.ok (some tree), ⟨after, none⟩) := by
  rw [Reader.readExpr_eq]
  exact expression.read (by simpa using room) reads

/-- At most one beginning of what is left to read is an expression. -/
theorem Expression.prefix_unique {cursor after after' : Cursor} {tokens tokens' : List Token}
    {tree tree' : Expr} (reads : cursor.Reads tokens after) (expression : Expression tokens tree)
    (reads' : cursor.Reads tokens' after') (expression' : Expression tokens' tree') :
    tokens' = tokens ∧ after' = after ∧ tree' = tree := by
  have first := expression.readExpr (Nat.le_max_left _ tokens'.length) reads
  have second := expression'.readExpr (Nat.le_max_right tokens.length _) reads'
  rw [first] at second
  cases second
  exact ⟨reads'.tokens_unique reads, rfl, rfl⟩

/-- Reading gives a tree exactly if the tokens that are left begin with an expression for it; it
stops immediately behind this expression, which is the only one they begin with, and never looks at
what follows.  It gives nothing exactly if only blanks and comments are left.  A text cannot open
more forms than it has characters, so a limit of this size is no limit. -/
theorem readExpr_accepts (limit : Nat) (cursor : Cursor) (ideal : cursor.rest.length ≤ limit) :
    (∀ tree after, Reader.readExpr limit ⟨cursor, none⟩ = (.ok (some tree), after) ↔
        after.peeked = none ∧ ∃ tokens, cursor.Reads tokens after.cursor ∧ Expression tokens tree) ∧
      (∀ tokens after tree, cursor.Reads tokens after → Expression tokens tree →
        (∀ tokens' after' tree', cursor.Reads tokens' after' → Expression tokens' tree' →
          tokens' = tokens ∧ after' = after ∧ tree' = tree) ∧
        (∃ token ∈ tokens.getLast?, after.StandsBehind token cursor) ∧
        ∀ consumed tail, cursor.rest = consumed ++ after.rest →
          (∀ token ∈ tokens.getLast?, token.lexeme.EndsBefore tail) →
          Reader.readExpr limit ⟨{ cursor with rest := consumed ++ tail }, none⟩ =
            (.ok (some tree), ⟨{ after with rest := tail }, none⟩)) ∧
      ((∃ after, Reader.readExpr limit ⟨cursor, none⟩ = (.ok none, after)) ↔
        FinalGap cursor.rest) := by
  have room {tokens : List Token} {after : Cursor} (reads : cursor.Reads tokens after) :
      tokens.length ≤ limit := by
    have shorter := reads.length_le
    omega
  refine ⟨?_, ?_, readExpr_eq_none_iff limit cursor⟩
  · intro tree after
    constructor
    · intro read
      obtain ⟨tokens, place, reads, expression, rfl⟩ := reads_of_readExpr read
      exact ⟨rfl, tokens, reads, expression⟩
    · rintro ⟨peeked, tokens, reads, expression⟩
      obtain ⟨place, _⟩ := after
      subst peeked
      exact expression.readExpr (room reads) reads
  · intro tokens after tree reads expression
    refine ⟨?_, ?_, ?_⟩
    · intro tokens' after' tree' reads' expression'
      exact expression.prefix_unique reads reads' expression'
    · obtain ⟨front, token, rfl⟩ := expression.exists_last
      exact ⟨token, by simp, reads.standsBehind⟩
    · intro consumed tail rest ends
      exact expression.readExpr (room reads) (reads.exchange rest ends)

set_option maxRecDepth 4000 in
/-- A call is read although no token begins with what follows it. -/
theorem readExpr_accepts_call :
    Reader.readExpr 6 (.ofText "(f 1)[") =
      (.ok (some (.call ⟨1, 1⟩ "f" [.integer ⟨1, 4⟩ 1])), ⟨⟨['['], ⟨1, 6⟩, 5⟩, none⟩) := by
  have bracket : (Cursor.ofText "(f 1)[").next =
      (.ok (some ⟨.leftBracket, ⟨1, 1⟩⟩), ⟨"f 1)[".toList, ⟨1, 2⟩, 1⟩) := by rfl
  have name : (Cursor.mk "f 1)[".toList ⟨1, 2⟩ 1).next =
      (.ok (some ⟨.identifier "f", ⟨1, 2⟩⟩), ⟨" 1)[".toList, ⟨1, 3⟩, 2⟩) := by rfl
  have argument : (Cursor.mk " 1)[".toList ⟨1, 3⟩ 2).next =
      (.ok (some ⟨.integer 1, ⟨1, 4⟩⟩), ⟨")[".toList, ⟨1, 5⟩, 4⟩) := by rfl
  have close : (Cursor.mk ")[".toList ⟨1, 5⟩ 4).next =
      (.ok (some ⟨.rightBracket, ⟨1, 5⟩⟩), ⟨['['], ⟨1, 6⟩, 5⟩) := by rfl
  apply ((readExpr_accepts 6 (.ofText "(f 1)[") (by decide)).1 _ _).mpr
  exact ⟨rfl, _, .cons bracket (.cons name (.cons argument (.single close))),
    .bracketed (.call (.cons (.integer _ _) .nil))⟩

end Grammar
end DynLisp
