import DynLisp.Proofs.Division
import DynLisp.Proofs.Grammar
import DynLisp.Proofs.KeptBindings
import DynLisp.Proofs.Tasks
import DynLisp.Proofs.WellFormed
import DynLisp.Run

/-!
# Expressions and the texts they are read from

Whatever is read from a text stands in it: an expression begins with one of the text's tokens, its
parts are read from the same text, and an error speaks of something that is there.
`Machine.run_within` carries this over to the running of a text.  A lawful discipline that admits
all expressions of the text is kept by the run, and if an evaluation fails it is one that the
discipline admits.
-/

namespace DynLisp

/-- Whether a cursor stands at a place in a text. -/
def Cursor.StandsIn (cursor : Cursor) (text : String) : Prop :=
  ∃ front rest, text.toList = front ++ rest ∧ cursor = .behind front rest

/-- Whether somewhere in a text there are characters that give a token or an error. -/
def HasLexeme (text : String) (result : Except LexError Token) : Prop :=
  ∃ front lexeme tail, text.toList = front ++ (lexeme ++ tail) ∧
    Lexes (.behind front) tail lexeme result

namespace Cursor

theorem standsIn_ofText (text : String) : (Cursor.ofText text).StandsIn text :=
  ⟨[], text.toList, rfl, rfl⟩

/-- A call for a token moves within the text, and what it gives stands there. -/
theorem StandsIn.next {cursor after : Cursor} {text : String}
    {result : Except LexError (Option Token)} (stands : cursor.StandsIn text)
    (read : cursor.next = (result, after)) :
    after.StandsIn text ∧ ∀ given, result = Except.map some given → HasLexeme text given := by
  obtain ⟨front, rest, text_eq, rfl⟩ := stands
  rcases finalGap_or_splits rest with final | ⟨gap, first, body, tail, splits⟩
  · rw [behind_next_of_finalGap final] at read
    cases read
    refine ⟨⟨front ++ rest, [], by simp [text_eq], rfl⟩, fun given given_eq => ?_⟩
    cases given <;> cases given_eq
  · have text_eq' : text.toList = (front ++ gap) ++ (first :: body ++ tail) := by
      simp [text_eq, splits.text_eq]
    have lexes := lexes_of_spelled (.behind (front ++ gap)) splits.body splits.tail
    rw [behind_next_of_splits splits] at read
    cases read
    refine ⟨⟨_, tail, by simp [text_eq'], rfl⟩, fun given given_eq => ⟨_, _, _, text_eq', ?_⟩⟩
    cases spelling : spelled first body (.behind (front ++ gap)) <;>
      cases given <;> simp_all [Except.map]

/-- The tokens that are read from a place in a text stand in the text. -/
theorem StandsIn.reads {cursor after : Cursor} {text : String} {tokens : List Token}
    (stands : cursor.StandsIn text) (reads : cursor.Reads tokens after) :
    after.StandsIn text ∧ ∀ token ∈ tokens, HasLexeme text (.ok token) := by
  induction reads with
  | nil => exact ⟨stands, by simp⟩
  | cons first later ih =>
      obtain ⟨stands', given⟩ := stands.next first
      obtain ⟨stands'', all⟩ := ih stands'
      exact ⟨stands'', by simpa using ⟨given (.ok _) rfl, all⟩⟩

end Cursor

/-- The token that an expression begins with.  A hole begins with none. -/
def Expr.opening? : Expr → Option Token
  | integer position value => some ⟨.integer value, position⟩
  | identifier position name => some ⟨.identifier name, position⟩
  | conditional position _ _ _ => some ⟨.leftBracket, position⟩
  | define position _ _ _ => some ⟨.leftBracket, position⟩
  | call position _ _ => some ⟨.leftBracket, position⟩
  | hole _ => none

theorem Expr.position_of_opening {tree : Expr} {token : Token}
    (opening : tree.opening? = some token) : token.position = tree.position := by
  cases tree <;> cases opening <;> rfl

namespace Grammar

theorem Expression.opening {tokens : List Token} {tree : Expr}
    (expression : Expression tokens tree) : ∃ token ∈ tokens, tree.opening? = some token := by
  cases expression with
  | integer position value => exact ⟨_, List.mem_cons_self, rfl⟩
  | identifier position name => exact ⟨_, List.mem_cons_self, rfl⟩
  | bracketed form =>
      refine ⟨_, List.mem_cons_self, ?_⟩
      cases form <;> rfl

theorem Expressions.member {tokens : List Token} {trees : List Expr}
    (each : Expressions tokens trees) {tree : Expr} (member : tree ∈ trees) :
    ∃ inner, inner <:+: tokens ∧ Expression inner tree := by
  induction trees generalizing tokens with
  | nil => cases member
  | cons other trees ih =>
      cases each with
      | cons first later =>
          rcases List.mem_cons.mp member with rfl | member
          · exact ⟨_, (List.prefix_append _ _).isInfix, first⟩
          · obtain ⟨inner, inside, expression⟩ := ih later member
            exact ⟨inner, inside.trans (List.suffix_append _ _).isInfix, expression⟩

/-- The parts of an expression are expressions that stand among its tokens. -/
theorem Expression.part {tokens : List Token} {tree part : Expr}
    (expression : Expression tokens tree) (member : part ∈ tree.parts) :
    ∃ inner, inner <:+: tokens ∧ Expression inner part := by
  cases expression with
  | integer => cases member
  | identifier => cases member
  | @bracketed position tokens _ form =>
      cases form with
      | @conditional _ keyword close first second third _ _ _ test chosen other =>
          simp only [Expr.parts, List.mem_cons, List.not_mem_nil, or_false] at member
          rcases member with rfl | rfl | rfl
          · exact ⟨first, ⟨[⟨.leftBracket, position⟩, ⟨.ifKeyword, keyword⟩],
              second ++ (third ++ [⟨.rightBracket, close⟩]), by simp⟩, test⟩
          · exact ⟨second, ⟨⟨.leftBracket, position⟩ :: ⟨.ifKeyword, keyword⟩ :: first,
              third ++ [⟨.rightBracket, close⟩], by simp⟩, chosen⟩
          · exact ⟨third, ⟨⟨.leftBracket, position⟩ :: ⟨.ifKeyword, keyword⟩ :: (first ++ second),
              [⟨.rightBracket, close⟩], by simp⟩, other⟩
      | @define _ keyword close first second name parameters value slot body =>
          obtain rfl : part = value := by simpa [Expr.parts] using member
          exact ⟨second, ⟨⟨.leftBracket, position⟩ :: ⟨.defineKeyword, keyword⟩ :: first,
            [⟨.rightBracket, close⟩], by simp⟩, body⟩
      | @call _ middle close inside name arguments each =>
          obtain ⟨inner, among, expression⟩ := each.member member
          refine ⟨inner, among.trans ?_, expression⟩
          exact ⟨[⟨.leftBracket, position⟩, ⟨.identifier name, middle⟩],
            [⟨.rightBracket, close⟩], by simp⟩

end Grammar

/-- Whether an expression is read somewhere in a text. -/
def Expr.ReadFrom (tree : Expr) (text : String) : Prop :=
  ∃ limit cursor, cursor.StandsIn text ∧
    (Reader.readExpr limit ⟨cursor, none⟩).1 = .ok (some tree)

/-- An expression among the tokens of a text is read there. -/
theorem Grammar.Expression.readFrom {inner tokens : List Token} {tree : Expr}
    (expression : Expression inner tree) (inside : inner <:+: tokens) {text : String}
    {cursor after : Cursor} (stands : cursor.StandsIn text) (reads : cursor.Reads tokens after) :
    tree.ReadFrom text := by
  obtain ⟨front, back, rfl⟩ := inside
  rw [List.append_assoc] at reads
  obtain ⟨place, reads_front, reads⟩ := reads.split
  obtain ⟨place', reads_inner, -⟩ := reads.split
  refine ⟨inner.length, place, (stands.reads reads_front).1, ?_⟩
  rw [expression.readExpr (Nat.le_refl _) reads_inner]

namespace Expr.ReadFrom

variable {tree : Expr} {text : String}

theorem wellFormed (read : tree.ReadFrom text) : tree.wellFormed = true := by
  obtain ⟨limit, cursor, -, result⟩ := read
  exact Reader.readExpr_wellFormed (Reader.peeksLegal_of_none rfl) (Prod.ext result rfl)

theorem exists_tokens (read : tree.ReadFrom text) :
    ∃ (tokens : List Token) (cursor after : Cursor), cursor.StandsIn text ∧
      cursor.Reads tokens after ∧ Grammar.Expression tokens tree := by
  obtain ⟨limit, cursor, stands, result⟩ := read
  obtain ⟨tokens, place, reads, expression, -⟩ := Grammar.reads_of_readExpr (Prod.ext result rfl)
  exact ⟨tokens, cursor, place, stands, reads, expression⟩

/-- An expression stands in the text it is read from. -/
theorem opening (read : tree.ReadFrom text) :
    ∃ token, tree.opening? = some token ∧ HasLexeme text (.ok token) := by
  obtain ⟨tokens, cursor, after, stands, reads, expression⟩ := read.exists_tokens
  obtain ⟨token, member, opening⟩ := expression.opening
  exact ⟨token, opening, (stands.reads reads).2 token member⟩

/-- The parts of an expression are read from the same text. -/
theorem part (read : tree.ReadFrom text) {part : Expr} (member : part ∈ tree.parts) :
    part.ReadFrom text := by
  obtain ⟨tokens, cursor, after, stands, reads, expression⟩ := read.exists_tokens
  obtain ⟨inner, inside, expression⟩ := expression.part member
  exact expression.readFrom inside stands reads

end Expr.ReadFrom

/-- Whether a text holds what a parse error speaks of. -/
def ParseError.StandsIn (error : ParseError) (text : String) : Prop :=
  match error with
  | unexpectedToken token => HasLexeme text (.ok token)
  | unexpectedExpression tree => tree.ReadFrom text
  | unexpectedEnd _ => True
  | lexical error => HasLexeme text (.error error)
  | tooDeep position => HasLexeme text (.ok ⟨.leftBracket, position⟩)
  | stackExhausted => False

theorem Form.parameterNames_eq_error {arguments : List Expr} {error : ParseError}
    (refused : parameterNames arguments = .error error) :
    ∃ tree ∈ arguments, error = .unexpectedExpression tree := by
  induction arguments with
  | nil => cases refused
  | cons argument arguments ih =>
      cases argument with
      | identifier position name =>
          cases rest : parameterNames arguments with
          | ok names =>
              simp only [parameterNames, rest] at refused
              cases refused
          | error error' =>
              simp only [parameterNames, rest] at refused
              cases refused
              obtain ⟨tree, member, error_eq⟩ := ih rest
              exact ⟨tree, List.mem_cons_of_mem _ member, error_eq⟩
      | _ =>
          cases refused
          exact ⟨_, List.mem_cons_self, rfl⟩

/-- A waiting form refuses what it is handed, or a part of it. -/
theorem deliver_eq_error {tree : Expr} {waiting : List Form} {error : ParseError}
    (refused : deliver tree waiting = .error error) :
    ∃ culprit, (culprit = tree ∨ culprit ∈ tree.parts) ∧
      error = .unexpectedExpression culprit := by
  cases waiting with
  | nil => cases refused
  | cons form waiting =>
      cases form with
      | target position =>
          cases tree with
          | identifier start name => cases refused
          | call start name arguments =>
              cases rest : Form.parameterNames arguments with
              | ok names =>
                  simp only [deliver, Form.receive, Form.definitionTarget, rest] at refused
                  cases refused
              | error error' =>
                  simp only [deliver, Form.receive, Form.definitionTarget, rest] at refused
                  cases refused
                  obtain ⟨culprit, member, error_eq⟩ := Form.parameterNames_eq_error rest
                  exact ⟨culprit, Or.inr member, error_eq⟩
          | _ =>
              cases refused
              exact ⟨_, Or.inl rfl, rfl⟩
      | _ => cases refused

/-- If a token cannot be taken in, it is refused itself, or it opens too many forms, or it completes
an expression that is refused. -/
theorem Expectation.step_eq_error {limit : Nat} {expectation : Expectation} {token : Token}
    {error : ParseError} (refused : expectation.step limit token = .error error) :
    error = .unexpectedToken token ∨ error = .tooDeep token.position ∨
      ∃ culprit, error = .unexpectedExpression culprit := by
  have delivers {tree : Expr} {waiting : List Form}
      (refused : deliver tree waiting = .error error) :
      error = .unexpectedToken token ∨ error = .tooDeep token.position ∨
        ∃ culprit, error = .unexpectedExpression culprit := by
    obtain ⟨culprit, -, error_eq⟩ := deliver_eq_error refused
    exact Or.inr (Or.inr ⟨culprit, error_eq⟩)
  obtain ⟨lexeme, position⟩ := token
  cases expectation with
  | expression waiting =>
      cases lexeme with
      | integer value => exact delivers refused
      | identifier name => exact delivers refused
      | leftBracket =>
          simp only [Expectation.step, readExpression] at refused
          split at refused <;> cases refused
          exact Or.inr (Or.inl rfl)
      | rightBracket =>
          cases waiting with
          | nil =>
              cases refused
              exact Or.inl rfl
          | cons form waiting =>
              cases form with
              | call start name arguments => exact delivers refused
              | _ =>
                  cases refused
                  exact Or.inl rfl
      | _ =>
          cases refused
          exact Or.inl rfl
  | head start waiting =>
      cases lexeme <;> cases refused <;> exact Or.inl rfl
  | close form waiting =>
      cases lexeme with
      | rightBracket => exact delivers refused
      | _ =>
          cases refused
          exact Or.inl rfl

namespace Grammar

theorem Expression.standsIn_of_deliver {inner tokens : List Token} {tree : Expr}
    (expression : Expression inner tree) (inside : inner <:+: tokens) {waiting : List Form}
    {error : ParseError} (refused : DynLisp.deliver tree waiting = .error error) {text : String}
    {cursor after : Cursor} (stands : cursor.StandsIn text) (reads : cursor.Reads tokens after) :
    error.StandsIn text := by
  obtain ⟨culprit, rfl | member, rfl⟩ := deliver_eq_error refused
  · exact expression.readFrom inside stands reads
  · exact (expression.readFrom inside stands reads).part member

/-- If a token cannot be taken in, the error speaks of it or of something in front of it. -/
theorem Expected.standsIn_of_step {limit : Nat} {expectation : Expectation} {tokens : List Token}
    {token : Token} {error : ParseError} (expected : Expected expectation tokens)
    (refused : expectation.step limit token = .error error) {text : String} {cursor after : Cursor}
    (stands : cursor.StandsIn text) (reads : cursor.Reads (tokens ++ [token]) after) :
    error.StandsIn text := by
  have itself : HasLexeme text (.ok token) := (stands.reads reads).2 token (by simp)
  have last : [token] <:+: tokens ++ [token] := (List.suffix_append _ _).isInfix
  obtain ⟨lexeme, position⟩ := token
  cases expectation with
  | expression waiting =>
      cases lexeme with
      | integer value =>
          exact (Expression.integer position value).standsIn_of_deliver last refused stands reads
      | identifier name =>
          exact (Expression.identifier position name).standsIn_of_deliver last refused stands reads
      | leftBracket =>
          simp only [Expectation.step, Expectation.readExpression] at refused
          split at refused
          · cases refused
          · cases refused
            exact itself
      | rightBracket =>
          cases expected with
          | @call waiting before front start middle name arguments outer each =>
              -- The bracket completes a call, which the form around it may refuse.
              have complete : Expression
                  (⟨.leftBracket, start⟩ :: ⟨.identifier name, middle⟩ ::
                    (front ++ [⟨.rightBracket, position⟩]))
                  (.call start name arguments) := .bracketed (.call each)
              refine complete.standsIn_of_deliver ?_ refused stands reads
              exact ⟨before, [], by simp⟩
          | _ =>
              cases refused
              exact itself
      | _ =>
          cases refused
          exact itself
  | head start waiting =>
      cases lexeme with
      | identifier name => cases refused
      | ifKeyword => cases refused
      | defineKeyword => cases refused
      | _ =>
          cases refused
          exact itself
  | close form waiting =>
      cases lexeme with
      | rightBracket =>
          obtain ⟨before, front, opened, rfl, complete⟩ := expected
          refine (complete position).standsIn_of_deliver ?_ refused stands reads
          exact ⟨before, [], by simp⟩
      | _ =>
          cases refused
          exact itself

end Grammar

/-- Whether a reader stands at a place in a text and has looked at nothing. -/
def Reader.StandsIn (reader : Reader) (text : String) : Prop :=
  reader.cursor.StandsIn text ∧ reader.peeked = none

theorem Reader.standsIn_ofText (text : String) : (Reader.ofText text).StandsIn text :=
  ⟨Cursor.standsIn_ofText text, rfl⟩

/-- The reading of an expression moves within the text, and an error speaks of what stands there. -/
theorem Reader.StandsIn.readExpr {reader after : Reader} {text : String} {limit : Nat}
    {result : Except ParseError (Option Expr)} (stands : reader.StandsIn text)
    (read : reader.readExpr limit = (result, after)) :
    after.StandsIn text ∧ (∀ tree, result = .ok (some tree) → tree.ReadFrom text) ∧
      ∀ error, result = .error error → error.StandsIn text := by
  obtain ⟨cursor, peeked⟩ := reader
  obtain ⟨stands, rfl⟩ := stands
  obtain ⟨tokens, last, place, result', final, expected, reads, ends, result_eq⟩ :=
    Grammar.readExpr_cases limit cursor
  have whole := result_eq
  rw [read] at result_eq
  cases result_eq
  have stands_place := (stands.reads reads).1
  have read_tree (tree : Expr) (tree_eq : result = .ok (some tree)) : tree.ReadFrom text :=
    ⟨limit, cursor, stands, by rw [whole, tree_eq]⟩
  cases ends with
  | textEnd nothing =>
      refine ⟨⟨(stands_place.next nothing).1, rfl⟩, read_tree, fun error error_eq => ?_⟩
      unfold Expectation.atEnd at error_eq
      split at error_eq <;> cases error_eq <;> trivial
  | unreadable fails =>
      obtain ⟨stands_final, given⟩ := stands_place.next fails
      refine ⟨⟨stands_final, rfl⟩, read_tree, fun error error_eq => ?_⟩
      cases error_eq
      exact given (.error _) rfl
  | refused next step =>
      refine ⟨⟨(stands_place.next next).1, rfl⟩, read_tree, fun error error_eq => ?_⟩
      cases error_eq
      exact expected.standsIn_of_step step stands (reads.append (.single next))
  | finished next step => exact ⟨⟨(stands_place.next next).1, rfl⟩, read_tree, nofun⟩

/-- At first nothing is bound but the builtin functions. -/
theorem Environment.get?_initial {name : String} {value : Value}
    (bound : Environment.initial.get? name = some value) : ∃ builtin, value = .builtin builtin := by
  have member : (name, value) ∈ Builtin.all.map fun builtin => (builtin.name, .builtin builtin) :=
    mem_of_lookUp bound
  obtain ⟨builtin, -, same⟩ := List.mem_map.mp member
  exact ⟨builtin, (congrArg Prod.snd same).symm⟩

/-- The discipline that all expressions have a property, those in bodies of functions included. -/
def Discipline.inherited (property : Expr → Prop) : Discipline where
  expressions := property
  values
    | .function _ body => property body
    | _ => True
  changes _ _ _ := True

theorem Discipline.inherited_lawful {property : Expr → Prop}
    (parts : ∀ {tree part : Expr}, property tree → part ∈ tree.parts → property part) :
    (Discipline.inherited property).Lawful where
  parts := parts
  integer _ := trivial
  function good := parts good List.mem_cons_self
  body good := good
  zero := trivial
  result _ computed := by
    obtain ⟨number, rfl⟩ := Builtin.result_eq_ok computed
    trivial
  refl _ _ := trivial
  trans _ _ := trivial
  inside _ := trivial
  define _ _ _ := trivial
  bind _ _ _ := trivial
  restore _ := trivial

theorem Discipline.inherited_initial (property : Expr → Prop) :
    Environment.initial.All (Discipline.inherited property).values := by
  intro name value bound
  obtain ⟨builtin, rfl⟩ := Environment.get?_initial bound
  trivial

/-- What running a text does from some bindings on, if a discipline admits all its expressions. -/
structure Yield.Within (yield : Yield) (discipline : Discipline) (before : Environment)
    (text : String) : Prop where
  /-- The values may arise. -/
  values : ∀ value ∈ yield.values, discipline.values value
  /-- All values that are bound afterwards may arise. -/
  all : yield.machine.environment.All discipline.values
  /-- The bindings may change in this way. -/
  change : discipline.changes [] before yield.machine.environment
  /-- A parse error speaks of something in the text. -/
  syntactic : ∀ error, yield.failure = some (.syntactic error) → error.StandsIn text
  /-- An evaluation error comes from an evaluation that the discipline admits. -/
  evaluation : ∀ error, yield.failure = some (.evaluation error) →
    ∃ task, discipline.Admits task ∧ task.outcome = .error error yield.machine

/-- Running a text keeps a lawful discipline that admits the expressions of the text. -/
theorem Machine.run_within {discipline : Discipline} (lawful : discipline.Lawful) {text : String}
    (admitted : ∀ tree : Expr, tree.ReadFrom text → discipline.expressions tree) (limits : Limits)
    {machine : Machine} (all : machine.environment.All discipline.values) {reader : Reader}
    (stands : reader.StandsIn text) :
    (machine.run limits reader).Within discipline machine.environment text := by
  fun_induction Machine.run limits machine reader with
  | case1 machine reader error after read =>
      refine ⟨by simp, all, lawful.refl _ _, fun error' failure => ?_, nofun⟩
      cases failure
      exact (stands.readExpr read).2.2 error rfl
  | case2 machine reader after read => exact ⟨by simp, all, lawful.refl _ _, nofun, nofun⟩
  | case3 machine reader tree after read error machine' evaluated =>
      obtain ⟨stands', given, -⟩ := stands.readExpr read
      have admits : discipline.Admits ⟨limits.budget, tree, machine⟩ :=
        ⟨admitted tree (given tree rfl), all⟩
      have ends := (lawful.within limits.budget).1 tree admits.tree machine all
      rw [evaluated] at ends
      refine ⟨by simp, ends.all, ends.change, nofun, fun error' failure => ?_⟩
      cases failure
      exact ⟨_, admits, evaluated⟩
  | case4 machine reader tree after read value machine' evaluated later ih =>
      obtain ⟨stands', given, -⟩ := stands.readExpr read
      have ends := (lawful.within limits.budget).1 tree (admitted tree (given tree rfl)) machine all
      rw [evaluated] at ends
      obtain ⟨arisen, reaches⟩ := ends
      have within := ih reaches.all stands'
      exact ⟨by simpa using ⟨arisen, within.values⟩, within.all,
        lawful.trans reaches.change within.change, within.syntactic, within.evaluation⟩

end DynLisp
