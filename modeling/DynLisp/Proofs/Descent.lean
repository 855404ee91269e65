import DynLisp.Parser

/-!
# What the rules of the grammar pass on

A rule of the grammar is given the readings of its parts, so what is known of the parts has to be
carried through each rule once and holds for all ways to tie the recursion.

`Reading.Keeps` says that a reading preserves a property of readers; whatever tokens preserve is
preserved by all rules.  `Reading.Extends` compares a reading with one that has less stack: both do
the same unless the stack of the other one is used up.  In this sense more frames extend fewer
frames, and frames and open forms extend each other (`Stack.expression_extends`,
`Stack.readExpr_extends`).
-/

namespace DynLisp

/-- Whether an error says that the stack is used up. -/
def ParseError.IsOfStack : ParseError → Prop
  | tooDeep _ => True
  | stackExhausted => True
  | _ => False

namespace Reading

variable {α β : Type}

/-- The loop over the arguments of a call, one argument at a time. -/
theorem argumentsFrom_eq (read : ExprReading) (found : List Expr) (reader : Reader) :
    argumentsFrom read found reader =
      follow reader.peek fun ahead? ahead =>
        match ahead? with
        | none => (.error (.unexpectedEnd "function parameter or `)`"), ahead)
        | some token =>
            if token.lexeme = .rightBracket then
              (.ok found, ahead)
            else
              follow (read.run ahead) fun tree? after =>
                match tree? with
                | none => (.error (.unexpectedEnd "function parameter or `)`"), after)
                | some tree => argumentsFrom read (found ++ [tree]) after := by
  rw [argumentsFrom]
  split
  next error ahead looked => rw [looked, follow_error]
  next ahead looked => rw [looked, follow_ok]
  next token ahead looked =>
    simp only [looked, follow_ok]
    split
    · rfl
    · split
      next error after given => rw [given, follow_error]
      next after given => rw [given, follow_ok]
      next tree after given => rw [given, follow_ok]

/-- Whether a reading preserves a property of readers, whatever comes of it. -/
def Keeps (property : Reader → Prop) (reading : Reading α) : Prop :=
  ∀ reader, property reader → property (reading.run reader).2

namespace Keeps

variable {property : Reader → Prop}

theorem pure (value : α) : (Pure.pure value : Reading α).Keeps property := fun _ holds => holds

theorem fail (error : ParseError) : (Reading.fail error : Reading α).Keeps property :=
  fun _ holds => holds

theorem bind {first : Reading α} {later : α → Reading β} (start : first.Keeps property)
    (rest : ∀ value, (later value).Keeps property) : (first >>= later).Keeps property := by
  intro reader holds
  have middle := start reader holds
  rw [bind_run]
  rcases result : first.run reader with ⟨error | value, after⟩
  · rwa [result] at middle
  · rw [result] at middle
    exact rest value after middle

theorem located {reading : Reading α} (kept : reading.Keeps property) (position : Position) :
    (reading.located position).Keeps property := by
  intro reader holds
  have after := kept reader holds
  simp only [Reading.located]
  split
  next place result => rwa [result] at after
  next => exact after

theorem ofExcept (result : Except ParseError α) : (Reading.ofExcept result).Keeps property := by
  cases result with
  | error error => exact fail error
  | ok value => exact pure value

theorem expect {read : ExprReading} (parts : read.Keeps property) (expected : String) :
    (Reading.expect read expected).Keeps property := by
  refine bind parts fun tree? => ?_
  rcases tree? with _ | tree
  · exact fail _
  · exact pure _

theorem arguments (looks : lookAhead.Keeps property) {read : ExprReading}
    (parts : read.Keeps property) : (Reading.arguments read).Keeps property := by
  intro reader holds
  change property (argumentsFrom read [] reader).2
  generalize ([] : List Expr) = found
  have seen := looks reader holds
  fun_induction argumentsFrom read found reader with
  | case1 found reader error ahead looked => rwa [lookAhead_run, looked] at seen
  | case2 found reader ahead looked => rwa [lookAhead_run, looked] at seen
  | case3 found reader token ahead looked closing => rwa [lookAhead_run, looked] at seen
  | case4 found reader token ahead looked other error after given =>
      rw [lookAhead_run, looked] at seen
      have kept := parts ahead seen
      rwa [given] at kept
  | case5 found reader token ahead looked other after given =>
      rw [lookAhead_run, looked] at seen
      have kept := parts ahead seen
      rwa [given] at kept
  | case6 found reader token ahead looked other tree after given ih =>
      rw [lookAhead_run, looked] at seen
      have kept := parts ahead seen
      rw [given] at kept
      exact ih kept (looks after kept)

section Rules

variable (tokens : token.Keeps property) (looks : lookAhead.Keeps property)
include tokens

theorem rightBracket : Reading.rightBracket.Keeps property := by
  refine tokens.bind fun token? => ?_
  rcases token? with _ | token
  · exact fail _
  · dsimp only
    split
    · exact pure _
    · exact fail _

theorem expression {form : Position → Reading Expr}
    (forms : ∀ position, (form position).Keeps property) :
    (Reading.expression form).Keeps property := by
  refine tokens.bind fun token? => ?_
  rcases token? with _ | ⟨lexeme, position⟩
  · exact pure none
  · refine bind ?_ fun tree => pure (some tree)
    cases lexeme with
    | integer value => exact pure _
    | identifier name => exact pure _
    | leftBracket => exact forms position
    | _ => exact fail _

theorem conditional {expect : String → Reading Expr}
    (parts : ∀ expected, (expect expected).Keeps property) (position : Position) :
    (Reading.conditional expect position).Keeps property :=
  tokens.bind fun _ => (parts _).bind fun _ => (parts _).bind fun _ => (parts _).bind fun _ =>
    (rightBracket tokens).bind fun _ => pure _

theorem definition {expect : String → Reading Expr}
    (parts : ∀ expected, (expect expected).Keeps property) (position : Position) :
    (Reading.definition expect position).Keeps property :=
  tokens.bind fun _ => (parts _).bind fun target =>
    (ofExcept (Form.definitionTarget target)).bind fun _ => (parts _).bind fun _ =>
      (rightBracket tokens).bind fun _ => pure _

include looks

theorem call {read : ExprReading} (parts : read.Keeps property) (position : Position)
    (name : String) : (Reading.call read position name).Keeps property :=
  tokens.bind fun _ => Keeps.bind (arguments looks parts) fun _ => tokens.bind fun _ => pure _

theorem form {call : String → Reading Expr} {conditional definition : Reading Expr}
    (calls : ∀ name, (call name).Keeps property) (conditionals : conditional.Keeps property)
    (definitions : definition.Keeps property) :
    (Reading.form call conditional definition).Keeps property := by
  refine looks.bind fun token? => ?_
  rcases token? with _ | ⟨lexeme, position⟩
  · exact fail _
  · cases lexeme with
    | identifier name => exact calls name
    | ifKeyword => exact conditionals
    | defineKeyword => exact definitions
    | _ => exact tokens.bind fun _ => fail _

end Rules
end Keeps
end Reading

namespace Stack

open Reading (token lookAhead)

/-- All rules preserve a property of readers on a stack with so many frames left. -/
structure Keeps (property : Reader → Prop) (frames : Nat) : Prop where
  /-- Expressions do. -/
  expression : (expression frames).Keeps property
  /-- Forms do. -/
  form : ∀ position, (form frames position).Keeps property
  /-- Calls do. -/
  call : ∀ position name, (call frames position name).Keeps property
  /-- Conditionals do. -/
  conditional : ∀ position, (conditional frames position).Keeps property
  /-- Definitions do. -/
  definition : ∀ position, (definition frames position).Keeps property
  /-- Expressions that have to be there do. -/
  expect : ∀ expected, (expect frames expected).Keeps property

/-- What tokens preserve is preserved by all rules. -/
theorem keeps {property : Reader → Prop} (tokens : token.Keeps property)
    (looks : lookAhead.Keeps property) (frames : Nat) : Keeps property frames := by
  induction frames with
  | zero =>
      exact ⟨.fail _, fun _ => .fail _, fun _ _ => .fail _, fun _ => .fail _, fun _ => .fail _,
        fun _ => .fail _⟩
  | succ frames ih =>
      constructor
      · exact .expression tokens ih.form
      · intro position
        exact .form tokens looks (fun name => (ih.call position name).located position)
          ((ih.conditional position).located position) ((ih.definition position).located position)
      · exact .call tokens looks ih.expression
      · exact .conditional tokens ih.expect
      · exact .definition tokens ih.expect
      · exact .expect ih.expression

/-- The rules of the grammar, each on its own and on a stack of any size. -/
inductive IsRule : {α : Type} → Reading α → Prop
  /-- An expression. -/
  | expression (frames : Nat) : IsRule (expression frames).toReading
  /-- What follows an opening bracket. -/
  | form (frames : Nat) (position : Position) : IsRule (form frames position)
  /-- A call. -/
  | call (frames : Nat) (position : Position) (name : String) : IsRule (call frames position name)
  /-- A conditional. -/
  | conditional (frames : Nat) (position : Position) : IsRule (conditional frames position)
  /-- A definition. -/
  | definition (frames : Nat) (position : Position) : IsRule (definition frames position)
  /-- An expression that has to be there. -/
  | expect (frames : Nat) (expected : String) : IsRule (expect frames expected)
  /-- A closing bracket. -/
  | rightBracket : IsRule Reading.rightBracket

theorem IsRule.keeps {α : Type} {reading : Reading α} (rule : IsRule reading)
    {property : Reader → Prop} (tokens : token.Keeps property)
    (looks : lookAhead.Keeps property) : reading.Keeps property := by
  cases rule with
  | expression frames => exact (Stack.keeps tokens looks frames).expression
  | form frames position => exact (Stack.keeps tokens looks frames).form position
  | call frames position name => exact (Stack.keeps tokens looks frames).call position name
  | conditional frames position => exact (Stack.keeps tokens looks frames).conditional position
  | definition frames position => exact (Stack.keeps tokens looks frames).definition position
  | expect frames expected => exact (Stack.keeps tokens looks frames).expect expected
  | rightBracket => exact .rightBracket tokens

end Stack

namespace Reading

variable {α β : Type}

/-- Whether reading has ended because the stack is used up. -/
def Exhausted (outcome : Except ParseError α × Reader) : Prop :=
  ∃ error, outcome.1 = .error error ∧ error.IsOfStack

/-- Whether a reading does the same as another one unless the stack of that one is used up. -/
def Extends (more less : Reading α) : Prop :=
  ∀ reader, Exhausted (less.run reader) ∨ more.run reader = less.run reader

theorem Exhausted.follow {outcome : Except ParseError α × Reader} (exhausted : Exhausted outcome)
    (later : α → Reader → Except ParseError β × Reader) : Exhausted (follow outcome later) := by
  obtain ⟨error, failed, ofStack⟩ := exhausted
  obtain ⟨result, after⟩ := outcome
  cases failed
  exact ⟨error, rfl, ofStack⟩

/-- The stack is used up in the first part or in the second one, or nothing changes. -/
theorem follow_extends {outcome outcome' : Except ParseError α × Reader}
    {later later' : α → Reader → Except ParseError β × Reader}
    (first : Exhausted outcome ∨ outcome' = outcome)
    (second : ∀ value after, Exhausted (later value after) ∨
      later' value after = later value after) :
    Exhausted (follow outcome later) ∨ follow outcome' later' = follow outcome later := by
  rcases first with exhausted | rfl
  · exact Or.inl (exhausted.follow later)
  · rcases outcome' with ⟨error | value, after⟩
    · exact Or.inr rfl
    · exact second value after

namespace Extends

theorem refl (reading : Reading α) : reading.Extends reading := fun _ => Or.inr rfl

theorem exhausted (more : Reading α) : more.Extends (Reading.fail .stackExhausted) :=
  fun _ => Or.inl ⟨.stackExhausted, rfl, trivial⟩

theorem tooDeep (more : Reading α) (position : Position) :
    more.Extends (Reading.fail (.tooDeep position)) :=
  fun _ => Or.inl ⟨.tooDeep position, rfl, trivial⟩

theorem run_eq_of_ok {more less : Reading α} (extension : more.Extends less)
    {reader after : Reader} {value : α} (given : less.run reader = (.ok value, after)) :
    more.run reader = (.ok value, after) := by
  rcases extension reader with ⟨error, failed, -⟩ | same
  · rw [given] at failed
    cases failed
  · exact same.trans given

theorem bind {more less : Reading α} {later later' : α → Reading β} (first : more.Extends less)
    (second : ∀ value, (later' value).Extends (later value)) :
    (more >>= later').Extends (less >>= later) :=
  fun reader => follow_extends (first reader) fun value => second value

theorem located_left {more less : Reading α} (extension : more.Extends less)
    (position : Position) : (more.located position).Extends less := by
  intro reader
  rcases extension reader with exhausted | same
  · exact Or.inl exhausted
  · simp only [Reading.located, same]
    split
    next after result => exact Or.inl ⟨.stackExhausted, by rw [result], trivial⟩
    next => exact Or.inr rfl

theorem located_right {more less : Reading α} (extension : more.Extends less)
    (position : Position) : more.Extends (less.located position) := by
  intro reader
  simp only [Reading.located]
  split
  next after result => exact Or.inl ⟨.tooDeep position, rfl, trivial⟩
  next => exact extension reader

theorem expression {more less : Position → Reading Expr}
    (forms : ∀ position, (more position).Extends (less position)) :
    (Reading.expression more).Extends (Reading.expression less) := by
  refine (refl token).bind fun token? => ?_
  rcases token? with _ | ⟨lexeme, position⟩
  · exact refl _
  · refine bind ?_ fun tree => refl _
    cases lexeme with
    | leftBracket => exact forms position
    | _ => exact refl _

theorem expect {more less : ExprReading} (parts : more.Extends less.toReading)
    (expected : String) : (Reading.expect more expected).Extends (Reading.expect less expected) :=
  parts.bind fun _ => refl _

theorem argumentsFrom {more less : ExprReading} (parts : more.Extends less.toReading)
    (found : List Expr) (reader : Reader) :
    Exhausted (Reading.argumentsFrom less found reader) ∨
      Reading.argumentsFrom more found reader = Reading.argumentsFrom less found reader := by
  fun_induction Reading.argumentsFrom less found reader with
  | case1 found reader error ahead looked =>
      rw [argumentsFrom_eq, looked]
      exact Or.inr rfl
  | case2 found reader ahead looked =>
      rw [argumentsFrom_eq, looked]
      exact Or.inr rfl
  | case3 found reader token ahead looked closing =>
      rw [argumentsFrom_eq more found reader]
      simp only [looked, follow_ok, if_pos closing, or_true]
  | case4 found reader token ahead looked other error after given =>
      rw [argumentsFrom_eq more found reader]
      simp only [looked, follow_ok, if_neg other]
      rcases parts ahead with exhausted | same
      · rw [given] at exhausted
        exact Or.inl (exhausted.follow fun _ after => (.ok [], after))
      · rw [same, given]
        exact Or.inr rfl
  | case5 found reader token ahead looked other after given =>
      rw [argumentsFrom_eq more found reader]
      simp only [looked, follow_ok, if_neg other, parts.run_eq_of_ok given, or_true]
  | case6 found reader token ahead looked other tree after given ih =>
      rw [argumentsFrom_eq more found reader]
      simp only [looked, follow_ok, if_neg other, parts.run_eq_of_ok given]
      exact ih

theorem call {more less : ExprReading} (parts : more.Extends less.toReading)
    (position : Position) (name : String) :
    (Reading.call more position name).Extends (Reading.call less position name) :=
  (refl token).bind fun _ => bind (argumentsFrom parts []) fun _ => refl _

theorem conditional {more less : String → Reading Expr}
    (parts : ∀ expected, (more expected).Extends (less expected)) (position : Position) :
    (Reading.conditional more position).Extends (Reading.conditional less position) :=
  (refl token).bind fun _ => (parts _).bind fun _ => (parts _).bind fun _ =>
    (parts _).bind fun _ => refl _

theorem definition {more less : String → Reading Expr}
    (parts : ∀ expected, (more expected).Extends (less expected)) (position : Position) :
    (Reading.definition more position).Extends (Reading.definition less position) :=
  (refl token).bind fun _ => (parts _).bind fun _ => (refl _).bind fun _ =>
    (parts _).bind fun _ => refl _

theorem form {call call' : String → Reading Expr}
    {conditional conditional' definition definition' : Reading Expr}
    (calls : ∀ name, (call' name).Extends (call name))
    (conditionals : conditional'.Extends conditional)
    (definitions : definition'.Extends definition) :
    (Reading.form call' conditional' definition').Extends
      (Reading.form call conditional definition) := by
  refine (refl lookAhead).bind fun token? => ?_
  rcases token? with _ | ⟨lexeme, position⟩
  · exact refl _
  · cases lexeme with
    | identifier name => exact calls name
    | ifKeyword => exact conditionals
    | defineKeyword => exact definitions
    | _ => exact refl _

/-- More forms may be open within a greater limit, and nothing else changes. -/
theorem formWithin {limit limit' : Nat} (le : limit ≤ limit') (position : Position) :
    (Reading.formWithin limit' position).Extends (Reading.formWithin limit position) := by
  induction limit generalizing limit' position with
  | zero => exact tooDeep _ position
  | succ limit ih =>
      obtain ⟨limit', rfl⟩ := Nat.exists_eq_add_one.mpr (Nat.lt_of_lt_of_le limit.succ_pos le)
      have parts : (ExprReading.ofForm (Reading.formWithin limit')).Extends
          (ExprReading.ofForm (Reading.formWithin limit)).toReading :=
        expression (ih (Nat.le_of_succ_le_succ le))
      exact form (call parts position) (conditional (expect parts) position)
        (definition (expect parts) position)

end Extends
end Reading

namespace Stack

open Reading (formWithin)

/-- All rules on a stack with more frames left extend those on one with fewer. -/
structure Extended (less more : Nat) : Prop where
  /-- The reading of expressions does. -/
  expression : (expression more).Extends (expression less).toReading
  /-- The reading of forms does. -/
  form : ∀ position, (form more position).Extends (form less position)
  /-- The reading of calls does. -/
  call : ∀ position name, (call more position name).Extends (call less position name)
  /-- The reading of conditionals does. -/
  conditional : ∀ position, (conditional more position).Extends (conditional less position)
  /-- The reading of definitions does. -/
  definition : ∀ position, (definition more position).Extends (definition less position)
  /-- The reading of expressions that have to be there does. -/
  expect : ∀ expected, (expect more expected).Extends (expect less expected)

theorem extended_of_le {less more : Nat} (le : less ≤ more) : Extended less more := by
  induction less generalizing more with
  | zero =>
      exact ⟨.exhausted _, fun _ => .exhausted _, fun _ _ => .exhausted _, fun _ => .exhausted _,
        fun _ => .exhausted _, fun _ => .exhausted _⟩
  | succ less ih =>
      obtain ⟨more, rfl⟩ := Nat.exists_eq_add_one.mpr (Nat.lt_of_lt_of_le less.succ_pos le)
      have parts := ih (Nat.le_of_succ_le_succ le)
      constructor
      · exact .expression parts.form
      · intro position
        exact .form
          (fun name => ((parts.call position name).located_left position).located_right position)
          (((parts.conditional position).located_left position).located_right position)
          (((parts.definition position).located_left position).located_right position)
      · exact .call parts.expression
      · exact .conditional parts.expect
      · exact .definition parts.expect
      · exact .expect parts.expression

/-- Within a number of open forms everything is read that is read within three frames for each of
them. -/
theorem formWithin_extends_form {frames limit : Nat} (le : frames ≤ 3 * limit)
    (position : Position) : (formWithin limit position).Extends (form frames position) := by
  induction limit generalizing frames position with
  | zero =>
      obtain rfl : frames = 0 := by omega
      exact .exhausted _
  | succ limit ih =>
      let read := ExprReading.ofForm (formWithin limit)
      have expressions (frames : Nat) (le : frames ≤ 3 * limit + 1) :
          read.Extends (expression frames).toReading := by
        cases frames with
        | zero => exact .exhausted _
        | succ frames => exact .expression (ih (by omega))
      have parts (frames : Nat) (le : frames ≤ 3 * limit + 1) (expected : String) :
          (Reading.expect read expected).Extends (expect frames expected) := by
        cases frames with
        | zero => exact .exhausted _
        | succ frames => exact .expect (expressions frames (by omega)) expected
      cases frames with
      | zero => exact .exhausted _
      | succ frames =>
          cases frames with
          | zero =>
              exact .form (fun _ => .located_right (.exhausted _) position)
                (.located_right (.exhausted _) position) (.located_right (.exhausted _) position)
          | succ frames =>
              have expressions := expressions frames (by omega)
              have parts := parts frames (by omega)
              exact .form (fun name => .located_right (.call expressions position name) position)
                (.located_right (.conditional parts position) position)
                (.located_right (.definition parts position) position)

/-- Within four frames for each form everything is read that is read within a number of open
forms. -/
theorem form_extends_formWithin {frames limit : Nat} (le : 4 * limit ≤ frames)
    (position : Position) : (form frames position).Extends (formWithin limit position) := by
  induction limit generalizing frames position with
  | zero => exact .tooDeep _ position
  | succ limit ih =>
      obtain ⟨frames, rfl⟩ := Nat.exists_eq_add_of_le' (show 4 ≤ frames by omega)
      have parts : (expression (frames + 1)).Extends
          (ExprReading.ofForm (formWithin limit)).toReading := .expression (ih (by omega))
      have parts' : (expression (frames + 2)).Extends
          (ExprReading.ofForm (formWithin limit)).toReading := .expression (ih (by omega))
      exact .form (fun name => .located_left (.call parts' position name) position)
        (.located_left (.conditional (.expect parts) position) position)
        (.located_left (.definition (.expect parts) position) position)

theorem readExpr_extends {frames limit : Nat} (le : frames ≤ 3 * limit + 1) :
    (ExprReading.ofForm (formWithin limit)).Extends (expression frames).toReading := by
  cases frames with
  | zero => exact .exhausted _
  | succ frames => exact .expression (formWithin_extends_form (by omega))

theorem expression_extends {frames limit : Nat} (le : 4 * limit + 1 ≤ frames) :
    (expression frames).Extends (ExprReading.ofForm (formWithin limit)).toReading := by
  obtain ⟨frames, rfl⟩ := Nat.exists_eq_add_of_le' (show 1 ≤ frames by omega)
  exact .expression (form_extends_formWithin (by omega))

end Stack
end DynLisp
