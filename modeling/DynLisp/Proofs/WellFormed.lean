import DynLisp.Proofs.Descent
import DynLisp.Proofs.Reading

/-!
# Well-formed expressions

An expression is well-formed if all its integers are within the range of literals and all its names
are read as identifiers.  Tokens that are read from a text are legal in this sense, taking in a
legal token keeps the forms under construction well-formed, and so a reader gives well-formed
expressions only, whatever has been read from its text before.
-/

namespace DynLisp

/-- Whether a name is read as an identifier. -/
def isName (name : String) : Bool :=
  match name.toList with
  | [] => false
  | first :: body =>
      isIdentifierStart first && body.all isIdentifierPart && name != "if" && name != "define"

/-- Whether an integer is written as a literal. -/
def isLiteral (value : Int) : Bool := 0 ≤ value && value ≤ greatestLiteral

/-- Whether the names of a parameter list are read as identifiers. -/
def allNames (parameters : Option (List String)) : Bool := (parameters.getD []).all isName

namespace Expr

mutual

/-- Whether all integers of an expression are literals and all its names are identifiers. -/
def wellFormed : Expr → Bool
  | integer _ value => isLiteral value
  | identifier _ name => isName name
  | conditional _ condition consequence alternative =>
      condition.wellFormed && consequence.wellFormed && alternative.wellFormed
  | define _ name parameters value => isName name && allNames parameters && value.wellFormed
  | call _ name arguments => isName name && allWellFormed arguments
  | hole _ => false

/-- Whether all of several expressions are well-formed. -/
def allWellFormed : List Expr → Bool
  | [] => true
  | expression :: rest => expression.wellFormed && allWellFormed rest

end

theorem allWellFormed_append (front back : List Expr) :
    allWellFormed (front ++ back) = (allWellFormed front && allWellFormed back) := by
  induction front with
  | nil => simp [allWellFormed]
  | cons expression front ih => simp [allWellFormed, ih, Bool.and_assoc]

mutual

theorem wellFormed_unplaced (tree : Expr) : tree.unplaced.wellFormed = tree.wellFormed := by
  match tree with
  | integer _ _ => rfl
  | identifier _ _ => rfl
  | conditional _ condition consequence alternative =>
      simp only [unplaced, wellFormed, wellFormed_unplaced condition,
        wellFormed_unplaced consequence, wellFormed_unplaced alternative]
  | define _ _ _ value => simp only [unplaced, wellFormed, wellFormed_unplaced value]
  | call _ _ arguments => simp only [unplaced, wellFormed, allWellFormed_unplaced arguments]
  | hole _ => rfl

theorem allWellFormed_unplaced (trees : List Expr) :
    allWellFormed (allUnplaced trees) = allWellFormed trees := by
  match trees with
  | [] => rfl
  | tree :: trees =>
      simp only [allUnplaced, allWellFormed, wellFormed_unplaced tree, allWellFormed_unplaced trees]

end

theorem wellFormed_eq_of_alike {left right : Expr} (alike : left.alike right = true) :
    left.wellFormed = right.wellFormed := by
  rw [← wellFormed_unplaced left, unplaced_eq_of_alike alike, wellFormed_unplaced]

end Expr

/-- Whether a lexeme can be part of a well-formed expression. -/
def Lexeme.isLegal : Lexeme → Bool
  | identifier name => isName name
  | integer value => isLiteral value
  | _ => true

theorem isLegal_of_spelled {first : Char} {body : List Char} {position : Position} {lexeme : Lexeme}
    (inside : ∀ character ∈ body, continuesToken first character = true)
    (spelling : spelled first body position = .ok lexeme) : lexeme.isLegal = true := by
  unfold spelled at spelling
  split at spelling
  · cases spelling
    rfl
  split at spelling
  · cases spelling
    rfl
  split at spelling
  next start =>
    rw [continuesToken_of_start start] at inside
    cases spelling
    unfold Lexeme.ofName
    split
    · rfl
    split
    · rfl
    next no_if no_define =>
      simp only [Lexeme.isLegal, isName, String.toList_ofList, Bool.and_eq_true, List.all_eq_true,
        bne_iff_ne]
      exact ⟨⟨⟨start, inside⟩, no_if⟩, no_define⟩
  split at spelling
  next digit =>
    obtain ⟨value, -, bounded, rfl⟩ := readLiteral_eq_ok spelling
    simp only [Lexeme.isLegal, isLiteral, Bool.and_eq_true, decide_eq_true_eq]
    omega
  next => cases spelling

namespace Form

/-- Whether all parts that a form has so far are well-formed. -/
def wellFormed : Form → Bool
  | call _ name arguments => isName name && Expr.allWellFormed arguments
  | condition _ => true
  | consequence _ test => test.wellFormed
  | alternative _ test chosen => test.wellFormed && chosen.wellFormed
  | target _ => true
  | value _ name parameters => isName name && allNames parameters

theorem parameterNames_all_isName {arguments : List Expr} {names : List String}
    (legal : Expr.allWellFormed arguments = true)
    (parameters : parameterNames arguments = .ok names) : names.all isName = true := by
  induction arguments generalizing names with
  | nil =>
      cases parameters
      rfl
  | cons argument arguments ih =>
      obtain ⟨position, name, later, rfl, rest, rfl⟩ := parameterNames_cons_eq_ok parameters
      simp only [Expr.allWellFormed, Bool.and_eq_true] at legal
      simp only [List.all_cons, Bool.and_eq_true]
      exact ⟨legal.1, ih legal.2 rest⟩

theorem definitionTarget_names {tree : Expr} {name : String} {parameters : Option (List String)}
    (legal : tree.wellFormed = true) (target : definitionTarget tree = .ok (name, parameters)) :
    isName name = true ∧ allNames parameters = true := by
  rcases definitionTarget_eq_ok target with
    ⟨position, rfl, rfl⟩ | ⟨position, arguments, names, rfl, spelling, rfl⟩
  · exact ⟨legal, rfl⟩
  · simp only [Expr.wellFormed, Bool.and_eq_true] at legal
    exact ⟨legal.1, parameterNames_all_isName legal.2 spelling⟩

end Form

/-- Whether all that has been put together is well-formed when something is expected. -/
def Expectation.wellFormed : Expectation → Bool
  | expression waiting => waiting.all Form.wellFormed
  | head _ waiting => waiting.all Form.wellFormed
  | close form waiting => form.wellFormed && waiting.all Form.wellFormed

/-- Whether all that a token led to is well-formed. -/
def Progress.wellFormed : Progress → Bool
  | finished tree => tree.wellFormed
  | reading expectation => expectation.wellFormed

theorem deliver_wellFormed (tree : Expr) {waiting : List Form} {progress : Progress}
    (legal : tree.wellFormed = true) (all_legal : waiting.all Form.wellFormed = true)
    (delivered : deliver tree waiting = .ok progress) : progress.wellFormed = true := by
  cases waiting with
  | nil =>
      cases delivered
      exact legal
  | cons form waiting =>
      simp only [List.all_cons, Bool.and_eq_true] at all_legal
      obtain ⟨form_legal, waiting_legal⟩ := all_legal
      cases form with
      | target position =>
          obtain ⟨name, parameters, target, rfl⟩ := deliver_target delivered
          obtain ⟨name_legal, parameters_legal⟩ := Form.definitionTarget_names legal target
          simp [Progress.wellFormed, Expectation.wellFormed, Form.wellFormed, name_legal,
            parameters_legal, waiting_legal]
      | _ =>
          cases delivered
          simp_all [Progress.wellFormed, Expectation.wellFormed, Form.wellFormed, Expr.wellFormed,
            Expr.allWellFormed_append, Expr.allWellFormed]

/-- A legal token leaves everything well-formed. -/
theorem Expectation.step_wellFormed {limit : Nat} {expectation : Expectation} {token : Token}
    {progress : Progress} (legal : expectation.wellFormed = true)
    (token_legal : token.lexeme.isLegal = true)
    (step : expectation.step limit token = .ok progress) : progress.wellFormed = true := by
  cases takes_of_step step with
  | integer delivered => exact deliver_wellFormed (.integer _ _) token_legal legal delivered
  | identifier delivered => exact deliver_wellFormed (.identifier _ _) token_legal legal delivered
  | opening position waiting => exact legal
  | called delivered =>
      simp only [wellFormed, List.all_cons, Bool.and_eq_true] at legal
      exact deliver_wellFormed (.call _ _ _) legal.1 legal.2 delivered
  | call start position name waiting =>
      simp only [Progress.wellFormed, wellFormed, List.all_cons, Form.wellFormed,
        Expr.allWellFormed, Bool.and_eq_true]
      exact ⟨⟨token_legal, trivial⟩, legal⟩
  | conditional start position waiting => exact legal
  | define start position waiting => exact legal
  | closing delivered =>
      simp only [wellFormed, Bool.and_eq_true] at legal
      exact deliver_wellFormed _ legal.1 legal.2 delivered

namespace Reader

/-- Whether a token that has been looked at is legal. -/
def PeeksLegal (reader : Reader) : Prop := ∀ token ∈ reader.peeked, token.lexeme.isLegal = true

theorem peeksLegal_of_none {reader : Reader} (nothing : reader.peeked = none) :
    reader.PeeksLegal := by
  intro token looked_at
  rw [nothing] at looked_at
  cases looked_at

theorem next_isLegal {reader after : Reader} {token : Token} (peeked : reader.PeeksLegal)
    (read : reader.next = (.ok (some token), after)) : token.lexeme.isLegal = true := by
  unfold next at read
  split at read
  next token' looked_at =>
    cases read
    exact peeked token looked_at
  next =>
    split at read
    next token' after' result =>
      cases read
      obtain ⟨gap, first, body, splits, spelling, -⟩ := Cursor.next_eq_token result
      exact isLegal_of_spelled splits.body spelling
    next => cases read

/-- From a legal token on, everything that is read is well-formed. -/
theorem readFrom_wellFormed {limit : Nat} {expectation : Expectation} {reader after : Reader}
    {tree : Expr} (legal : expectation.wellFormed = true) (peeked : reader.PeeksLegal)
    (read : reader.readFrom limit expectation = (.ok (some tree), after)) :
    tree.wellFormed = true := by
  fun_induction readFrom limit expectation reader with
  | case1 expectation reader error after' result => cases read
  | case2 expectation reader after' result =>
      obtain ⟨atEnd, -⟩ := Prod.mk.inj read
      unfold Expectation.atEnd at atEnd
      split at atEnd <;> cases atEnd
  | case3 expectation reader token after' result error step => cases read
  | case4 expectation reader token after' result tree' step =>
      cases read
      exact Expectation.step_wellFormed legal (next_isLegal peeked result) step
  | case5 expectation reader token after' result expectation' step ih =>
      have behind := reader.next_peeked
      simp only [result] at behind
      refine ih ?_ (peeksLegal_of_none behind) read
      exact Expectation.step_wellFormed legal (next_isLegal peeked result) step

theorem readExpr_wellFormed {limit : Nat} {reader after : Reader} {tree : Expr}
    (peeked : reader.PeeksLegal) (read : reader.readExpr limit = (.ok (some tree), after)) :
    tree.wellFormed = true := by
  rw [readExpr_eq] at read
  exact readFrom_wellFormed rfl peeked read

/-- The readers that are reached from the beginning of a text by consuming and looking at tokens and
by reading in any order, whatever comes of it. -/
inductive ReachedFrom (text : String) : Reader → Prop
  /-- Nothing has been read. -/
  | start : ReachedFrom text (.ofText text)
  /-- A token has been consumed. -/
  | next {reader : Reader} (earlier : ReachedFrom text reader) : ReachedFrom text reader.next.2
  /-- A token has been looked at. -/
  | peek {reader : Reader} (earlier : ReachedFrom text reader) : ReachedFrom text reader.peek.2
  /-- An expression has been read, or could not be. -/
  | read {reader : Reader} (limit : Nat) (earlier : ReachedFrom text reader) :
      ReachedFrom text (reader.readExpr limit).2
  /-- Any rule of the grammar has been applied on its own, or could not be. -/
  | rule {α : Type} {reading : Reading α} {reader : Reader} (rule : Stack.IsRule reading)
      (earlier : ReachedFrom text reader) : ReachedFrom text (reading.run reader).2

theorem peek_peeksLegal {reader : Reader} (legal : reader.PeeksLegal) :
    reader.peek.2.PeeksLegal := by
  rcases looked : reader.peek with ⟨error | (_ | token), ahead⟩
  · apply peeksLegal_of_none
    simpa [next_of_peek_error looked] using reader.next_peeked
  · apply peeksLegal_of_none
    simpa [next_of_peek_none looked] using reader.next_peeked
  · obtain ⟨looked_at, -, next_reader⟩ := next_of_peek looked
    intro other member
    rw [looked_at] at member
    cases member
    exact next_isLegal legal next_reader

theorem ReachedFrom.peeksLegal {text : String} {reader : Reader}
    (reached : ReachedFrom text reader) : reader.PeeksLegal := by
  induction reached with
  | start => exact peeksLegal_of_none rfl
  | @next reader earlier ih => exact peeksLegal_of_none reader.next_peeked
  | peek earlier ih => exact peek_peeksLegal ih
  | @read reader limit earlier ih => exact peeksLegal_of_none (reader.readExpr_peeked limit)
  | @rule α reading reader rule earlier ih =>
      refine rule.keeps ?_ ?_ reader ih
      · exact fun reader _ => peeksLegal_of_none reader.next_peeked
      · exact fun reader => peek_peeksLegal

end Reader
end DynLisp
