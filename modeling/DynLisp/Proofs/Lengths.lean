import DynLisp.Proofs.RoundTrip
import DynLisp.Proofs.Sources

/-!
# How long things are that are read from a text

A token is spelled with no more characters than stand in the text for it, and the source of an
expression is less than twice as long as the text, because it may have a blank between two tokens
where the text has none.  Positions lie within the text.  Numbers have so few digits that tokens and
expressions can always be written.
-/

namespace DynLisp

theorem Position.behind_bounds (front : List Char) :
    1 ≤ (Position.behind front).line ∧ 1 ≤ (Position.behind front).column ∧
      (Position.behind front).column ≤ front.length + 1 := by
  have part : (front.reverse.takeWhile (· != '\n')).length ≤ front.reverse.length :=
    (List.takeWhile_prefix _).length_le
  rw [List.length_reverse] at part
  simp only [behind]
  omega

/-- A digit more makes room for ten times as many numbers. -/
theorem ofDigitChars_lt {digits : List Char}
    (all : ∀ character ∈ digits, Text.isDigit character = true) (init : Nat) :
    Nat.ofDigitChars 10 digits init < (init + 1) * Nat.pow 10 digits.length := by
  induction digits generalizing init with
  | nil => exact Nat.lt_of_lt_of_eq (Nat.lt_succ_self init) (Nat.mul_one _).symm
  | cons digit digits ih =>
      simp only [List.mem_cons, forall_eq_or_imp] at all
      have value : digit.toNat - '0'.toNat ≤ 9 := by
        have bounds := (Text.isDigit_iff digit).mp all.1
        have zero : '0'.toNat = 48 := rfl
        omega
      rw [Nat.ofDigitChars_cons, List.length_cons]
      calc Nat.ofDigitChars 10 digits (10 * init + (digit.toNat - '0'.toNat))
          < (10 * init + (digit.toNat - '0'.toNat) + 1) * Nat.pow 10 digits.length := ih all.2 _
        _ ≤ (10 * (init + 1)) * Nat.pow 10 digits.length := Nat.mul_le_mul_right _ (by omega)
        _ = (init + 1) * (Nat.pow 10 digits.length * 10) := by
            rw [Nat.mul_comm 10 (init + 1), Nat.mul_assoc, Nat.mul_comm 10 (Nat.pow 10 _)]

/-- The lengths of the words that are the same in all sources. -/
theorem length_words :
    "(".length = 1 ∧ ")".length = 1 ∧ " ".length = 1 ∧ "if".length = 2 ∧ "define".length = 6 ∧
      "(if ".length = 4 ∧ "(define ".length = 8 := by
  decide

/-- A token is spelled with no more characters than it was read from. -/
theorem Lexes.text_length_le {place : Position} {tail lexeme : List Char} {token : Token}
    (lexes : Lexes place tail lexeme (.ok token)) :
    1 ≤ token.text.length ∧ token.text.length ≤ lexeme.length := by
  cases lexes with
  | leftBracket => simp [Token.text, Lexeme.text, length_words]
  | rightBracket => simp [Token.text, Lexeme.text, length_words]
  | ifKeyword => simp [Token.text, Lexeme.text, length_words]
  | defineKeyword => simp [Token.text, Lexeme.text, length_words]
  | @identifier first body =>
      have length : (String.ofList (first :: body)).length = body.length + 1 := by
        simp [← String.length_toList]
      simp only [Token.text, Lexeme.text, length, List.length_cons]
      omega
  | @integer first body digits ends short fits =>
      have small := ofDigitChars_lt digits 0
      rw [Nat.zero_add, Nat.one_mul] at small
      exact ⟨Nat.length_repr_pos, (Nat.length_repr_le_iff (by simp)).mpr small⟩

/-- Literals can be written. -/
theorem numeralFault?_of_isLiteral {value : Int} (literal : isLiteral value = true) :
    Text.numeralFault? value = none := by
  simp only [isLiteral, Bool.and_eq_true, decide_eq_true_eq] at literal
  have bounded : value ≤ 0x7FFFFFFFFFFFFFFF := literal.2
  exact Text.numeralFault?_of_word (by omega) bounded

theorem Lexes.textFault?_eq_none {place : Position} {tail lexeme : List Char} {token : Token}
    (lexes : Lexes place tail lexeme (.ok token)) : token.lexeme.textFault? = none := by
  cases lexes with
  | integer digits ends short fits =>
      refine numeralFault?_of_isLiteral ?_
      simp only [isLiteral, Bool.and_eq_true, decide_eq_true_eq]
      omega
  | _ => rfl

/-- A token that was read is complained of with its usual spelling. -/
theorem Lexes.notice_unexpectedToken {place : Position} {tail lexeme : List Char} {token : Token}
    (lexes : Lexes place tail lexeme (.ok token)) :
    (ParseError.unexpectedToken token).notice =
      .ok (.unexpectedToken token.text (some token.position)) := by
  rw [ParseError.notice, lexes.textFault?_eq_none]

namespace Expr

mutual

theorem sourceFault?_of_wellFormed {tree : Expr} (legal : tree.wellFormed = true) :
    tree.sourceFault? = none := by
  match tree with
  | integer _ _ => exact numeralFault?_of_isLiteral legal
  | identifier _ _ => rfl
  | conditional _ _ _ _ =>
      simp only [wellFormed, Bool.and_eq_true] at legal
      obtain ⟨⟨first, second⟩, third⟩ := legal
      simp only [sourceFault?, sourceFault?_of_wellFormed first,
        sourceFault?_of_wellFormed second, sourceFault?_of_wellFormed third]
      rfl
  | define _ _ _ _ =>
      simp only [wellFormed, Bool.and_eq_true] at legal
      rw [sourceFault?, sourceFault?_of_wellFormed legal.2]
  | call _ _ _ =>
      simp only [wellFormed, Bool.and_eq_true] at legal
      rw [sourceFault?, anySourceFault?_of_allWellFormed legal.2]

theorem anySourceFault?_of_allWellFormed {trees : List Expr} (legal : allWellFormed trees = true) :
    anySourceFault? trees = none := by
  match trees with
  | [] => rfl
  | _ :: _ =>
      simp only [allWellFormed, Bool.and_eq_true] at legal
      simp only [anySourceFault?, sourceFault?_of_wellFormed legal.1,
        anySourceFault?_of_allWellFormed legal.2]
      rfl

end

/-- An expression that was read is complained of with its source. -/
theorem ReadFrom.notice_unexpectedExpression {tree : Expr} {text : String}
    (read : tree.ReadFrom text) :
    (ParseError.unexpectedExpression tree).notice =
      .ok (.unexpectedExpression tree.source (some tree.position)) := by
  rw [ParseError.notice, checkedSource, sourceFault?_of_wellFormed read.wellFormed]
  rfl

end Expr

/-- The number of characters of some tokens with a blank behind each of them. -/
def spelledLength : List Token → Nat
  | [] => 0
  | token :: tokens => token.text.length + 1 + spelledLength tokens

theorem spelledLength_nil : spelledLength [] = 0 := rfl

theorem spelledLength_cons (lexeme : Lexeme) (position : Position) (tokens : List Token) :
    spelledLength (⟨lexeme, position⟩ :: tokens) =
      lexeme.text.length + 1 + spelledLength tokens := rfl

theorem spelledLength_append (front back : List Token) :
    spelledLength (front ++ back) = spelledLength front + spelledLength back := by
  induction front with
  | nil => exact (Nat.zero_add _).symm
  | cons token front ih =>
      simp only [List.cons_append, spelledLength, ih]
      omega

theorem length_spaced (word : String) (words : List String) :
    (Expr.spaced (word :: words)).length = word.length + (behindSpaces words).length := by
  rw [← String.length_toList, toList_spaced, List.length_append, String.length_toList]

theorem spelledLength_identifiers {token : String × Position → Token}
    (spelled : ∀ parameter, token parameter = ⟨.identifier parameter.1, parameter.2⟩)
    (parameters : List (String × Position)) :
    spelledLength (parameters.map token) = (behindSpaces (parameters.map Prod.fst)).length := by
  induction parameters with
  | nil => rfl
  | cons parameter parameters ih =>
      simp only [List.map_cons, spelled, spelledLength_cons, ih, behindSpaces, List.flatMap_cons,
        List.length_append, List.length_cons, Lexeme.text, String.length_toList]

namespace Grammar

theorem Slot.source_length_lt {tokens : List Token} {name : String}
    {parameters : Option (List String)} (slot : Slot tokens name parameters) :
    (Expr.targetSource name parameters).length < spelledLength tokens := by
  cases slot with
  | identifier position name =>
      simp only [Expr.targetSource, spelledLength_cons, spelledLength_nil, Lexeme.text]
      omega
  | function start middle close name parameters =>
      have words := length_words
      simp only [spelledLength_cons, spelledLength_append, spelledLength_nil, Lexeme.text,
        Expr.targetSource, String.length_append, length_spaced]
      rw [spelledLength_identifiers fun _ => rfl]
      omega

mutual

/-- The source of an expression has at most a blank behind each of the tokens. -/
theorem Expression.source_length_lt {tokens : List Token} {tree : Expr}
    (expression : Expression tokens tree) : tree.source.length < spelledLength tokens := by
  match expression with
  | .integer position value =>
      simp only [Expr.source, spelledLength_cons, spelledLength_nil, Lexeme.text]
      omega
  | .identifier position name =>
      simp only [Expr.source, spelledLength_cons, spelledLength_nil, Lexeme.text]
      omega
  | .bracketed form =>
      have shorter := form.source_length_lt
      rw [spelledLength_cons]
      omega

theorem Bracketed.source_length_lt {position : Position} {tokens : List Token} {tree : Expr}
    (form : Bracketed position tokens tree) : tree.source.length < spelledLength tokens := by
  match form with
  | .conditional test chosen other =>
      have first := test.source_length_lt
      have second := chosen.source_length_lt
      have third := other.source_length_lt
      have words := length_words
      simp only [spelledLength_cons, spelledLength_append, spelledLength_nil, Lexeme.text,
        Expr.source, String.length_append]
      omega
  | .define slot body =>
      have first := slot.source_length_lt
      have second := body.source_length_lt
      have words := length_words
      simp only [spelledLength_cons, spelledLength_append, spelledLength_nil, Lexeme.text,
        Expr.source, String.length_append]
      omega
  | .call each =>
      have shorter := each.sources_length_le
      have words := length_words
      simp only [spelledLength_cons, spelledLength_append, spelledLength_nil, Lexeme.text,
        Expr.source, String.length_append, length_spaced]
      omega

theorem Expressions.sources_length_le {tokens : List Token} {trees : List Expr}
    (each : Expressions tokens trees) :
    (behindSpaces (Expr.sources trees)).length ≤ spelledLength tokens := by
  match each with
  | .nil => exact Nat.le_refl 0
  | .cons first later =>
      have shorter := first.source_length_lt
      have rest := later.sources_length_le
      simp only [Expr.sources, behindSpaces, List.flatMap_cons, List.length_append,
        List.length_cons, String.length_toList, spelledLength_append] at rest ⊢
      omega

end
end Grammar

theorem Cursor.Reads.spelledLength_le {cursor after : Cursor} {tokens : List Token}
    (reads : cursor.Reads tokens after) :
    spelledLength tokens + 2 * after.rest.length ≤ 2 * cursor.rest.length := by
  induction reads with
  | nil => exact Nat.le_of_eq (Nat.zero_add _)
  | @cons cursor middle after token tokens read later ih =>
      obtain ⟨gap, first, body, splits, spelling, position, -, -⟩ := next_eq_token read
      obtain ⟨lexeme, place⟩ := token
      have lexes := lexes_of_spelled (cursor.position.past gap) splits.body splits.tail
      rw [spelling] at lexes
      have length : 1 ≤ lexeme.text.length ∧ lexeme.text.length ≤ (first :: body).length :=
        lexes.text_length_le
      rw [spelledLength_cons, splits.text_eq]
      simp only [List.length_append, List.length_cons] at length ⊢
      omega

theorem Cursor.StandsIn.rest_length_le {cursor : Cursor} {text : String}
    (stands : cursor.StandsIn text) : cursor.rest.length ≤ text.length := by
  obtain ⟨front, rest, text_eq, rfl⟩ := stands
  rw [← String.length_toList, text_eq, List.length_append]
  exact Nat.le_add_left _ _

theorem Expr.ReadFrom.source_length_lt {tree : Expr} {text : String} (read : tree.ReadFrom text) :
    tree.source.length < 2 * text.length := by
  obtain ⟨tokens, cursor, after, stands, reads, expression⟩ := read.exists_tokens
  have shorter := expression.source_length_lt
  have room := reads.spelledLength_le
  have rest := stands.rest_length_le
  omega

end DynLisp
