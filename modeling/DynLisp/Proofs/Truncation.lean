import DynLisp.Proofs.Nesting
import DynLisp.Proofs.Spacing

/-!
# Expressions that are cut off

All tokens of an expression but the last one are taken in while forms are open.  A text that is cut
off behind one of them therefore ends where a part of a form is still expected, and this is what is
complained about, whatever the forms are and however deeply they are nested.
-/

namespace DynLisp

/-- The taking in of tokens can be interrupted anywhere. -/
theorem Expectation.Advances.split {limit : Nat} {expectation last : Expectation}
    {front back : List Token} (advances : expectation.Advances limit (front ++ back) last) :
    ∃ middle : Expectation,
      expectation.Advances limit front middle ∧ middle.Advances limit back last := by
  induction front generalizing expectation with
  | nil => exact ⟨expectation, .nil expectation, advances⟩
  | cons token front ih =>
      cases advances with
      | cons first later =>
          obtain ⟨middle, taken, rest⟩ := ih later
          exact ⟨middle, .cons first taken, rest⟩

namespace Grammar

/-- Where an expression begins it is read, if the limit leaves room for it. -/
theorem Expression.readExpr_of_isRoomy {limit : Nat} {tokens : List Token} {tree : Expr}
    (expression : Expression tokens tree) {cursor after : Cursor}
    (reads : cursor.Reads tokens after) (roomy : Reader.IsRoomy limit ⟨cursor, none⟩) :
    Reader.readExpr limit ⟨cursor, none⟩ = (.ok (some tree), ⟨after, none⟩) := by
  rw [← roomy.readExpr_of_le (Nat.le_max_left limit tokens.length)]
  exact expression.readExpr (Nat.le_max_right limit tokens.length) reads

/-- All tokens of an expression but the last one leave it unfinished. -/
theorem Expression.exists_advances {limit : Nat} {tokens : List Token} {tree : Expr}
    (expression : Expression tokens tree) {cursor after : Cursor}
    (reads : cursor.Reads tokens after) (roomy : Reader.IsRoomy limit ⟨cursor, none⟩) :
    ∃ front token last, tokens = front ++ [token] ∧
      (Expectation.expression []).Advances limit front last := by
  obtain ⟨front, last, place, result, final, advances, reads_front, ends, result_eq⟩ :=
    Reader.readExpr_cases limit cursor
  have whole := expression.readExpr_of_isRoomy reads roomy
  rw [result_eq] at whole
  cases ends with
  | textEnd nothing =>
      exact absurd (congrArg Prod.fst whole) (Reader.atEnd_ne_some last tree)
  | unreadable fails => cases whole
  | refused read step => cases whole
  | @finished _ token _ read step =>
      cases whole
      exact ⟨front, token, last, reads.tokens_unique (reads_front.append (.single read)), advances⟩

end Grammar

namespace Cursor

/-- A text that is cut off behind some tokens is read as these to its end. -/
theorem Reads.cut {text : String} {tokens : List Token} {place : Cursor}
    (reads : (ofText text).Reads tokens place) :
    (ofText (String.ofList (text.toList.take place.index))).Reads tokens
      (ofText (String.ofList (text.toList.take place.index))).finish := by
  obtain ⟨consumed, rest, position, index⟩ := reads.exists_consumed
  have text_eq : text.toList = consumed ++ place.rest := rest
  have length : place.index = consumed.length := by simpa [ofText] using index
  have ends : ∀ token ∈ tokens.getLast?, token.lexeme.EndsBefore [] :=
    fun token _ => token.lexeme.endsBefore_of_apart apart_nil
  have exchanged := reads.exchange rest ends
  rw [text_eq, length, List.take_left]
  simpa [ofText, finish, skip, position, index] using exchanged

end Cursor

/-- Where a text ends behind tokens that leave an expression unfinished, its end is complained
about. -/
theorem Reader.readExpr_of_advances {limit : Nat} {tokens : List Token} {last : Expectation}
    (advances : (Expectation.expression []).Advances limit tokens last) (begun : tokens ≠ [])
    {cursor : Cursor} (reads : cursor.Reads tokens cursor.finish) :
    ∃ expected, readExpr limit ⟨cursor, none⟩ =
      (.error (.unexpectedEnd expected), ⟨cursor.finish, none⟩) := by
  have read : readExpr limit ⟨cursor, none⟩ = (last.atEnd, ⟨cursor.finish, none⟩) := by
    rw [readExpr_eq, readFrom_of_advances advances reads, readFrom_eq, cursor.next_finish]
  have start : Grammar.Expected (.expression []) [] := Grammar.Opened.nil
  rcases atEnd_cases last with nothing | ⟨expected, ended⟩
  · exact absurd ((start.advances advances).atEnd nothing).1 begun
  · exact ⟨expected, by rw [read, ended]⟩

/-- An expression that is cut off is always reported as the end of the text.  If a text is cut off
immediately behind a token of an expression that is not its last one, then reading gives the error
that the text ends too early, and nothing else, and has consumed all of what is left of the text.
The limit is any one within which the whole expression can be read. -/
theorem truncated_unexpectedEnd {limit : Nat} {text : String} {front back : List Token}
    {tree : Expr} (expression : Grammar.Expression (front ++ back) tree) (some_front : front ≠ [])
    (some_back : back ≠ []) {place after : Cursor} (reads : (Cursor.ofText text).Reads front place)
    (later : place.Reads back after) (roomy : Reader.IsRoomy limit (.ofText text)) :
    let cut := String.ofList (text.toList.take place.index)
    ∃ expected, Reader.readExpr limit (.ofText cut) =
      (.error (.unexpectedEnd expected), ⟨(Cursor.ofText cut).finish, none⟩) := by
  intro cut
  obtain ⟨tokens, token, last, tokens_eq, advances⟩ :=
    expression.exists_advances (reads.append later) roomy
  obtain rfl | ⟨middle, other, rfl⟩ := back.eq_nil_or_concat'
  · exact absurd rfl some_back
  -- The last token behind the cut is the last one of the expression.
  rw [← List.append_assoc] at tokens_eq
  obtain ⟨rfl, -⟩ := List.append_inj' tokens_eq rfl
  obtain ⟨reached, taken, -⟩ := advances.split
  exact Reader.readExpr_of_advances taken some_front reads.cut

set_option maxRecDepth 4000 in
/-- A definition that is cut off inside the slot which is judged only when it is complete. -/
theorem truncated_unexpectedEnd_slot :
    ∃ expected, Reader.readExpr 14 (.ofText "(define (f") =
      (.error (.unexpectedEnd expected), ⟨⟨[], ⟨1, 11⟩, 10⟩, none⟩) := by
  have bracket : (Cursor.ofText "(define (f) 1)").next =
      (.ok (some ⟨.leftBracket, ⟨1, 1⟩⟩), ⟨"define (f) 1)".toList, ⟨1, 2⟩, 1⟩) := by rfl
  have keyword : (Cursor.mk "define (f) 1)".toList ⟨1, 2⟩ 1).next =
      (.ok (some ⟨.defineKeyword, ⟨1, 2⟩⟩), ⟨" (f) 1)".toList, ⟨1, 8⟩, 7⟩) := by rfl
  have slot : (Cursor.mk " (f) 1)".toList ⟨1, 8⟩ 7).next =
      (.ok (some ⟨.leftBracket, ⟨1, 9⟩⟩), ⟨"f) 1)".toList, ⟨1, 10⟩, 9⟩) := by rfl
  have name : (Cursor.mk "f) 1)".toList ⟨1, 10⟩ 9).next =
      (.ok (some ⟨.identifier "f", ⟨1, 10⟩⟩), ⟨") 1)".toList, ⟨1, 11⟩, 10⟩) := by rfl
  have slot_end : (Cursor.mk ") 1)".toList ⟨1, 11⟩ 10).next =
      (.ok (some ⟨.rightBracket, ⟨1, 11⟩⟩), ⟨" 1)".toList, ⟨1, 12⟩, 11⟩) := by rfl
  have value : (Cursor.mk " 1)".toList ⟨1, 12⟩ 11).next =
      (.ok (some ⟨.integer 1, ⟨1, 13⟩⟩), ⟨[')'], ⟨1, 14⟩, 13⟩) := by rfl
  have close : (Cursor.mk [')'] ⟨1, 14⟩ 13).next =
      (.ok (some ⟨.rightBracket, ⟨1, 14⟩⟩), ⟨[], ⟨1, 15⟩, 14⟩) := by rfl
  have reads : (Cursor.ofText "(define (f) 1)").Reads _ ⟨") 1)".toList, ⟨1, 11⟩, 10⟩ :=
    .cons bracket (.cons keyword (.cons slot (.single name)))
  obtain ⟨expected, read⟩ := truncated_unexpectedEnd
    (.bracketed (.define (.function ⟨1, 9⟩ ⟨1, 10⟩ ⟨1, 11⟩ "f" []) (.integer ⟨1, 13⟩ 1)))
    (List.cons_ne_nil _ _) (List.cons_ne_nil _ _) reads
    (.cons slot_end (.cons value (.single close))) (Reader.isRoomy_of_length (Nat.le_refl 14))
  have cut : String.ofList ("(define (f) 1)".toList.take 10) = "(define (f" := by decide
  have finish : (Cursor.ofText "(define (f").finish = ⟨[], ⟨1, 11⟩, 10⟩ := by decide
  rw [cut, finish] at read
  exact ⟨expected, read⟩

end DynLisp
