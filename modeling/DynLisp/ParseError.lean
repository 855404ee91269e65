import DynLisp.Cursor
import DynLisp.Expr.Printer

/-!
# Errors of the parser

What can be wrong with a text that is read as expressions, and what is said about it.
-/

namespace DynLisp

/-- Why no expression could be read. -/
inductive ParseError where
  /-- A token stands where it cannot. -/
  | unexpectedToken (token : Token)
  /-- An expression stands where only a name can. -/
  | unexpectedExpression (expression : Expr)
  /-- The text ends where something is still expected. -/
  | unexpectedEnd (expected : String)
  /-- No token could be read. -/
  | lexical (error : LexError)
  /-- Brackets are nested too deeply at a position. -/
  | tooDeep (position : Position)
  /-- The stack is used up outside of any form that could report it. -/
  | stackExhausted
deriving Repr

namespace ParseError

/-- What a parse error has to say.  An error of the lexer keeps its own marks. -/
def notice : ParseError → Except Cause Notice
  | unexpectedToken token =>
      match token.lexeme.textFault? with
      | some cause => .error cause
      | none => .ok (.unexpectedToken token.text (some token.position))
  | unexpectedExpression expression =>
      expression.checkedSource.map fun source =>
        .unexpectedExpression source (some expression.position)
  | unexpectedEnd expected => .ok (.unexpectedEnd expected)
  | lexical error => error.notice.map Notice.passedOn
  | tooDeep position => .ok (.stopped Cause.stackExhausted.text (some position) 1)
  | stackExhausted => .ok (Notice.ofMessage [.plain Cause.stackExhausted.text]).withoutSource

end ParseError
end DynLisp
