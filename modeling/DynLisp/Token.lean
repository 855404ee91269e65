import DynLisp.Position

/-!
# Tokens

A token is a bracket, one of the two keywords, an identifier or an integer literal, together with
the position of its first character.
-/

namespace DynLisp

/-- What a token is. -/
inductive Lexeme where
  | identifier (name : String)
  | integer (value : Int)
  | leftBracket
  | rightBracket
  | ifKeyword
  | defineKeyword
deriving DecidableEq, Repr

namespace Lexeme

/-- The keyword or the identifier that a name is. -/
def ofName (name : String) : Lexeme :=
  if name = "if" then ifKeyword
  else if name = "define" then defineKeyword
  else identifier name

/-- The usual spelling of a lexeme. -/
def text : Lexeme → String
  | identifier name => name
  | integer value => value.repr
  | leftBracket => "("
  | rightBracket => ")"
  | ifKeyword => "if"
  | defineKeyword => "define"

/-- What is wrong with spelling a lexeme, if anything is. -/
def textFault? : Lexeme → Option Cause
  | integer value => Text.numeralFault? value
  | _ => none

end Lexeme

/-- A lexeme at its place in a source text. -/
structure Token where
  /-- What the token is. -/
  lexeme : Lexeme
  /-- Position of its first character. -/
  position : Position
deriving DecidableEq, Repr

namespace Token

/-- The usual spelling of a token. -/
def text (token : Token) : String := token.lexeme.text

end Token
end DynLisp
