import DynLisp.Notice

/-!
# The wording of errors

The notices of all errors of the language.  Each says what is wrong and where; a place that is not
known is called so.
-/

namespace DynLisp
namespace Notice

/-- A place as a notice names it. -/
def placeText : Option Position → String
  | none => "None"
  | some position => position.text

/-- No token begins with a text. -/
def unexpectedCharacter (character : String) (position : Option Position) : Notice :=
  (ofMessage
    [.plain "unexpected character at ", .marked (placeText position), .plain ": '",
      .marked character, .plain "'"]).placed position

/-- The text ends inside a token. -/
def unexpectedEndOfToken (expected : String) : Notice :=
  ofMessage [.plain "unexpected end of file, expected ", .marked expected]

/-- No escape is spelled with a text. -/
def unknownEscape (character : String) (position : Option Position) : Notice :=
  (ofMessage
    [.plain "invalid escape character at ", .marked (placeText position), .plain ": '",
      .marked character, .plain "'"]).placed position

/-- Another failure stopped the reading of a text. -/
def stopped (failure : String) (position : Option Position) (span : Int) : Notice :=
  (ofMessage
    [.plain "error at ", .marked (placeText position), .plain ": ", .marked failure]).spanning
      position span

/-- A token stands where it cannot. -/
def unexpectedToken (token : String) (position : Option Position) : Notice :=
  (ofMessage
    [.plain "unexpected token at ", .marked (placeText position), .plain ": ",
      .marked token]).spanning position token.length

/-- An expression stands where only a name can. -/
def unexpectedExpression (source : String) (position : Option Position) : Notice :=
  (ofMessage
    [.plain "unexpected expression at ", .marked (placeText position), .plain ": ",
      .marked source]).spanning position source.length

/-- The text ends where something is still expected. -/
def unexpectedEnd (expected : String) : Notice :=
  ofMessage [.plain "found end of file, but expected ", .marked expected]

/-- A notice passed on from the reading of tokens, which keeps its own marks and its place. -/
def passedOn (notice : Notice) : Notice :=
  { (ofMessage [.marked notice.text]).spanning notice.position notice.span with
    display := notice.display }

/-- A name is not bound. -/
def unknownVariable (name : String) (position : Option Position) (span : Int) : Notice :=
  (ofMessage
    [.plain "unknown variable ", .marked name, .plain " at ",
      .marked (placeText position)]).spanning position span

/-- A value of one type stands where another one is needed. -/
def typeMismatch (expected found : String) (position : Option Position) : Notice :=
  (ofMessage
    [.plain "type error: expected ", .marked expected, .plain " at ", .marked (placeText position),
      .plain ", found ", .marked found]).placed position

/-- A function defined by a program is called with the wrong number of arguments. -/
def arity (expected got : String) (position : Option Position) : Notice :=
  (ofMessage
    [.plain "function at ", .marked (placeText position), .plain " takes ", .marked expected,
      .plain " arguments, but got ", .marked got]).placed position

/-- A builtin function is called with the wrong number of arguments. -/
def builtinArity (name expected got : String) : Notice :=
  ofMessage
    [.plain "built-in function ", .marked name, .plain " takes ", .marked expected,
      .plain " arguments, but got ", .marked got]

/-- A builtin function is called with an argument of the wrong type. -/
def builtinType (name expected found : String) : Notice :=
  ofMessage
    [.plain "built-in function ", .marked name, .plain " expected argument of type ",
      .marked expected, .plain ", but got ", .marked found]

end Notice
end DynLisp
