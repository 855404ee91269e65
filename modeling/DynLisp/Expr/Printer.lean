import DynLisp.Expr
import DynLisp.Platform
import DynLisp.Text.Copies
import DynLisp.Text.Quoted

/-!
# Two ways to write an expression

`Expr.source` writes an expression as source text on one line.  `Expr.outline` writes one line for
every node, children below their parent and indented by four more columns, with all names quoted
and all positions given.  An expression with a hole in it, or with an integer of too many digits,
cannot be written in either way, and an outline cannot be indented without bound, which
`Expr.checkedSource` and `Expr.checkedOutline` say.
-/

namespace DynLisp
namespace Expr

/-- Joins words with single spaces. -/
def spaced (words : List String) : String :=
  String.intercalate " " words

/-- The first slot of a definition: a name, or a bracketed name with its parameters. -/
def targetSource (name : String) : Option (List String) → String
  | none => name
  | some parameters => "(" ++ spaced (name :: parameters) ++ ")"

mutual

/-- An expression as source text. -/
def source : Expr → String
  | integer _ value => value.repr
  | identifier _ name => name
  | conditional _ condition consequence alternative =>
      "(if " ++ condition.source ++ " " ++ consequence.source ++ " " ++ alternative.source ++ ")"
  | define _ name parameters value =>
      "(define " ++ targetSource name parameters ++ " " ++ value.source ++ ")"
  | call _ name arguments => "(" ++ spaced (name :: sources arguments) ++ ")"
  | hole _ => ""

/-- Expressions as source texts. -/
def sources : List Expr → List String
  | [] => []
  | expression :: rest => expression.source :: sources rest

end

/-- A list of quoted names in brackets; a single name is followed by a comma. -/
def quotedNames : List String → String
  | [] => "()"
  | [name] => "(" ++ Text.quoted name ++ ",)"
  | names => "(" ++ String.intercalate ", " (names.map Text.quoted) ++ ")"

/-- What the outline says about a parameter list. -/
def parametersOutline : Option (List String) → String
  | none => "None"
  | some parameters => quotedNames parameters

/-- What the outline says about a node itself, between brackets. -/
def attributes : Expr → String
  | integer _ value => "value=" ++ value.repr
  | identifier _ name => "name=" ++ Text.quoted name
  | conditional _ _ _ _ => ""
  | define _ name parameters _ =>
      "name=" ++ Text.quoted name ++ ", parameters=" ++ parametersOutline parameters
  | call _ name _ => "name=" ++ Text.quoted name
  | hole _ => ""

/-- The line of the outline that belongs to a node. -/
def outlineLine (depth : Int) (expression : Expr) : String :=
  String.ofList (List.replicate (4 * depth).toNat ' ') ++ expression.kind ++ "(" ++
    expression.attributes ++ ") at " ++ expression.position.text

mutual

/-- The lines of an outline, of which the first is indented for the given depth. -/
def outlineLines (depth : Int) : Expr → List String
  | integer position value => [outlineLine depth (integer position value)]
  | identifier position name => [outlineLine depth (identifier position name)]
  | conditional position condition consequence alternative =>
      outlineLine depth (conditional position condition consequence alternative) ::
        (condition.outlineLines (depth + 1) ++ consequence.outlineLines (depth + 1) ++
          alternative.outlineLines (depth + 1))
  | define position name parameters value =>
      outlineLine depth (define position name parameters value) :: value.outlineLines (depth + 1)
  | call position name arguments =>
      outlineLine depth (call position name arguments) :: allOutlineLines (depth + 1) arguments
  | hole position => [outlineLine depth (hole position)]

/-- The lines of the outlines of several expressions one below the other. -/
def allOutlineLines (depth : Int) : List Expr → List String
  | [] => []
  | expression :: rest => expression.outlineLines depth ++ allOutlineLines depth rest

end

mutual

/-- What is wrong with the source of an expression, from left to right, if anything is. -/
def sourceFault? : Expr → Option Cause
  | integer _ value => Text.numeralFault? value
  | identifier _ _ => none
  | conditional _ condition consequence alternative =>
      condition.sourceFault? <|> consequence.sourceFault? <|> alternative.sourceFault?
  | define _ _ _ value => value.sourceFault?
  | call _ _ arguments => anySourceFault? arguments
  | hole _ => some (.missingPart "Expression" "name")

/-- What is wrong with the sources of several expressions, if anything is. -/
def anySourceFault? : List Expr → Option Cause
  | [] => none
  | expression :: rest => expression.sourceFault? <|> anySourceFault? rest

end

/-- The source text of an expression, if nothing is wrong with it. -/
def checkedSource (expression : Expr) : Except Cause String :=
  match expression.sourceFault? with
  | some cause => .error cause
  | none => .ok expression.source

/-- What is wrong with what the outline says about a node itself, if anything is. -/
def attributesFault? : Expr → Option Cause
  | integer _ value => Text.numeralFault? value
  | hole _ => some (.badType "must be called with a dataclass type or instance")
  | _ => none

/-- What is wrong with the line of a node at the given depth, if anything is: what is said about the
node, the indentation, for which there has to be room, or the position. -/
def lineFault? (room : Nat) (depth : Int) (expression : Expr) : Option Cause :=
  expression.attributesFault? <|> Text.copiesFault? room 4 depth <|> expression.position.textFault?

mutual

/-- What is wrong with the lines of an outline, from top to bottom, if anything is. -/
def outlineFault? (room : Nat) (depth : Int) : Expr → Option Cause
  | integer position value => lineFault? room depth (integer position value)
  | identifier position name => lineFault? room depth (identifier position name)
  | conditional position condition consequence alternative =>
      lineFault? room depth (conditional position condition consequence alternative) <|>
        condition.outlineFault? room (depth + 1) <|> consequence.outlineFault? room (depth + 1) <|>
          alternative.outlineFault? room (depth + 1)
  | define position name parameters value =>
      lineFault? room depth (define position name parameters value) <|>
        value.outlineFault? room (depth + 1)
  | call position name arguments =>
      lineFault? room depth (call position name arguments) <|>
        anyOutlineFault? room (depth + 1) arguments
  | hole position => lineFault? room depth (hole position)

/-- What is wrong with the outlines of several expressions, if anything is. -/
def anyOutlineFault? (room : Nat) (depth : Int) : List Expr → Option Cause
  | [] => none
  | expression :: rest =>
      expression.outlineFault? room depth <|> anyOutlineFault? room depth rest

end

end Expr
end DynLisp
