import DynLisp.Position

/-!
# Expressions

An expression is a tree in which every node carries the position of its first token.  Positions
serve diagnostics only: `Expr.alike` compares two trees without them, and `Expr.unplaced` is a tree
with every position set to the start of the text.

```
(define x 5)               a variable definition
(define (f x y) (+ x y))   a function definition
(if c 1 0)                 a conditional
(f 1 2)                    a call
x                          an identifier
5                          an integer
```
-/

namespace DynLisp

/-- An expression with its positions. -/
inductive Expr where
  /-- An integer. -/
  | integer (position : Position) (value : Int)
  /-- A name to be looked up. -/
  | identifier (position : Position) (name : String)
  /-- A choice between two expressions. -/
  | conditional (position : Position) (condition consequence alternative : Expr)
  /-- A definition, of a variable if there is no parameter list and of a function otherwise. -/
  | define (position : Position) (name : String) (parameters : Option (List String)) (value : Expr)
  /-- A call of the function bound to a name. -/
  | call (position : Position) (name : String) (arguments : List Expr)
  /-- A node without an expression in it.  It has no source and cannot be evaluated. -/
  | hole (position : Position)
deriving Inhabited, Repr

namespace Expr

/-- The position of the first token. -/
def position : Expr → Position
  | integer position _ => position
  | identifier position _ => position
  | conditional position _ _ _ => position
  | define position _ _ _ => position
  | call position _ _ => position
  | hole position => position

/-- The name of the kind of node. -/
def kind : Expr → String
  | integer _ _ => "Integer"
  | identifier _ _ => "Identifier"
  | conditional _ _ _ _ => "If"
  | define _ _ _ _ => "Define"
  | call _ _ _ => "FunctionCall"
  | hole _ => "Expression"

mutual

/-- Whether two expressions are the same but for positions.  A hole is like nothing. -/
def alike : Expr → Expr → Bool
  | integer _ left, integer _ right => left == right
  | identifier _ left, identifier _ right => left == right
  | conditional _ condition consequence alternative,
      conditional _ condition' consequence' alternative' =>
      condition.alike condition' && consequence.alike consequence' &&
        alternative.alike alternative'
  | define _ name parameters value, define _ name' parameters' value' =>
      name == name' && parameters == parameters' && value.alike value'
  | call _ name arguments, call _ name' arguments' => name == name' && allAlike arguments arguments'
  | _, _ => false

/-- Whether two lists hold the same expressions but for positions. -/
def allAlike : List Expr → List Expr → Bool
  | [], [] => true
  | left :: lefts, right :: rights => left.alike right && allAlike lefts rights
  | _, _ => false

end

mutual

/-- Whether an expression has no holes. -/
def isWhole : Expr → Bool
  | integer _ _ => true
  | identifier _ _ => true
  | conditional _ condition consequence alternative =>
      condition.isWhole && consequence.isWhole && alternative.isWhole
  | define _ _ _ value => value.isWhole
  | call _ _ arguments => allWhole arguments
  | hole _ => false

/-- Whether expressions have no holes. -/
def allWhole : List Expr → Bool
  | [] => true
  | expression :: rest => expression.isWhole && allWhole rest

end

mutual

/-- An expression with all positions forgotten. -/
def unplaced : Expr → Expr
  | integer _ value => integer .start value
  | identifier _ name => identifier .start name
  | conditional _ condition consequence alternative =>
      conditional .start condition.unplaced consequence.unplaced alternative.unplaced
  | define _ name parameters value => define .start name parameters value.unplaced
  | call _ name arguments => call .start name (allUnplaced arguments)
  | hole _ => hole .start

/-- Expressions with all positions forgotten. -/
def allUnplaced : List Expr → List Expr
  | [] => []
  | expression :: rest => expression.unplaced :: allUnplaced rest

end

mutual

theorem unplaced_eq_of_alike {left right : Expr} (alike : left.alike right = true) :
    left.unplaced = right.unplaced := by
  match left, right with
  | integer _ _, integer _ _ =>
      simp only [Expr.alike, beq_iff_eq] at alike
      simp only [unplaced, alike]
  | identifier _ _, identifier _ _ =>
      simp only [Expr.alike, beq_iff_eq] at alike
      simp only [unplaced, alike]
  | conditional _ _ _ _, conditional _ _ _ _ =>
      simp only [Expr.alike, Bool.and_eq_true] at alike
      obtain ⟨⟨first, second⟩, third⟩ := alike
      simp only [unplaced, unplaced_eq_of_alike first, unplaced_eq_of_alike second,
        unplaced_eq_of_alike third]
  | define _ _ _ _, define _ _ _ _ =>
      simp only [Expr.alike, Bool.and_eq_true, beq_iff_eq] at alike
      obtain ⟨⟨rfl, rfl⟩, value⟩ := alike
      simp only [unplaced, unplaced_eq_of_alike value]
  | call _ _ _, call _ _ _ =>
      simp only [Expr.alike, Bool.and_eq_true, beq_iff_eq] at alike
      obtain ⟨rfl, arguments⟩ := alike
      simp only [unplaced, allUnplaced_eq_of_allAlike arguments]

theorem allUnplaced_eq_of_allAlike {left right : List Expr} (alike : allAlike left right = true) :
    allUnplaced left = allUnplaced right := by
  match left, right with
  | [], [] => rfl
  | expression :: left, expression' :: right =>
      simp only [allAlike, Bool.and_eq_true] at alike
      simp only [allUnplaced, unplaced_eq_of_alike alike.1, allUnplaced_eq_of_allAlike alike.2]

end

end Expr
end DynLisp
