import DynLisp.Proofs.Lines
import DynLisp.Proofs.Resumption
import DynLisp.Proofs.Sources

/-!
# Nodes and their places

Every node of an expression carries the position of its first token.  In the order in which the
nodes are listed, a node in front of those below it, these tokens come one after the other among all
tokens of the text (`Grammar.Expression.nodes_sublist`), and the errors between the expressions
leave out some of them and move none.  So each node points at its own source, and the positions of
all nodes that a text gives are in order, which is `Reader.nodes_placed`.
-/

namespace DynLisp

namespace Expr

mutual

/-- The nodes of an expression, each in front of those below it. -/
def nodes : Expr → List Expr
  | conditional position condition consequence alternative =>
      conditional position condition consequence alternative ::
        (condition.nodes ++ (consequence.nodes ++ alternative.nodes))
  | define position name parameters value => define position name parameters value :: value.nodes
  | call position name arguments => call position name arguments :: allNodes arguments
  | tree => [tree]

/-- The nodes of expressions, one expression after the other. -/
def allNodes : List Expr → List Expr
  | [] => []
  | tree :: trees => tree.nodes ++ allNodes trees

end

end Expr

namespace Grammar

mutual

/-- The nodes of an expression begin with some of its tokens, in their order. -/
theorem Expression.nodes_sublist {tokens : List Token} {tree : Expr}
    (expression : Expression tokens tree) :
    (tree.nodes.map Expr.opening?).Sublist (tokens.map some) := by
  match expression with
  | .integer position value => exact .refl _
  | .identifier position name => exact .refl _
  | .bracketed form => exact form.nodes_sublist

theorem Bracketed.nodes_sublist {position : Position} {tokens : List Token} {tree : Expr}
    (form : Bracketed position tokens tree) :
    (tree.nodes.map Expr.opening?).Sublist
      (some ⟨.leftBracket, position⟩ :: tokens.map some) := by
  match form with
  | .conditional test chosen other =>
      simp only [Expr.nodes, List.map_cons, List.map_append]
      refine .cons_cons _ (.cons _ (test.nodes_sublist.append (chosen.nodes_sublist.append ?_)))
      exact other.nodes_sublist.trans (List.sublist_append_left _ _)
  | .define slot body =>
      simp only [Expr.nodes, List.map_cons, List.map_append]
      refine .cons_cons _ (.cons _ (.trans ?_ (List.sublist_append_right _ _)))
      exact body.nodes_sublist.trans (List.sublist_append_left _ _)
  | .call each =>
      simp only [Expr.nodes, List.map_cons, List.map_append]
      refine .cons_cons _ (.cons _ ?_)
      exact each.nodes_sublist.trans (List.sublist_append_left _ _)

theorem Expressions.nodes_sublist {tokens : List Token} {trees : List Expr}
    (each : Expressions tokens trees) :
    ((Expr.allNodes trees).map Expr.opening?).Sublist (tokens.map some) := by
  match each with
  | .nil => exact .refl _
  | .cons first later =>
      simp only [Expr.allNodes, List.map_append]
      exact first.nodes_sublist.append later.nodes_sublist

end

end Grammar

namespace Cursor

theorem Reads.tokensFound_eq {cursor after : Cursor} {tokens : List Token}
    (reads : cursor.Reads tokens after) : cursor.tokensFound = tokens ++ after.tokensFound := by
  induction reads with
  | nil cursor => rfl
  | @cons cursor middle after token tokens read later ih =>
      have first : cursor.next = ((Except.ok token).map some, middle) := read
      rw [List.cons_append, ← ih, tokensFound, tokens_of_token first]
      rfl

theorem Consumes.tokensFound_sublist {cursor after : Cursor}
    {lexemes : List (Except LexError Token × Cursor)} (consumes : cursor.Consumes lexemes after) :
    after.tokensFound.Sublist cursor.tokensFound := by
  rw [tokensFound, tokensFound, consumes.tokens_eq, List.filterMap_append]
  exact List.sublist_append_right _ _

end Cursor

/-- The tokens of a text are placed one behind the other. -/
theorem Divided.pairwise_before {front rest : List Char}
    {reads : List (Except LexError Token × Cursor)} (divided : Divided front rest reads)
    (apart : DigitsApart front rest) :
    (reads.filterMap fun read => read.1.toOption).Pairwise fun left right =>
      left.position.Before right.position := by
  induction divided with
  | last => exact .nil
  | @call front gap word tail result reads closed solid lexes call later ih =>
      have apart_tail := lexes.digitsApart front gap
      cases result with
      | error error => exact ih apart_tail
      | ok token =>
          refine .cons (fun other member => ?_) (ih apart_tail)
          obtain ⟨⟨given, after⟩, read, found⟩ := List.mem_filterMap.mp member
          obtain ⟨skipped, word', tail', -, lexes', -⟩ := later.exists_word apart_tail read
          cases given with
          | error error => cases found
          | ok given =>
              cases found
              have between : word ++ skipped ≠ [] := by simp [lexes.ne_nil]
              rw [lexes.position_eq, lexes'.position_eq]
              simpa using Position.behind_before (front ++ gap) between

namespace Reader

/-- The expressions that a number of calls give, one call after the other, whatever errors there are
between them. -/
def returned (limit : Nat) (reader : Reader) : Nat → List Expr
  | 0 => []
  | calls + 1 =>
      match reader.readExpr limit with
      | (.ok (some tree), after) => tree :: returned limit after calls
      | (_, after) => returned limit after calls

/-- All nodes that are given begin with some of the tokens of the text, in their order. -/
theorem returned_nodes_sublist (limit : Nat) (cursor : Cursor) (calls : Nat) :
    ((Expr.allNodes (returned limit ⟨cursor, none⟩ calls)).map Expr.opening?).Sublist
      (cursor.tokensFound.map some) := by
  induction calls generalizing cursor with
  | zero => exact List.nil_sublist _
  | succ calls ih =>
      obtain ⟨lexemes, result, after, read, consumes, -⟩ := readExpr_consumes limit cursor
      have skipped := (ih after).trans (consumes.tokensFound_sublist.map some)
      rw [returned, read]
      cases result with
      | error error => exact skipped
      | ok given =>
          cases given with
          | none => exact skipped
          | some tree =>
              obtain ⟨tokens, place, reads, expression, place_eq⟩ := Grammar.reads_of_readExpr read
              cases place_eq
              rw [reads.tokensFound_eq, Expr.allNodes, List.map_append, List.map_append]
              exact expression.nodes_sublist.append (ih after)

end Reader

/-- What an expression begins with, which stands between a front and a tail: all digits of a number,
a whole name, or the bracket of a form. -/
inductive Expr.BeginsWith (front tail : List Char) : Expr → List Char → Prop
  /-- A whole run of digits with the value of an integer. -/
  | integer {position : Position} {word : List Char} (something : word ≠ [])
      (digits : ∀ character ∈ word, Text.isDigit character = true)
      (left : ∀ character ∈ front.getLast?, Text.isDigit character = false)
      (right : ∀ character ∈ tail.head?, Text.isDigit character = false) :
      BeginsWith front tail (.integer position (Nat.ofDigitChars 10 word 0)) word
  /-- A name behind which no other character of a name stands. -/
  | identifier {position : Position} {name : String}
      (right : ∀ character ∈ tail.head?, isIdentifierPart character = false) :
      BeginsWith front tail (.identifier position name) name.toList
  /-- The bracket of a conditional. -/
  | conditional {position : Position} {condition consequence alternative : Expr} :
      BeginsWith front tail (.conditional position condition consequence alternative) ['(']
  /-- The bracket of a definition. -/
  | define {position : Position} {name : String} {parameters : Option (List String)}
      {value : Expr} : BeginsWith front tail (.define position name parameters value) ['(']
  /-- The bracket of a call. -/
  | call {position : Position} {name : String} {arguments : List Expr} :
      BeginsWith front tail (.call position name arguments) ['(']

/-- Whether an expression points at its own source: its position is where one of the words stands
that a text is read by, which is the token that the expression begins with. -/
def Expr.PointsInto (node : Expr) (text : String) : Prop :=
  ∃ front word tail token after, Cursor.ReadAt text front word tail (.ok token) after ∧
    node.opening? = some token ∧ Text.standingAt text.toList node.position = word ++ tail ∧
    node.BeginsWith front tail word

theorem Lexes.beginsWith {front tail word : List Char} {token : Token}
    (lexes : Lexes (.behind front) tail word (.ok token)) (apart : DigitsApart front (word ++ tail))
    {node : Expr} (opening : node.opening? = some token) : node.BeginsWith front tail word := by
  cases lexes with
  | leftBracket =>
      cases node with
      | conditional => exact .conditional
      | define => exact .define
      | call => exact .call
      | _ => cases opening
  | rightBracket => cases node <;> cases opening
  | ifKeyword ends => cases node <;> cases opening
  | defineKeyword ends => cases node <;> cases opening
  | @identifier first body start parts ends no_if no_define =>
      cases node with
      | identifier position name =>
          cases opening
          have whole : Expr.BeginsWith front tail
              (.identifier (.behind front) (.ofList (first :: body)))
              (String.ofList (first :: body)).toList := .identifier ends
          rwa [String.toList_ofList] at whole
      | _ => cases opening
  | @integer first body digits ends short fits =>
      cases node with
      | integer position value =>
          cases opening
          refine .integer (List.cons_ne_nil _ _) digits (fun left last => ?_) ends
          rw [Bool.eq_false_iff]
          intro digit
          have no_digit := apart left last first rfl digit
          rw [digits first List.mem_cons_self] at no_digit
          cases no_digit
      | _ => cases opening

/-- An expression whose first token is read in a text points there. -/
theorem Expr.pointsInto_of_mem {node : Expr} {token : Token} (opening : node.opening? = some token)
    {text : String} (found : token ∈ (Cursor.ofText text).tokensFound) : node.PointsInto text := by
  obtain ⟨⟨given, after⟩, member, given_eq⟩ := List.mem_filterMap.mp found
  cases given with
  | error error => cases given_eq
  | ok given =>
      cases given_eq
      obtain ⟨front, word, tail, read⟩ := Cursor.exists_readAt member
      refine ⟨front, word, tail, token, after, read, opening, ?_,
        read.lexes.beginsWith read.apart opening⟩
      rw [← Expr.position_of_opening opening, read.lexes.position_eq, read.text_eq,
        Text.standingAt_behind]

/-- Every node points at its own source, in every expression that one call after the other gives for
a text, and the positions of all these nodes are in order: each comes before those of the nodes
below it and of all nodes behind it. -/
theorem Reader.nodes_placed (limit : Nat) (text : String) (calls : Nat) :
    let nodes := Expr.allNodes ((Reader.ofText text).returned limit calls)
    (∀ node ∈ nodes, node.PointsInto text) ∧
      nodes.Pairwise fun left right => left.position.Before right.position := by
  intro nodes
  have among : (nodes.map Expr.opening?).Sublist ((Cursor.ofText text).tokensFound.map some) :=
    returned_nodes_sublist limit (.ofText text) calls
  have opened (node : Expr) (member : node ∈ nodes) :
      ∃ token ∈ (Cursor.ofText text).tokensFound, node.opening? = some token := by
    obtain ⟨token, found, same⟩ := List.mem_map.mp (among.subset (List.mem_map_of_mem member))
    exact ⟨token, found, same.symm⟩
  refine ⟨fun node member => ?_, ?_⟩
  · obtain ⟨token, found, opening⟩ := opened node member
    exact Expr.pointsInto_of_mem opening found
  · have placed := (Cursor.tokens_behind_divided [] text.toList).pairwise_before
      (by simp [DigitsApart])
    have ordered : (nodes.map Expr.opening?).Pairwise fun left right =>
        ∀ first ∈ left, ∀ second ∈ right, first.position.Before second.position := by
      refine List.Pairwise.sublist among (List.pairwise_map.mpr (placed.imp ?_))
      rintro left right before first ⟨⟩ second ⟨⟩
      exact before
    refine (List.pairwise_map.mp ordered).imp_of_mem ?_
    intro left right left_member right_member before
    obtain ⟨first, -, left_opening⟩ := opened left left_member
    obtain ⟨second, -, right_opening⟩ := opened right right_member
    rw [← Expr.position_of_opening left_opening, ← Expr.position_of_opening right_opening]
    exact before first left_opening second right_opening

example : (Expr.allNodes ((Reader.ofText "(f [ (if x\n  007 y)").returned 9 2)).map Expr.position =
    [⟨1, 6⟩, ⟨1, 10⟩, ⟨2, 3⟩, ⟨2, 7⟩] := by
  decide +kernel

end DynLisp
