import DynLisp.Proofs.Grammar
import DynLisp.Proofs.WellFormed

/-!
# Reading what was written

The source text of a well-formed expression is read back as the same expression, wherever it stands
and whatever follows it, as long as this does not continue its last token.  Together with the
well-formedness of everything that is read, `source_readBack` says that reading undoes writing on
the well-formed expressions and on no other ones.
-/

namespace DynLisp

/-- Whether a text ends every token that stands in front of it. -/
def Apart (tail : List Char) : Prop := ∀ character ∈ tail.head?, isIdentifierPart character = false

theorem apart_nil : Apart [] := by simp [Apart]

theorem apart_blank {character : Char} (blank : Text.isBlank character = true) (tail : List Char) :
    Apart (character :: tail) := by
  simpa [Apart] using isIdentifierPart_eq_false_of_isBlank blank

theorem apart_rightBracket (tail : List Char) : Apart (')' :: tail) := by
  have mark : isIdentifierPart ')' = false := by decide +kernel
  simpa [Apart] using mark

theorem Apart.ends {tail : List Char} (apart : Apart tail) (first : Char) :
    ∀ character ∈ tail.head?, continuesToken first character = false :=
  fun character head => continuesToken_eq_false first (apart character head)

theorem gap_space : Gap [' '] := .blank (by decide) .nil

namespace Cursor

theorem exists_token {cursor : Cursor} {gap body tail : List Char} {first : Char} {lexeme : Lexeme}
    (splits : Splits cursor.rest gap first body tail)
    (spelling : ∀ position, spelled first body position = .ok lexeme) :
    ∃ position after, cursor.next = (.ok (some ⟨lexeme, position⟩), after) ∧ after.rest = tail := by
  refine ⟨cursor.position.past gap,
    ⟨tail, cursor.position.past (gap ++ first :: body),
      cursor.index + (gap ++ first :: body).length⟩, ?_, rfl⟩
  rw [next_of_splits splits, splits_skip splits, spelling]
  rfl

theorem exists_leftBracket {cursor : Cursor} {gap tail : List Char} (closed : Gap gap)
    (rest : cursor.rest = gap ++ '(' :: tail) :
    ∃ position after,
      cursor.next = (.ok (some ⟨.leftBracket, position⟩), after) ∧ after.rest = tail := by
  have splits : Splits cursor.rest gap '(' [] tail :=
    { text_eq := rest
      gap := closed
      solid := ⟨by decide, by decide⟩
      body := by simp
      tail := fun character _ => continuesToken_of_single (Or.inl rfl) character }
  exact exists_token splits fun _ => rfl

theorem exists_rightBracket {cursor : Cursor} {gap tail : List Char} (closed : Gap gap)
    (rest : cursor.rest = gap ++ ')' :: tail) :
    ∃ position after,
      cursor.next = (.ok (some ⟨.rightBracket, position⟩), after) ∧ after.rest = tail := by
  have splits : Splits cursor.rest gap ')' [] tail :=
    { text_eq := rest
      gap := closed
      solid := ⟨by decide, by decide⟩
      body := by simp
      tail := fun character _ => continuesToken_of_single (Or.inr (Or.inl rfl)) character }
  exact exists_token splits fun _ => rfl

/-- A run of characters that begins as identifiers do is read as a whole. -/
theorem exists_word {cursor : Cursor} {gap body tail : List Char} {first : Char} (closed : Gap gap)
    (start : isIdentifierStart first = true) (inside : body.all isIdentifierPart = true)
    (apart : Apart tail)
    (rest : cursor.rest = gap ++ (first :: body ++ tail)) :
    ∃ position after,
      cursor.next = (.ok (some ⟨.ofName (String.ofList (first :: body)), position⟩), after) ∧
        after.rest = tail := by
  obtain ⟨solid, continues, spelling⟩ := spells_word start (List.all_eq_true.mp inside)
  have splits : Splits cursor.rest gap first body tail :=
    { text_eq := rest
      gap := closed
      solid := solid
      body := continues
      tail := apart.ends first }
  exact exists_token splits spelling

theorem exists_name {cursor : Cursor} {gap tail : List Char} {name : String} (closed : Gap gap)
    (legal : isName name = true) (apart : Apart tail)
    (rest : cursor.rest = gap ++ (name.toList ++ tail)) :
    ∃ position after,
      cursor.next = (.ok (some ⟨.identifier name, position⟩), after) ∧ after.rest = tail := by
  unfold isName at legal
  split at legal
  next => cases legal
  next first body characters =>
    simp only [Bool.and_eq_true, bne_iff_ne] at legal
    obtain ⟨⟨⟨start, inside⟩, no_if⟩, no_define⟩ := legal
    rw [characters] at rest
    have found := exists_word closed start inside apart rest
    rwa [← characters, String.ofList_toList, Lexeme.ofName, if_neg no_if, if_neg no_define] at found

theorem exists_integer {cursor : Cursor} {gap tail : List Char} {value : Int} (closed : Gap gap)
    (legal : isLiteral value = true) (apart : Apart tail)
    (rest : cursor.rest = gap ++ (value.repr.toList ++ tail)) :
    ∃ position after,
      cursor.next = (.ok (some ⟨.integer value, position⟩), after) ∧ after.rest = tail := by
  simp only [isLiteral, Bool.and_eq_true, decide_eq_true_eq] at legal
  obtain ⟨number, rfl⟩ := Int.eq_ofNat_of_zero_le legal.1
  have bounded : number ≤ greatestLiteral := by omega
  change cursor.rest = gap ++ (number.repr.toList ++ tail) at rest
  rw [Nat.toList_repr] at rest
  have all_digits : ∀ digit ∈ Nat.toDigits 10 number, Text.isDigit digit = true :=
    fun _ => isDigit_of_mem_toDigits
  have short : (Nat.toDigits 10 number).length ≤ digitLimit := by
    rw [Nat.length_toDigits_le_iff (by decide) (by decide)]
    have room : greatestLiteral < 10 ^ 19 := by decide
    have grows : 10 ^ 19 ≤ 10 ^ digitLimit := Nat.pow_le_pow_right (by decide) (by decide)
    omega
  have value_eq := @Nat.ofDigitChars_toDigits 10 number (by decide) (by decide)
  have some_digits := @Nat.toDigits_ne_nil number 10
  obtain ⟨first, body, digits⟩ := List.exists_cons_of_ne_nil some_digits
  rw [digits] at rest all_digits short value_eq some_digits
  obtain ⟨solid, continues, spelling⟩ := spells_digits all_digits
  have splits : Splits cursor.rest gap first body tail :=
    { text_eq := rest
      gap := closed
      solid := solid
      body := continues
      tail := apart.ends first }
  refine exists_token splits fun position => ?_
  rw [spelling, (readLiteral_cases some_digits position).2.1 short (by rwa [value_eq]), value_eq]

end Cursor

/-- Words with a space in front of each of them. -/
def behindSpaces (words : List String) : List Char := words.flatMap fun word => ' ' :: word.toList

theorem toList_spaced (word : String) (words : List String) :
    (Expr.spaced (word :: words)).toList = word.toList ++ behindSpaces words := by
  induction words generalizing word with
  | nil => simp [Expr.spaced, behindSpaces]
  | cons next words ih =>
      have later := ih next
      simp only [Expr.spaced, String.toList_intercalate, List.map_cons, List.intercalate] at later ⊢
      rw [List.intersperse_cons_cons, List.flatten_cons, List.flatten_cons, later]
      simp [behindSpaces]

theorem Apart.behindSpaces {tail : List Char} (apart : Apart tail) (words : List String) :
    Apart (behindSpaces words ++ tail) := by
  cases words with
  | nil => exact apart
  | cons word words => exact apart_blank (by decide) _

namespace Grammar

theorem exists_names {names : List String} (legal : names.all isName = true) {tail : List Char}
    (apart : Apart tail) {cursor : Cursor} (rest : cursor.rest = behindSpaces names ++ tail) :
    ∃ (parameters : List (String × Position)) (after : Cursor),
      cursor.Reads (parameters.map fun (name, position) => ⟨.identifier name, position⟩) after ∧
        parameters.map Prod.fst = names ∧ after.rest = tail := by
  induction names generalizing cursor with
  | nil => exact ⟨[], cursor, .nil cursor, rfl, rest⟩
  | cons name names ih =>
      simp only [List.all_cons, Bool.and_eq_true] at legal
      have spelled_out : cursor.rest = [' '] ++ (name.toList ++ (behindSpaces names ++ tail)) := by
        rw [rest]
        simp [behindSpaces]
      obtain ⟨position, middle, read, middle_rest⟩ :=
        Cursor.exists_name gap_space legal.1 (apart.behindSpaces names) spelled_out
      obtain ⟨parameters, after, reads, names_eq, after_rest⟩ := ih legal.2 middle_rest
      exact ⟨(name, position) :: parameters, after, .cons read reads, by simp [names_eq],
        after_rest⟩

theorem exists_slot {name : String} {parameters : Option (List String)}
    (name_legal : isName name = true) (names_legal : allNames parameters = true)
    {tail : List Char} (apart : Apart tail) {cursor : Cursor}
    (rest : cursor.rest = [' '] ++ ((Expr.targetSource name parameters).toList ++ tail)) :
    ∃ tokens after, cursor.Reads tokens after ∧ Slot tokens name parameters ∧
      after.rest = tail := by
  cases parameters with
  | none =>
      obtain ⟨position, after, read, after_rest⟩ :=
        Cursor.exists_name gap_space name_legal apart rest
      exact ⟨_, after, .single read, .identifier position name, after_rest⟩
  | some names =>
      simp only [Expr.targetSource, String.toList_append, toList_spaced, List.append_assoc] at rest
      obtain ⟨start, first, read_start, first_rest⟩ := Cursor.exists_leftBracket gap_space rest
      obtain ⟨middle, second, read_name, second_rest⟩ := Cursor.exists_name .nil name_legal
        ((apart_rightBracket tail).behindSpaces names) first_rest
      obtain ⟨parameters, third, reads, rfl, third_rest⟩ :=
        exists_names names_legal (apart_rightBracket tail) second_rest
      obtain ⟨close, after, read_close, after_rest⟩ := Cursor.exists_rightBracket .nil third_rest
      exact ⟨_, after, .cons read_start (.cons read_name (reads.append (.single read_close))),
        .function start middle close name parameters, after_rest⟩

/-- Whether reading finds an expression at a cursor and leaves the given text behind it. -/
def FoundAt (tree : Expr) (cursor : Cursor) (tail : List Char) : Prop :=
  ∃ tokens read after, cursor.Reads tokens after ∧ Expression tokens read ∧
    read.alike tree = true ∧ after.rest = tail

mutual

/-- The source of a well-formed expression is found wherever it stands. -/
theorem foundAt_source {tree : Expr} (legal : tree.wellFormed = true) {gap tail : List Char}
    (closed : Gap gap) (apart : Apart tail) {cursor : Cursor}
    (rest : cursor.rest = gap ++ (tree.source.toList ++ tail)) : FoundAt tree cursor tail := by
  match tree with
  | .integer _ value =>
      obtain ⟨position, after, read, after_rest⟩ := Cursor.exists_integer closed legal apart rest
      exact ⟨_, _, after, .single read, .integer position value, by simp [Expr.alike], after_rest⟩
  | .identifier _ name =>
      obtain ⟨position, after, read, after_rest⟩ := Cursor.exists_name closed legal apart rest
      exact ⟨_, _, after, .single read, .identifier position name, by simp [Expr.alike], after_rest⟩
  | .conditional _ condition consequence alternative =>
      simp only [Expr.wellFormed, Bool.and_eq_true] at legal
      have spelled_out : cursor.rest = gap ++ '(' :: ("if".toList ++
          ([' '] ++ (condition.source.toList ++ ([' '] ++ (consequence.source.toList ++
            ([' '] ++ (alternative.source.toList ++ ')' :: tail))))))) := by
        rw [rest]
        simp [Expr.source]
      obtain ⟨position, first, read_start, first_rest⟩ :=
        Cursor.exists_leftBracket closed spelled_out
      obtain ⟨keyword, second, read_keyword, second_rest⟩ :=
        Cursor.exists_word .nil (by decide +kernel) (by decide +kernel) (apart_blank (by decide) _)
          first_rest
      obtain ⟨_, test, third, reads_test, test_found, test_alike, third_rest⟩ :=
        foundAt_source legal.1.1 gap_space (apart_blank (by decide) _) second_rest
      obtain ⟨_, chosen, fourth, reads_chosen, chosen_found, chosen_alike, fourth_rest⟩ :=
        foundAt_source legal.1.2 gap_space (apart_blank (by decide) _) third_rest
      obtain ⟨_, other, fifth, reads_other, other_found, other_alike, fifth_rest⟩ :=
        foundAt_source legal.2 gap_space (apart_rightBracket _) fourth_rest
      obtain ⟨close, after, read_close, after_rest⟩ := Cursor.exists_rightBracket .nil fifth_rest
      refine ⟨_, .conditional position test chosen other, after,
        .cons read_start (.cons read_keyword (reads_test.append (reads_chosen.append
          (reads_other.append (.single read_close))))),
        .bracketed (.conditional test_found chosen_found other_found), ?_, after_rest⟩
      simp only [Expr.alike, test_alike, chosen_alike, other_alike, Bool.and_self]
  | .define _ name parameters value =>
      simp only [Expr.wellFormed, Bool.and_eq_true] at legal
      have spelled_out : cursor.rest = gap ++ '(' :: ("define".toList ++
          ([' '] ++ ((Expr.targetSource name parameters).toList ++
            ([' '] ++ (value.source.toList ++ ')' :: tail))))) := by
        rw [rest]
        simp [Expr.source]
      obtain ⟨position, first, read_start, first_rest⟩ :=
        Cursor.exists_leftBracket closed spelled_out
      obtain ⟨keyword, second, read_keyword, second_rest⟩ :=
        Cursor.exists_word .nil (by decide +kernel) (by decide +kernel) (apart_blank (by decide) _)
          first_rest
      obtain ⟨_, third, reads_slot, slot, third_rest⟩ :=
        exists_slot legal.1.1 legal.1.2 (apart_blank (by decide) _) second_rest
      obtain ⟨_, body, fourth, reads_body, body_found, body_alike, fourth_rest⟩ :=
        foundAt_source legal.2 gap_space (apart_rightBracket _) third_rest
      obtain ⟨close, after, read_close, after_rest⟩ := Cursor.exists_rightBracket .nil fourth_rest
      refine ⟨_, .define position name parameters body, after,
        .cons read_start (.cons read_keyword (reads_slot.append (reads_body.append
          (.single read_close)))),
        .bracketed (.define slot body_found), ?_, after_rest⟩
      simp only [Expr.alike, body_alike, BEq.rfl, Bool.and_self]
  | .call _ name arguments =>
      simp only [Expr.wellFormed, Bool.and_eq_true] at legal
      have spelled_out : cursor.rest = gap ++ '(' :: (name.toList ++
          (behindSpaces (Expr.sources arguments) ++ ')' :: tail)) := by
        rw [rest]
        simp [Expr.source, toList_spaced]
      obtain ⟨position, first, read_start, first_rest⟩ :=
        Cursor.exists_leftBracket closed spelled_out
      obtain ⟨middle, second, read_name, second_rest⟩ := Cursor.exists_name .nil legal.1
        ((apart_rightBracket tail).behindSpaces _) first_rest
      obtain ⟨_, each, third, reads_each, each_found, each_alike, third_rest⟩ :=
        exists_arguments legal.2 (apart_rightBracket _) second_rest
      obtain ⟨close, after, read_close, after_rest⟩ := Cursor.exists_rightBracket .nil third_rest
      refine ⟨_, .call position name each, after,
        .cons read_start (.cons read_name (reads_each.append (.single read_close))),
        .bracketed (.call each_found), ?_, after_rest⟩
      simp only [Expr.alike, each_alike, BEq.rfl, Bool.and_self]

/-- The sources of well-formed expressions are found one behind the other. -/
theorem exists_arguments {trees : List Expr} (legal : Expr.allWellFormed trees = true)
    {tail : List Char} (apart : Apart tail) {cursor : Cursor}
    (rest : cursor.rest = behindSpaces (Expr.sources trees) ++ tail) :
    ∃ tokens read after, cursor.Reads tokens after ∧ Expressions tokens read ∧
      Expr.allAlike read trees = true ∧ after.rest = tail := by
  match trees with
  | [] => exact ⟨[], [], cursor, .nil cursor, .nil, rfl, rest⟩
  | tree :: trees =>
      simp only [Expr.allWellFormed, Bool.and_eq_true] at legal
      have spelled_out : cursor.rest = [' '] ++ (tree.source.toList ++
          (behindSpaces (Expr.sources trees) ++ tail)) := by
        rw [rest]
        simp [behindSpaces, Expr.sources]
      obtain ⟨_, read, middle, reads, found, alike, middle_rest⟩ :=
        foundAt_source legal.1 gap_space (apart.behindSpaces _) spelled_out
      obtain ⟨_, later, after, reads_later, later_found, later_alike, after_rest⟩ :=
        exists_arguments legal.2 apart middle_rest
      refine ⟨_, read :: later, after, reads.append reads_later, .cons found later_found, ?_,
        after_rest⟩
      simp only [Expr.allAlike, alike, later_alike, Bool.and_self]

end
end Grammar

namespace Reader

theorem readAll_of_none {limit : Nat} {reader after : Reader}
    (read : reader.readExpr limit = (.ok none, after)) : reader.readAll limit = [] := by
  rw [readAll]
  split <;> simp_all

theorem readAll_of_some {limit : Nat} {reader after : Reader} {tree : Expr}
    (read : reader.readExpr limit = (.ok (some tree), after)) :
    reader.readAll limit = .ok tree :: after.readAll limit := by
  rw [readAll]
  split <;> simp_all

end Reader

/-- The texts that are the sources of expressions with blanks between them. -/
inductive Joined : List Expr → String → Prop
  /-- No expression. -/
  | nil : Joined [] ""
  /-- A single expression. -/
  | single (tree : Expr) : Joined [tree] tree.source
  /-- An expression, at least one blank, and more expressions. -/
  | cons {next : Expr} {trees : List Expr} {text : String} (tree : Expr) (blanks : String)
      (some_blank : blanks ≠ "") (all_blank : blanks.toList.all Text.isBlank = true)
      (later : Joined (next :: trees) text) :
      Joined (tree :: next :: trees) (tree.source ++ (blanks ++ text))

open Grammar in
theorem readAll_of_foundAt {tree : Expr} {cursor : Cursor} {tail : List Char} {limit : Nat}
    (found : FoundAt tree cursor tail) (ideal : cursor.rest.length ≤ limit) :
    ∃ read after, read.alike tree = true ∧ after.rest = tail ∧ after.rest.length ≤ limit ∧
      Reader.readAll limit ⟨cursor, none⟩ = .ok read :: Reader.readAll limit ⟨after, none⟩ := by
  obtain ⟨tokens, read, after, reads, expression, alike, rest⟩ := found
  have shorter := reads.length_le
  refine ⟨read, after, alike, rest, by omega, ?_⟩
  exact Reader.readAll_of_some (expression.readExpr (by omega) reads)

/-- Expressions that are joined by blanks are all read back. -/
theorem Joined.readAll {trees : List Expr} {text : String} (joined : Joined trees text)
    (legal : Expr.allWellFormed trees = true) {gap : List Char} (closed : Gap gap) {cursor : Cursor}
    (rest : cursor.rest = gap ++ text.toList) {limit : Nat} (ideal : cursor.rest.length ≤ limit) :
    ∃ read : List Expr, Reader.readAll limit ⟨cursor, none⟩ = read.map .ok ∧
      Expr.allAlike read trees = true := by
  induction joined generalizing cursor gap with
  | nil =>
      have final : FinalGap cursor.rest := .closed (by simpa [rest] using closed)
      obtain ⟨after, read⟩ := (Grammar.readExpr_eq_none_iff limit cursor).mpr final
      exact ⟨[], Reader.readAll_of_none read, rfl⟩
  | single tree =>
      simp only [Expr.allWellFormed, Bool.and_true] at legal
      have found := Grammar.foundAt_source legal closed apart_nil (by simpa using rest)
      obtain ⟨read, after, alike, nothing_left, -, all_read⟩ := readAll_of_foundAt found ideal
      have final : FinalGap after.rest := .closed (nothing_left ▸ .nil)
      obtain ⟨ending, read_end⟩ := (Grammar.readExpr_eq_none_iff limit after).mpr final
      rw [Reader.readAll_of_none read_end] at all_read
      exact ⟨[read], all_read, by simp [Expr.allAlike, alike]⟩
  | @cons next trees text tree blanks some_blank all_blank later ih =>
      rw [Expr.allWellFormed, Bool.and_eq_true] at legal
      have apart : Apart (blanks.toList ++ text.toList) := by
        match characters : blanks.toList with
        | [] => exact absurd (String.toList_eq_nil_iff.mp characters) some_blank
        | blank :: blanks' =>
            rw [characters, List.all_cons, Bool.and_eq_true] at all_blank
            exact apart_blank all_blank.1 _
      have found := Grammar.foundAt_source legal.1 closed apart (by simpa using rest)
      obtain ⟨read, after, alike, after_rest, ideal', all_read⟩ := readAll_of_foundAt found ideal
      obtain ⟨reads, all_later, all_alike⟩ := ih legal.2 (Gap.of_blanks all_blank) after_rest ideal'
      refine ⟨read :: reads, ?_, ?_⟩
      · rw [all_read, all_later]
        rfl
      · rw [Expr.allAlike, alike, all_alike]
        rfl

/-- Reading undoes writing on the well-formed expressions and on no other ones: sources that are
joined by blanks are read back one after the other up to the end, whatever a reader gives at any
time is well-formed, and so the source of an expression is read as this expression exactly if it is
well-formed.  A text cannot open more forms than it has characters, so a limit of this size is no
limit. -/
theorem source_readBack :
    (∀ (trees : List Expr) (text : String) (limit : Nat),
        Joined trees text → Expr.allWellFormed trees = true → text.length ≤ limit →
        ∃ read : List Expr, (Reader.ofText text).readAll limit = read.map .ok ∧
          Expr.allAlike read trees = true) ∧
      (∀ (text : String) (reader after : Reader) (limit : Nat) (tree : Expr),
        Reader.ReachedFrom text reader → reader.readExpr limit = (.ok (some tree), after) →
        tree.wellFormed = true) ∧
      ∀ (tree : Expr) (limit : Nat), tree.source.length ≤ limit →
        ((∃ read after, (Reader.ofText tree.source).readExpr limit = (.ok (some read), after) ∧
          read.alike tree = true) ↔ tree.wellFormed = true) := by
  have only_legal (text : String) (reader after : Reader) (limit : Nat) (tree : Expr)
      (reached : Reader.ReachedFrom text reader)
      (read : reader.readExpr limit = (.ok (some tree), after)) : tree.wellFormed = true :=
    Reader.readExpr_wellFormed reached.peeksLegal read
  refine ⟨?_, only_legal, ?_⟩
  · intro trees text limit joined legal ideal
    exact joined.readAll legal .nil rfl ideal
  · intro tree limit ideal
    constructor
    · rintro ⟨read, after, result, alike⟩
      rw [← Expr.wellFormed_eq_of_alike alike]
      exact only_legal tree.source _ after limit read .start result
    · intro legal
      obtain ⟨tokens, read, after, reads, expression, alike, -⟩ :=
        Grammar.foundAt_source legal .nil apart_nil
          (show (Cursor.ofText tree.source).rest = [] ++ (tree.source.toList ++ []) by
            simp [Cursor.ofText])
      have room : tokens.length ≤ limit := by
        have shorter := reads.length_le
        have whole : (Cursor.ofText tree.source).rest.length = tree.source.length := rfl
        omega
      exact ⟨read, ⟨after, none⟩, expression.readExpr room reads, alike⟩

/-- A definition and a name behind a line feed and a tabulator are read back. -/
theorem source_readBack_definition :
    ∃ read : List Expr,
      (Reader.ofText "(define (f x) (if x 7 -1))\n\ty").readAll 30 = read.map .ok ∧
      Expr.allAlike read
        [.define .start "f" (some ["x"])
          (.conditional .start (.identifier .start "x") (.integer .start 7)
            (.identifier .start "-1")),
          .identifier .start "y"] = true := by
  have joined : Joined
      [.define .start "f" (some ["x"])
        (.conditional .start (.identifier .start "x") (.integer .start 7)
          (.identifier .start "-1")),
        .identifier .start "y"] "(define (f x) (if x 7 -1))\n\ty" :=
    .cons _ "\n\t" (by decide) (by decide) (.single _)
  exact source_readBack.1 _ _ 30 joined (by decide +kernel) (by decide)

end DynLisp
