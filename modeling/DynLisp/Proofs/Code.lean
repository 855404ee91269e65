import DynLisp.Proofs.Division
import DynLisp.Shell

/-!
# Code outside comments

The shell cuts a text at its line feeds and at the first semicolon of every line to see whether its
brackets are closed; tokens are read character by character, with comments as parts of the gaps.
`codeOf` is what both of them see.  Outside of gaps it keeps all characters, so that the brackets
counted by the shell are those among the tokens, which is `brackets_counted`.
-/

namespace DynLisp

/-- The characters of a text outside its comments and between its line feeds, where `comment` says
whether the text begins inside a comment. -/
def codeOf (comment : Bool) : List Char → List Char
  | [] => []
  | character :: rest =>
      if character = '\n' then codeOf false rest
      else if comment || character == ';' then codeOf true rest
      else character :: codeOf false rest

theorem feedLines_ne_nil (text : List Char) : Text.feedLines text ≠ [] := by
  cases text with
  | nil => simp [Text.feedLines]
  | cons character rest =>
      rw [Text.feedLines]
      split
      · simp
      · split <;> simp

/-- A text line by line without its comments; a comment at its beginning covers the first line. -/
theorem flatten_withoutComments (text : List Char) :
    (withoutComments text).flatten = codeOf false text ∧
      (withoutComments text).tail.flatten = codeOf true text := by
  induction text with
  | nil => exact ⟨rfl, rfl⟩
  | cons character rest ih =>
      by_cases feed : character = '\n'
      · subst feed
        have lines : withoutComments ('\n' :: rest) = [] :: withoutComments rest := by
          simp [withoutComments, Text.feedLines]
        rw [lines, List.tail_cons, List.flatten_cons, List.nil_append, ih.1]
        exact ⟨rfl, rfl⟩
      · obtain ⟨line, later, first⟩ := List.exists_cons_of_ne_nil (feedLines_ne_nil rest)
        have lines : Text.feedLines (character :: rest) = (character :: line) :: later := by
          simp [Text.feedLines, feed, first]
        simp only [withoutComments, first, lines, List.map_cons, List.tail_cons] at ih ⊢
        simp only [codeOf, feed, if_false, Bool.true_or, if_true, Bool.false_or]
        refine ⟨?_, ih.2⟩
        by_cases comment : character = ';'
        · subst comment
          simpa using ih.2
        · simp [comment, ← ih.1]

theorem codeOf_comment {body : List Char} (inside : '\n' ∉ body) (rest : List Char) :
    codeOf true (body ++ rest) = codeOf true rest := by
  induction body with
  | nil => rfl
  | cons character body ih =>
      obtain ⟨first, later⟩ : '\n' ≠ character ∧ '\n' ∉ body := by simpa using inside
      simpa [codeOf, Ne.symm first] using ih later

/-- A gap is nothing but blanks outside its comments. -/
theorem codeOf_gap {gap : List Char} (closed : Gap gap) (rest : List Char) :
    ∃ blanks, (∀ character ∈ blanks, Text.isBlank character = true) ∧
      codeOf false (gap ++ rest) = blanks ++ codeOf false rest := by
  induction closed with
  | nil => exact ⟨[], by simp, rfl⟩
  | @blank character later blank gap ih =>
      obtain ⟨blanks, all_blank, code⟩ := ih
      by_cases feed : character = '\n'
      · exact ⟨blanks, all_blank, by simp [codeOf, feed, code]⟩
      · have no_comment : character ≠ ';' := by
          rintro rfl
          exact absurd blank (by decide)
        exact ⟨character :: blanks, by simpa [blank] using all_blank,
          by simp [codeOf, feed, no_comment, code]⟩
  | @comment body later inside gap ih =>
      obtain ⟨blanks, all_blank, code⟩ := ih
      refine ⟨blanks, all_blank, ?_⟩
      simp only [List.cons_append, List.append_assoc, codeOf]
      rw [codeOf_comment inside]
      simpa [codeOf] using code

theorem count_codeOf_gap {gap : List Char} (closed : Gap gap) {mark : Char}
    (solid : Text.isBlank mark = false) (rest : List Char) :
    (codeOf false (gap ++ rest)).count mark = (codeOf false rest).count mark := by
  obtain ⟨blanks, all_blank, code⟩ := codeOf_gap closed rest
  have none : mark ∉ blanks := by
    intro member
    rw [all_blank mark member] at solid
    cases solid
  rw [code, List.count_append, List.count_eq_zero_of_not_mem none, Nat.zero_add]

theorem count_codeOf_finalGap {text : List Char} (final : FinalGap text) {mark : Char}
    (solid : Text.isBlank mark = false) : (codeOf false text).count mark = 0 := by
  cases final with
  | closed gap =>
      have whole := count_codeOf_gap gap solid []
      rw [List.append_nil] at whole
      exact whole
  | @comment text body gap inside =>
      have unended := codeOf_comment inside []
      rw [List.append_nil] at unended
      rw [count_codeOf_gap gap solid]
      simp [codeOf, unended]

/-- Outside of gaps nothing is left out. -/
theorem codeOf_append {word : List Char} (solid : ∀ character ∈ word, IsSolid character)
    (rest : List Char) : codeOf false (word ++ rest) = word ++ codeOf false rest := by
  induction word with
  | nil => rfl
  | cons character word ih =>
      simp only [List.mem_cons, forall_eq_or_imp] at solid
      have feed : character ≠ '\n' := by
        rintro rfl
        exact absurd solid.1.1 (by decide)
      simp [codeOf, feed, solid.1.2, ih solid.2]

/-- The two brackets and their characters. -/
inductive Lexeme.IsBracket : Lexeme → Char → Prop
  /-- The opening bracket. -/
  | left : IsBracket leftBracket '('
  /-- The closing bracket. -/
  | right : IsBracket rightBracket ')'

/-- Brackets are not blank, and no identifier has one in it. -/
theorem Lexeme.IsBracket.apart {lexeme : Lexeme} {mark : Char} (bracket : lexeme.IsBracket mark) :
    Text.isBlank mark = false ∧
      ∀ {word : List Char}, (∀ character ∈ word, isIdentifierPart character = true) →
        mark ∉ word := by
  refine ⟨by cases bracket <;> decide, fun parts member => ?_⟩
  obtain ⟨left, right, -⟩ := ne_of_isIdentifierPart (parts mark member)
  cases bracket with
  | left => exact left rfl
  | right => exact right rfl

/-- The characters of a lexeme hold a bracket just if they are that token. -/
theorem Lexes.count_bracket {place : Position} {tail word : List Char}
    {result : Except LexError Token} (lexes : Lexes place tail word result) {lexeme : Lexeme}
    {mark : Char} (bracket : lexeme.IsBracket mark) :
    word.count mark = (result.toOption.toList.map Token.lexeme).count lexeme := by
  have no_bracket (parts : ∀ character ∈ word, isIdentifierPart character = true) :
      word.count mark = 0 := List.count_eq_zero_of_not_mem (bracket.apart.2 parts)
  have no_digits (digits : ∀ character ∈ word, Text.isDigit character = true) :
      word.count mark = 0 :=
    no_bracket fun character member => isIdentifierPart_of_isDigit (digits character member)
  cases lexes with
  | leftBracket => cases bracket <;> rfl
  | rightBracket => cases bracket <;> rfl
  | ifKeyword ends => cases bracket <;> rfl
  | defineKeyword ends => cases bracket <;> rfl
  | identifier start parts ends no_if no_define =>
      rw [no_bracket (by simpa using ⟨Cursor.isIdentifierPart_of_start start, parts⟩)]
      cases bracket <;> rfl
  | integer digits ends short fits =>
      rw [no_digits digits]
      cases bracket <;> rfl
  | tooLarge cause digits ends short large => exact no_digits digits
  | unreadable cause digits ends long => exact no_digits digits
  | unexpected left right no_name no_digit =>
      cases bracket with
      | left => exact List.count_eq_zero_of_not_mem (by simpa using Ne.symm left)
      | right => exact List.count_eq_zero_of_not_mem (by simpa using Ne.symm right)

/-- A lexeme that does not begin with a blank or a semicolon has none of them in it. -/
theorem Lexes.isSolid {place : Position} {tail word : List Char} {result : Except LexError Token}
    (lexes : Lexes place tail word result)
    (begins : ∀ character ∈ word.head?, IsSolid character) :
    ∀ character ∈ word, IsSolid character := by
  have of_parts (parts : ∀ character ∈ word, isIdentifierPart character = true) :
      ∀ character ∈ word, IsSolid character :=
    fun character member => isSolid_of_isIdentifierPart (parts character member)
  have of_digits (digits : ∀ character ∈ word, Text.isDigit character = true) :
      ∀ character ∈ word, IsSolid character :=
    of_parts fun character member => isIdentifierPart_of_isDigit (digits character member)
  cases lexes with
  | leftBracket => simpa using begins
  | rightBracket => simpa using begins
  | unexpected left right no_name no_digit => simpa using begins
  | ifKeyword ends => exact of_parts (List.all_eq_true.mp (by decide +kernel))
  | defineKeyword ends => exact of_parts (List.all_eq_true.mp (by decide +kernel))
  | identifier start parts ends no_if no_define =>
      exact of_parts (by simpa using ⟨Cursor.isIdentifierPart_of_start start, parts⟩)
  | integer digits ends short fits => exact of_digits digits
  | tooLarge cause digits ends short large => exact of_digits digits
  | unreadable cause digits ends long => exact of_digits digits

/-- Wherever reading begins, it finds the brackets of the code that is left. -/
theorem Divided.count_bracket {front rest : List Char}
    {reads : List (Except LexError Token × Cursor)} (divided : Divided front rest reads)
    {lexeme : Lexeme} {mark : Char} (bracket : lexeme.IsBracket mark) :
    (codeOf false rest).count mark =
      ((reads.filterMap fun read => read.1.toOption).map Token.lexeme).count lexeme := by
  induction divided with
  | last final call => exact count_codeOf_finalGap final bracket.apart.1
  | @call front gap word tail result reads closed solid lexes call later ih =>
      have found : (((result, Cursor.behind (front ++ (gap ++ word)) tail) :: reads).filterMap
          fun read => read.1.toOption) =
            result.toOption.toList ++ reads.filterMap fun read => read.1.toOption := by
        cases result <;> rfl
      rw [count_codeOf_gap closed bracket.apart.1, codeOf_append (lexes.isSolid solid),
        List.count_append, lexes.count_bracket bracket, ih, found, List.map_append,
        List.count_append]

/-- In all that has been typed, a line and what was pending before it, the shell counts as many
brackets of either kind as there are among the tokens that are read, going on after every error.
So the text is held back exactly if there are more opening than closing ones among them. -/
theorem brackets_counted (pending line : String) :
    let text := continued pending line
    let found := (Cursor.ofText text).tokensFound.map Token.lexeme
    countIn (withoutComments text.toList) '(' = found.count .leftBracket ∧
      countIn (withoutComments text.toList) ')' = found.count .rightBracket ∧
      (isUnclosed text = true ↔ found.count .rightBracket < found.count .leftBracket) := by
  intro text found
  have counted {lexeme : Lexeme} {mark : Char} (bracket : lexeme.IsBracket mark) :
      countIn (withoutComments text.toList) mark = found.count lexeme := by
    rw [countIn, (flatten_withoutComments text.toList).1]
    exact (Cursor.tokens_behind_divided [] text.toList).count_bracket bracket
  refine ⟨counted .left, counted .right, ?_⟩
  simp only [isUnclosed, counted .left, counted .right, decide_eq_true_eq]

end DynLisp
