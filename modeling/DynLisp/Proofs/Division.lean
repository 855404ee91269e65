import DynLisp.Proofs.Reading

/-!
# How reading divides a text

Reading a text token by token to its end, going on after every error, divides it into gaps and
lexemes.  Nothing is lost and nothing is read twice; every gap and every lexeme is as long as it can
be; and every token and every error is placed by counting the line feeds and the characters in front
of its lexeme, but for the error about a run of more than `digitLimit` digits, which has no place.
`Divided` says all of this, and `Cursor.tokens_divided` says it of every text.
-/

namespace DynLisp

/-- The position behind a text: a line for each line feed in it, and a column for each character
behind the last of them. -/
def Position.behind (text : List Char) : Position :=
  ⟨1 + text.count '\n', 1 + (text.reverse.takeWhile (· != '\n')).length⟩

theorem Position.advance_behind (front : List Char) (character : Char) :
    (behind front).advance character = behind (front ++ [character]) := by
  by_cases feed : character = '\n'
  · simp [behind, advance, nextLine, feed, Int.add_assoc]
  · simp [behind, advance, nextColumn, feed, Int.add_assoc]

/-- Counting agrees with advancing character by character. -/
theorem Position.past_behind (front text : List Char) :
    (behind front).past text = behind (front ++ text) := by
  induction text generalizing front with
  | nil => simp
  | cons character text ih =>
      rw [past_cons, advance_behind, ih, List.append_assoc, List.singleton_append]

/-- The place behind the front of a text. -/
def Cursor.behind (front rest : List Char) : Cursor := ⟨rest, .behind front, front.length⟩

/-- What the characters of a lexeme are, which stands at a place and in front of a tail.  Brackets
and wrong characters stand alone; names and numbers are as long as they can be. -/
inductive Lexes (place : Position) (tail : List Char) : List Char → Except LexError Token → Prop
  /-- An opening bracket. -/
  | leftBracket : Lexes place tail ['('] (.ok ⟨.leftBracket, place⟩)
  /-- A closing bracket. -/
  | rightBracket : Lexes place tail [')'] (.ok ⟨.rightBracket, place⟩)
  /-- A run of identifier characters can be the one keyword. -/
  | ifKeyword (ends : ∀ character ∈ tail.head?, isIdentifierPart character = false) :
      Lexes place tail "if".toList (.ok ⟨.ifKeyword, place⟩)
  /-- It can be the other one. -/
  | defineKeyword (ends : ∀ character ∈ tail.head?, isIdentifierPart character = false) :
      Lexes place tail "define".toList (.ok ⟨.defineKeyword, place⟩)
  /-- All other runs that begin as an identifier can are identifiers. -/
  | identifier {first : Char} {body : List Char} (start : isIdentifierStart first = true)
      (parts : ∀ character ∈ body, isIdentifierPart character = true)
      (ends : ∀ character ∈ tail.head?, isIdentifierPart character = false)
      (no_if : String.ofList (first :: body) ≠ "if")
      (no_define : String.ofList (first :: body) ≠ "define") :
      Lexes place tail (first :: body) (.ok ⟨.identifier (String.ofList (first :: body)), place⟩)
  /-- A run of digits is a number if that is no greater than a literal can be. -/
  | integer {first : Char} {body : List Char}
      (digits : ∀ character ∈ first :: body, Text.isDigit character = true)
      (ends : ∀ character ∈ tail.head?, Text.isDigit character = false)
      (short : (first :: body).length ≤ digitLimit)
      (fits : Nat.ofDigitChars 10 (first :: body) 0 ≤ greatestLiteral) :
      Lexes place tail (first :: body)
        (.ok ⟨.integer (Nat.ofDigitChars 10 (first :: body) 0), place⟩)
  /-- A greater number is an error of the length of the run. -/
  | tooLarge {first : Char} {body : List Char} (cause : Cause)
      (digits : ∀ character ∈ first :: body, Text.isDigit character = true)
      (ends : ∀ character ∈ tail.head?, Text.isDigit character = false)
      (short : (first :: body).length ≤ digitLimit)
      (large : greatestLiteral < Nat.ofDigitChars 10 (first :: body) 0) :
      Lexes place tail (first :: body) (.error (.other cause place (first :: body).length))
  /-- A run that is too long is an error without a place. -/
  | unreadable {first : Char} {body : List Char} (cause : Cause)
      (digits : ∀ character ∈ first :: body, Text.isDigit character = true)
      (ends : ∀ character ∈ tail.head?, Text.isDigit character = false)
      (long : digitLimit < (first :: body).length) :
      Lexes place tail (first :: body) (.error (.unreadable cause))
  /-- A character that begins none of these is an error. -/
  | unexpected {character : Char} (left : character ≠ '(') (right : character ≠ ')')
      (no_name : isIdentifierStart character = false) (no_digit : Text.isDigit character = false) :
      Lexes place tail [character]
        (.error (.unexpectedCharacter (String.singleton character) place))

/-- The calls for tokens from the place behind a front on, which divide the rest of the text, and
what each of them gives: the token or the error, and the place where it leaves the cursor. -/
inductive Divided : List Char → List Char → List (Except LexError Token × Cursor) → Prop
  /-- A gap to the end of the text gives nothing, and is consumed. -/
  | last {front gap : List Char} (final : FinalGap gap)
      (call : (Cursor.behind front gap).next = (.ok none, .behind (front ++ gap) [])) :
      Divided front gap []
  /-- A gap and the lexeme behind it give a token or an error, and are consumed. -/
  | call {front gap lexeme tail : List Char} {result : Except LexError Token}
      {reads : List (Except LexError Token × Cursor)} (closed : Gap gap)
      (solid : ∀ character ∈ lexeme.head?, IsSolid character)
      (lexes : Lexes (.behind (front ++ gap)) tail lexeme result)
      (call : (Cursor.behind front (gap ++ (lexeme ++ tail))).next =
        (result.map some, .behind (front ++ (gap ++ lexeme)) tail))
      (later : Divided (front ++ (gap ++ lexeme)) tail reads) :
      Divided front (gap ++ (lexeme ++ tail))
        ((result, .behind (front ++ (gap ++ lexeme)) tail) :: reads)

theorem lexes_of_literal {first : Char} {body tail : List Char} (place : Position)
    (digits : ∀ character ∈ first :: body, Text.isDigit character = true)
    (ends : ∀ character ∈ tail.head?, Text.isDigit character = false) :
    Lexes place tail (first :: body)
      ((readLiteral (first :: body) place).map fun lexeme => ⟨lexeme, place⟩) := by
  unfold readLiteral literalValue
  simp only [List.isEmpty_cons, Bool.false_eq_true, if_false]
  by_cases long : digitLimit < (first :: body).length
  · rw [if_pos long]
    exact .unreadable _ digits ends long
  · rw [if_neg long]
    have short := Nat.le_of_not_lt long
    by_cases large : greatestLiteral < Nat.ofDigitChars 10 (first :: body) 0
    · simp only [large, if_true]
      exact .tooLarge _ digits ends short large
    · simp only [large, if_false]
      exact .integer digits ends short (Nat.le_of_not_lt large)

/-- What a token's characters spell is what they are. -/
theorem lexes_of_spelled {first : Char} {body tail : List Char} (place : Position)
    (inside : ∀ character ∈ body, continuesToken first character = true)
    (stop : ∀ character ∈ tail.head?, continuesToken first character = false) :
    Lexes place tail (first :: body)
      ((spelled first body place).map fun lexeme => ⟨lexeme, place⟩) := by
  have alone (none_continues : ∀ character, continuesToken first character = false) :
      body = [] := by
    cases body with
    | nil => rfl
    | cons character body =>
        have continues := inside character List.mem_cons_self
        rw [none_continues] at continues
        cases continues
  unfold spelled
  split
  next left =>
    subst left
    obtain rfl := alone (continuesToken_of_single (Or.inl rfl))
    exact .leftBracket
  split
  next right =>
    subst right
    obtain rfl := alone (continuesToken_of_single (Or.inr (Or.inl rfl)))
    exact .rightBracket
  split
  next start =>
    rw [continuesToken_of_start start] at inside stop
    unfold Lexeme.ofName
    split
    next is_if =>
      have spelling : first :: body = "if".toList := by rw [← is_if, String.toList_ofList]
      rw [spelling]
      exact .ifKeyword stop
    split
    next is_define =>
      have spelling : first :: body = "define".toList := by rw [← is_define, String.toList_ofList]
      rw [spelling]
      exact .defineKeyword stop
    next no_if no_define => exact .identifier start inside stop no_if no_define
  split
  next digit =>
    rw [continuesToken_of_digit digit] at inside stop
    exact lexes_of_literal place (by simpa using ⟨digit, inside⟩) stop
  next left right start digit =>
    have single : isIdentifierStart first = false ∧ Text.isDigit first = false := by
      simpa using And.intro start digit
    obtain rfl := alone (continuesToken_of_single (Or.inr (Or.inr single)))
    exact .unexpected left right single.1 single.2

namespace Cursor

theorem behind_next_of_finalGap {gap : List Char} (final : FinalGap gap) (front : List Char) :
    (behind front gap).next = (.ok none, behind (front ++ gap) []) := by
  have final' : FinalGap (behind front gap).rest := final
  rw [next_of_finalGap final']
  simp [finish, skip, behind, Position.past_behind]

/-- A call consumes a gap and the token behind it and gives what the token spells. -/
theorem behind_next_of_splits {gap body tail text : List Char} {first : Char}
    (splits : Splits text gap first body tail) (front : List Char) :
    (behind front text).next =
      ((spelled first body (.behind (front ++ gap))).map fun lexeme =>
          some ⟨lexeme, .behind (front ++ gap)⟩,
        behind (front ++ (gap ++ first :: body)) tail) := by
  have splits' : Splits (behind front text).rest gap first body tail := splits
  rw [next_of_splits splits', splits_skip splits']
  simp only [behind, Position.past_behind, List.length_append]

theorem tokens_of_token {cursor after : Cursor} {result : Except LexError Token}
    (read : cursor.next = (result.map some, after)) :
    cursor.tokens = (result, after) :: after.tokens := by
  rw [tokens]
  cases result <;> (split <;> simp_all [Except.map])

theorem tokens_of_none {cursor after : Cursor} (read : cursor.next = (.ok none, after)) :
    cursor.tokens = [] := by
  rw [tokens]
  split <;> simp_all

/-- From every place in a text on, reading divides the rest of it. -/
theorem tokens_behind_divided (front rest : List Char) :
    Divided front rest (behind front rest).tokens := by
  rcases finalGap_or_splits rest with final | ⟨gap, first, body, tail, splits⟩
  · have call := behind_next_of_finalGap final front
    rw [tokens_of_none call]
    exact .last final call
  · have call := behind_next_of_splits splits front
    have lexes := lexes_of_spelled (.behind (front ++ gap)) splits.body splits.tail
    have text_eq : rest = gap ++ (first :: body ++ tail) := splits.text_eq
    have shorter : tail.length < rest.length := by
      simp only [text_eq, List.length_append, List.length_cons]
      omega
    have later := tokens_behind_divided (front ++ (gap ++ first :: body)) tail
    have read : (behind front rest).next =
        (((spelled first body (.behind (front ++ gap))).map
          fun lexeme => ⟨lexeme, .behind (front ++ gap)⟩).map some,
          behind (front ++ (gap ++ first :: body)) tail) := by
      rw [call]
      cases spelled first body (.behind (front ++ gap)) <;> rfl
    rw [tokens_of_token read]
    rw [text_eq] at read ⊢
    exact .call splits.gap (by simpa using splits.solid) lexes read later
termination_by rest.length
decreasing_by
  exact shorter

end Cursor

/-- Every call leaves the cursor at the position of its index. -/
theorem Divided.position_eq {front rest : List Char}
    {reads : List (Except LexError Token × Cursor)} (divided : Divided front rest reads)
    {result : Except LexError Token} {after : Cursor} (member : (result, after) ∈ reads) :
    after = .behind ((front ++ rest).take after.index) ((front ++ rest).drop after.index) := by
  induction divided with
  | last => cases member
  | @call front gap lexeme tail _ reads closed solid lexes call later ih =>
      have text : front ++ (gap ++ (lexeme ++ tail)) = front ++ (gap ++ lexeme) ++ tail := by simp
      rw [text]
      rcases List.mem_cons.mp member with first | member
      · cases first
        simp only [Cursor.behind, List.take_left, List.drop_left]
      · exact ih member

theorem Lexes.position_eq {place : Position} {tail lexeme : List Char} {token : Token}
    (lexes : Lexes place tail lexeme (.ok token)) : token.position = place := by
  cases lexes <;> rfl

theorem Lexes.ne_nil {place : Position} {tail lexeme : List Char}
    {result : Except LexError Token} (lexes : Lexes place tail lexeme result) : lexeme ≠ [] := by
  cases lexes <;> simp

/-- Whether no run of digits reaches from a front into what follows it. -/
def DigitsApart (front rest : List Char) : Prop :=
  ∀ left ∈ front.getLast?, ∀ right ∈ rest.head?,
    Text.isDigit left = true → Text.isDigit right = false

theorem Gap.isBlank_getLast {gap : List Char} (closed : Gap gap) :
    ∀ character ∈ gap.getLast?, Text.isBlank character = true := by
  have last_cons {first : Char} {rest : List Char} (blank : Text.isBlank first = true)
      (later : ∀ character ∈ rest.getLast?, Text.isBlank character = true) :
      ∀ character ∈ (first :: rest).getLast?, Text.isBlank character = true := by
    cases rest with
    | nil => simpa using blank
    | cons next rest => simpa using later
  induction closed with
  | nil => simp
  | blank blank gap ih => exact last_cons blank ih
  | @comment body rest inside gap ih =>
      have fed := last_cons (show Text.isBlank '\n' = true by decide) ih
      have same : (';' :: (body ++ '\n' :: rest)).getLast? = ('\n' :: rest).getLast? := by
        rw [← List.cons_append, List.getLast?_append, List.getLast?_cons, Option.some_or]
      rwa [same]

theorem DigitsApart.of_gap {front gap rest : List Char} (apart : DigitsApart front (gap ++ rest))
    (closed : Gap gap) : DigitsApart (front ++ gap) rest := by
  intro left last right head digit
  cases gap with
  | nil => exact apart left (by simpa using last) right head digit
  | cons first gap =>
      have blank := closed.isBlank_getLast left (by simpa using last)
      rw [Text.isDigit_eq_false_of_isBlank blank] at digit
      cases digit

/-- A lexeme takes all the digits of the run that it ends in. -/
theorem Lexes.digitsApart {place : Position} {tail lexeme : List Char}
    {result : Except LexError Token} (lexes : Lexes place tail lexeme result)
    (front gap : List Char) : DigitsApart (front ++ (gap ++ lexeme)) tail := by
  have ends_word {character : Char} (no_part : isIdentifierPart character = false) :
      Text.isDigit character = false := by
    rw [Bool.eq_false_iff]
    intro digit
    rw [isIdentifierPart_of_isDigit digit] at no_part
    cases no_part
  intro left last right head digit
  cases lexes with
  | ifKeyword ends => exact ends_word (ends right head)
  | defineKeyword ends => exact ends_word (ends right head)
  | identifier start parts ends no_if no_define => exact ends_word (ends right head)
  | integer digits ends short fits => exact ends right head
  | tooLarge cause digits ends short large => exact ends right head
  | unreadable cause digits ends long => exact ends right head
  | leftBracket =>
      obtain rfl : '(' = left := by simpa using last
      cases digit
  | rightBracket =>
      obtain rfl : ')' = left := by simpa using last
      cases digit
  | @unexpected character _ _ no_name no_digit =>
      obtain rfl : character = left := by simpa using last
      rw [no_digit] at digit
      cases digit

/-- One of the calls that read a text to its end.  It gives a result for the word between a front
and a tail and leaves the cursor behind the word. -/
structure Cursor.ReadAt (text : String) (front word tail : List Char)
    (result : Except LexError Token) (after : Cursor) : Prop where
  /-- It is one of the calls. -/
  member : (result, after) ∈ (Cursor.ofText text).tokens
  /-- The word stands in the text. -/
  text_eq : text.toList = front ++ (word ++ tail)
  /-- The result is what the word is. -/
  lexes : Lexes (.behind front) tail word result
  /-- The cursor is left behind the word. -/
  after_eq : after = .behind (front ++ word) tail
  /-- If the word begins with a digit, no digit is in front of it. -/
  apart : DigitsApart front (word ++ tail)

/-- Every call divides what is left into what has been skipped, a word and a tail. -/
theorem Divided.exists_word {front rest : List Char}
    {reads : List (Except LexError Token × Cursor)} (divided : Divided front rest reads)
    (apart : DigitsApart front rest) {result : Except LexError Token} {after : Cursor}
    (member : (result, after) ∈ reads) :
    ∃ skipped word tail, rest = skipped ++ (word ++ tail) ∧
      Lexes (.behind (front ++ skipped)) tail word result ∧
      after = .behind (front ++ (skipped ++ word)) tail ∧
      DigitsApart (front ++ skipped) (word ++ tail) := by
  induction divided with
  | last => cases member
  | @call front gap lexeme tail _ reads closed solid lexes call later ih =>
      rcases List.mem_cons.mp member with first | member
      · cases first
        exact ⟨gap, lexeme, tail, rfl, lexes, rfl, apart.of_gap closed⟩
      · obtain ⟨skipped, word, tail', tail_eq, lexes', after_eq, apart'⟩ :=
          ih (lexes.digitsApart front gap) member
        refine ⟨gap ++ (lexeme ++ skipped), word, tail', by simp [tail_eq], ?_, ?_, ?_⟩
        · simpa only [List.append_assoc] using lexes'
        · simpa only [List.append_assoc] using after_eq
        · simpa only [List.append_assoc] using apart'

theorem Cursor.exists_readAt {text : String} {result : Except LexError Token} {after : Cursor}
    (member : (result, after) ∈ (Cursor.ofText text).tokens) :
    ∃ front word tail, Cursor.ReadAt text front word tail result after := by
  obtain ⟨front, word, tail, text_eq, lexes, after_eq, apart⟩ :=
    (Cursor.tokens_behind_divided [] text.toList).exists_word (by simp [DigitsApart]) member
  exact ⟨front, word, tail, member, text_eq, lexes, after_eq, apart⟩

/-- A call in front of a run of digits consumes it and gives what is made of it. -/
theorem Cursor.next_of_digits (front : List Char) {gap digits tail : List Char} (closed : Gap gap)
    (some_digits : digits ≠ []) (all : ∀ character ∈ digits, Text.isDigit character = true)
    (ends : ∀ character ∈ tail.head?, Text.isDigit character = false) :
    (Cursor.behind front (gap ++ (digits ++ tail))).next =
      ((readLiteral digits (.behind (front ++ gap))).map fun lexeme =>
          some ⟨lexeme, .behind (front ++ gap)⟩,
        .behind (front ++ (gap ++ digits)) tail) := by
  cases digits with
  | nil => exact absurd rfl some_digits
  | cons first body =>
      obtain ⟨solid, continues, spelling⟩ := spells_digits all
      have digit := all first List.mem_cons_self
      have splits : Splits (gap ++ (first :: body ++ tail)) gap first body tail :=
        { text_eq := by simp
          gap := closed
          solid := solid
          body := continues
          tail := by rwa [continuesToken_of_digit digit] }
      rw [behind_next_of_splits splits, spelling]

theorem Cursor.ofText_digits (digits : List Char) :
    Cursor.ofText (String.ofList digits) = .behind [] ([] ++ (digits ++ [])) := by
  simp [Cursor.ofText, Cursor.behind, Position.behind, Position.start]

/-- The tokens among all that is read from a cursor to the end of the text. -/
def Cursor.tokensFound (cursor : Cursor) : List Token :=
  cursor.tokens.filterMap fun read => read.1.toOption

/-- Reading a text to its end, going on after errors, loses, duplicates and misplaces nothing.  The
calls divide the text into gaps and lexemes up to the gap at its end, each token is placed in front
of its lexeme, and so is each error but the one about a run of more than `digitLimit` digits, which
has no place.  Behind every call the cursor has the position of its index. -/
theorem Cursor.tokens_divided (text : String) :
    Divided [] text.toList (Cursor.ofText text).tokens ∧
      ∀ result after, (result, after) ∈ (Cursor.ofText text).tokens →
        after.rest = text.toList.drop after.index ∧
          after.position = .behind (text.toList.take after.index) := by
  have divided : Divided [] text.toList (Cursor.ofText text).tokens :=
    Cursor.tokens_behind_divided [] text.toList
  refine ⟨divided, fun result after member => ?_⟩
  have place := divided.position_eq member
  exact ⟨congrArg Cursor.rest place, congrArg Cursor.position place⟩

/-- The place that an error of the lexer is about, if it says one. -/
def LexError.place? (error : LexError) : Option Position := error.notice.toOption.bind (·.position)

/-- A run of nines is a number that is too great for a literal.  Its error has no place if the run
is too long to be read. -/
theorem Cursor.long_nines_unplaced :
    let nines := List.replicate 4301 '9'
    greatestLiteral < Nat.ofDigitChars 10 nines 0 ∧
      ∃ error, (Cursor.ofText (String.ofList nines)).tokens =
          [(.error error, .behind nines [])] ∧
        error.place? = none := by
  intro nines
  have all : ∀ character ∈ nines, Text.isDigit character = true := by
    intro character member
    rw [List.eq_of_mem_replicate member]
    rfl
  have long : digitLimit < nines.length := by
    rw [List.length_replicate]
    decide
  have some_digits : nines ≠ [] := List.ne_nil_of_length_pos (Nat.zero_lt_of_lt long)
  have next := next_of_digits [] .nil some_digits all
    (show ∀ character ∈ ([] : List Char).head?, Text.isDigit character = false from nofun)
  obtain ⟨cause, read⟩ := (readLiteral_cases some_digits (.behind ([] ++ []))).1 long
  rw [read, ← ofText_digits] at next
  have call : (Cursor.ofText (String.ofList nines)).next =
      ((Except.error (.unreadable cause) : Except LexError Token).map some, .behind nines []) :=
    next
  refine ⟨by decide +kernel, .unreadable cause, ?_, rfl⟩
  rw [tokens_of_token call, tokens_of_none (behind_next_of_finalGap (.closed .nil) _)]

end DynLisp
