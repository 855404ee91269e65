import DynLisp.Proofs.Characters

/-!
# How a text falls into tokens

Every text either is a gap to its end or splits into a gap, the characters of one token, and a tail
that does not continue the token.  `Cursor.next_of_splits` and `Cursor.next_of_finalGap` say what
reading makes of the two cases.  Since the token depends on its own characters only, whatever
replaces the tail is of no influence as long as it does not continue the token either.
-/

namespace DynLisp

/-- Blanks and comments, every comment ended by its line feed. -/
inductive Gap : List Char → Prop
  /-- The empty gap. -/
  | nil : Gap []
  /-- A blank and what follows it. -/
  | blank {character : Char} {rest : List Char} (blank : Text.isBlank character = true)
      (gap : Gap rest) : Gap (character :: rest)
  /-- A comment up to its line feed and what follows it. -/
  | comment {body rest : List Char} (inside : '\n' ∉ body) (gap : Gap rest) :
      Gap (';' :: (body ++ '\n' :: rest))

/-- Blanks and comments up to the end of a text, which may come in the middle of a comment. -/
inductive FinalGap : List Char → Prop
  /-- All comments are ended. -/
  | closed {text : List Char} (gap : Gap text) : FinalGap text
  /-- The text ends in a comment. -/
  | comment {text body : List Char} (gap : Gap text) (inside : '\n' ∉ body) :
      FinalGap (text ++ ';' :: body)

theorem Gap.append {front back : List Char} (first : Gap front) (second : Gap back) :
    Gap (front ++ back) := by
  induction first with
  | nil => exact second
  | blank blank gap ih => exact .blank blank ih
  | comment inside gap ih =>
      simp only [List.cons_append, List.append_assoc]
      exact .comment inside ih

/-- A line feed ends whatever comment a text ends in. -/
theorem FinalGap.append_feed {text : List Char} (final : FinalGap text) : Gap (text ++ ['\n']) := by
  cases final with
  | closed gap => exact gap.append (.blank (by decide) .nil)
  | @comment text body gap inside =>
      have ended : Gap (';' :: (body ++ '\n' :: [])) := .comment inside .nil
      simpa [List.append_assoc] using gap.append ended

theorem Gap.of_blanks {blanks : List Char} (all_blank : blanks.all Text.isBlank = true) :
    Gap blanks := by
  induction blanks with
  | nil => exact .nil
  | cons blank blanks ih =>
      simp only [List.all_cons, Bool.and_eq_true] at all_blank
      exact .blank all_blank.1 (ih all_blank.2)

theorem gapLength_comment {body : List Char} (inside : '\n' ∉ body) (rest : List Char) :
    gapLength true (body ++ '\n' :: rest) = body.length + 1 + gapLength false rest := by
  induction body with
  | nil => simp [gapLength, Nat.add_comm]
  | cons character body ih =>
      obtain ⟨first, later⟩ : '\n' ≠ character ∧ '\n' ∉ body := by simpa using inside
      have going : (character != '\n') = true := by simpa using first.symm
      simp only [List.cons_append, gapLength, going, ih later, List.length_cons, if_true]
      omega

theorem gapLength_open_comment {body : List Char} (inside : '\n' ∉ body) :
    gapLength true body = body.length := by
  induction body with
  | nil => rfl
  | cons character body ih =>
      obtain ⟨first, later⟩ : '\n' ≠ character ∧ '\n' ∉ body := by simpa using inside
      have going : (character != '\n') = true := by simpa using first.symm
      simp only [gapLength, going, ih later, List.length_cons, if_true]

/-- A character that begins a token, be it a wrong one. -/
def IsSolid (character : Char) : Prop := Text.isBlank character = false ∧ character ≠ ';'

theorem gapLength_append {gap : List Char} (closed : Gap gap) (rest : List Char) :
    gapLength false (gap ++ rest) = gap.length + gapLength false rest := by
  induction closed with
  | nil => simp
  | @blank character later blank gap ih =>
      have no_comment : character ≠ ';' := by
        rintro rfl
        exact absurd blank (by decide)
      simp only [List.cons_append, gapLength, blank, ih, no_comment, List.length_cons, if_true,
        if_false, Bool.false_eq_true]
      omega
  | @comment body later inside gap ih =>
      simp only [List.cons_append, List.append_assoc, gapLength, if_true, if_false,
        Bool.false_eq_true, gapLength_comment inside, ih, List.length_cons, List.length_append]
      omega

theorem gapLength_of_solid {character : Char} (solid : IsSolid character) (rest : List Char) :
    gapLength false (character :: rest) = 0 := by
  simp [gapLength, solid.1, solid.2]

theorem gapLength_of_finalGap {text : List Char} (final : FinalGap text) :
    gapLength false text = text.length := by
  cases final with
  | closed gap =>
      have whole := gapLength_append gap []
      simpa [gapLength] using whole
  | comment gap inside =>
      rw [gapLength_append gap]
      simp [gapLength, gapLength_open_comment inside]

theorem isSolid_of_isIdentifierPart {character : Char}
    (part : isIdentifierPart character = true) : IsSolid character := by
  refine ⟨?_, (ne_of_isIdentifierPart part).2.2⟩
  rw [Bool.eq_false_iff]
  intro blank
  rw [isIdentifierPart_eq_false_of_isBlank blank] at part
  cases part

/-- Whether a character continues the token that begins with `first`. -/
def continuesToken (first character : Char) : Bool :=
  if first = '(' ∨ first = ')' then false
  else if isIdentifierStart first then isIdentifierPart character
  else Text.isDigit first && Text.isDigit character

theorem continuesToken_of_start {first : Char} (start : isIdentifierStart first = true) :
    continuesToken first = isIdentifierPart := by
  obtain ⟨left, right, _⟩ := ne_of_isIdentifierPart (Cursor.isIdentifierPart_of_start start)
  funext character
  simp [continuesToken, left, right, start]

theorem continuesToken_of_digit {first : Char} (digit : Text.isDigit first = true) :
    continuesToken first = Text.isDigit := by
  obtain ⟨left, right, _⟩ := ne_of_isIdentifierPart (isIdentifierPart_of_isDigit digit)
  funext character
  simp [continuesToken, left, right, isIdentifierStart_eq_false_of_isDigit digit, digit]

/-- A token that begins with anything else is a single character. -/
theorem continuesToken_of_single {first : Char}
    (single : first = '(' ∨ first = ')' ∨
      isIdentifierStart first = false ∧ Text.isDigit first = false) (character : Char) :
    continuesToken first character = false := by
  rcases single with rfl | rfl | ⟨start, digit⟩
  · rfl
  · rfl
  · simp [continuesToken, start, digit]

theorem isIdentifierPart_of_continuesToken {first character : Char}
    (continues : continuesToken first character = true) : isIdentifierPart character = true := by
  unfold continuesToken at continues
  split at continues
  · cases continues
  split at continues
  · exact continues
  · exact isIdentifierPart_of_isDigit (Bool.and_eq_true _ _ ▸ continues).2

theorem continuesToken_eq_false (first : Char) {character : Char}
    (apart : isIdentifierPart character = false) : continuesToken first character = false := by
  rw [Bool.eq_false_iff]
  intro continues
  rw [isIdentifierPart_of_continuesToken continues] at apart
  cases apart

/-- A text that begins with a gap and a token, which the tail does not continue. -/
structure Splits (text gap : List Char) (first : Char) (body tail : List Char) : Prop where
  /-- The parts make up the text. -/
  text_eq : text = gap ++ first :: (body ++ tail)
  /-- The first part is a gap. -/
  gap : Gap gap
  /-- The gap ends where the token begins. -/
  solid : IsSolid first
  /-- All of the token belongs to it. -/
  body : ∀ character ∈ body, continuesToken first character = true
  /-- The token ends where the tail begins. -/
  tail : ∀ character ∈ tail.head?, continuesToken first character = false

/-- The tail can be exchanged for any text that does not continue the token. -/
theorem Splits.exchange {text gap body tail tail' : List Char} {first : Char}
    (splits : Splits text gap first body tail)
    (stop : ∀ character ∈ tail'.head?, continuesToken first character = false) :
    Splits (gap ++ first :: (body ++ tail')) gap first body tail' where
  text_eq := rfl
  gap := splits.gap
  solid := splits.solid
  body := splits.body
  tail := stop

/-- Splits off the token in front of which a text stands. -/
theorem splits_of_solid {first : Char} (solid : IsSolid first) (rest : List Char) :
    Splits (first :: rest) [] first (rest.takeWhile (continuesToken first))
      (rest.dropWhile (continuesToken first)) where
  text_eq := by simp
  gap := .nil
  solid := solid
  body := by
    intro character member
    exact List.all_eq_true.mp List.all_takeWhile character member
  tail := by
    intro character head
    have stops := List.head?_dropWhile_not (continuesToken first) rest
    rw [Option.mem_def.mp head] at stops
    simpa using stops

theorem Splits.of_gap {front text gap body tail : List Char} {first : Char} (closed : Gap front)
    (splits : Splits text gap first body tail) :
    Splits (front ++ text) (front ++ gap) first body tail where
  text_eq := by simp [splits.text_eq]
  gap := closed.append splits.gap
  solid := splits.solid
  body := splits.body
  tail := splits.tail

theorem FinalGap.of_gap {front text : List Char} (closed : Gap front) (final : FinalGap text) :
    FinalGap (front ++ text) := by
  cases final with
  | closed gap => exact .closed (closed.append gap)
  | comment gap inside =>
      rw [← List.append_assoc]
      exact .comment (closed.append gap) inside

/-- A comment either runs to the end of the text or is ended by a line feed. -/
theorem comment_cases (rest : List Char) :
    '\n' ∉ rest ∨ ∃ body later, rest = body ++ '\n' :: later ∧ '\n' ∉ body := by
  induction rest with
  | nil => exact Or.inl List.not_mem_nil
  | cons character rest ih =>
      by_cases feed : character = '\n'
      · subst feed
        exact Or.inr ⟨[], rest, rfl, List.not_mem_nil⟩
      · rcases ih with inside | ⟨body, later, rfl, inside⟩
        · exact Or.inl (by simp [inside, Ne.symm feed])
        · exact Or.inr ⟨character :: body, later, rfl, by simp [inside, Ne.symm feed]⟩

/-- Every text is a gap to its end or begins with a gap and a token. -/
theorem finalGap_or_splits (text : List Char) :
    FinalGap text ∨ ∃ gap first body tail, Splits text gap first body tail := by
  -- What is behind a blank or an ended comment is a shorter text of the same kind.
  match text with
  | [] => exact Or.inl (.closed .nil)
  | character :: rest =>
      by_cases blank : Text.isBlank character = true
      · have front : Gap [character] := .blank blank .nil
        rcases finalGap_or_splits rest with final | ⟨gap, first, body, tail, splits⟩
        · exact Or.inl (final.of_gap front)
        · exact Or.inr ⟨_, _, _, _, splits.of_gap front⟩
      · by_cases comment : character = ';'
        · subst comment
          rcases comment_cases rest with inside | ⟨body, later, rest_eq, inside⟩
          · exact Or.inl (.comment .nil inside)
          · have front : Gap (';' :: (body ++ '\n' :: [])) := .comment inside .nil
            have text_eq : ';' :: rest = (';' :: (body ++ '\n' :: [])) ++ later := by simp [rest_eq]
            have shorter : later.length < (';' :: rest).length := by simp [rest_eq]; omega
            rw [text_eq]
            rcases finalGap_or_splits later with final | ⟨gap, first, body', tail, splits⟩
            · exact Or.inl (final.of_gap front)
            · exact Or.inr ⟨_, _, _, _, splits.of_gap front⟩
        · exact Or.inr ⟨_, _, _, _, splits_of_solid ⟨by simpa using blank, comment⟩ rest⟩
termination_by text.length
decreasing_by
  · simp
  · exact shorter

/-- What the characters of a token at a position are. -/
def spelled (first : Char) (body : List Char) (position : Position) : Except LexError Lexeme :=
  if first = '(' then .ok .leftBracket
  else if first = ')' then .ok .rightBracket
  else if isIdentifierStart first then .ok (.ofName (String.ofList (first :: body)))
  else if Text.isDigit first then readLiteral (first :: body) position
  else .error (.unexpectedCharacter (String.singleton first) position)

/-- Whether a token ends in front of a text, so that the text does not continue it. -/
def Lexeme.EndsBefore (lexeme : Lexeme) (tail : List Char) : Prop :=
  match lexeme with
  | leftBracket => True
  | rightBracket => True
  | integer _ => ∀ character ∈ tail.head?, Text.isDigit character = false
  | _ => ∀ character ∈ tail.head?, isIdentifierPart character = false

theorem readLiteral_eq_ok {digits : List Char} {position : Position} {lexeme : Lexeme}
    (read : readLiteral digits position = .ok lexeme) :
    ∃ value : Nat, literalValue digits = .ok value ∧ value ≤ greatestLiteral ∧
      lexeme = .integer value := by
  unfold readLiteral at read
  split at read
  next => cases read
  next value valueOf =>
    split at read
    · cases read
    · cases read
      exact ⟨value, valueOf, by omega, rfl⟩

/-- What is made of a run of digits that is too long, of a number, and of a number that is too
great. -/
theorem readLiteral_cases {digits : List Char} (some_digits : digits ≠ []) (place : Position) :
    (digitLimit < digits.length → ∃ cause, readLiteral digits place = .error (.unreadable cause)) ∧
    (digits.length ≤ digitLimit → Nat.ofDigitChars 10 digits 0 ≤ greatestLiteral →
      readLiteral digits place = .ok (.integer (Nat.ofDigitChars 10 digits 0))) ∧
    (digits.length ≤ digitLimit → greatestLiteral < Nat.ofDigitChars 10 digits 0 →
      ∃ cause, readLiteral digits place = .error (.other cause place digits.length)) := by
  have not_empty : digits.isEmpty = false := by simpa using some_digits
  simp only [readLiteral, literalValue, not_empty, Bool.false_eq_true, if_false]
  refine ⟨fun long => ?_, fun short fits => ?_, fun short large => ?_⟩
  · simp only [long, if_true]
    exact ⟨_, rfl⟩
  · simp only [Nat.not_lt_of_le short, Nat.not_lt_of_le fits, if_false]
  · simp only [Nat.not_lt_of_le short, large, if_false, if_true]
    exact ⟨_, rfl⟩

/-- A run of identifier characters is a token that spells a name. -/
theorem spells_word {first : Char} {body : List Char} (start : isIdentifierStart first = true)
    (parts : ∀ character ∈ body, isIdentifierPart character = true) :
    IsSolid first ∧ (∀ character ∈ body, continuesToken first character = true) ∧
      ∀ position, spelled first body position = .ok (.ofName (String.ofList (first :: body))) := by
  have part := Cursor.isIdentifierPart_of_start start
  obtain ⟨left, right, -⟩ := ne_of_isIdentifierPart part
  refine ⟨isSolid_of_isIdentifierPart part, ?_, fun position => ?_⟩
  · rwa [continuesToken_of_start start]
  · simp only [spelled, left, right, start, if_false, if_true]

/-- A run of digits is a token that spells a literal. -/
theorem spells_digits {first : Char} {body : List Char}
    (digits : ∀ character ∈ first :: body, Text.isDigit character = true) :
    IsSolid first ∧ (∀ character ∈ body, continuesToken first character = true) ∧
      ∀ position, spelled first body position = readLiteral (first :: body) position := by
  simp only [List.mem_cons, forall_eq_or_imp] at digits
  have part := isIdentifierPart_of_isDigit digits.1
  obtain ⟨left, right, -⟩ := ne_of_isIdentifierPart part
  refine ⟨isSolid_of_isIdentifierPart part, ?_, fun position => ?_⟩
  · rw [continuesToken_of_digit digits.1]
    exact digits.2
  · simp only [spelled, left, right, isIdentifierStart_eq_false_of_isDigit digits.1, digits.1,
      Bool.false_eq_true, if_false, if_true]

theorem endsBefore_iff {first : Char} {body : List Char} {position : Position} {lexeme : Lexeme}
    (spelling : spelled first body position = .ok lexeme) (tail : List Char) :
    lexeme.EndsBefore tail ↔ ∀ character ∈ tail.head?, continuesToken first character = false := by
  unfold spelled at spelling
  split at spelling
  next left =>
    cases spelling
    simp [Lexeme.EndsBefore, continuesToken_of_single (Or.inl left)]
  split at spelling
  next right =>
    cases spelling
    simp [Lexeme.EndsBefore, continuesToken_of_single (Or.inr (Or.inl right))]
  split at spelling
  next start =>
    cases spelling
    rw [continuesToken_of_start start]
    unfold Lexeme.ofName
    split
    · exact Iff.rfl
    split
    · exact Iff.rfl
    · exact Iff.rfl
  split at spelling
  next digit =>
    obtain ⟨value, -, -, rfl⟩ := readLiteral_eq_ok spelling
    rw [continuesToken_of_digit digit]
    exact Iff.rfl
  next => cases spelling

/-- A run of characters ends where the class it belongs to is left. -/
theorem takeWhile_append_of_stop {inClass : Char → Bool} {body tail : List Char}
    (inside : ∀ character ∈ body, inClass character = true)
    (stop : ∀ character ∈ tail.head?, inClass character = false) :
    (body ++ tail).takeWhile inClass = body := by
  rw [List.takeWhile_append_of_pos inside]
  cases tail with
  | nil => simp
  | cons character tail => simp [stop character rfl]

namespace Cursor

theorem readToken_of_splits {cursor : Cursor} {text body tail : List Char} {first : Char}
    (rest : cursor.rest = first :: (body ++ tail)) (splits : Splits text [] first body tail) :
    cursor.readToken =
      ((spelled first body cursor.position).map fun lexeme => some ⟨lexeme, cursor.position⟩,
        cursor.skip (body.length + 1)) := by
  have run := takeWhile_append_of_stop splits.body splits.tail
  have alone : (∀ character, continuesToken first character = false) → body = [] := by
    intro none_continues
    rw [← run]
    cases body ++ tail with
    | nil => rfl
    | cons character later => simp [none_continues character]
  unfold readToken spelled
  simp only [rest]
  by_cases left : first = '('
  · simp [left, alone (continuesToken_of_single (Or.inl left)), Except.map]
  by_cases right : first = ')'
  · simp [right, alone (continuesToken_of_single (Or.inr (Or.inl right))), Except.map]
  by_cases start : isIdentifierStart first = true
  · rw [continuesToken_of_start start] at run
    have name : cursor.rest.takeWhile isIdentifierPart = first :: body := by
      rw [rest, List.takeWhile_cons_of_pos (isIdentifierPart_of_start start), run]
    simp [left, right, start, readName, name, Except.map]
  by_cases digit : Text.isDigit first = true
  · rw [continuesToken_of_digit digit] at run
    have digits : cursor.rest.takeWhile Text.isDigit = first :: body := by
      rw [rest, List.takeWhile_cons_of_pos digit, run]
    simp only [left, right, start, digit, if_true, if_false, readInteger, digits, List.length_cons,
      Bool.false_eq_true]
    cases readLiteral (first :: body) cursor.position <;> rfl
  · have single : isIdentifierStart first = false ∧ Text.isDigit first = false := by
      simpa using And.intro start digit
    simp [left, right, start, digit, alone (continuesToken_of_single (Or.inr (Or.inr single))),
      Except.map]

theorem skip_skip (cursor : Cursor) (first second : Nat) :
    (cursor.skip first).skip second = cursor.skip (first + second) := by
  simp only [skip, List.drop_drop, List.take_add, Position.past_append, List.length_append,
    Nat.add_assoc]

/-- Reading a text that begins with a gap and a token gives what the token's characters spell at
the position behind the gap, and consumes the gap and the token. -/
theorem next_of_splits {cursor : Cursor} {gap body tail : List Char} {first : Char}
    (splits : Splits cursor.rest gap first body tail) :
    cursor.next =
      ((spelled first body (cursor.position.past gap)).map fun lexeme =>
          some ⟨lexeme, cursor.position.past gap⟩,
        cursor.skip (gap.length + (body.length + 1))) := by
  have length : gapLength false cursor.rest = gap.length := by
    rw [splits.text_eq, gapLength_append splits.gap, gapLength_of_solid splits.solid]
    rfl
  have rest : cursor.skipGap.rest = first :: (body ++ tail) := by
    rw [skipGap, length, skip_rest, splits.text_eq, List.drop_left]
  have position : cursor.skipGap.position = cursor.position.past gap := by
    rw [skipGap, length]
    simp only [skip, splits.text_eq, List.take_left]
  have front : Splits (first :: (body ++ tail)) [] first body tail :=
    ⟨rfl, .nil, splits.solid, splits.body, splits.tail⟩
  rw [next, readToken_of_splits rest front, position, skipGap, length, skip_skip]

/-- Reading a gap that goes to the end of the text gives nothing and consumes all of it. -/
theorem next_of_finalGap {cursor : Cursor} (final : FinalGap cursor.rest) :
    cursor.next = (.ok none, cursor.finish) := by
  have gap : cursor.skipGap = cursor.finish := by
    rw [skipGap, gapLength_of_finalGap final, finish]
  rw [next, gap]
  simp [readToken, finish]

end Cursor
end DynLisp
