import DynLisp.Proofs.Lengths
import DynLisp.Proofs.Lines
import DynLisp.Proofs.Resumption
import DynLisp.Proofs.Spacing

/-!
# Highlighted words

An error about a token is placed at the word that the token was read from, or that was read and is
none, and it says how many characters there are to be highlighted.  A wrong character stands alone
and a number that is too large has all its digits counted.  A token that stands where it cannot is
counted by its usual spelling, and that has no zeros in front of a number.
`RaisedAbout.highlights_word` says that no other word is highlighted in part only.
-/

namespace DynLisp

namespace Notice

/-- Whether the characters of a text that a notice is about are a word. -/
def Highlights (notice : Notice) (text : String) (word : List Char) : Prop :=
  ∃ position, notice.position = some position ∧ notice.span = word.length ∧
    (Text.standingAt text.toList position).take notice.span = word

theorem span_unexpectedToken (text : String) (position : Option Position) :
    (unexpectedToken text position).span = max text.length 1 := by
  simp only [unexpectedToken, spanning]
  omega

theorem span_passedOn (notice : Notice) : notice.passedOn.span = max notice.span 1 := by
  simp only [passedOn, spanning]
  omega

end Notice

/-- Whether what is given for a word is a number, and the word has a zero in front of other
digits. -/
def IsPadded (given : Except LexError Token) (word : List Char) : Prop :=
  (∃ value position, given = .ok ⟨.integer value, position⟩) ∧ word.head? = some '0' ∧
    2 ≤ word.length

theorem not_isPadded_error (error : LexError) (word : List Char) :
    ¬ IsPadded (.error error) word := by
  rintro ⟨⟨value, position, impossible⟩, -⟩
  cases impossible

/-- The numeral of a number has as many digits as a run with its value, unless the run begins with a
zero that it could do without. -/
theorem length_repr_ofDigitChars {digits : List Char} (some_digits : digits ≠ [])
    (all : ∀ character ∈ digits, Text.isDigit character = true) :
    (Nat.ofDigitChars 10 digits 0).repr.length = digits.length ↔
      ¬ (digits.head? = some '0' ∧ 2 ≤ digits.length) := by
  constructor
  · rintro same ⟨zero, long⟩
    obtain ⟨first, later, rfl⟩ := List.exists_cons_of_ne_nil some_digits
    obtain rfl : first = '0' := by simpa using zero
    rw [List.length_cons] at same long
    -- The digits behind the zero have the same value, and that is too small for all of them.
    have value : Nat.ofDigitChars 10 ('0' :: later) 0 = Nat.ofDigitChars 10 later 0 := rfl
    have small := ofDigitChars_lt (fun character member => all character (.tail _ member)) 0
    rw [Nat.zero_add, Nat.one_mul] at small
    have fewer := (Nat.length_repr_le_iff (by omega)).mpr small
    rw [value] at same
    omega
  · intro unpadded
    obtain ⟨zeros, digits_eq⟩ := exists_zeros some_digits all
    cases zeros with
    | zero =>
        rw [← String.length_toList, Nat.toList_repr]
        exact congrArg List.length digits_eq.symm
    | succ zeros =>
        refine absurd ⟨?_, ?_⟩ unpadded
        · rw [digits_eq]
          rfl
        · have numeral := List.length_pos_iff.mpr
            (@Nat.toDigits_ne_nil (Nat.ofDigitChars 10 digits 0) 10)
          rw [digits_eq, List.length_append, List.length_replicate]
          omega

/-- What the usual spelling of a token says about the length of its word. -/
theorem Lexes.text_length_eq_iff {place : Position} {tail word : List Char} {token : Token}
    (lexes : Lexes place tail word (.ok token)) :
    token.text.length = word.length ↔ ¬ IsPadded (.ok token) word := by
  have of_spelled (same : token.text.toList = word)
      (no_number : ∀ value, token.lexeme ≠ .integer value) :
      token.text.length = word.length ↔ ¬ IsPadded (.ok token) word := by
    refine iff_of_true (by rw [← same, String.length_toList]) ?_
    rintro ⟨⟨value, position, number⟩, -⟩
    cases number
    exact no_number value rfl
  cases lexes with
  | leftBracket => exact of_spelled (show "(".toList = ['('] by decide) nofun
  | rightBracket => exact of_spelled (show ")".toList = [')'] by decide) nofun
  | ifKeyword => exact of_spelled rfl nofun
  | defineKeyword => exact of_spelled rfl nofun
  | identifier => exact of_spelled String.toList_ofList nofun
  | @integer first body digits ends short fits =>
      have number : ∃ value position, (Except.ok ⟨.integer (Nat.ofDigitChars 10 (first :: body) 0),
          place⟩ : Except LexError Token) = .ok ⟨.integer value, position⟩ := ⟨_, _, rfl⟩
      rw [IsPadded, and_iff_right number]
      exact length_repr_ofDigitChars (List.cons_ne_nil _ _) digits

/-- What a notice marks if it is about what is given for a word at some place: it begins with the
word, and it ends with it except for numbers with zeros in front. -/
structure Notice.Marks (notice : Notice) (place : Position) (given : Except LexError Token)
    (word : List Char) : Prop where
  /-- It begins where the word does. -/
  position : notice.position = some place
  /-- It does not go beyond the word. -/
  span_le : notice.span ≤ word.length
  /-- It ends with the word but for padded numbers. -/
  span_eq_iff : notice.span = word.length ↔ ¬ IsPadded given word

namespace Lexes

variable {place : Position} {tail word : List Char}

theorem length_pos {result : Except LexError Token} (lexes : Lexes place tail word result) :
    1 ≤ word.length := List.length_pos_iff.mpr lexes.ne_nil

/-- A word that is no token is marked as a whole. -/
theorem marks_of_notice {error : LexError} (lexes : Lexes place tail word (.error error))
    {notice : Notice} (tells : error.notice = .ok notice) :
    notice.Marks place (.error error) word := by
  have whole : notice.position = some place ∧ notice.span = word.length := by
    cases lexes with
    | tooLarge cause digits ends short large =>
        cases tells
        refine ⟨rfl, ?_⟩
        simp only [Notice.stopped, Notice.spanning, List.length_cons]
        omega
    | unreadable cause digits ends long => cases tells
    | unexpected left right no_name no_digit =>
        cases tells
        exact ⟨rfl, rfl⟩
  exact ⟨whole.1, Nat.le_of_eq whole.2, iff_of_true whole.2 (not_isPadded_error error word)⟩

theorem marks_unexpectedToken {token : Token} (lexes : Lexes place tail word (.ok token)) :
    (Notice.unexpectedToken token.text (some token.position)).Marks place (.ok token) word := by
  obtain ⟨least, most⟩ := lexes.text_length_le
  have span := Notice.span_unexpectedToken token.text (some token.position)
  rw [Nat.max_eq_left least] at span
  exact ⟨congrArg some lexes.position_eq, span ▸ most, span ▸ lexes.text_length_eq_iff⟩

end Lexes

/-- Passing a notice on moves no mark. -/
theorem Notice.Marks.passedOn {notice : Notice} {place : Position} {given : Except LexError Token}
    {word : List Char} (marks : notice.Marks place given word) (least : 1 ≤ notice.span) :
    notice.passedOn.Marks place given word := by
  have span : notice.passedOn.span = notice.span := by
    rw [Notice.span_passedOn, Nat.max_eq_left least]
  exact ⟨marks.position, span ▸ marks.span_le, span ▸ marks.span_eq_iff⟩

/-- What a parse error is about, if that is a token or a word that is none. -/
def ParseError.offender? : ParseError → Option (Except LexError Token)
  | unexpectedToken token => some (.ok token)
  | lexical error => some (.error error)
  | _ => none

theorem ParseError.marks_of_notice {error : ParseError} {given : Except LexError Token}
    (offender : error.offender? = some given) {place : Position} {tail word : List Char}
    (lexes : Lexes place tail word given) {notice : Notice} (tells : error.notice = .ok notice) :
    notice.Marks place given word := by
  cases error with
  | unexpectedToken token =>
      cases offender
      rw [lexes.notice_unexpectedToken] at tells
      cases tells
      exact lexes.marks_unexpectedToken
  | lexical error =>
      cases offender
      cases inner : error.notice with
      | error cause =>
          rw [ParseError.notice, inner] at tells
          cases tells
      | ok first =>
          rw [ParseError.notice, inner] at tells
          cases tells
          have marks := lexes.marks_of_notice inner
          refine marks.passedOn ?_
          rw [marks.span_eq_iff.mpr (not_isPadded_error error word)]
          exact lexes.length_pos
  | _ => cases offender

namespace Reader

/-- The call that fails has read what it complains of just before. -/
theorem consumes_offender {limit : Nat} {cursor : Cursor} {error : ParseError} {after : Reader}
    {given : Except LexError Token}
    (read : readExpr limit ⟨cursor, none⟩ = (.error error, after))
    (offender : error.offender? = some given) :
    ∃ front, cursor.Consumes (front ++ [(given, after.cursor)]) after.cursor := by
  obtain ⟨tokens, last, place, result, final, -, reads, ends, result_eq⟩ :=
    Grammar.readExpr_cases limit cursor
  rw [result_eq] at read
  cases ends with
  | textEnd nothing =>
      rcases atEnd_cases last with ended | ⟨expected, ended⟩ <;> rw [ended] at read <;> cases read
      cases offender
  | @unreadable _ failed fails =>
      cases read
      cases offender
      exact reads.exists_consumes_last (.error failed) fails
  | @refused _ token _ next step =>
      cases read
      rcases Expectation.step_eq_error step with rfl | rfl | ⟨culprit, rfl⟩
      · cases offender
        exact reads.exists_consumes_last (.ok token) next
      · cases offender
      · cases offender
  | finished next step => cases read

/-- What is left behind some calls is the end of what was there. -/
theorem resumed_tokens_suffix (limit : Nat) (cursor : Cursor) (calls : Nat) :
    (resumed limit ⟨cursor, none⟩ calls).cursor.tokens <:+ cursor.tokens := by
  induction calls generalizing cursor with
  | zero => exact List.suffix_refl _
  | succ calls ih =>
      obtain ⟨lexemes, result, after, read, consumes, -⟩ := readExpr_consumes limit cursor
      rw [resumed_of_readExpr read, consumes.tokens_eq]
      exact (ih after).trans (List.suffix_append _ _)

/-- What a failing call complains of is among all that is read from the text. -/
theorem offender_mem {limit : Nat} {cursor : Cursor} {calls : Nat} {error : ParseError}
    {after : Reader} {given : Except LexError Token}
    (read : (resumed limit ⟨cursor, none⟩ calls).readExpr limit = (.error error, after))
    (offender : error.offender? = some given) : (given, after.cursor) ∈ cursor.tokens := by
  have none_kept := resumed_peeked limit (show (Reader.mk cursor none).peeked = none from rfl) calls
  have left := resumed_tokens_suffix limit cursor calls
  cases place : resumed limit ⟨cursor, none⟩ calls with
  | mk place peeked =>
      rw [place] at read none_kept left
      cases none_kept
      obtain ⟨front, consumes⟩ := consumes_offender read offender
      refine left.subset ?_
      rw [consumes.tokens_eq]
      simp

end Reader

/-- An error is raised about what has been given for a word of a text: a word is no token, or in the
reading of an expression a token stands where it cannot or a word is none, however many calls for
expressions there have been before. -/
inductive RaisedAbout (limit : Nat) (text : String) :
    Except LexError Token → Cursor → Notice → Prop
  /-- Reading the text token by token comes upon the error. -/
  | lexing {error : LexError} {after : Cursor} {notice : Notice}
      (member : (.error error, after) ∈ (Cursor.ofText text).tokens)
      (tells : error.notice = .ok notice) : RaisedAbout limit text (.error error) after notice
  /-- Reading expressions comes upon the error. -/
  | reading {calls : Nat} {error : ParseError} {after : Reader} {given : Except LexError Token}
      {notice : Notice}
      (read : ((Reader.ofText text).resumed limit calls).readExpr limit = (.error error, after))
      (offender : error.offender? = some given) (tells : error.notice = .ok notice) :
      RaisedAbout limit text given after.cursor notice

/-- An error about a token or about a word that is none highlights that word or a front part of it.
It is the whole word, unless this is a number with a zero in front that is a token where it cannot
be. -/
theorem RaisedAbout.highlights_word {limit : Nat} {text : String} {given : Except LexError Token}
    {after : Cursor} {notice : Notice} (raised : RaisedAbout limit text given after notice) :
    ∃ front word tail highlighted, Cursor.ReadAt text front word tail given after ∧
      notice.Highlights text highlighted ∧ highlighted <+: word ∧
      (highlighted = word ↔ ¬ IsPadded given word) := by
  obtain ⟨front, word, tail, read, marks⟩ : ∃ front word tail,
      Cursor.ReadAt text front word tail given after ∧ notice.Marks (.behind front) given word := by
    cases raised with
    | lexing member tells =>
        obtain ⟨front, word, tail, read⟩ := Cursor.exists_readAt member
        exact ⟨front, word, tail, read, read.lexes.marks_of_notice tells⟩
    | reading failing offender tells =>
        obtain ⟨front, word, tail, read⟩ :=
          Cursor.exists_readAt (Reader.offender_mem failing offender)
        exact ⟨front, word, tail, read, ParseError.marks_of_notice offender read.lexes tells⟩
  refine ⟨front, word, tail, word.take notice.span, read, ⟨_, marks.position, ?_, ?_⟩,
    List.take_prefix _ _, ?_⟩
  · rw [List.length_take, Nat.min_eq_left marks.span_le]
  · rw [read.text_eq, Text.standingAt_behind, List.take_append_of_le_length marks.span_le]
  · rw [← marks.span_eq_iff, List.take_eq_self_iff]
    exact ⟨fun whole => Nat.le_antisymm marks.span_le whole, fun same => Nat.le_of_eq same.symm⟩

/-- No form begins with a number. -/
theorem RaisedAbout.of_number_head {limit : Nat} (room : 0 < limit) {text : String} {value : Int}
    (literal : isLiteral value = true) {start position : Position} {middle after : Cursor}
    (bracket : (Cursor.ofText text).next = (.ok (some ⟨.leftBracket, start⟩), middle))
    (number : middle.next = (.ok (some ⟨.integer value, position⟩), after)) :
    RaisedAbout limit text (.ok ⟨.integer value, position⟩) after
      (.unexpectedToken (Lexeme.integer value).text (some position)) := by
  have opened : (Expectation.expression []).step limit ⟨.leftBracket, start⟩ =
      .ok (.reading (.head start [])) := if_pos room
  have read : ((Reader.ofText text).resumed limit 0).readExpr limit =
      (.error (.unexpectedToken ⟨.integer value, position⟩), ⟨after, none⟩) := by
    change Reader.readExpr limit ⟨.ofText text, none⟩ = _
    rw [Reader.readExpr_eq, Reader.readFrom_of_token _ bracket, opened, Reader.proceed,
      Reader.readFrom_of_token _ number]
    rfl
  refine .reading read rfl ?_
  rw [ParseError.notice, show (Lexeme.integer value).textFault? = none from
    numeralFault?_of_isLiteral literal]
  rfl

/-- The number is a zero that stands alone. -/
theorem RaisedAbout.highlights_word_zero :
    let given : Except LexError Token := .ok ⟨.integer 0, ⟨1, 2⟩⟩
    let notice := Notice.unexpectedToken "0" (some ⟨1, 2⟩)
    RaisedAbout 9 "(0" given ⟨[], ⟨1, 3⟩, 2⟩ notice ∧
      ∃ front word tail highlighted, Cursor.ReadAt "(0" front word tail given ⟨[], ⟨1, 3⟩, 2⟩ ∧
        notice.Highlights "(0" highlighted ∧ highlighted <+: word ∧
        (highlighted = word ↔ ¬ IsPadded given word) := by
  intro given notice
  have bracket : (Cursor.ofText "(0").next =
      (.ok (some ⟨.leftBracket, ⟨1, 1⟩⟩), ⟨['0'], ⟨1, 2⟩, 1⟩) := by
    decide +kernel
  have raised : RaisedAbout 9 "(0" given ⟨[], ⟨1, 3⟩, 2⟩ notice :=
    .of_number_head (by decide) (by decide) bracket (by decide +kernel)
  exact ⟨raised, raised.highlights_word⟩

/-- Of the number `007` just the first zero is highlighted, where no number can stand. -/
theorem RaisedAbout.highlights_first_zero :
    let given : Except LexError Token := .ok ⟨.integer 7, ⟨1, 2⟩⟩
    let notice := Notice.unexpectedToken "7" (some ⟨1, 2⟩)
    RaisedAbout 9 "(007" given ⟨[], ⟨1, 5⟩, 4⟩ notice ∧
      Cursor.ReadAt "(007" ['('] "007".toList [] given ⟨[], ⟨1, 5⟩, 4⟩ ∧
      notice.Highlights "(007" ['0'] := by
  intro given notice
  have bracket : (Cursor.ofText "(007").next =
      (.ok (some ⟨.leftBracket, ⟨1, 1⟩⟩), ⟨"007".toList, ⟨1, 2⟩, 1⟩) := by
    decide +kernel
  have raised : RaisedAbout 9 "(007" given ⟨[], ⟨1, 5⟩, 4⟩ notice :=
    .of_number_head (by decide) (by decide) bracket (by decide +kernel)
  refine ⟨raised, ⟨by decide +kernel, rfl, ?_, rfl, ?_⟩, ⟨⟨1, 2⟩, rfl, rfl, by decide +kernel⟩⟩
  · exact .integer (List.all_eq_true.mp (by decide)) (by simp) (by decide) (by decide)
  · rintro left ⟨⟩ right - digit
    cases digit

end DynLisp
