import DynLisp.Proofs.Division
import DynLisp.Proofs.RoundTrip
import Mathlib.Data.List.Induction

/-!
# Lexemes and the space between them

What a text is read as does not depend on its layout.  A sequence of lexemes can be written down
with any gaps between them, and with no gap where two neighbours do not join: a word joins a word or
a number behind it, and a number joins a number.  `Spaced` lists the texts that come of it, and
`Cursor.reads_iff_spaced` says that just these are read as the sequence.
-/

namespace DynLisp
namespace Lexeme

/-- The ways to write a lexeme. -/
inductive Written : Lexeme → List Char → Prop
  /-- An opening bracket. -/
  | leftBracket : Written leftBracket ['(']
  /-- A closing bracket. -/
  | rightBracket : Written rightBracket [')']
  /-- The one keyword. -/
  | ifKeyword : Written ifKeyword "if".toList
  /-- The other keyword. -/
  | defineKeyword : Written defineKeyword "define".toList
  /-- An identifier is written as its name. -/
  | identifier {name : String} (legal : isName name = true) : Written (identifier name) name.toList
  /-- A number is written in decimal, with any zeros in front for which there is room. -/
  | integer {value : Nat} (zeros : Nat) (fits : value ≤ greatestLiteral)
      (short : zeros + (Nat.toDigits 10 value).length ≤ digitLimit) :
      Written (integer value) (List.replicate zeros '0' ++ Nat.toDigits 10 value)

/-- Whether a lexeme is an identifier or a keyword. -/
def isWord : Lexeme → Bool
  | identifier _ => true
  | ifKeyword => true
  | defineKeyword => true
  | _ => false

/-- Whether a lexeme is a number. -/
def isNumber : Lexeme → Bool
  | integer _ => true
  | _ => false

/-- Whether a lexeme and the one behind it are read as something else if no gap is between them. -/
def joins (left right : Lexeme) : Bool :=
  left.isWord && (right.isWord || right.isNumber) || left.isNumber && right.isNumber

theorem isWord_ofName (name : String) :
    (ofName name).isWord = true ∧ (ofName name).isNumber = false := by
  unfold ofName
  split
  · exact ⟨rfl, rfl⟩
  split <;> exact ⟨rfl, rfl⟩

end Lexeme

theorem toDigits_of_isDigit {digit : Char} (is_digit : Text.isDigit digit = true) :
    digit.toNat - '0'.toNat < 10 ∧ Nat.toDigits 10 (digit.toNat - '0'.toNat) = [digit] := by
  obtain ⟨least, most⟩ := (Text.isDigit_iff digit).mp is_digit
  obtain ⟨value, small, code⟩ : ∃ value, value < 10 ∧ digit.toNat = value + 48 :=
    ⟨digit.toNat - 48, by omega, by omega⟩
  have same : digit = Char.ofNat (value + 48) := by rw [← code, Char.ofNat_toNat]
  subst same
  have each : ∀ value < 10, (Char.ofNat (value + 48)).toNat - '0'.toNat < 10 ∧
      Nat.toDigits 10 ((Char.ofNat (value + 48)).toNat - '0'.toNat) =
        [Char.ofNat (value + 48)] := by
    decide
  exact each value small

/-- A run of digits is the decimal numeral of its value with zeros in front. -/
theorem exists_zeros {digits : List Char} (some_digits : digits ≠ [])
    (all : ∀ character ∈ digits, Text.isDigit character = true) :
    ∃ zeros, digits =
      List.replicate zeros '0' ++ Nat.toDigits 10 (Nat.ofDigitChars 10 digits 0) := by
  induction digits using List.reverseRecOn with
  | nil => exact absurd rfl some_digits
  | append_singleton front digit ih =>
      obtain ⟨small, numeral⟩ := toDigits_of_isDigit (all digit (by simp))
      have value : Nat.ofDigitChars 10 (front ++ [digit]) 0 =
          10 * Nat.ofDigitChars 10 front 0 + (digit.toNat - '0'.toNat) := by
        rw [Nat.ofDigitChars_append, Nat.ofDigitChars_cons, Nat.ofDigitChars_nil]
      rw [value]
      cases front with
      | nil =>
          rw [Nat.ofDigitChars_nil, Nat.mul_zero, Nat.zero_add, numeral]
          exact ⟨0, rfl⟩
      | cons first front =>
          obtain ⟨zeros, front_eq⟩ := ih (by simp) fun character member =>
            all character (List.mem_append_left _ member)
          -- The digits in front are zeros only, or they begin the numeral.
          rcases Nat.eq_zero_or_pos (Nat.ofDigitChars 10 (first :: front) 0) with zero | positive
          · rw [zero, Nat.toDigits_zero, ← List.replicate_succ'] at front_eq
            exact ⟨zeros + 1, by rw [zero, Nat.mul_zero, Nat.zero_add, numeral, front_eq]⟩
          · have longer := Nat.toDigits_append_toDigits (by decide) positive small
            rw [numeral] at longer
            exact ⟨zeros, by rw [← longer, ← List.append_assoc, ← front_eq]⟩

namespace Lexeme

/-- What is written for a lexeme is a token that spells it. -/
theorem Written.spells {lexeme : Lexeme} {characters : List Char}
    (written : lexeme.Written characters) :
    ∃ first body, characters = first :: body ∧ IsSolid first ∧
      (∀ character ∈ body, continuesToken first character = true) ∧
      ∀ position, spelled first body position = .ok lexeme := by
  cases written with
  | leftBracket => exact ⟨'(', [], rfl, ⟨by decide, by decide⟩, by simp, fun _ => rfl⟩
  | rightBracket => exact ⟨')', [], rfl, ⟨by decide, by decide⟩, by simp, fun _ => rfl⟩
  | ifKeyword =>
      have parts : "f".toList.all isIdentifierPart = true := by decide +kernel
      exact ⟨'i', "f".toList, rfl, spells_word (by decide +kernel) (List.all_eq_true.mp parts)⟩
  | defineKeyword =>
      have parts : "efine".toList.all isIdentifierPart = true := by decide +kernel
      exact ⟨'d', "efine".toList, rfl, spells_word (by decide +kernel) (List.all_eq_true.mp parts)⟩
  | @identifier name legal =>
      unfold isName at legal
      split at legal
      next => cases legal
      next first body characters =>
        simp only [Bool.and_eq_true, List.all_eq_true, bne_iff_ne] at legal
        obtain ⟨⟨⟨start, parts⟩, no_if⟩, no_define⟩ := legal
        have word := spells_word start parts
        rw [← characters, String.ofList_toList, ofName, if_neg no_if, if_neg no_define] at word
        exact ⟨first, body, characters, word⟩
  | @integer value zeros fits short =>
      have digits : ∀ digit ∈ List.replicate zeros '0' ++ Nat.toDigits 10 value,
          Text.isDigit digit = true := by
        intro digit member
        rcases List.mem_append.mp member with zero | member
        · rw [List.eq_of_mem_replicate zero]
          rfl
        · exact isDigit_of_mem_toDigits member
      have total : Nat.ofDigitChars 10 (List.replicate zeros '0' ++ Nat.toDigits 10 value) 0 =
          value := by
        rw [Nat.ofDigitChars_append, Nat.ofDigitChars_replicate_zero, Nat.mul_zero,
          Nat.ofDigitChars_ten_toDigits]
      have length : (List.replicate zeros '0' ++ Nat.toDigits 10 value).length ≤ digitLimit := by
        rwa [List.length_append, List.length_replicate]
      have some_digits : List.replicate zeros '0' ++ Nat.toDigits 10 value ≠ [] := by simp
      obtain ⟨first, body, characters⟩ := List.exists_cons_of_ne_nil some_digits
      rw [characters] at digits total length some_digits ⊢
      obtain ⟨solid, continues, spelling⟩ := spells_digits digits
      refine ⟨first, body, rfl, solid, continues, fun position => ?_⟩
      rw [spelling, (readLiteral_cases some_digits position).2.1 length (by rwa [total]), total]

/-- The characters of a token are one of the ways to write what they spell. -/
theorem written_of_spelled {first : Char} {body : List Char} {position : Position} {lexeme : Lexeme}
    (inside : ∀ character ∈ body, continuesToken first character = true)
    (spelling : spelled first body position = .ok lexeme) : lexeme.Written (first :: body) := by
  have lexes := lexes_of_spelled position inside
    (show ∀ character ∈ ([] : List Char).head?, continuesToken first character = false from nofun)
  have legal := isLegal_of_spelled inside spelling
  rw [spelling] at lexes
  generalize characters_eq : first :: body = characters at lexes ⊢
  generalize token_eq : (Except.ok lexeme).map (fun lexeme => Token.mk lexeme position) = token
    at lexes
  cases lexes <;> cases token_eq
  case leftBracket => exact .leftBracket
  case rightBracket => exact .rightBracket
  case ifKeyword => exact .ifKeyword
  case defineKeyword => exact .defineKeyword
  case identifier first body _ _ _ _ _ =>
    have written := Written.identifier legal
    rwa [String.toList_ofList] at written
  case integer first body digits _ short fits =>
    obtain ⟨zeros, numeral⟩ := exists_zeros (List.cons_ne_nil first body) digits
    have length := congrArg List.length numeral
    rw [List.length_append, List.length_replicate] at length
    have written := Written.integer zeros fits (length ▸ short)
    rwa [← numeral] at written

/-- The first character of a token tells what sort of lexeme it is. -/
theorem sort_of_spelled {first : Char} {body : List Char} {position : Position} {lexeme : Lexeme}
    (spelling : spelled first body position = .ok lexeme) :
    isIdentifierPart first = (lexeme.isWord || lexeme.isNumber) ∧
      Text.isDigit first = lexeme.isNumber := by
  unfold spelled at spelling
  split at spelling
  next left =>
    cases spelling
    subst left
    decide +kernel
  split at spelling
  next right =>
    cases spelling
    subst right
    decide +kernel
  split at spelling
  next start =>
    cases spelling
    obtain ⟨word, no_number⟩ := isWord_ofName (String.ofList (first :: body))
    have no_digit : Text.isDigit first = false := by
      rw [Bool.eq_false_iff]
      intro digit
      rw [isIdentifierStart_eq_false_of_isDigit digit] at start
      cases start
    rw [word, no_number, no_digit, Cursor.isIdentifierPart_of_start start]
    exact ⟨rfl, rfl⟩
  split at spelling
  next digit =>
    obtain ⟨value, -, -, rfl⟩ := readLiteral_eq_ok spelling
    exact ⟨isIdentifierPart_of_isDigit digit, digit⟩
  next => cases spelling

/-- A lexeme ends in front of a token exactly if it does not join it. -/
theorem endsBefore_token_iff (earlier : Lexeme) {first : Char} {body : List Char}
    {position : Position} {lexeme : Lexeme} (spelling : spelled first body position = .ok lexeme)
    (tail : List Char) :
    earlier.EndsBefore (first :: body ++ tail) ↔ earlier.joins lexeme = false := by
  obtain ⟨part, digit⟩ := sort_of_spelled spelling
  cases earlier <;> simp [EndsBefore, joins, isWord, isNumber, part, digit]

theorem endsBefore_of_apart (lexeme : Lexeme) {tail : List Char} (apart : Apart tail) :
    lexeme.EndsBefore tail := by
  cases lexeme with
  | leftBracket => trivial
  | rightBracket => trivial
  | integer value =>
      intro character head
      have no_part := apart character head
      simp only [isIdentifierPart, Bool.or_eq_false_iff] at no_part
      exact no_part.1
  | _ => exact apart

end Lexeme

theorem apart_comment (tail : List Char) : Apart (';' :: tail) := by
  have mark : isIdentifierPart ';' = false := by decide +kernel
  simpa [Apart] using mark

/-- A gap ends every token in front of it, unless there is none. -/
theorem Gap.apart {gap tail : List Char} (closed : Gap gap) (apart : gap = [] → Apart tail) :
    Apart (gap ++ tail) := by
  cases closed with
  | nil => exact apart rfl
  | blank blank => exact apart_blank blank _
  | comment inside => exact apart_comment _

theorem FinalGap.apart {gap : List Char} (final : FinalGap gap) : Apart gap := by
  cases final with
  | closed closed => simpa using closed.apart fun _ => apart_nil
  | @comment front body closed inside => exact closed.apart fun _ => apart_comment body

/-- The texts that are made of lexemes with gaps in front of them, between them and behind them.  If
a lexeme stands in front of the text, then the gap in front of the first lexeme can be left out only
if the two do not join. -/
inductive Spaced : Option Lexeme → List Lexeme → List Char → Prop
  /-- The gap behind the last lexeme, which may end in a comment. -/
  | last (earlier : Option Lexeme) {gap : List Char} (final : FinalGap gap) : Spaced earlier [] gap
  /-- A gap, a lexeme, and more lexemes behind it. -/
  | cons {earlier : Option Lexeme} {lexeme : Lexeme} {lexemes : List Lexeme}
      {gap characters tail : List Char} (closed : Gap gap)
      (apart : gap = [] → ∀ other ∈ earlier, other.joins lexeme = false)
      (written : lexeme.Written characters) (later : Spaced (some lexeme) lexemes tail) :
      Spaced earlier (lexeme :: lexemes) (gap ++ (characters ++ tail))

/-- A lexeme ends in front of the text that follows it. -/
theorem Spaced.endsBefore {earlier : Lexeme} {lexemes : List Lexeme} {text : List Char}
    (spaced : Spaced (some earlier) lexemes text) : earlier.EndsBefore text := by
  cases spaced with
  | last _ final => exact earlier.endsBefore_of_apart final.apart
  | @cons _ lexeme lexemes gap characters tail closed apart written later =>
      by_cases no_gap : gap = []
      · subst no_gap
        obtain ⟨first, body, rfl, -, -, spelling⟩ := written.spells
        exact (earlier.endsBefore_token_iff (spelling .start) tail).mpr (apart rfl earlier rfl)
      · exact earlier.endsBefore_of_apart (closed.apart fun none => absurd none no_gap)

/-- The lexemes of a text with gaps are read one after the other up to its end. -/
theorem Spaced.exists_reads {earlier : Option Lexeme} {lexemes : List Lexeme} {text : List Char}
    (spaced : Spaced earlier lexemes text) {cursor : Cursor} (rest : cursor.rest = text) :
    ∃ tokens after, cursor.Reads tokens after ∧ tokens.map Token.lexeme = lexemes ∧
      after.next.1 = .ok none := by
  induction spaced generalizing cursor with
  | last _ final =>
      exact ⟨[], cursor, .nil cursor, rfl, (cursor.next_eq_none_iff).mpr (rest ▸ final)⟩
  | @cons _ lexeme lexemes gap characters tail closed _ written later ih =>
      obtain ⟨first, body, rfl, solid, inside, spelling⟩ := written.spells
      have splits : Splits cursor.rest gap first body tail :=
        { text_eq := rest
          gap := closed
          solid := solid
          body := inside
          tail := (endsBefore_iff (spelling .start) tail).mp later.endsBefore }
      obtain ⟨position, middle, read, middle_rest⟩ := Cursor.exists_token splits spelling
      obtain ⟨tokens, after, reads, lexemes_eq, nothing⟩ := ih middle_rest
      exact ⟨_, after, .cons read reads, by rw [List.map_cons, lexemes_eq], nothing⟩

/-- A text that is read to its end without an error is made of the lexemes that are read. -/
theorem Spaced.of_reads {cursor after : Cursor} {tokens : List Token}
    (reads : cursor.Reads tokens after) (nothing : after.next.1 = .ok none)
    {earlier : Option Lexeme} (ends : ∀ other ∈ earlier, other.EndsBefore cursor.rest) :
    Spaced earlier (tokens.map Token.lexeme) cursor.rest := by
  induction reads generalizing earlier with
  | nil cursor => exact .last earlier ((cursor.next_eq_none_iff).mp nothing)
  | @cons cursor middle after token tokens read later ih =>
      obtain ⟨gap, first, body, splits, spelling, -⟩ := Cursor.next_eq_token read
      have text_eq : cursor.rest = gap ++ (first :: body ++ middle.rest) := splits.text_eq
      have behind : Spaced (some token.lexeme) (tokens.map Token.lexeme) middle.rest := by
        refine ih nothing ?_
        rintro _ ⟨⟩
        exact (endsBefore_iff spelling middle.rest).mpr splits.tail
      rw [text_eq] at ends ⊢
      refine .cons splits.gap ?_ (Lexeme.written_of_spelled splits.body spelling) behind
      rintro rfl other member
      exact (other.endsBefore_token_iff spelling middle.rest).mp (ends other member)

/-- Reading does not depend on layout.  A text is read as some lexemes one after the other, and then
gives nothing more, exactly if it is made of these lexemes, however they are written, with any gaps
between them, and no gap only where two neighbours do not join. -/
theorem Cursor.reads_iff_spaced (text : String) (lexemes : List Lexeme) :
    (∃ tokens after, (Cursor.ofText text).Reads tokens after ∧ tokens.map Token.lexeme = lexemes ∧
      after.next.1 = .ok none) ↔ Spaced none lexemes text.toList := by
  constructor
  · rintro ⟨tokens, after, reads, rfl, nothing⟩
    exact Spaced.of_reads reads nothing nofun
  · intro spaced
    exact spaced.exists_reads rfl

-- A number and a word behind it need no gap, and the comment at the end is not ended.
example : Spaced none [.integer 12, .identifier "a2"] "012a2;(".toList := by
  have comment : FinalGap (([] : List Char) ++ ';' :: ['(']) := .comment .nil (by decide)
  have name : Spaced (some (.integer 12)) [.identifier "a2"] ([] ++ ("a2".toList ++ [';', '('])) :=
    .cons .nil (by decide) (.identifier (by decide +kernel)) (.last _ comment)
  exact .cons .nil (by decide) (.integer 1 (by decide) (by decide)) name

end DynLisp
