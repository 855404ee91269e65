import DynLisp.Proofs.Code
import DynLisp.Proofs.Composition
import DynLisp.Proofs.Sources

/-!
# Counting brackets

Brackets are counted in a text that is cut into lines and rid of its comments, while the reader
meets them as tokens.  Both counts agree: with every token that is taken in, the brackets that the
rest of the text leaves open and the forms that are open make up the same number.  A text whose
brackets are not unclosed is therefore never complained about for its end, and a text that is run
without a failure has no unclosed brackets.
-/

namespace DynLisp

/-- By how much a character changes the number of open brackets. -/
def bracketWeight (character : Char) : Int :=
  if character = '(' then 1 else if character = ')' then -1 else 0

/-- How many more brackets a text opens than it closes, where `comment` says whether the text begins
inside a comment. -/
def openBrackets (comment : Bool) : List Char → Int
  | [] => 0
  | character :: rest =>
      if character = '\n' then openBrackets false rest
      else if comment || character == ';' then openBrackets true rest
      else bracketWeight character + openBrackets false rest

/-- How many more brackets some lines open than they close. -/
def lineBrackets (lines : List (List Char)) : Int := countIn lines '(' - countIn lines ')'

/-- A text opens as many brackets more than it closes as its code has more of the one kind. -/
theorem openBrackets_eq (comment : Bool) (text : List Char) :
    openBrackets comment text =
      (codeOf comment text).count '(' - (codeOf comment text).count ')' := by
  fun_induction openBrackets comment text with
  | case1 comment => rfl
  | case2 comment rest ih => simp [codeOf, ih]
  | case3 comment character rest feed inside ih =>
      simp only [codeOf, feed, inside, ih, if_true, if_false]
  | case4 comment character rest feed inside ih =>
      simp only [codeOf, feed, inside, ih, if_false, bracketWeight]
      by_cases left : character = '('
      · subst left
        simp
        omega
      by_cases right : character = ')'
      · subst right
        simp
        omega
      · simp [left, right]

theorem lineBrackets_withoutComments (text : List Char) :
    lineBrackets (withoutComments text) = openBrackets false text := by
  rw [openBrackets_eq, lineBrackets, countIn, countIn, (flatten_withoutComments text).1]

theorem isUnclosed_iff (text : String) :
    isUnclosed text = true ↔ 0 < openBrackets false text.toList := by
  rw [← lineBrackets_withoutComments]
  simp only [isUnclosed, lineBrackets, decide_eq_true_eq]
  omega

theorem ne_empty_of_isUnclosed {text : String} (unclosed : isUnclosed text = true) : text ≠ "" := by
  rintro rfl
  cases unclosed

theorem openBrackets_gap {gap : List Char} (closed : Gap gap) (rest : List Char) :
    openBrackets false (gap ++ rest) = openBrackets false rest := by
  rw [openBrackets_eq, openBrackets_eq, count_codeOf_gap closed (by decide),
    count_codeOf_gap closed (by decide)]

theorem openBrackets_finalGap {text : List Char} (final : FinalGap text) :
    openBrackets false text = 0 := by
  rw [openBrackets_eq, count_codeOf_finalGap final (by decide),
    count_codeOf_finalGap final (by decide)]
  rfl

/-- By how much a lexeme changes the number of open brackets. -/
def Lexeme.weight : Lexeme → Int
  | leftBracket => 1
  | rightBracket => -1
  | _ => 0

theorem Lexeme.weight_ofName (name : String) : (ofName name).weight = 0 := by
  unfold ofName
  split
  · rfl
  split <;> rfl

theorem weight_of_spelled {first : Char} {body : List Char} {position : Position} {lexeme : Lexeme}
    (spelling : spelled first body position = .ok lexeme) :
    lexeme.weight = bracketWeight first := by
  unfold spelled at spelling
  split at spelling
  next left =>
    cases spelling
    simp [Lexeme.weight, bracketWeight, left]
  split at spelling
  next right =>
    cases spelling
    simp [Lexeme.weight, bracketWeight, right]
  split at spelling
  next left right start =>
    cases spelling
    simp [Lexeme.weight_ofName, bracketWeight, left, right]
  split at spelling
  next left right start digit =>
    obtain ⟨value, -, -, rfl⟩ := readLiteral_eq_ok spelling
    simp [Lexeme.weight, bracketWeight, left, right]
  next => cases spelling

theorem openBrackets_word {body : List Char}
    (inside : ∀ character ∈ body, isIdentifierPart character = true) (rest : List Char) :
    openBrackets false (body ++ rest) = openBrackets false rest := by
  have solid : ∀ character ∈ body, IsSolid character := fun character member =>
    isSolid_of_isIdentifierPart (inside character member)
  have no_left : '(' ∉ body := Lexeme.IsBracket.left.apart.2 inside
  have no_right : ')' ∉ body := Lexeme.IsBracket.right.apart.2 inside
  rw [openBrackets_eq, openBrackets_eq, codeOf_append solid, List.count_append, List.count_append,
    List.count_eq_zero_of_not_mem no_left, List.count_eq_zero_of_not_mem no_right, Nat.zero_add,
    Nat.zero_add]

/-- Reading a token takes its weight from the brackets that the text leaves open. -/
theorem openBrackets_next {cursor after : Cursor} {token : Token}
    (read : cursor.next = (.ok (some token), after)) :
    openBrackets false cursor.rest = token.lexeme.weight + openBrackets false after.rest := by
  obtain ⟨gap, first, body, splits, spelling, -⟩ := Cursor.next_eq_token read
  have feed : first ≠ '\n' := by
    rintro rfl
    exact absurd splits.solid.1 (by decide)
  have inside : ∀ character ∈ body, isIdentifierPart character = true := fun character member =>
    isIdentifierPart_of_continuesToken (splits.body character member)
  rw [splits.text_eq, openBrackets_gap splits.gap, weight_of_spelled spelling]
  simp [openBrackets, feed, splits.solid.2, openBrackets_word inside]

/-- The number of forms that are open when something is expected. -/
def Expectation.depth : Expectation → Int
  | expression waiting => waiting.length
  | head _ waiting => waiting.length + 1
  | close _ waiting => waiting.length + 1

/-- The number of forms that are open after a token. -/
def Progress.depth : Progress → Int
  | finished _ => 0
  | reading expectation => expectation.depth

theorem deliver_depth {tree : Expr} {waiting : List Form} {progress : Progress}
    (delivered : deliver tree waiting = .ok progress) : progress.depth = waiting.length := by
  cases waiting with
  | nil =>
      cases delivered
      rfl
  | cons form waiting =>
      cases form with
      | target position =>
          obtain ⟨name, parameters, -, rfl⟩ := deliver_target delivered
          rfl
      | _ =>
          cases delivered
          rfl

/-- Every token that is taken in adds its weight to the number of open forms. -/
theorem Expectation.step_depth {limit : Nat} {expectation : Expectation} {token : Token}
    {progress : Progress} (step : expectation.step limit token = .ok progress) :
    progress.depth = expectation.depth + token.lexeme.weight := by
  cases takes_of_step step with
  | integer delivered => simpa [depth, Lexeme.weight] using deliver_depth delivered
  | identifier delivered => simpa [depth, Lexeme.weight] using deliver_depth delivered
  | opening position waiting => rfl
  | called delivered =>
      rw [deliver_depth delivered]
      simp only [depth, Lexeme.weight, List.length_cons]
      omega
  | call start position name waiting => simp [Progress.depth, depth, Lexeme.weight]
  | conditional start position waiting => simp [Progress.depth, depth, Lexeme.weight]
  | define start position waiting => simp [Progress.depth, depth, Lexeme.weight]
  | closing delivered =>
      rw [deliver_depth delivered]
      simp only [depth, Lexeme.weight]
      omega

/-- While tokens are taken in, what the rest of the text leaves open and the open forms make up the
same number. -/
theorem Expectation.Advances.openBrackets_eq {limit : Nat} {expectation last : Expectation}
    {tokens : List Token} (advances : expectation.Advances limit tokens last)
    {cursor place : Cursor} (reads : cursor.Reads tokens place) :
    openBrackets false cursor.rest + expectation.depth =
      openBrackets false place.rest + last.depth := by
  induction advances generalizing cursor with
  | nil expectation =>
      cases reads
      rfl
  | cons step later ih =>
      cases reads with
      | cons read reads =>
          have taken := openBrackets_next read
          have added := step_depth step
          have kept := ih reads
          simp only [Progress.depth] at added
          omega

theorem Expectation.depth_pos_of_atEnd {expectation : Expectation} {error : ParseError}
    (atEnd : expectation.atEnd = .error error) : 0 < expectation.depth := by
  unfold Expectation.atEnd at atEnd
  split at atEnd
  · cases atEnd
  · simp only [depth, List.length_cons]
    omega
  · simp only [depth]
    omega
  · simp only [depth]
    omega

namespace Reader

/-- An expression closes all the brackets that it opens. -/
theorem openBrackets_of_readExpr {limit : Nat} {cursor : Cursor} {tree : Expr} {after : Reader}
    (read : readExpr limit ⟨cursor, none⟩ = (.ok (some tree), after)) :
    openBrackets false cursor.rest = openBrackets false after.cursor.rest := by
  obtain ⟨tokens, last, place, result, final, advances, reads, ends, result_eq⟩ :=
    readExpr_cases limit cursor
  have kept := advances.openBrackets_eq reads
  have nothing_open : (Expectation.expression []).depth = 0 := rfl
  rw [result_eq] at read
  cases ends with
  | textEnd nothing =>
      rcases atEnd_cases last with ended | ⟨expected, ended⟩ <;> simp [ended] at read
  | unreadable fails => cases read
  | refused token step => cases read
  | finished token step =>
      cases read
      -- The last token closes whatever is still open.
      have taken := openBrackets_next token
      have added := Expectation.step_depth step
      simp only [Progress.depth] at added
      change openBrackets false cursor.rest = openBrackets false final.rest
      omega

/-- A text that ends too early leaves brackets open. -/
theorem openBrackets_pos_of_readExpr {limit : Nat} {cursor : Cursor} {expected : String}
    {after : Reader}
    (read : readExpr limit ⟨cursor, none⟩ = (.error (.unexpectedEnd expected), after)) :
    0 < openBrackets false cursor.rest := by
  obtain ⟨tokens, last, place, result, final, advances, reads, ends, result_eq⟩ :=
    readExpr_cases limit cursor
  have kept := advances.openBrackets_eq reads
  have nothing_open : (Expectation.expression []).depth = 0 := rfl
  rw [result_eq] at read
  cases ends with
  | textEnd nothing =>
      obtain ⟨atEnd, -⟩ := Prod.mk.inj read
      have deep := Expectation.depth_pos_of_atEnd atEnd
      have ended := openBrackets_finalGap ((Cursor.next_eq_none_iff place).mp (by rw [nothing]))
      omega
  | unreadable fails => cases read
  | refused token step =>
      cases read
      rcases Expectation.step_eq_error step with refused | deep | ⟨culprit, refused⟩
      · cases refused
      · cases deep
      · cases refused
  | finished token step => cases read

end Reader

/-- What the run of a text says about its brackets: without a failure none of them is left open, and
one at least is left open if the end of the text is complained about. -/
theorem Machine.run_openBrackets (limits : Limits) (machine : Machine) (cursor : Cursor) :
    ((machine.run limits ⟨cursor, none⟩).failure = none → openBrackets false cursor.rest = 0) ∧
      ∀ failure, (machine.run limits ⟨cursor, none⟩).failure = some failure →
        failure.isUnfinished = true → 0 < openBrackets false cursor.rest := by
  generalize size : cursor.rest.length = length
  induction length using Nat.strongRecOn generalizing machine cursor with
  | ind length ih =>
      rcases read : Reader.readExpr limits.nesting ⟨cursor, none⟩ with
        ⟨error | (_ | tree), after, peeked⟩
      · rw [run_of_error read]
        refine ⟨by simp, ?_⟩
        rintro failure fails unfinished
        cases fails
        cases error with
        | unexpectedEnd expected => exact Reader.openBrackets_pos_of_readExpr read
        | _ => cases unfinished
      · have final := (Grammar.readExpr_eq_none_iff limits.nesting cursor).mp ⟨_, read⟩
        rw [run_of_none read]
        exact ⟨fun _ => openBrackets_finalGap final, by simp⟩
      · obtain rfl := Reader.peeked_of_readExpr read
        have shorter : after.rest.length < length := by
          rw [← size]
          exact Reader.rest_lt_of_readExpr read
        rw [run_of_some read, Reader.openBrackets_of_readExpr read]
        cases evaluate limits.budget tree machine with
        | ok value machine => exact ih after.rest.length shorter machine after rfl
        | error error machine =>
            refine ⟨by simp, ?_⟩
            rintro failure fails unfinished
            cases fails
            cases unfinished

end DynLisp
