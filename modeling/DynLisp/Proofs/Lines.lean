import DynLisp.Proofs.Division
import DynLisp.Text.Lines

/-!
# Lines and places

A place in a text has a position, whose line is counted by line feeds.  `Text.standingAt` goes the
other way and looks up what a text has from a position on; `Text.standingAt_behind` says that it
finds the place, and `Position.behind_before` that positions are ordered as the places are.

Reports quote from the generous lines of a text, which have other boundaries too.  In a text without
these a line is found by its number all the same, which is `Text.FeedsOnly.lines_getElem?`.
-/

namespace DynLisp
namespace Text

/-- What a text has on its last line. -/
def lastLine (text : List Char) : List Char := (text.reverse.takeWhile (· != '\n')).reverse

/-- What a text has on its first line. -/
def firstLine (text : List Char) : List Char := text.takeWhile (· != '\n')

theorem firstLine_append {word : List Char} (no_feed : '\n' ∉ word) (rest : List Char) :
    firstLine (word ++ rest) = word ++ firstLine rest := by
  refine List.takeWhile_append_of_pos fun character member => ?_
  rw [bne_iff_ne]
  rintro rfl
  exact no_feed member

theorem lastLine_of_not_mem {text : List Char} (no_feed : '\n' ∉ text) : lastLine text = text := by
  have whole := firstLine_append (mt List.mem_reverse.mp no_feed) []
  rw [List.append_nil] at whole
  change (firstLine text.reverse).reverse = text
  rw [whole]
  simp [firstLine]

theorem lastLine_append_feed (front text : List Char) :
    lastLine (front ++ '\n' :: text) = lastLine text := by
  simp only [lastLine, List.reverse_append, List.reverse_cons, List.append_assoc,
    List.takeWhile_append]
  split
  next whole =>
    have same := (List.takeWhile_prefix (l := text.reverse) (· != '\n')).eq_of_length whole
    simp [same]
  next => rfl

theorem lastLine_cons {front : List Char} (fed : '\n' ∈ front) (character : Char) :
    lastLine (character :: front) = lastLine front := by
  obtain ⟨earlier, last, rfl⟩ := List.append_of_mem fed
  rw [← List.cons_append, lastLine_append_feed, lastLine_append_feed]

theorem lines_cons {character : Char} (no_return : character ≠ '\r') (rest : List Char) :
    lines (character :: rest) =
      if isLineBreak character then
        [] :: lines rest
      else
        match lines rest with
        | [] => [[character]]
        | line :: later => (character :: line) :: later := by
  rw [lines.eq_def]
  split
  next nothing => cases nothing
  next returned => exact absurd (List.cons.inj returned).1 no_return
  next same =>
    obtain ⟨rfl, rfl⟩ := List.cons.inj same
    cases rest <;> rfl

theorem lines_cons_inner {character : Char} (inner : isLineBreak character = false)
    (rest : List Char) :
    lines (character :: rest) =
        match lines rest with
        | [] => [[character]]
        | line :: later => (character :: line) :: later := by
  have no_return : character ≠ '\r' := by
    rintro rfl
    cases inner
  rw [lines_cons no_return, inner]
  rfl

theorem ne_feed_of_inner {character : Char} (inner : isLineBreak character = false) :
    character ≠ '\n' := by
  rintro rfl
  cases inner

/-- Whether nothing but line feeds ends a line of a text. -/
def FeedsOnly (text : List Char) : Prop :=
  ∀ character ∈ text, isLineBreak character = true → character = '\n'

theorem feedsOnly_iff (text : List Char) :
    text.all (fun character => !isLineBreak character || character == '\n') = true ↔
      FeedsOnly text := by
  simp [FeedsOnly, Classical.or_iff_not_imp_left]

instance (text : List Char) : Decidable (FeedsOnly text) :=
  decidable_of_iff _ (feedsOnly_iff text)

theorem FeedsOnly.cons {character : Char} {text : List Char}
    (feeds : FeedsOnly (character :: text)) :
    (character = '\n' ∨ isLineBreak character = false) ∧ FeedsOnly text := by
  obtain ⟨first, others⟩ := List.forall_mem_cons.mp feeds
  refine ⟨?_, others⟩
  cases inner : isLineBreak character with
  | false => exact Or.inr rfl
  | true => exact Or.inl (first inner)

theorem FeedsOnly.mono {text other : List Char} (feeds : FeedsOnly other) (inside : text ⊆ other) :
    FeedsOnly text := fun character member => feeds character (inside member)

theorem firstLine_append_subset (front rest : List Char) :
    firstLine (front ++ rest) ⊆ front ++ firstLine rest := by
  rw [firstLine, List.takeWhile_append]
  split
  · exact List.Subset.refl _
  · exact fun character member =>
      List.mem_append_left _ ((List.takeWhile_sublist _).subset member)

/-- The lines of a text begin with its first line, if nothing else breaks that. -/
theorem lines_eq_cons {text : List Char} (feeds : FeedsOnly (firstLine text))
    (something : text ≠ []) : ∃ later, lines text = firstLine text :: later := by
  induction text with
  | nil => exact absurd rfl something
  | cons character text ih =>
      by_cases feed : character = '\n'
      · subst feed
        exact ⟨lines text, lines_cons (by decide) text⟩
      · have begins : firstLine (character :: text) = character :: firstLine text := by
          simp [firstLine, feed]
        rw [begins] at feeds ⊢
        obtain ⟨feed' | inner, others⟩ := feeds.cons
        · exact absurd feed' feed
        rw [lines_cons_inner inner]
        cases text with
        | nil => exact ⟨[], rfl⟩
        | cons next text =>
            obtain ⟨later, lines_eq⟩ := ih others (List.cons_ne_nil _ _)
            exact ⟨later, by rw [lines_eq]⟩

/-- A place in a text is on the line that the line feeds in front of it count, if nothing else
breaks a line up to the end of that one. -/
theorem lines_getElem? {front rest : List Char} (feeds : FeedsOnly (front ++ firstLine rest))
    (something : rest ≠ []) :
    (lines (front ++ rest))[front.count '\n']? = some (lastLine front ++ firstLine rest) := by
  induction front with
  | nil =>
      obtain ⟨later, lines_eq⟩ := lines_eq_cons feeds something
      rw [List.nil_append, lines_eq]
      rfl
  | cons character front ih =>
      rw [List.cons_append] at feeds ⊢
      obtain ⟨rfl | inner, others⟩ := feeds.cons
      · have last : lastLine ('\n' :: front) = lastLine front := lastLine_append_feed [] front
        rw [lines_cons (by decide), List.count_cons_self, last]
        exact ih others
      · have place := ih others
        have no_feed := ne_feed_of_inner inner
        obtain ⟨later, lines_eq⟩ :=
          lines_eq_cons (others.mono (firstLine_append_subset front rest)) (by simp [something])
        rw [lines_eq] at place
        rw [lines_cons_inner inner, lines_eq, List.count_cons_of_ne no_feed]
        -- The character joins the first line, which is the one of the place if none ends before it.
        by_cases fed : '\n' ∈ front
        · obtain ⟨number, count_eq⟩ :=
            Nat.exists_eq_succ_of_ne_zero (Nat.ne_of_gt (List.count_pos_iff.mpr fed))
          rw [count_eq, List.getElem?_cons_succ] at place ⊢
          rw [lastLine_cons fed, place]
        · have unfed : '\n' ∉ character :: front := by simp [fed, no_feed.symm]
          rw [List.count_eq_zero_of_not_mem fed, lastLine_of_not_mem fed] at place
          rw [List.count_eq_zero_of_not_mem fed, lastLine_of_not_mem unfed]
          simpa using place

theorem FeedsOnly.lines_getElem? {front rest : List Char} (feeds : FeedsOnly (front ++ rest))
    (something : rest ≠ []) :
    (lines (front ++ rest))[front.count '\n']? = some (lastLine front ++ firstLine rest) := by
  have first : front ++ firstLine rest ⊆ front ++ rest :=
    ((List.Sublist.refl front).append (List.takeWhile_sublist _)).subset
  exact Text.lines_getElem? (feeds.mono first) something

/-- No line of a text has a break in it. -/
theorem isLineBreak_of_mem_lines {text line : List Char} (member : line ∈ lines text) :
    ∀ character ∈ line, isLineBreak character = false := by
  fun_induction lines text generalizing line with
  | case1 => cases member
  | case2 rest ih =>
      rcases List.mem_cons.mp member with rfl | member
      · simp
      · exact ih member
  | case3 character rest no_return broken ih =>
      rcases List.mem_cons.mp member with rfl | member
      · simp
      · exact ih member
  | case4 character inner =>
      obtain rfl : line = [character] := by simpa using member
      simpa using inner
  | case5 character rest _ inner no_lines _ ih =>
      rw [no_lines] at member
      obtain rfl : line = [character] := by simpa using member
      simpa using inner
  | case6 character rest _ inner first later lines_eq _ ih =>
      rw [lines_eq] at member ih
      rcases List.mem_cons.mp member with rfl | member
      · simpa [inner] using ih List.mem_cons_self
      · exact ih (List.mem_cons_of_mem first member)

/-- A text without some of its first lines. -/
def dropLines : Nat → List Char → List Char
  | 0, text => text
  | _, [] => []
  | count + 1, character :: text =>
      if character = '\n' then dropLines count text else dropLines (count + 1) text

/-- What a text has from a position on: so many lines are left out, and then so many characters. -/
def standingAt (text : List Char) (position : Position) : List Char :=
  (dropLines (position.line - 1).toNat text).drop (position.column - 1).toNat

theorem dropLines_append (front rest : List Char) :
    dropLines (front.count '\n') (front ++ rest) = lastLine front ++ rest := by
  induction front with
  | nil => simp [dropLines, lastLine]
  | cons character front ih =>
      by_cases feed : character = '\n'
      · subst feed
        have last : lastLine ('\n' :: front) = lastLine front := lastLine_append_feed [] front
        rw [List.count_cons_self, last, ← ih]
        simp [dropLines]
      · rw [List.count_cons_of_ne feed]
        -- The character is left out with its line, unless that is the last one.
        by_cases fed : '\n' ∈ front
        · obtain ⟨number, count_eq⟩ :=
            Nat.exists_eq_succ_of_ne_zero (Nat.ne_of_gt (List.count_pos_iff.mpr fed))
          rw [lastLine_cons fed, ← ih, count_eq]
          simp [dropLines, feed]
        · have unfed : '\n' ∉ character :: front := by simp [fed, Ne.symm feed]
          rw [List.count_eq_zero_of_not_mem fed, lastLine_of_not_mem unfed]
          rfl

theorem behind_line_toNat (front : List Char) :
    ((Position.behind front).line - 1).toNat = front.count '\n' := by
  simp only [Position.behind]
  omega

theorem behind_column_toNat (front : List Char) :
    ((Position.behind front).column - 1).toNat = (lastLine front).length := by
  simp only [Position.behind, lastLine, List.length_reverse]
  omega

/-- The position behind the front of a text is where the rest of it stands. -/
theorem standingAt_behind (front rest : List Char) :
    standingAt (front ++ rest) (.behind front) = rest := by
  rw [standingAt, behind_line_toNat, behind_column_toNat, dropLines_append, List.drop_left]

end Text

namespace Position

/-- Whether a position comes before another one, by its line and then by its column. -/
def Before (position other : Position) : Prop :=
  position.line < other.line ∨ position.line = other.line ∧ position.column < other.column

theorem Before.trans {first second third : Position} (before : first.Before second)
    (before' : second.Before third) : first.Before third := by
  unfold Before at *
  omega

theorem before_advance (position : Position) (character : Char) :
    position.Before (position.advance character) := by
  by_cases feed : character = '\n'
  · rw [advance, if_pos feed]
    exact Or.inl (Int.lt_succ position.line)
  · rw [advance, if_neg feed]
    exact Or.inr ⟨rfl, Int.lt_succ position.column⟩

/-- Positions come in the order of the places that they belong to. -/
theorem behind_before (front : List Char) {later : List Char} (something : later ≠ []) :
    (behind front).Before (behind (front ++ later)) := by
  induction later generalizing front with
  | nil => exact absurd rfl something
  | cons character later ih =>
      have first := before_advance (behind front) character
      rw [advance_behind] at first
      cases later with
      | nil => exact first
      | cons next later =>
          have others := ih (front ++ [character]) (List.cons_ne_nil _ _)
          rw [List.append_assoc, List.singleton_append] at others
          exact first.trans others

end Position
end DynLisp
