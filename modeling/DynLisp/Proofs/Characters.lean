import DynLisp.Cursor

/-!
# Classes of characters

Blanks, brackets, the semicolon, the digits and the characters an identifier can begin with exclude
each other.  For the classes given by tables this is computed from the tables, range against range.
-/

namespace DynLisp
namespace Text

/-- Classes whose ranges lie apart have no character in common. -/
theorem inRanges_eq_false_of_apart {left right : List (Nat × Nat)}
    (apart : ∀ range ∈ left, ∀ other ∈ right, range.2 < other.1 ∨ other.2 < range.1)
    {character : Char} (inside : inRanges left character = true) :
    inRanges right character = false := by
  rw [Bool.eq_false_iff]
  intro both
  obtain ⟨range, member, low, high⟩ := (inRanges_iff left character).mp inside
  obtain ⟨other, member', low', high'⟩ := (inRanges_iff right character).mp both
  rcases apart range member other member' with before | behind
  · omega
  · omega

theorem isLetter_eq_false_of_isBlank {character : Char} (blank : isBlank character = true) :
    isLetter character = false :=
  inRanges_eq_false_of_apart (by decide +kernel) blank

theorem isDigit_iff (character : Char) :
    isDigit character = true ↔ 48 ≤ character.toNat ∧ character.toNat ≤ 57 := by
  simp only [isDigit, Bool.and_eq_true, decide_eq_true_eq, Char.le_def, UInt32.le_iff_toNat_le]
  exact Iff.rfl

/-- The ten digits as a table. -/
theorem isDigit_eq_inRanges (character : Char) :
    isDigit character = inRanges [(48, 57)] character := by
  rw [Bool.eq_iff_iff, isDigit_iff, inRanges_iff]
  simp

theorem isDigit_eq_false_of_isBlank {character : Char} (blank : isBlank character = true) :
    isDigit character = false := by
  rw [isDigit_eq_inRanges]
  exact inRanges_eq_false_of_apart (by decide) blank

theorem isLetter_eq_false_of_isDigit {character : Char} (digit : isDigit character = true) :
    isLetter character = false := by
  rw [isDigit_eq_inRanges] at digit
  exact inRanges_eq_false_of_apart (by decide +kernel) digit

end Text

theorem isDigit_of_mem_toDigits {value : Nat} {digit : Char}
    (member : digit ∈ Nat.toDigits 10 value) : Text.isDigit digit = true := by
  have plain := Nat.isDigit_of_mem_toDigits (by decide) (by decide) member
  simpa [Char.isDigit, Text.isDigit, Char.le_def] using plain

/-- A character of a class is none of the characters outside the class. -/
theorem ne_of_inClass {inClass : Char → Bool} {outside : List Char}
    (apart : outside.all (!inClass ·) = true) {character : Char}
    (member : inClass character = true) : ∀ other ∈ outside, character ≠ other := by
  rintro other listed rfl
  have excluded := List.all_eq_true.mp apart character listed
  simp [member] at excluded

/-- No identifier begins with a character of a class that holds neither symbols nor letters. -/
theorem isIdentifierStart_eq_false {inClass : Char → Bool}
    (symbols : identifierSymbols.all (!inClass ·) = true) {character : Char}
    (member : inClass character = true) (letter : Text.isLetter character = false) :
    isIdentifierStart character = false := by
  have no_symbol : identifierSymbols.contains character = false := by
    rw [Bool.eq_false_iff]
    intro symbol
    exact ne_of_inClass symbols member character (List.contains_iff_mem.mp symbol) rfl
  simp only [isIdentifierStart, no_symbol, letter, Bool.or_self]

theorem isIdentifierStart_eq_false_of_isBlank {character : Char}
    (blank : Text.isBlank character = true) : isIdentifierStart character = false :=
  isIdentifierStart_eq_false (by decide) blank (Text.isLetter_eq_false_of_isBlank blank)

theorem isIdentifierStart_eq_false_of_isDigit {character : Char}
    (digit : Text.isDigit character = true) : isIdentifierStart character = false :=
  isIdentifierStart_eq_false (by decide) digit (Text.isLetter_eq_false_of_isDigit digit)

theorem isIdentifierPart_eq_false_of_isBlank {character : Char}
    (blank : Text.isBlank character = true) : isIdentifierPart character = false := by
  simp only [isIdentifierPart, Text.isDigit_eq_false_of_isBlank blank,
    isIdentifierStart_eq_false_of_isBlank blank, Bool.or_self]

theorem isIdentifierPart_of_isDigit {character : Char} (digit : Text.isDigit character = true) :
    isIdentifierPart character = true := by
  simp [isIdentifierPart, digit]

/-- Brackets and the semicolon stand in no identifier and in no literal. -/
theorem ne_of_isIdentifierPart {character : Char} (part : isIdentifierPart character = true) :
    character ≠ '(' ∧ character ≠ ')' ∧ character ≠ ';' := by
  have marks : ['(', ')', ';'].all (!isIdentifierPart ·) = true := by decide +kernel
  simpa using ne_of_inClass marks part

end DynLisp
