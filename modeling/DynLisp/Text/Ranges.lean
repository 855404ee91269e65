/-!
# Code point ranges

A class of characters is a list of inclusive code point ranges.
-/

namespace DynLisp
namespace Text

/-- Whether a character lies in one of the given inclusive code point ranges. -/
def inRanges (ranges : List (Nat × Nat)) (character : Char) : Bool :=
  ranges.any fun range => range.1 ≤ character.toNat && character.toNat ≤ range.2

@[simp]
theorem inRanges_nil (character : Char) : inRanges [] character = false := rfl

@[simp]
theorem inRanges_append (front back : List (Nat × Nat)) (character : Char) :
    inRanges (front ++ back) character = (inRanges front character || inRanges back character) := by
  simp [inRanges]

theorem inRanges_iff (ranges : List (Nat × Nat)) (character : Char) :
    inRanges ranges character = true ↔
      ∃ range ∈ ranges, range.1 ≤ character.toNat ∧ character.toNat ≤ range.2 := by
  simp [inRanges]

end Text
end DynLisp
