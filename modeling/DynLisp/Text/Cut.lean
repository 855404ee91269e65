/-!
# Places counted from either end

A place in a list is counted from the front, and from the end if it is negative.
-/

namespace DynLisp
namespace Text

/-- A place counted from the front of a list of the given length; it may lie in front of the
list. -/
def fromFront (length : Nat) (place : Int) : Int :=
  if place < 0 then place + length else place

/-- The part of a list from one place up to another one.  A place outside of the list counts as the
end that it lies beyond. -/
def stretch {α : Type} (items : List α) (start stop : Int) : List α :=
  (items.take (fromFront items.length stop).toNat).drop (fromFront items.length start).toNat

/-- The part of a list in front of a place. -/
def before {α : Type} (items : List α) (place : Int) : List α :=
  items.take (fromFront items.length place).toNat

/-- The part of a list from a place on. -/
def onward {α : Type} (items : List α) (place : Int) : List α :=
  items.drop (fromFront items.length place).toNat

/-- The item at a place, if there is one. -/
def item? {α : Type} (items : List α) (place : Int) : Option α :=
  let place := fromFront items.length place
  if place < 0 then none else items[place.toNat]?

@[simp]
theorem fromFront_natCast (length place : Nat) : fromFront length place = place :=
  if_neg (by omega)

@[simp]
theorem before_natCast {α : Type} (items : List α) (place : Nat) :
    before items place = items.take place := by
  simp [before]

@[simp]
theorem onward_natCast {α : Type} (items : List α) (place : Nat) :
    onward items place = items.drop place := by
  simp [onward]

@[simp]
theorem item?_natCast {α : Type} (items : List α) (place : Nat) :
    item? items place = items[place]? := by
  have inside : ¬ (place : Int) < 0 := by omega
  simp [item?, inside]

end Text
end DynLisp
