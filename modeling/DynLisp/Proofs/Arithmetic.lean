import DynLisp.Proofs.Nesting
import DynLisp.Proofs.Soundness
import Mathlib.Data.Int.ModEq

/-!
# Wrapping at every step is wrapping once

Sums, differences and products are wrapped around wherever they are computed.  Since wrapping is
compatible with all three, a tree of them has the value that comes of computing exactly and wrapping
around in the end: the one signed 64-bit integer that differs from the exact value by a multiple of
`2 ^ 64`.  `evaluate_of_computes` says so for every budget, and says which budgets are enough.
-/

namespace DynLisp

/-- Whether an integer is in the signed 64-bit range. -/
def FitsWord (value : Int) : Prop := -2 ^ 63 ≤ value ∧ value ≤ 2 ^ 63 - 1

theorem fitsWord_wrap (number : Int) : FitsWord (wrap number) := by
  have sound := (isSound_integer_iff (wrap number)).mp (isSound_wrap number)
  unfold FitsWord
  omega

theorem wrap_modEq (number : Int) : wrap number ≡ number [ZMOD 2 ^ 64] :=
  Int.bmod_emod

/-- Of the integers that differ by multiples of `2 ^ 64` only one is in the range. -/
theorem eq_wrap_of_modEq {value number : Int} (fits : FitsWord value)
    (congruent : value ≡ number [ZMOD 2 ^ 64]) : value = wrap number := by
  have fits' := fitsWord_wrap number
  have multiple : (2 ^ 64 : Int) ∣ wrap number - value :=
    (congruent.trans (wrap_modEq number).symm).dvd
  unfold FitsWord at fits fits'
  omega

theorem wrap_of_fitsWord {value : Int} (fits : FitsWord value) : wrap value = value :=
  (eq_wrap_of_modEq fits (Int.ModEq.refl value)).symm

namespace Builtin

/-- What a builtin function of arithmetic computes of two integers if they are not wrapped. -/
def operation? : Builtin → Option (Int → Int → Int)
  | add => some (· + ·)
  | subtract => some (· - ·)
  | multiply => some (· * ·)
  | _ => none

/-- Operands may be wrapped around before they are used. -/
theorem wrap_operation {builtin : Builtin} {operation : Int → Int → Int}
    (arithmetic : builtin.operation? = some operation) (left right : Int) :
    wrap (operation (wrap left) (wrap right)) = wrap (operation left right) := by
  cases builtin <;> cases arithmetic
  · simp only [wrap, Int.bmod_add_bmod, Int.add_bmod_bmod]
  · simp only [wrap, Int.bmod_sub_bmod, Int.sub_bmod_bmod]
  · simp only [wrap, Int.bmod_mul_bmod, Int.mul_bmod_bmod]

theorem call_integers {builtin : Builtin} {operation : Int → Int → Int}
    (arithmetic : builtin.operation? = some operation) (left right : Int) (machine : Machine) :
    builtin.call [.integer left, .integer right] machine =
      .ok (.integer (wrap (operation left right))) machine := by
  cases builtin <;> cases arithmetic <;>
    simp [call, result, Builtin.arithmetic, written, Machine.write]

end Builtin

/-- The trees of sums, differences and products of integers in the range, with their exact values.
Operations are called by names that are bound to them. -/
inductive Computes (environment : Environment) : Expr → Int → Prop
  /-- An integer. -/
  | integer (position : Position) {value : Int} (fits : FitsWord value) :
      Computes environment (.integer position value) value
  /-- An operation on two trees. -/
  | operation (position : Position) {name : String} {builtin : Builtin}
      {operation : Int → Int → Int} {left right : Expr} {first second : Int}
      (bound : environment.get? name = some (.builtin builtin))
      (arithmetic : builtin.operation? = some operation)
      (computes : Computes environment left first) (computes' : Computes environment right second) :
      Computes environment (.call position name [left, right]) (operation first second)

/-- A call of a builtin function takes three units of the budget. -/
theorem evaluate_call_of_builtin {machine : Machine} {name : String} {builtin : Builtin}
    (bound : machine.environment.get? name = some (.builtin builtin)) (position : Position)
    (arguments : List Expr) (budget : Nat) :
    evaluate budget (.call position name arguments) machine =
      match budget with
      | budget + 3 => (evaluateAll (evaluate budget) arguments >>= builtin.call) machine
      | _ => .error .stackExhausted machine := by
  have found : lookup name position (name.length + 1) machine = .ok (.builtin builtin) machine := by
    rw [lookup, bound]
  match budget with
  | 0 => rfl
  | 1 => rw [evaluate, Evaluation.bind_eq_ok found]; rfl
  | 2 => rw [evaluate, Evaluation.bind_eq_ok found]; rfl
  | budget + 3 => rw [evaluate, Evaluation.bind_eq_ok found]; rfl

/-- A tree of operations has its exact value wrapped around if the budget is enough for its depth,
and exhausts the stack otherwise.  The machine is not changed in either case. -/
theorem evaluate_of_computes {machine : Machine} {tree : Expr} {exact : Int}
    (computes : Computes machine.environment tree exact) (budget : Nat) :
    evaluate budget tree machine =
      if 3 * tree.depth < budget then .ok (.integer (wrap exact)) machine
      else .error .stackExhausted machine := by
  induction computes generalizing budget with
  | integer position fits =>
      cases budget with
      | zero => rfl
      | succ budget =>
          rw [wrap_of_fitsWord fits]
          rfl
  | @operation position name builtin operation left right first second bound arithmetic _ _
      ih_left ih_right =>
      rw [evaluate_call_of_builtin bound]
      have depth : (Expr.call position name [left, right]).depth =
          max left.depth right.depth + 1 := by
        simp [Expr.depth, Expr.greatestDepth]
      rw [depth]
      rcases budget with _ | _ | _ | budget
      · rw [if_neg (by omega)]
      · rw [if_neg (by omega)]
      · rw [if_neg (by omega)]
      · have value_left := ih_left budget
        have value_right := ih_right budget
        by_cases enough_left : 3 * left.depth < budget
        · rw [if_pos enough_left] at value_left
          by_cases enough_right : 3 * right.depth < budget
          · rw [if_pos enough_right] at value_right
            have operands : evaluateAll (evaluate budget) [left, right] machine =
                .ok [.integer (wrap first), .integer (wrap second)] machine := by
              simp only [evaluateAll, Bind.bind, EStateM.bind, value_left, value_right]
              rfl
            rw [if_pos (by omega)]
            simp only [Evaluation.bind_eq_ok operands, Builtin.call_integers arithmetic,
              Builtin.wrap_operation arithmetic]
          · rw [if_neg enough_right] at value_right
            rw [if_neg (by omega)]
            simp only [evaluateAll, Bind.bind, EStateM.bind, value_left, value_right]
        · rw [if_neg enough_left] at value_left
          rw [if_neg (by omega)]
          simp only [evaluateAll, Bind.bind, EStateM.bind, value_left]

/-- Wrapping around at every step equals wrapping around once.  A tree of sums, differences and
products of integers in the range, whatever names the operations are called by and however deep it
is, has for its value the only integer in the range that is congruent to the exact value modulo
`2 ^ 64`.  Nothing is written and no binding changes.  Three units of budget for each level of the
tree are enough, and with fewer nothing happens but that the stack is exhausted.  The ordinary
budget is enough for whatever is read from a text. -/
theorem arithmetic_wraps_once {machine : Machine} {tree : Expr} {exact : Int}
    (computes : Computes machine.environment tree exact) :
    ∃ value, (FitsWord value ∧ value ≡ exact [ZMOD 2 ^ 64]) ∧
      (∀ other, FitsWord other ∧ other ≡ exact [ZMOD 2 ^ 64] → other = value) ∧
      (∀ budget, 3 * tree.depth < budget →
        evaluate budget tree machine = .ok (.integer value) machine) ∧
      (∀ budget, budget ≤ 3 * tree.depth →
        evaluate budget tree machine = .error .stackExhausted machine) ∧
      ∀ reader after, Reader.readExpr Reader.nestingLimit reader = (.ok (some tree), after) →
        evaluate stackBudget tree machine = .ok (.integer value) machine := by
  have enough (budget : Nat) (large : 3 * tree.depth < budget) :
      evaluate budget tree machine = .ok (.integer (wrap exact)) machine := by
    rw [evaluate_of_computes computes, if_pos large]
  refine ⟨wrap exact, ⟨fitsWord_wrap exact, wrap_modEq exact⟩, ?_, enough, ?_, ?_⟩
  · rintro other ⟨fits, congruent⟩
    exact eq_wrap_of_modEq fits congruent
  · intro budget scarce
    rw [evaluate_of_computes computes, if_neg (Nat.not_lt_of_le scarce)]
  · intro reader after read
    have depth := Reader.depth_le_of_readExpr read
    refine enough stackBudget ?_
    unfold Reader.nestingLimit at depth
    unfold stackBudget
    omega

/-- A sum whose exact value is in the range, although a product inside it and the sum itself are
wrapped around on the way. -/
theorem arithmetic_wraps_once_aliased :
    let machine : Machine := ⟨(Environment.initial.set "plus" (.builtin .add)).set "times"
      (.builtin .multiply), ""⟩
    let tree := Expr.call .start "plus" [.integer .start 9223372036854775807,
      .call .start "times" [.integer .start 2,
        .call .start "-" [.integer .start 0, .integer .start 9223372036854775807]]]
    Computes machine.environment tree (-9223372036854775807) ∧
      evaluate 10 tree machine = .ok (.integer (-9223372036854775807)) machine := by
  intro machine tree
  have zero : FitsWord 0 := ⟨by omega, by omega⟩
  have two : FitsWord 2 := ⟨by omega, by omega⟩
  have greatest : FitsWord 9223372036854775807 := ⟨by omega, by omega⟩
  have difference : Computes machine.environment _ (0 - 9223372036854775807) :=
    .operation .start (show machine.environment.get? "-" = some (.builtin .subtract) from rfl) rfl
      (.integer .start zero) (.integer .start greatest)
  have product : Computes machine.environment _ (2 * (0 - 9223372036854775807)) :=
    .operation .start (show machine.environment.get? "times" = some (.builtin .multiply) from rfl)
      rfl (.integer .start two) difference
  have computes : Computes machine.environment tree (-9223372036854775807) :=
    .operation .start (show machine.environment.get? "plus" = some (.builtin .add) from rfl) rfl
      (.integer .start greatest) product
  obtain ⟨value, -, unique, enough, -⟩ := arithmetic_wraps_once computes
  have same : -9223372036854775807 = value :=
    unique _ ⟨⟨by omega, by omega⟩, Int.ModEq.refl _⟩
  exact ⟨computes, same ▸ enough 10 (by decide)⟩

end DynLisp
