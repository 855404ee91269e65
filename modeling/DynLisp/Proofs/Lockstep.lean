import DynLisp.Evaluation

/-!
# Computations in lockstep

Two computations that may fail run in lockstep if they either both succeed with related values or
both fail with related errors, and leave related states in either case.  The relations are
parameters, so that one set of rules serves every comparison of two evaluations.
-/

namespace DynLisp

/-- Two results that are both values or both errors, related in all their parts. -/
inductive Lockstep {ε δ σ τ α β : Type} (states : σ → τ → Prop) (errors : ε → δ → Prop)
    (values : α → β → Prop) : EStateM.Result ε σ α → EStateM.Result δ τ β → Prop
  /-- Both computations succeed. -/
  | ok {left : α} {right : β} {here : σ} {there : τ} (value : values left right)
      (state : states here there) : Lockstep states errors values (.ok left here) (.ok right there)
  /-- Both computations fail. -/
  | error {left : ε} {right : δ} {here : σ} {there : τ} (error : errors left right)
      (state : states here there) :
      Lockstep states errors values (.error left here) (.error right there)

/-- Two computations that run in lockstep from all related states. -/
def Agree {ε δ σ τ α β : Type} (states : σ → τ → Prop) (errors : ε → δ → Prop)
    (values : α → β → Prop) (left : EStateM ε σ α) (right : EStateM δ τ β) : Prop :=
  ∀ here there, states here there → Lockstep states errors values (left here) (right there)

namespace Agree

variable {ε δ σ τ α β α' β' : Type} {states : σ → τ → Prop} {errors : ε → δ → Prop}
  {values : α → β → Prop} {values' : α' → β' → Prop}

theorem pure {left : α} {right : β} (value : values left right) :
    Agree states errors values (Pure.pure left) (Pure.pure right) := by
  intro here there state
  exact .ok value state

theorem throw {left : ε} {right : δ} (error : errors left right) :
    Agree states errors values (MonadExcept.throw left) (MonadExcept.throw right) := by
  intro here there state
  exact .error error state

/-- Computations in lockstep may be compared more loosely. -/
theorem imp {errors' : ε → δ → Prop} {results : α → β → Prop} {left : EStateM ε σ α}
    {right : EStateM δ τ β} (agree : Agree states errors values left right)
    (error : ∀ here there, errors here there → errors' here there)
    (value : ∀ here there, values here there → results here there) :
    Agree states errors' results left right := by
  intro here there state
  have ended := agree here there state
  generalize left here = result at ended ⊢
  generalize right there = result' at ended ⊢
  cases ended with
  | ok same state => exact .ok (value _ _ same) state
  | error same state => exact .error (error _ _ same) state

/-- Computations in lockstep can be followed by computations in lockstep. -/
theorem bind {first : EStateM ε σ α} {first' : EStateM δ τ β} {second : α → EStateM ε σ α'}
    {second' : β → EStateM δ τ β'} (agree : Agree states errors values first first')
    (later : ∀ left right, values left right →
      Agree states errors values' (second left) (second' right)) :
    Agree states errors values' (first >>= second) (first' >>= second') := by
  intro here there state
  have begun := agree here there state
  simp only [Bind.bind, EStateM.bind]
  generalize first here = left at begun ⊢
  generalize first' there = right at begun ⊢
  cases begun with
  | ok value state => exact later _ _ value _ _ state
  | error error state => exact .error error state

end Agree
end DynLisp
