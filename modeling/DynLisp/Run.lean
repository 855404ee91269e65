import DynLisp.Failure
import DynLisp.Parser

/-!
# Running a text

A text is run expression by expression: each one is read and evaluated before the next one is read.
`Machine.run` stops at the first failure, and nothing behind it has any influence.
`Machine.runThrough` goes on with the same reader after every failure except that brackets are
nested too deeply.
-/

namespace DynLisp

/-- How deeply programs may nest. -/
structure Limits where
  /-- Number of forms that may be open at a time. -/
  nesting : Nat
  /-- Stack budget of an evaluation. -/
  budget : Nat
deriving DecidableEq, Repr

/-- The limits of ordinary programs. -/
def Limits.standard : Limits := ⟨Reader.nestingLimit, stackBudget⟩

/-- What running a text gave. -/
structure Yield where
  /-- The values of the expressions that were evaluated. -/
  values : List Value
  /-- The failure that ended the run, if one did. -/
  failure : Option Failure
  /-- The machine afterwards. -/
  machine : Machine

namespace Machine

/-- Runs what is left of a text up to the first failure. -/
def run (limits : Limits) (machine : Machine) (reader : Reader) : Yield :=
  match _read : reader.readExpr limits.nesting with
  | (.error error, _) => ⟨[], some (.syntactic error), machine⟩
  | (.ok none, _) => ⟨[], none, machine⟩
  | (.ok (some expression), after) =>
      match evaluate limits.budget expression machine with
      | .error error machine => ⟨[], some (.evaluation error), machine⟩
      | .ok value machine =>
          let later := machine.run limits after
          { later with values := value :: later.values }
termination_by reader.size
decreasing_by
  have consumed := reader.readExpr_size_lt (by rw [_read]; simp)
  rwa [_read] at consumed

/-- Runs what is left of a text to its end, going on after failures. -/
def runThrough (limits : Limits) (machine : Machine) (reader : Reader) :
    List (Except Failure Value) × Machine :=
  match _read : reader.readExpr limits.nesting with
  | (.ok none, _) => ([], machine)
  | (.error (.tooDeep position), _) => ([.error (.syntactic (.tooDeep position))], machine)
  | (.error error, after) =>
      let (later, machine) := machine.runThrough limits after
      (.error (.syntactic error) :: later, machine)
  | (.ok (some expression), after) =>
      match evaluate limits.budget expression machine with
      | .error error machine =>
          let (later, machine) := machine.runThrough limits after
          (.error (.evaluation error) :: later, machine)
      | .ok value machine =>
          let (later, machine) := machine.runThrough limits after
          (.ok value :: later, machine)
termination_by reader.size
decreasing_by
  all_goals
    have consumed := reader.readExpr_size_lt (by rw [_read]; simp)
    rwa [_read] at consumed

end Machine
end DynLisp
