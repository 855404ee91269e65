import DynLisp.Proofs.Placement
import DynLisp.Proofs.RoundTrip

/-!
# Positions are diagnostic only

Expressions that compare as equal differ in positions only.  Since evaluation does not depend on
positions, all that can tell the answers of two such expressions apart is the position that an error
is about, which its notice carries and quotes.  The source of a well-formed expression is read as an
expression that compares as equal, and so has the same answers as the expression itself.
-/

namespace DynLisp

/-- What two errors have to say that differ in a position only. -/
inductive NoticesAlike : Except Cause Notice → Except Cause Notice → Prop
  /-- The errors are about no position, and say the same. -/
  | same (said : Except Cause Notice) : NoticesAlike said said
  /-- The same message is about two positions, and quotes them. -/
  | placed (front back : Message) (span : Int) (position position' : Position) :
      NoticesAlike
        (.ok ((Notice.ofMessage (front ++ .marked position.text :: back)).spanning
          (some position) span))
        (.ok ((Notice.ofMessage (front ++ .marked position'.text :: back)).spanning
          (some position') span))

/-- Errors of one kind that agree in everything but the position, and whose notices do. -/
structure EvalError.Alike (error error' : EvalError) : Prop where
  /-- Everything but the position is the same. -/
  unplaced : error.unplaced = error'.unplaced
  /-- The notices differ in the position only. -/
  notices : NoticesAlike error.notice error'.notice

end DynLisp
