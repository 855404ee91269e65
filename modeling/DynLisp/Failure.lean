import DynLisp.Evaluation
import DynLisp.ParseError

/-!
# Failures

All that can end a piece of work early: the errors of the language, interruption, a request to
exit, and causes from below the language.
-/

namespace DynLisp

/-- Why a piece of work ended early. -/
inductive Failure where
  /-- No token could be read. -/
  | lexical (error : LexError)
  /-- No expression could be read. -/
  | syntactic (error : ParseError)
  /-- An expression has no value. -/
  | evaluation (error : EvalError)
  /-- Something else went wrong that the user can mend. -/
  | other (notice : Notice)
  /-- The user interrupted the work. -/
  | interrupted
  /-- The program is to exit with a status. -/
  | exit (status : String)
  /-- The interpreter itself is at fault. -/
  | internal (cause : Cause)
deriving Inhabited, Repr

/-- How a failure is dealt with. -/
inductive Verdict where
  /-- It is reported to the user. -/
  | report (notice : Notice)
  /-- It is passed on in silence. -/
  | pass
  /-- It is reported as a fault of the interpreter and passed on. -/
  | fault (cause : Cause)
deriving Repr

namespace Verdict

/-- An error is reported if it has something to say, and is a fault otherwise. -/
def ofNotice : Except Cause Notice → Verdict
  | .ok notice => report notice
  | .error cause => fault cause

end Verdict

namespace Failure

/-- The failure that ends a program whose errors are fatal. -/
def fatal : Failure := exit "1"

/-- How a failure is dealt with. -/
def verdict : Failure → Verdict
  | lexical error => .ofNotice error.notice
  | syntactic error => .ofNotice error.notice
  | evaluation error => .ofNotice error.notice
  | other notice => .report notice
  | interrupted => .report (.ofMessage [.plain "keyboard interrupt"])
  | exit _ => .pass
  | internal cause => .fault cause

end Failure
end DynLisp
