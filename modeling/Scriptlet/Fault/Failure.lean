import Scriptlet.Syntax.Expr

/-
  Failures of running programs.

  A failure has a cause, the line it arose on once that is
  known, and the calls that were active. Nothing catches a
  failure, so each one ends its run.

  Key definitions include:
    * `Cause`
    * `Cause.message`
    * `Family`
    * `Failure`
    * `Failure.locate`
    * `Failure.withCalls`

  Key theorems include:
    * `Failure.line_locate`
    * `Failure.backtrace_withCalls_of_ne_nil`
-/

------------------------------------------------------------
-- Causes
------------------------------------------------------------

namespace Scriptlet

/- Why a program failed. -/
inductive Cause where
  | notAFunction (value : String)
  | notAnObject (value : String)
  | wrongOperand (symbol expected got : String)
  | wrongArgumentCount (name : String) (expected got : Nat)
  | alreadyDeclared (name : String)
  | divisionByZero
  | tooDeep (depth : Nat)
  | strayReturn
deriving DecidableEq, Repr

/- The family that a cause belongs to. -/
inductive Family where
  | typing
  | arity
  | declaration
  | arithmetic
  | resource
  | internal
deriving DecidableEq, Repr

/- The name under which a family is reported. -/
def Family.label : Family → String
  | .typing => "TypeError"
  | .arity => "ArityError"
  | .declaration => "DuplicateDeclarationError"
  | .arithmetic => "ArithmeticError"
  | .resource => "ResourceError"
  | .internal => "InternalError"

namespace Cause

/- The wording of a cause, without a line. -/
def message : Cause → String
  | .notAFunction value =>
      "type error, " ++ value ++ " is not a function"
  | .notAnObject value =>
      "type error, " ++ value ++ " is not an object"
  | .wrongOperand symbol expected got =>
      "type error, operator " ++ symbol ++ " expects "
        ++ expected ++ ", got " ++ got
  | .wrongArgumentCount name expected got =>
      "wrong number of arguments, " ++ name ++ " expects "
        ++ toString expected ++ ", got " ++ toString got
  | .alreadyDeclared name => name ++ " is already declared"
  | .divisionByZero => "division by zero"
  | .tooDeep depth =>
      "maximum call depth exceeded (limit: "
        ++ toString depth ++ ")"
  | .strayReturn =>
      "internal error, return signal escaped its function"

/- The family of a cause. -/
def family : Cause → Family
  | .notAFunction _ => .typing
  | .notAnObject _ => .typing
  | .wrongOperand _ _ _ => .typing
  | .wrongArgumentCount _ _ _ => .arity
  | .alreadyDeclared _ => .declaration
  | .divisionByZero => .arithmetic
  | .tooDeep _ => .resource
  | .strayReturn => .internal

end Cause

end Scriptlet

------------------------------------------------------------
-- Failures
------------------------------------------------------------

namespace Scriptlet

/- An active call, as it is reported. -/
structure ActiveCall where
  name : String
  line : Line
deriving DecidableEq, Repr

/- The active calls of a failure, innermost first. -/
abbrev Backtrace :=
  List ActiveCall

/- A failure with what is known about where it arose. -/
structure Failure where
  cause : Cause
  line : Option Line := none
  backtrace : Backtrace := []
deriving DecidableEq, Repr

namespace Failure

/- A failure of unknown origin. -/
def ofCause
    (cause : Cause) :
    Failure :=
  { cause }

/- Place a failure on a line, unless it has one already. -/
def locate
    (failure : Failure)
    (line : Line) :
    Failure :=
  match failure.line with
  | some _ => failure
  | none => { failure with line := some line }

/- Give a failure its active calls, unless it has some. -/
def withCalls
    (failure : Failure)
    (backtrace : Backtrace) :
    Failure :=
  if failure.backtrace.isEmpty then
    { failure with backtrace }
  else
    failure

/- The family of a failure. -/
def family
    (failure : Failure) :
    Family :=
  failure.cause.family

end Failure

end Scriptlet

------------------------------------------------------------
-- What Is Known Stays Known
------------------------------------------------------------

namespace Scriptlet

namespace Failure

/- Placing a failure keeps its cause. -/
@[simp] theorem cause_locate
    (failure : Failure)
    (line : Line) :
    (failure.locate line).cause = failure.cause := by
  unfold locate
  split <;> rfl

/- Placing a failure keeps its active calls. -/
@[simp] theorem backtrace_locate
    (failure : Failure)
    (line : Line) :
    (failure.locate line).backtrace =
      failure.backtrace := by
  unfold locate
  split <;> rfl

/- The first line that a failure is given stays. -/
@[simp] theorem line_locate
    (failure : Failure)
    (line : Line) :
    (failure.locate line).line =
      some (failure.line.getD line) := by
  unfold locate
  split <;> simp_all

/- Active calls do not change the cause. -/
@[simp] theorem cause_withCalls
    (failure : Failure)
    (backtrace : Backtrace) :
    (failure.withCalls backtrace).cause =
      failure.cause := by
  unfold withCalls
  split <;> rfl

/- Active calls do not change the line. -/
@[simp] theorem line_withCalls
    (failure : Failure)
    (backtrace : Backtrace) :
    (failure.withCalls backtrace).line =
      failure.line := by
  unfold withCalls
  split <;> rfl

/- Active calls stay once a failure has some. -/
theorem backtrace_withCalls_of_ne_nil
    (failure : Failure)
    (backtrace : Backtrace)
    (hCalls : failure.backtrace ≠ []) :
    (failure.withCalls backtrace).backtrace =
      failure.backtrace := by
  unfold withCalls
  rw [if_neg (by simpa using hCalls)]

end Failure

end Scriptlet
