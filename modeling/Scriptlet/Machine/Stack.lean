import Scriptlet.Fault.Failure

/-
  The stack of active calls.

  A stack may have a limit on its depth. Pushing past the
  limit fails and leaves the stack as it is.

  Key definitions include:
    * `Activation`
    * `CallStack`
    * `CallStack.push`
    * `CallStack.pop`
    * `CallStack.backtrace`

  Key theorems include:
    * `CallStack.pop_of_push`
    * `CallStack.push_eq_error_iff`
-/

------------------------------------------------------------
-- Call Stacks
------------------------------------------------------------

namespace Scriptlet

/- An active call: who was called, and from which line. -/
structure Activation where
  callee : Name
  line : Line
deriving DecidableEq, Repr

/- The active calls, innermost first, and their limit. -/
structure CallStack where
  calls : List Activation
  limit : Option Nat
deriving DecidableEq, Repr

namespace CallStack

/- The stack without active calls. -/
def new
    (limit : Option Nat) :
    CallStack :=
  { calls := [], limit }

/- The number of active calls. -/
def depth (stack : CallStack) : Nat :=
  stack.calls.length

/- Whether no call is active. -/
def isEmpty (stack : CallStack) : Bool :=
  stack.calls.isEmpty

/- Begin a call, if the limit allows one more. -/
def push
    (stack : CallStack)
    (call : Activation) :
    Except Cause CallStack :=
  match stack.limit with
  | some limit =>
      if limit ≤ stack.depth then
        .error (.tooDeep limit)
      else
        .ok { stack with calls := call :: stack.calls }
  | none =>
      .ok { stack with calls := call :: stack.calls }

/- End the innermost call. -/
def pop (stack : CallStack) : CallStack :=
  { stack with calls := stack.calls.tail }

/- The active calls with their names spelled out. -/
def backtrace
    (stack : CallStack)
    (interner : Interner) :
    Backtrace :=
  stack.calls.map fun call =>
    { name := interner.lookup call.callee
      line := call.line }

end CallStack

end Scriptlet

------------------------------------------------------------
-- Pushing and Popping
------------------------------------------------------------

namespace Scriptlet

namespace CallStack

variable {stack next : CallStack}
variable {call : Activation}

/- A push puts one call on top and keeps the limit. -/
theorem eq_of_push
    (hPush : stack.push call = .ok next) :
    next =
      { stack with calls := call :: stack.calls } := by
  unfold push at hPush
  split at hPush
  · split at hPush
    · cases hPush
    · cases hPush
      rfl
  · cases hPush
    rfl

/- Ending a call undoes its beginning. -/
theorem pop_of_push
    (hPush : stack.push call = .ok next) :
    next.pop = stack := by
  rw [eq_of_push hPush]
  rfl

/- A push fails exactly at the limit. -/
theorem push_eq_error_iff
    (cause : Cause) :
    stack.push call = .error cause ↔
      ∃ limit,
        stack.limit = some limit ∧
          limit ≤ stack.depth ∧
            cause = .tooDeep limit := by
  unfold push
  cases hLimit : stack.limit with
  | none => simp
  | some limit =>
      by_cases hDeep : limit ≤ stack.depth
      · simp [hDeep, eq_comm]
      · simp [hDeep]

end CallStack

end Scriptlet
