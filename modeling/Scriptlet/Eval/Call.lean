import Scriptlet.Eval.Expr
import Scriptlet.Eval.Primitive

/-
  Running resolved calls.

  A call of a function with code makes a frame under the
  scope that the function was written in, binds the receiver
  and the arguments there, and runs the code between a push
  and a pop of the call stack. Returning ends here; a
  failure passes through and, at the innermost call, is
  given the active calls.

  How deep such calls may nest is bounded by a budget, which
  stands for the stack of the host. A limit of the call
  stack is checked first, so that a budget that reaches the
  limit never runs out.

  Key definitions include:
    * `openFrame`
    * `activate`
    * `Caller.around`
    * `Caller.within`
    * `callChecked`
-/

------------------------------------------------------------
-- Frames
------------------------------------------------------------

namespace Scriptlet

/-
  A fresh frame with the receiver and the arguments bound,
  in this order, so that the last parameter of a name wins.
  Arguments beyond the parameters are dropped, and
  parameters beyond the arguments stay unbound.
-/
def openFrame
    (this : Name)
    (scope : ObjectId)
    (params : List Name)
    (receiver : Value)
    (args : List Value) :
    CallM ObjectId :=
  Machine.onHeap fun heap =>
    let (frame, heap) := heap.newScope (some scope)
    (frame,
      heap.defineAll frame
        ((this, receiver) :: params.zip args))

/-
  Run code as an active call. Failures leave with the active
  calls of the innermost call that they crossed, and a call
  that does not fit the stack fails before its code runs.
-/
def activate
    (interner : Interner)
    (callee : Name)
    (line : Line)
    (body : EvalM Value) :
    CallM Value := fun machine =>
  match machine.stack.push { callee, line } with
  | .error cause =>
      let failure := (Failure.ofCause cause).locate line
      .error
        (.failed
          (failure.withCalls
            (machine.stack.backtrace interner)))
        machine
  | .ok stack =>
      match body { machine with stack } with
      | .ok value machine =>
          .ok value
            { machine with stack := machine.stack.pop }
      | .error (.ret value _) machine =>
          .ok value
            { machine with stack := machine.stack.pop }
      | .error (.halt (.failed failure)) machine =>
          .error
            (.failed
              (failure.withCalls
                (machine.stack.backtrace interner)))
            { machine with stack := machine.stack.pop }
      | .error (.halt .exhausted) machine =>
          .error .exhausted
            { machine with stack := machine.stack.pop }

end Scriptlet

------------------------------------------------------------
-- Callers
------------------------------------------------------------

namespace Scriptlet

namespace Caller

/- Run code with the caller for the calls inside it. -/
def runCode
    {S : Type}
    (context : Context)
    (engine : Engine S)
    (inner : Option Caller)
    (body : List (Expr S))
    (frame : ObjectId) :
    EvalM Value :=
  match inner with
  | some call =>
      Expr.evalBlock context engine call frame body
  | none => throw (.halt .exhausted)

/-
  Run a resolved call, where `inner` runs the calls inside
  its code, if these may nest any deeper.
-/
def around
    (context : Context)
    (inner : Option Caller) :
    Caller := fun target receiver args line =>
  match target.action with
  | .primitive primitive =>
      EStateM.adaptExcept
        (fun failure => .failed (failure.locate line))
        (primitive.call context.interner receiver args)
  | .walked code scope => do
      let frame ← openFrame context.this scope
        code.params receiver args
      activate context.interner target.name line
        (runCode context .plain inner code.body frame)
  | .linked code scope => do
      let frame ← openFrame context.this scope
        code.params receiver args
      activate context.interner target.name line
        (runCode context .caching inner code.body frame)

/- Run resolved calls nested at most `budget` deep. -/
def within
    (context : Context) :
    (budget : Nat) → Caller
  | 0 => around context none
  | budget + 1 => around context (some (within context budget))

end Caller

/- Check a callee's arity, and run the call. -/
def callChecked
    (context : Context)
    (budget : Nat)
    (callee : FunctionId)
    (receiver : Value)
    (args : List Value)
    (line : Line) :
    CallM Value := do
  let target ← resolve context.interner callee
    args.length line
  Caller.within context budget target receiver args line

end Scriptlet
