import Scriptlet.Heap.Printed
import Scriptlet.Heap.Scope
import Scriptlet.Machine.Event
import Scriptlet.Machine.Printer
import Scriptlet.Machine.Stack

/-
  The state of a running program.

  A machine is everything that running can change. A run may
  stop early: with a failure, because the calls went deeper
  than the host allows, or, inside a function body, because
  a value is returned.

  Key definitions include:
    * `Machine`
    * `Halt`
    * `Signal`
    * `RunM`
    * `CallM`
    * `EvalM`
    * `Context`
-/

------------------------------------------------------------
-- Machines
------------------------------------------------------------

namespace Scriptlet

/- Everything that running can change. -/
structure Machine where
  heap : Heap
  sites : Array CallSite
  trace : Array Event
  stack : CallStack
  printer : Printer

/- Why a call did not give a value. -/
inductive Halt where
  | failed (failure : Failure)
  | exhausted
deriving DecidableEq, Repr

/- Why an expression did not give a value. -/
inductive Signal where
  | halt (reason : Halt)
  | ret (value : Value) (line : Line)
deriving DecidableEq, Repr

/- Computations on a machine that stop early with `E`. -/
abbrev RunM (E : Type) :=
  EStateM E Machine

/- Calls. -/
abbrev CallM :=
  RunM Halt

/- Expressions, which may also return from their function. -/
abbrev EvalM :=
  RunM Signal

/-
  What stays the same during a run: the names, among them
  the one that every frame binds its receiver to, and the
  one that stands for functions without a name.
-/
structure Context where
  interner : Interner
  this : Name
  lambda : Name

end Scriptlet

------------------------------------------------------------
-- Early Ends
------------------------------------------------------------

namespace Scriptlet

/- A failure with a cause, on a line. -/
def Halt.failedAt
    (cause : Cause)
    (line : Line) :
    Halt :=
  .failed ((Failure.ofCause cause).locate line)

namespace Signal

/-
  What is left of a signal outside of every function, where
  a returned value has nowhere to go.
-/
def outermost : Signal → Halt
  | .halt reason => reason
  | .ret _ line => .failedAt .strayReturn line

/- A call as an expression. -/
def lift
    {A : Type}
    (call : CallM A) :
    EvalM A :=
  call.adaptExcept Signal.halt

/- An expression outside of every function. -/
def collapse
    {A : Type}
    (body : EvalM A) :
    CallM A :=
  body.adaptExcept Signal.outermost

end Signal

end Scriptlet

------------------------------------------------------------
-- Steps
------------------------------------------------------------

namespace Scriptlet

namespace Machine

variable {E : Type}

/- Change the heap, and give what the change gives. -/
def onHeap
    {A : Type}
    (change : Heap → A × Heap) :
    RunM E A :=
  modifyGet fun machine =>
    let (answer, heap) := change machine.heap
    (answer, { machine with heap })

/- Read the heap. -/
def askHeap
    {A : Type}
    (question : Heap → A) :
    RunM E A :=
  return question (← get).heap

/- Bind a name in an object. -/
def define
    (id : ObjectId)
    (name : Name)
    (value : Value) :
    RunM E Unit :=
  onHeap fun heap => ((), heap.define id name value)

/- The printed form of a value. -/
def printed
    (interner : Interner)
    (value : Value) :
    RunM E String :=
  askHeap fun heap => heap.printed interner value

/- Note an event. -/
def note
    (event : Event) :
    RunM E Unit :=
  modify fun machine =>
    { machine with trace := machine.trace.push event }

/- Print a text, and note it if the text is refused. -/
def print
    (text : String) :
    RunM E Unit :=
  modify fun machine =>
    match machine.printer.write text with
    | (printer, none) => { machine with printer }
    | (printer, some reason) =>
        { machine with
          printer
          trace :=
            machine.trace.push (.printRefused reason) }

end Machine

end Scriptlet
