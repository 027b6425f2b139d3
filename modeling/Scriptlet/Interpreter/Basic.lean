import Scriptlet.Cache.Link
import Scriptlet.Eval.Call
import Scriptlet.Interpreter.Global

/-
  Interpreters.

  An interpreter runs scripts against a global frame, with a
  printer and a call stack of its own. Names, objects and
  call sites are in a store, which other interpreters may
  use as well. Since scripts may recurse without end, every
  run is also given `hostDepth`, the nesting of calls that
  the host can carry; it matters only where the call stack
  has no limit.

  Key definitions include:
    * `Settings`
    * `Interpreter`
    * `Interpreter.create`
    * `Interpreter.perform`
    * `Interpreter.run`
    * `Interpreter.walk`
    * `Interpreter.execute`
    * `Interpreter.call`
    * `Interpreter.callTarget`
-/

------------------------------------------------------------
-- Interpreters
------------------------------------------------------------

namespace Scriptlet

/- The entries a call site has room for by default. -/
def defaultCacheDepth : Nat :=
  3

/- How to run scripts. -/
structure Settings where
  strategy : Strategy := .treeWalk
  cacheDepth : Nat := defaultCacheDepth
  maxCallDepth : Option Nat := none
deriving DecidableEq, Repr

/- An interpreter between runs. -/
structure Interpreter where
  global : ObjectId
  this : Name
  lambda : Name
  strategy : Strategy
  cacheDepth : Nat
  stack : CallStack
  printer : Printer

namespace Interpreter

/-
  Make an interpreter, on a given frame or on a fresh global
  frame. The names that the interpreter itself uses are
  interned after those of a fresh frame.
-/
def create
    (settings : Settings)
    (printer : Printer)
    (frame : Option ObjectId) :
    StateM Store Interpreter := do
  let global ←
    match frame with
    | some frame => pure frame
    | none => Store.newGlobal
  let this ← Store.intern "this"
  let lambda ← Store.intern "lambda"
  return {
    global, this, lambda, printer
    strategy := settings.strategy
    cacheDepth := settings.cacheDepth
    stack := .new settings.maxCallDepth }

/- The number of active calls. -/
def callDepth
    (interpreter : Interpreter) :
    Nat :=
  interpreter.stack.depth

/- The nesting of calls that a run may reach. -/
def budget
    (interpreter : Interpreter)
    (hostDepth : Nat) :
    Nat :=
  interpreter.stack.limit.getD hostDepth

end Interpreter

end Scriptlet

------------------------------------------------------------
-- Scripts on a Machine
------------------------------------------------------------

namespace Scriptlet

/- Run a script by walking its tree. -/
def Script.walk
    (script : Script)
    (context : Context)
    (budget : Nat)
    (global : ObjectId) :
    CallM Unit :=
  Signal.collapse do
    let _ ← Expr.evalBlock context .plain
      (.within context budget) global script.body
    return ()

/- Run a linked script. -/
def LinkedScript.execute
    (script : LinkedScript)
    (context : Context)
    (budget : Nat)
    (global : ObjectId) :
    CallM Unit :=
  Signal.collapse do
    let _ ← Expr.evalBlock context .caching
      (.within context budget) global script.body
    return ()

/- Link a script, noting that it is linked. -/
def Machine.link
    (script : Script)
    (room : Nat) :
    CallM LinkedScript := do
  Machine.note (.linking room)
  let linked ← modifyGet fun machine =>
    let (linked, sites) :=
      (script.link room).run machine.sites
    (linked, { machine with sites })
  Machine.note (.linked linked.sites.length)
  return linked

end Scriptlet

------------------------------------------------------------
-- Tasks
------------------------------------------------------------

namespace Scriptlet

/- What is left when an interpreter has finished a task. -/
structure Outcome (A : Type) where
  result : Except Halt A
  interpreter : Interpreter
  store : Store

namespace Interpreter

/- The names that a task needs. -/
def context
    (interpreter : Interpreter)
    (store : Store) :
    Context where
  interner := store.interner
  this := interpreter.this
  lambda := interpreter.lambda

/- The machine that a task starts on. -/
def machine
    (interpreter : Interpreter)
    (store : Store) :
    Machine where
  heap := store.heap
  sites := store.sites
  trace := store.trace
  stack := interpreter.stack
  printer := interpreter.printer

/- What a task leaves behind, from its last machine. -/
def finish
    {A : Type}
    (interpreter : Interpreter)
    (interner : Interner)
    (result : Except Halt A)
    (machine : Machine) :
    Outcome A where
  result := result
  interpreter :=
    { interpreter with
      stack := machine.stack
      printer := machine.printer }
  store :=
    { interner
      heap := machine.heap
      sites := machine.sites
      trace := machine.trace }

/- Carry out a task on an interpreter. -/
def perform
    {A : Type}
    (interpreter : Interpreter)
    (store : Store)
    (task : Context → CallM A) :
    Outcome A :=
  match
    task (interpreter.context store)
      (interpreter.machine store)
  with
  | .ok answer machine =>
      interpreter.finish store.interner (.ok answer) machine
  | .error reason machine =>
      interpreter.finish store.interner (.error reason)
        machine

end Interpreter

end Scriptlet

------------------------------------------------------------
-- Runs and Calls
------------------------------------------------------------

namespace Scriptlet

namespace Interpreter

/- Run a script by walking its tree. -/
def walk
    (interpreter : Interpreter)
    (hostDepth : Nat)
    (script : Script)
    (store : Store) :
    Outcome Unit :=
  interpreter.perform store fun context =>
    script.walk context (interpreter.budget hostDepth)
      interpreter.global

/-
  Run a linked script. What its call sites learn stays in
  the store, for the next run of the same script.
-/
def execute
    (interpreter : Interpreter)
    (hostDepth : Nat)
    (script : LinkedScript)
    (store : Store) :
    Outcome Unit :=
  interpreter.perform store fun context =>
    script.execute context (interpreter.budget hostDepth)
      interpreter.global

/-
  Run a script with the interpreter's strategy. With inline
  caches the script is linked afresh for this run.
-/
def run
    (interpreter : Interpreter)
    (hostDepth : Nat)
    (script : Script)
    (store : Store) :
    Outcome Unit :=
  interpreter.perform store fun context => do
    Machine.note (.running interpreter.strategy)
    let budget := interpreter.budget hostDepth
    match interpreter.strategy with
    | .treeWalk =>
        script.walk context budget interpreter.global
    | .inlineCache =>
        let linked ← Machine.link script
          interpreter.cacheDepth
        linked.execute context budget interpreter.global

/- Call a function, checking its arity. -/
def call
    (interpreter : Interpreter)
    (hostDepth : Nat)
    (callee : FunctionId)
    (receiver : Value)
    (args : List Value)
    (line : Line)
    (store : Store) :
    Outcome Value :=
  interpreter.perform store fun context =>
    callChecked context (interpreter.budget hostDepth)
      callee receiver args line

/- Check a callee's arity for a later call. -/
def resolve
    (interpreter : Interpreter)
    (callee : FunctionId)
    (argc : Nat)
    (line : Line)
    (store : Store) :
    Outcome Target :=
  interpreter.perform store fun context =>
    Scriptlet.resolve context.interner callee argc line

/- Call a target, whose arity was checked before. -/
def callTarget
    (interpreter : Interpreter)
    (hostDepth : Nat)
    (target : Target)
    (receiver : Value)
    (args : List Value)
    (line : Line)
    (store : Store) :
    Outcome Value :=
  interpreter.perform store fun context =>
    Caller.within context (interpreter.budget hostDepth)
      target receiver args line

end Interpreter

end Scriptlet
