import Scriptlet.Machine.State

/-
  Calling primitives.

  A primitive sees its receiver and its arguments. Those
  that are built in may print, and others also change the
  heap, but none of them calls anything. Its failures need
  no line; the call that reached it supplies one.

  Key definitions include:
    * `HostCode.run`
    * `HostFunction.call`
    * `Primitive.call`
-/

------------------------------------------------------------
-- Host Functions
------------------------------------------------------------

namespace Scriptlet

/- Do what a host function asks for, to its end. -/
def HostCode.run
    (interner : Interner) :
    HostCode → RunM Failure Value
  | .answer value => return value
  | .fail failure => throw failure
  | .print text next => do
      Machine.print text
      next.run interner
  | .printed value next => do
      let text ← Machine.printed interner value
      (next text).run interner
  | .look next => do
      let objects ← Machine.askHeap Heap.objects
      (next objects).run interner
  | .define id name value next => do
      Machine.define id name value
      next.run interner
  | .newObject role parent next => do
      let id ← Machine.onHeap fun heap =>
        heap.newObject role parent
      (next id).run interner
  | .newFunction name arity body next => do
      let id ← Machine.onHeap fun heap =>
        heap.newFunction
          { name, arity
            action := .primitive (.host { body }) }
      (next id).run interner

/- Call a function of the embedding program. -/
def HostFunction.call
    (interner : Interner)
    (function : HostFunction)
    (receiver : Value)
    (args : List Value) :
    RunM Failure Value :=
  (function.body interner receiver args).run interner

end Scriptlet

------------------------------------------------------------
-- Primitives
------------------------------------------------------------

namespace Scriptlet

namespace Primitive

/- Print the arguments on one line, separated by blanks. -/
def printLine
    (interner : Interner)
    (args : List Value) :
    RunM Failure Value := do
  let texts ← Machine.askHeap fun heap =>
    args.map (heap.printed interner)
  let line := String.intercalate " " texts
  Machine.note (.printing args.length line)
  Machine.print (line ++ "\n")
  return .undefined

/- Call a primitive. -/
def call
    (interner : Interner)
    (primitive : Primitive)
    (receiver : Value)
    (args : List Value) :
    RunM Failure Value :=
  match primitive with
  | .print => printLine interner args
  | .operator op =>
      match op.apply args with
      | .ok value => return value
      | .error cause => throw (.ofCause cause)
  | .host function => function.call interner receiver args

end Primitive

end Scriptlet
