import Scriptlet.Interpreter.Store

/-
  The global frame.

  The global frame binds itself, the primitive that prints,
  and the operators. All of these are ordinary bindings,
  which a program may overwrite.

  Key definitions include:
    * `globalName`
    * `Store.definePrimitive`
    * `Store.newGlobal`
-/

------------------------------------------------------------
-- The Global Frame
------------------------------------------------------------

namespace Scriptlet

/- The name under which the global frame binds itself. -/
def globalName : String :=
  "global"

namespace Store

/- Make a primitive and bind it in a frame. -/
def definePrimitive
    (frame : ObjectId)
    (text : String)
    (arity : Arity)
    (primitive : Primitive) :
    StateM Store Unit := do
  let name ← intern text
  let id ← onHeap fun heap =>
    heap.newFunction
      { name, arity, action := .primitive primitive }
  define frame name (.function id)

/- Bind operators in a frame, from left to right. -/
def defineOperators
    (frame : ObjectId) :
    List Operator → StateM Store Unit
  | [] => pure ()
  | op :: ops => do
      definePrimitive frame op.symbol (.fixed 2)
        (.operator op)
      defineOperators frame ops

/- Make a global frame with everything bound in it. -/
def newGlobal : StateM Store ObjectId := do
  let global ← onHeap fun heap => heap.newScope none
  let name ← intern globalName
  define global name (.object global)
  definePrimitive global "print" .variadic .print
  defineOperators global Operator.all
  return global

end Store

end Scriptlet
