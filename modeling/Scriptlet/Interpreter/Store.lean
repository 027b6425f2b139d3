import Scriptlet.Machine.State

/-
  What interpreters share.

  A store holds everything that outlives a run and that
  several interpreters may use together.

  Key definitions include:
    * `Store`
    * `Store.intern`
    * `Store.onHeap`
    * `Store.define`
-/

------------------------------------------------------------
-- Stores
------------------------------------------------------------

namespace Scriptlet

/- Names, objects, functions, call sites and events. -/
structure Store where
  interner : Interner
  heap : Heap
  sites : Array CallSite
  trace : Array Event

namespace Store

/- The store that nothing was put into. -/
def new : Store where
  interner := .new
  heap := .empty
  sites := #[]
  trace := #[]

/- Intern a name. -/
def intern
    (text : String) :
    StateM Store Name :=
  modifyGet fun store =>
    let (name, interner) := store.interner.intern text
    (name, { store with interner })

/- Change the heap, and give what the change gives. -/
def onHeap
    {A : Type}
    (change : Heap → A × Heap) :
    StateM Store A :=
  modifyGet fun store =>
    let (answer, heap) := change store.heap
    (answer, { store with heap })

/- Bind a name in an object. -/
def define
    (id : ObjectId)
    (name : Name)
    (value : Value) :
    StateM Store Unit :=
  onHeap fun heap => ((), heap.define id name value)

end Store

end Scriptlet
