import Scriptlet.Heap.Function

/-
  The heap: objects and functions.

  Scope frames and records are both objects, that is ordered
  bindings. A frame may have a parent, which is always an
  older object; a record never has one. Nothing is ever
  removed from a heap.

  Key definitions include:
    * `Heap`
    * `Heap.newScope`
    * `Heap.newRecord`
    * `Heap.newFunction`
    * `Heap.define`
    * `Heap.own?`
    * `Heap.fields`
-/

------------------------------------------------------------
-- Heaps
------------------------------------------------------------

namespace Scriptlet

/- All objects and functions, oldest first. -/
structure Heap where
  objects : Array Object
  functions : Array Function

namespace Heap

/- The heap without objects and functions. -/
def empty : Heap where
  objects := #[]
  functions := #[]

/- The object with a number. -/
def object?
    (heap : Heap)
    (id : ObjectId) :
    Option Object :=
  heap.objects[id.index]?

/- The function with a number. -/
def function?
    (heap : Heap)
    (id : FunctionId) :
    Option Function :=
  heap.functions[id.index]?

/- Add an object without bindings. -/
def newObject
    (heap : Heap)
    (role : Role)
    (parent : Option ObjectId) :
    ObjectId × Heap :=
  (⟨heap.objects.size⟩,
    { heap with
      objects :=
        heap.objects.push
          { role, parent, bindings := .empty } })

/- Add a scope frame. -/
def newScope
    (heap : Heap)
    (parent : Option ObjectId) :
    ObjectId × Heap :=
  heap.newObject .scope parent

/- Add a record. -/
def newRecord
    (heap : Heap) :
    ObjectId × Heap :=
  heap.newObject .record none

/- Add a function. -/
def newFunction
    (heap : Heap)
    (function : Function) :
    FunctionId × Heap :=
  (⟨heap.functions.size⟩,
    { heap with
      functions := heap.functions.push function })

/- Bind a name in one object. -/
def define
    (heap : Heap)
    (id : ObjectId)
    (name : Name)
    (value : Value) :
    Heap :=
  { heap with
    objects :=
      heap.objects.modify id.index fun object =>
        { object with
          bindings := object.bindings.set name value } }

/- Bind names in one object, from left to right. -/
def defineAll
    (heap : Heap)
    (id : ObjectId) :
    List (Name × Value) → Heap
  | [] => heap
  | (name, value) :: rest =>
      (heap.define id name value).defineAll id rest

end Heap

end Scriptlet

------------------------------------------------------------
-- Views of One Object
------------------------------------------------------------

namespace Scriptlet

namespace Heap

/- The value that one object itself binds a name to. -/
def own?
    (heap : Heap)
    (id : ObjectId)
    (name : Name) :
    Option Value :=
  (heap.object? id).bind fun object =>
    object.bindings.get? name

/- The bindings of one object, oldest name first. -/
def fields
    (heap : Heap)
    (id : ObjectId) :
    List (Name × Value) :=
  match heap.object? id with
  | some object => object.bindings.toList
  | none => []

/- The number of bindings of one object. -/
def size
    (heap : Heap)
    (id : ObjectId) :
    Nat :=
  match heap.object? id with
  | some object => object.bindings.size
  | none => 0

/- The frame around an object. -/
def parent?
    (heap : Heap)
    (id : ObjectId) :
    Option ObjectId :=
  (heap.object? id).bind Object.parent

/- Whether an object is a record. -/
def isRecord
    (heap : Heap)
    (id : ObjectId) :
    Bool :=
  match heap.object? id with
  | some object => object.role == .record
  | none => false

end Heap

end Scriptlet
