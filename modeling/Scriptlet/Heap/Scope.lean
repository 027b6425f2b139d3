import Scriptlet.Heap.Basic

/-
  Name resolution.

  A name is looked for in a frame, then in the frame around
  it, and so on outward. The search ends because a parent is
  always older than its frame: a link to an object that is
  not older is never made, and none is followed.

  Key definitions include:
    * `Heap.lookup`
    * `Heap.inScope`
-/

------------------------------------------------------------
-- Resolution
------------------------------------------------------------

namespace Scriptlet

namespace Heap

/-
  The value of a name in a frame: what the nearest frame
  that binds the name binds it to, or undefined if no frame
  does.
-/
def lookup
    (heap : Heap)
    (id : ObjectId)
    (name : Name) :
    Value :=
  match heap.object? id with
  | none => .undefined
  | some object =>
      match object.bindings.get? name with
      | some value => value
      | none =>
          match object.parent with
          | none => .undefined
          | some parent =>
              if parent.index < id.index then
                heap.lookup parent name
              else
                .undefined
termination_by id.index

/- Whether a frame, or a frame around it, binds a name. -/
def inScope
    (heap : Heap)
    (id : ObjectId)
    (name : Name) :
    Bool :=
  match heap.object? id with
  | none => false
  | some object =>
      object.bindings.contains name ||
        match object.parent with
        | none => false
        | some parent =>
            if parent.index < id.index then
              heap.inScope parent name
            else
              false
termination_by id.index

end Heap

end Scriptlet
