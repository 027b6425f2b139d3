import Scriptlet.Proofs.Data.InsertionOrder
import Scriptlet.Proofs.Heap.Layered

/-
  Names bound in a new object.

  A frame or a record starts without bindings, and names are
  bound in it one after another. Whatever they are, its
  slots and its index go on describing the same bindings:
  the distinct names in the order in which they were first
  bound, each with the value it was last bound to.

  Key definitions include:
    * `OrderedMap.InStep`

  Key theorems include:
    * `OrderedMap.Indexed.inStep`
    * `Heap.object?_defineAll`
    * `bindings_in_order`
-/

------------------------------------------------------------
-- Slots and Index
------------------------------------------------------------

namespace Scriptlet

namespace OrderedMap

variable {K V : Type} [Ord K]

/-
  A map whose slots and index describe the same bindings: a
  position in the index is one of the slots, and its key is
  there; no two slots have one key; and every slot is found
  through the index.
-/
structure InStep (map : OrderedMap K V) : Prop where
  held :
    ∀ key position,
      map.index.get? key = some position →
        ∃ value, map.slots[position]? = some (key, value)
  distinct : map.keys.Nodup
  found :
    ∀ position key value,
      map.slots[position]? = some (key, value) →
        map.index.get? key = some position

theorem Indexed.inStep
    {map : OrderedMap K V}
    (hIndexed : map.Indexed) :
    map.InStep where
  held _ _ hIndex := hIndexed.index_eq_some_iff.mp hIndex
  distinct := hIndexed.nodup_keys
  found _ _ value hSlot :=
    hIndexed.index_eq_some_iff.mpr ⟨value, hSlot⟩

end OrderedMap

end Scriptlet

------------------------------------------------------------
-- New Objects
------------------------------------------------------------

namespace Scriptlet

namespace Heap

/- Binding names in one object changes no other one. -/
theorem object?_defineAll
    (heap : Heap)
    (id : ObjectId)
    (writes : List (Name × Value))
    (other : ObjectId) :
    (heap.defineAll id writes).object? other =
      if id.index = other.index then
        (heap.object? other).map fun object =>
          { object with
            bindings := object.bindings.setAll writes }
      else
        heap.object? other := by
  induction writes generalizing heap with
  | nil =>
      split
      · exact (Option.map_id' (x := heap.object? other)).symm
      · rfl
  | cons write writes ih =>
      rcases write with ⟨name, value⟩
      change
        ((heap.define id name value).defineAll id
          writes).object? other = _
      rw [ih, object?_define]
      by_cases hSame : id.index = other.index
      · simp only [if_pos hSame, Option.map_map]
        rfl
      · simp only [if_neg hSame]

/- What names bound in a new object make of it. -/
theorem object?_newObject_defineAll
    (heap : Heap)
    (role : Role)
    (parent : Option ObjectId)
    (writes : List (Name × Value)) :
    ((heap.newObject role parent).2.defineAll
        (heap.newObject role parent).1 writes).object?
        (heap.newObject role parent).1 =
      some
        { role, parent
          bindings := OrderedMap.empty.setAll writes } := by
  have hYoungest :
      (heap.newObject role parent).1.index =
        heap.objects.size := by
    rfl
  rw [object?_defineAll, if_pos rfl, object?_newObject,
    if_pos hYoungest]
  rfl

end Heap

/-
  Names bound one after another in a new frame or record:
  slots and index stay in step, the bindings are listed in
  the order in which their names first came, each with the
  value that came last, that value is what a name is found
  to be bound to, and there are as many bindings as distinct
  names.
-/
theorem bindings_in_order
    (heap : Heap)
    (role : Role)
    (parent : Option ObjectId)
    (writes : List (Name × Value)) :
    let id := (heap.newObject role parent).1
    let after :=
      (heap.newObject role parent).2.defineAll id writes
    (∃ object,
        after.object? id = some object ∧
          object.bindings.InStep) ∧
      (after.fields id).map Prod.fst =
          (writes.map Prod.fst).eraseDups ∧
        (∀ name value,
          (name, value) ∈ after.fields id ↔
            writes.reverse.lookup name = some value) ∧
          (∀ name,
            after.own? id name =
              writes.reverse.lookup name) ∧
            after.size id =
              (writes.map Prod.fst).eraseDups.length := by
  intro id after
  have hObject :=
    heap.object?_newObject_defineAll role parent writes
  have hIndexed :=
    OrderedMap.indexed_setAll (K := Name) (V := Value) writes
  have hKeys :=
    OrderedMap.keys_setAll (K := Name) (V := Value) writes
  have hFields :
      after.fields id =
        (OrderedMap.empty.setAll writes).toList := by
    unfold Heap.fields
    rw [hObject]
  refine ⟨⟨_, hObject, hIndexed.inStep⟩, ?_, ?_, ?_, ?_⟩
  · rw [hFields]
    exact hKeys
  · intro name value
    rw [hFields, ← hIndexed.get?_eq_some_iff,
      OrderedMap.get?_setAll]
  · intro name
    unfold Heap.own?
    rw [hObject, Option.bind_some, OrderedMap.get?_setAll]
  · unfold Heap.size
    rw [hObject, ← hKeys]
    simp [OrderedMap.size, OrderedMap.keys,
      OrderedMap.toList]

/- A name that is bound again keeps its place. -/
example :
    let made := Heap.empty.newRecord
    let after :=
      made.2.defineAll made.1
        [(⟨7⟩, .int 1), (⟨3⟩, .int 2), (⟨7⟩, .undefined)]
    after.fields made.1 =
      [(⟨7⟩, .undefined), (⟨3⟩, .int 2)] := by
  decide +kernel

end Scriptlet
