import Scriptlet.Heap.Scope

/-
  Chains of frames.

  A heap is layered if every parent is older than its frame.
  Then the links to parents can be followed from any object,
  and the way ends: each object has a chain of frames, which
  is finite. A name resolves to what the first frame on the
  chain that binds it binds it to.

  Key definitions include:
    * `Heap.Layered`
    * `Heap.Chain`
    * `Heap.binds`

  Key theorems include:
    * `Heap.Layered.exists_chain`
    * `Heap.Layered.lookup_eq`
    * `Heap.Layered.inScope_eq`
    * `Heap.Layered.climbs`
-/

------------------------------------------------------------
-- Single Objects
------------------------------------------------------------

namespace Scriptlet

namespace Heap

variable (heap : Heap)

/- Binding a name changes bindings of one object only. -/
theorem object?_define
    (id : ObjectId)
    (name : Name)
    (value : Value)
    (other : ObjectId) :
    (heap.define id name value).object? other =
      if id.index = other.index then
        (heap.object? other).map fun object =>
          { object with
            bindings := object.bindings.set name value }
      else
        heap.object? other := by
  unfold define object?
  exact Array.getElem?_modify

@[simp] theorem size_objects_define
    (id : ObjectId)
    (name : Name)
    (value : Value) :
    (heap.define id name value).objects.size =
      heap.objects.size := by
  simp [define]

/- A new object is the youngest one. -/
theorem object?_newObject
    (role : Role)
    (parent : Option ObjectId)
    (other : ObjectId) :
    (heap.newObject role parent).2.object? other =
      if other.index = heap.objects.size then
        some { role, parent, bindings := .empty }
      else
        heap.object? other := by
  unfold newObject object?
  exact Array.getElem?_push

@[simp] theorem size_objects_newObject
    (role : Role)
    (parent : Option ObjectId) :
    (heap.newObject role parent).2.objects.size =
      heap.objects.size + 1 := by
  simp [newObject]

/- There is one new function, and the others are old. -/
theorem eq_or_function?_of_newFunction
    {heap : Heap}
    {function other : Function}
    {id : FunctionId}
    (hOther :
      (heap.newFunction function).2.function? id =
        some other) :
    other = function ∨ heap.function? id = some other := by
  unfold newFunction function? at hOther
  rw [Array.getElem?_push] at hOther
  split at hOther
  · exact .inl (Option.some.inj hOther).symm
  · exact .inr hOther

end Heap

end Scriptlet

------------------------------------------------------------
-- Layered Heaps
------------------------------------------------------------

namespace Scriptlet

namespace Heap

/- Every parent is older than its frame. -/
def Layered (heap : Heap) : Prop :=
  ∀ id object parent,
    heap.object? id = some object →
      object.parent = some parent →
        parent.index < id.index

/- The heap without objects is layered. -/
theorem layered_empty : empty.Layered := by
  intro id object parent hObject
  simp [empty, object?] at hObject

namespace Layered

variable {heap : Heap}

/- Bindings are not links to parents. -/
theorem define
    (hLayered : heap.Layered)
    (id : ObjectId)
    (name : Name)
    (value : Value) :
    (heap.define id name value).Layered := by
  intro other object parent hObject hParent
  rw [object?_define] at hObject
  split at hObject
  · rcases Option.map_eq_some_iff.mp hObject with
      ⟨old, hOld, rfl⟩
    exact hLayered other old parent hOld hParent
  · exact hLayered other object parent hObject hParent

/- A new object may have any object as its parent. -/
theorem newObject
    (hLayered : heap.Layered)
    (role : Role)
    {parent : Option ObjectId}
    (hParent :
      ∀ id ∈ parent, id.index < heap.objects.size) :
    (heap.newObject role parent).2.Layered := by
  intro other object link hObject hLink
  rw [object?_newObject] at hObject
  split at hObject
  case isTrue hYoungest =>
      cases hObject
      rw [hYoungest]
      exact hParent link hLink
  case isFalse =>
      exact hLayered other object link hObject hLink

/- Functions do not matter. -/
theorem newFunction
    (hLayered : heap.Layered)
    (function : Function) :
    (heap.newFunction function).2.Layered :=
  hLayered

end Layered

end Heap

end Scriptlet

------------------------------------------------------------
-- Chains
------------------------------------------------------------

namespace Scriptlet

namespace Heap

/-
  The frames that are met on the way outward from an object,
  following the links to parents wherever they lead.
-/
inductive Chain
    (heap : Heap) :
    ObjectId → List ObjectId → Prop where
  | root
      {id : ObjectId}
      {object : Object}
      (hObject : heap.object? id = some object)
      (hRoot : object.parent = none) :
      Chain heap id [id]
  | link
      {id parent : ObjectId}
      {object : Object}
      {chain : List ObjectId}
      (hObject : heap.object? id = some object)
      (hParent : object.parent = some parent)
      (hChain : Chain heap parent chain) :
      Chain heap id (id :: chain)

/- Whether one object itself binds a name. -/
def binds
    (heap : Heap)
    (id : ObjectId)
    (name : Name) :
    Bool :=
  (heap.object? id).any fun object =>
    object.bindings.contains name

namespace Layered

variable {heap : Heap}

/- Every object has a chain. -/
theorem exists_chain
    (hLayered : heap.Layered)
    (id : ObjectId)
    (hId : id.index < heap.objects.size) :
    ∃ chain, heap.Chain id chain := by
  rcases id with ⟨index⟩
  -- Parents are older, so the age of a frame bounds the
  -- length of the way outward.
  induction index using Nat.strongRecOn with
  | ind index ih =>
      have hExists :
          ∃ object, heap.object? ⟨index⟩ = some object :=
        ⟨_, Array.getElem?_eq_getElem hId⟩
      rcases hExists with ⟨object, hObject⟩
      cases hParent : object.parent with
      | none => exact ⟨_, .root hObject hParent⟩
      | some parent =>
          have hOlder := hLayered _ _ _ hObject hParent
          rcases ih parent.index hOlder (Nat.lt_trans hOlder
              hId) with
            ⟨chain, hChain⟩
          exact ⟨_, .link hObject hParent hChain⟩

/- A name resolves to the first binding on the chain. -/
theorem lookup_eq
    (hLayered : heap.Layered)
    {id : ObjectId}
    {chain : List ObjectId}
    (hChain : heap.Chain id chain)
    (name : Name) :
    heap.lookup id name =
      (chain.findSome? fun frame =>
        heap.own? frame name).getD .undefined := by
  induction hChain with
  | @root id object hObject hRoot =>
      rw [lookup, hObject]
      simp only [hRoot, List.findSome?_cons,
        List.findSome?_nil, own?, hObject,
        Option.bind_some]
      cases object.bindings.get? name <;> rfl
  | @link id parent object chain hObject hParent _ ih =>
      have hOlder := hLayered _ _ _ hObject hParent
      rw [lookup, hObject]
      simp only [hParent, hOlder, if_true, ih,
        List.findSome?_cons]
      rw [show heap.own? id name =
        object.bindings.get? name by simp [own?, hObject]]
      cases object.bindings.get? name <;> rfl

/- A name is visible if a frame on the chain binds it. -/
theorem inScope_eq
    (hLayered : heap.Layered)
    {id : ObjectId}
    {chain : List ObjectId}
    (hChain : heap.Chain id chain)
    (name : Name) :
    heap.inScope id name =
      chain.any fun frame => heap.binds frame name := by
  induction hChain with
  | @root id object hObject hRoot =>
      rw [inScope, hObject]
      simp [hRoot, binds, hObject]
  | @link id parent object chain hObject hParent _ ih =>
      have hOlder := hLayered _ _ _ hObject hParent
      rw [inScope, hObject]
      simp only [hParent, hOlder, if_true, ih,
        List.any_cons]
      simp [binds, hObject]

end Layered

/-
  Whether from every object one comes outward to an end, and
  names are found on the way there.
-/
def Climbs (heap : Heap) : Prop :=
  ∀ id : ObjectId,
    id.index < heap.objects.size →
      ∃ chain,
        heap.Chain id chain ∧
          ∀ name,
            heap.lookup id name =
                (chain.findSome? fun frame =>
                  heap.own? frame name).getD .undefined ∧
              heap.inScope id name =
                chain.any fun frame => heap.binds frame name

theorem Layered.climbs
    {heap : Heap}
    (hLayered : heap.Layered) :
    heap.Climbs := by
  intro id hId
  rcases hLayered.exists_chain id hId with ⟨chain, hChain⟩
  exact ⟨chain, hChain, fun name =>
    ⟨hLayered.lookup_eq hChain name,
      hLayered.inScope_eq hChain name⟩⟩

end Heap

end Scriptlet
