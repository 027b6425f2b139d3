import Scriptlet.Proofs.Data.OrderedMap
import Scriptlet.Proofs.Heap.Layered
import Scriptlet.Proofs.Machine.Evolution

/-
  Bindings accumulate.

  Whatever a running program does, no object goes away or
  becomes another kind of object, and no name that an object
  binds is ever unbound or moved: names are only added at
  the end. So a frame that binds a name goes on binding it,
  and the name stays visible wherever that frame is on the
  way outward.

  Key definitions include:
    * `Object.Grows`
    * `Heap.Grows`
    * `Heap.Indexed`

  Key theorems include:
    * `Heap.Grows.binds`
    * `Machine.Step.accumulates`
    * `Machine.Evolves.accumulates`
    * `Machine.Evolves.binds`
-/

------------------------------------------------------------
-- Growing Heaps
------------------------------------------------------------

namespace Scriptlet

/- An object, and what binding names makes of it. -/
structure Object.Grows (before after : Object) : Prop where
  role : after.role = before.role
  parent : after.parent = before.parent
  names : before.bindings.keys <+: after.bindings.keys

namespace Heap

/- A heap, and one in which its objects have grown. -/
def Grows (before after : Heap) : Prop :=
  ∀ id object,
    before.object? id = some object →
      ∃ later,
        after.object? id = some later ∧ object.Grows later

/- A heap in which bindings stand where their index says. -/
def Indexed (heap : Heap) : Prop :=
  ∀ id object,
    heap.object? id = some object → object.bindings.Indexed

namespace Grows

variable {first second third : Heap}

theorem refl (heap : Heap) : heap.Grows heap := by
  intro id object hObject
  exact ⟨object, hObject, rfl, rfl, List.prefix_refl _⟩

theorem trans
    (hFirst : first.Grows second)
    (hSecond : second.Grows third) :
    first.Grows third := by
  intro id object hObject
  rcases hFirst id object hObject with ⟨next, hNext, hGrown⟩
  rcases hSecond id next hNext with ⟨last, hLast, hMore⟩
  exact ⟨last, hLast, hMore.role.trans hGrown.role,
    hMore.parent.trans hGrown.parent,
    hGrown.names.trans hMore.names⟩

/- What an object binds it binds from then on. -/
theorem binds
    (hGrows : first.Grows second)
    (hFirst : first.Indexed)
    (hSecond : second.Indexed)
    {id : ObjectId}
    {name : Name}
    (hBinds : first.binds id name = true) :
    second.binds id name = true := by
  rcases (Option.any_eq_true _ _).mp hBinds with
    ⟨object, hObject, hName⟩
  rcases hGrows id object hObject with
    ⟨later, hLater, hGrown⟩
  have hMem :=
    ((hFirst id object hObject).contains_iff name).mp hName
  refine (Option.any_eq_true _ _).mpr ⟨later, hLater, ?_⟩
  exact ((hSecond id later hLater).contains_iff name).mpr
    (hGrown.names.subset hMem)

end Grows

end Heap

end Scriptlet

------------------------------------------------------------
-- Changes of a Heap
------------------------------------------------------------

namespace Scriptlet

namespace Heap

theorem indexed_empty : empty.Indexed := by
  intro id object hObject
  simp [empty, object?] at hObject

/- Binding a name in an object keeps its other names. -/
theorem Indexed.grows_define
    {heap : Heap}
    (hIndexed : heap.Indexed)
    (id : ObjectId)
    (name : Name)
    (value : Value) :
    heap.Grows (heap.define id name value) := by
  intro other object hObject
  rw [object?_define, hObject]
  by_cases hSame : id.index = other.index
  · rw [if_pos hSame]
    exact ⟨_, rfl, rfl, rfl,
      (hIndexed other object hObject).keys_prefix_set name
        value⟩
  · rw [if_neg hSame]
    exact ⟨object, rfl, rfl, rfl, List.prefix_refl _⟩

theorem Indexed.define
    {heap : Heap}
    (hIndexed : heap.Indexed)
    (id : ObjectId)
    (name : Name)
    (value : Value) :
    (heap.define id name value).Indexed := by
  intro other object hObject
  rw [object?_define] at hObject
  by_cases hSame : id.index = other.index
  · rw [if_pos hSame] at hObject
    rcases Option.map_eq_some_iff.mp hObject with
      ⟨old, hOld, rfl⟩
    exact (hIndexed other old hOld).set name value
  · rw [if_neg hSame] at hObject
    exact hIndexed other object hObject

/- A new object takes nothing from the others. -/
theorem grows_newObject
    (heap : Heap)
    (role : Role)
    (parent : Option ObjectId) :
    heap.Grows (heap.newObject role parent).2 := by
  intro other object hObject
  have hOlder := (Array.getElem?_eq_some_iff.mp hObject).1
  rw [object?_newObject, if_neg (Nat.ne_of_lt hOlder)]
  exact ⟨object, hObject, rfl, rfl, List.prefix_refl _⟩

theorem Indexed.newObject
    {heap : Heap}
    (hIndexed : heap.Indexed)
    (role : Role)
    (parent : Option ObjectId) :
    (heap.newObject role parent).2.Indexed := by
  intro other object hObject
  rw [object?_newObject] at hObject
  by_cases hYoungest : other.index = heap.objects.size
  · rw [if_pos hYoungest] at hObject
    cases hObject
    exact OrderedMap.indexed_empty
  · rw [if_neg hYoungest] at hObject
    exact hIndexed other object hObject

/- A name that was bound in an object is bound there. -/
theorem binds_define
    {heap : Heap}
    {id : ObjectId}
    (hBound : id.index < heap.objects.size)
    (name : Name)
    (value : Value) :
    (heap.define id name value).binds id name = true := by
  have hObject :
      heap.object? id = some heap.objects[id.index] :=
    Array.getElem?_eq_getElem hBound
  unfold binds
  rw [object?_define, if_pos rfl, hObject]
  exact (OrderedMap.contains_set _ name name value).mpr
    (.inl rfl)

end Heap

namespace Machine

variable {before after : Machine}

/- Every step lets the objects of a machine grow. -/
theorem Step.accumulates
    (hStep : before.Step after)
    (hIndexed : before.heap.Indexed) :
    after.heap.Indexed ∧ before.heap.Grows after.heap := by
  cases hStep with
  | define id name value =>
      exact ⟨hIndexed.define id name value,
        hIndexed.grows_define id name value⟩
  | newObject role parent =>
      exact ⟨hIndexed.newObject role parent,
        before.heap.grows_newObject role parent⟩
  | newFunction function => exact ⟨hIndexed, .refl _⟩
  | dispatch id callee argc =>
      rw [heap_dispatched]
      exact ⟨hIndexed, .refl _⟩
  | note event hEvent => exact ⟨hIndexed, .refl _⟩
  | write text => exact ⟨hIndexed, .refl _⟩
  | restack stack => exact ⟨hIndexed, .refl _⟩

/- So do all steps together. -/
theorem Evolves.accumulates
    (hEvolves : before.Evolves after)
    (hIndexed : before.heap.Indexed) :
    after.heap.Indexed ∧ before.heap.Grows after.heap := by
  induction hEvolves with
  | refl => exact ⟨hIndexed, .refl _⟩
  | tail _ hStep ih =>
      rcases hStep.accumulates ih.1 with ⟨hNext, hGrows⟩
      exact ⟨hNext, ih.2.trans hGrows⟩

/- A name that is bound stays bound. -/
theorem Evolves.binds
    (hEvolves : before.Evolves after)
    (hIndexed : before.heap.Indexed)
    {id : ObjectId}
    {name : Name}
    (hBinds : before.heap.binds id name = true) :
    after.heap.binds id name = true := by
  rcases hEvolves.accumulates hIndexed with
    ⟨hAfter, hGrows⟩
  exact hGrows.binds hIndexed hAfter hBinds

end Machine

end Scriptlet
