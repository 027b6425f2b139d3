import Scriptlet.Heap.Printed
import Scriptlet.Heap.Scope

/-
  Heaps that differ in their functions.

  What a heap says about names and objects does not depend
  on its functions, and what is printed of a function is its
  name. So a map of functions that keeps their names goes
  unnoticed by everything that only reads.

  Key definitions include:
    * `Heap.mapFunctions`

  Key theorems include:
    * `Heap.lookup_mapFunctions`
    * `Heap.inScope_mapFunctions`
    * `Heap.printed_mapFunctions`
-/

------------------------------------------------------------
-- Reading
------------------------------------------------------------

namespace Scriptlet

namespace Heap

variable (map : Function → Function)
variable (heap : Heap)

/- Change every function of a heap. -/
def mapFunctions : Heap :=
  { heap with functions := heap.functions.map map }

@[simp] theorem object?_mapFunctions
    (id : ObjectId) :
    (heap.mapFunctions map).object? id =
      heap.object? id := by
  rfl

@[simp] theorem function?_mapFunctions
    (id : FunctionId) :
    (heap.mapFunctions map).function? id =
      (heap.function? id).map map := by
  simp [mapFunctions, function?]

/- A map that changes no function of a heap. -/
theorem mapFunctions_eq_self
    (hMap :
      ∀ id function,
        heap.function? id = some function →
          map function = function) :
    heap.mapFunctions map = heap := by
  have hFunctions :
      heap.functions.map map = heap.functions := by
    apply Array.ext_getElem?
    intro index
    rw [Array.getElem?_map]
    cases hFunction : heap.functions[index]? with
    | none => rfl
    | some function =>
        exact congrArg some
          (hMap ⟨index⟩ function hFunction)
  cases heap
  simp only [mapFunctions, hFunctions]

@[simp] theorem size_functions_mapFunctions :
    (heap.mapFunctions map).functions.size =
      heap.functions.size := by
  simp [mapFunctions]

@[simp] theorem fields_mapFunctions
    (id : ObjectId) :
    (heap.mapFunctions map).fields id =
      heap.fields id := by
  rfl

@[simp] theorem isRecord_mapFunctions
    (id : ObjectId) :
    (heap.mapFunctions map).isRecord id =
      heap.isRecord id := by
  rfl

/- Names resolve in the same way. -/
@[simp] theorem lookup_mapFunctions
    (id : ObjectId)
    (name : Name) :
    (heap.mapFunctions map).lookup id name =
      heap.lookup id name := by
  fun_induction heap.lookup id name with
  | case1 id hObject =>
      rw [lookup, object?_mapFunctions, hObject]
  | case2 id object hObject value hOwn =>
      rw [lookup, object?_mapFunctions, hObject]
      simp only [hOwn]
  | case3 id object hObject hOwn hParent =>
      rw [lookup, object?_mapFunctions, hObject]
      simp only [hOwn, hParent]
  | case4 id object hObject hOwn parent hParent hOlder ih =>
      rw [lookup, object?_mapFunctions, hObject]
      simp only [hOwn, hParent, hOlder, if_true, ih]
  | case5 id object hObject hOwn parent hParent hYounger =>
      rw [lookup, object?_mapFunctions, hObject]
      simp only [hOwn, hParent, hYounger, if_false]

/- Names are visible in the same way. -/
@[simp] theorem inScope_mapFunctions
    (id : ObjectId)
    (name : Name) :
    (heap.mapFunctions map).inScope id name =
      heap.inScope id name := by
  fun_induction heap.inScope id name with
  | case1 id hObject =>
      rw [inScope, object?_mapFunctions, hObject]
  | case2 id object hObject ih =>
      rw [inScope, object?_mapFunctions, hObject]
      simp only
      congr 1
      split
      · rfl
      · split
        · exact ih _ ‹_›
        · rfl

end Heap

end Scriptlet

------------------------------------------------------------
-- Printing
------------------------------------------------------------

namespace Scriptlet

namespace Heap

variable {map : Function → Function}
variable (heap : Heap)
variable (interner : Interner)

/- An atom prints in the same way. -/
theorem printedAtom_mapFunctions
    (hName : ∀ function, (map function).name = function.name)
    (value : Value) :
    (heap.mapFunctions map).printedAtom interner value =
      heap.printedAtom interner value := by
  cases value with
  | function id =>
      simp only [printedAtom, function?_mapFunctions]
      cases heap.function? id with
      | none => rfl
      | some function => simp [hName]
  | bool flag => cases flag <;> rfl
  | _ => rfl

/- A field prints in the same way. -/
theorem printedField_mapFunctions
    (hName : ∀ function, (map function).name = function.name)
    (value : Value) :
    (heap.mapFunctions map).printedField interner value =
      heap.printedField interner value := by
  unfold printedField
  simp only [isRecord_mapFunctions,
    printedAtom_mapFunctions heap interner hName]

/- A value prints in the same way. -/
theorem printed_mapFunctions
    (hName : ∀ function, (map function).name = function.name)
    (value : Value) :
    (heap.mapFunctions map).printed interner value =
      heap.printed interner value := by
  unfold printed
  simp only [isRecord_mapFunctions, fields_mapFunctions,
    printedField_mapFunctions heap interner hName,
    printedAtom_mapFunctions heap interner hName]

end Heap

end Scriptlet

------------------------------------------------------------
-- Writing
------------------------------------------------------------

namespace Scriptlet

namespace Heap

variable (map : Function → Function)
variable (heap : Heap)

/- Bindings do not involve functions. -/
theorem define_mapFunctions
    (id : ObjectId)
    (name : Name)
    (value : Value) :
    (heap.mapFunctions map).define id name value =
      (heap.define id name value).mapFunctions map := by
  rfl

/- New objects do not involve functions. -/
theorem newObject_mapFunctions
    (role : Role)
    (parent : Option ObjectId) :
    ((heap.mapFunctions map).newObject role parent).2 =
      (heap.newObject role parent).2.mapFunctions map := by
  rfl

/- A new function is mapped like the old ones. -/
theorem newFunction_mapFunctions
    (function : Function) :
    ((heap.mapFunctions map).newFunction
        (map function)).2 =
      (heap.newFunction function).2.mapFunctions map := by
  simp [mapFunctions, newFunction]

end Heap

end Scriptlet
