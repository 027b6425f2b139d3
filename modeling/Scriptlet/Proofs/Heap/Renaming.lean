import Scriptlet.Heap.Printed
import Scriptlet.Proofs.Heap.Layered
import Scriptlet.Proofs.Syntax.Renaming

/-
  Heaps with other names.

  Two heaps are renamed if they have the same objects and
  functions, but for the names they are bound and written
  with. Since no two names become one, a name is bound in
  the one heap exactly if its new name is in the other, and
  to the same value. What is printed of a value goes by the
  texts of names only.

  Key definitions include:
    * `OrderedMap.Renamed`
    * `Action.Renamed`
    * `Heap.Renamed`

  Key theorems include:
    * `Heap.Renamed.lookup_eq`
    * `Heap.Renamed.inScope_eq`
    * `Heap.Renamed.printed_eq`
    * `Heap.Renamed.define`
-/

------------------------------------------------------------
-- Bindings
------------------------------------------------------------

namespace Scriptlet

namespace OrderedMap

variable {V : Type}

/- The same values in the same order, under new names. -/
structure Renamed
    (rename : Name → Name)
    (left right : OrderedMap Name V) : Prop where
  slots :
    right.slots =
      left.slots.map (Prod.map rename (id : V → V))
  index :
    ∀ name,
      right.index.get? (rename name) = left.index.get? name

variable {rename : Name → Name}

theorem renamed_empty :
    Renamed rename
      (empty : OrderedMap Name V)
      (empty : OrderedMap Name V) where
  slots := by simp [empty]
  index _ := rfl

namespace Renamed

variable {left right : OrderedMap Name V}

theorem get?_eq
    (hRenamed : Renamed rename left right)
    (name : Name) :
    right.get? (rename name) = left.get? name := by
  unfold OrderedMap.get?
  rw [hRenamed.index, hRenamed.slots]
  cases left.index.get? name with
  | none => rfl
  | some position =>
      simp only [Option.bind_some, Array.getElem?_map,
        Option.map_map]
      rfl

theorem contains_eq
    (hRenamed : Renamed rename left right)
    (name : Name) :
    right.contains (rename name) = left.contains name := by
  have hIndex := congrArg Option.isSome
    (hRenamed.index name)
  unfold OrderedMap.contains
  simpa using hIndex

theorem toList_eq
    (hRenamed : Renamed rename left right) :
    right.toList =
      left.toList.map (Prod.map rename id) := by
  unfold OrderedMap.toList
  rw [hRenamed.slots, Array.toList_map]

/- Binding a name goes on renaming, if it is injective. -/
theorem set
    (hRename : Function.Injective rename)
    (hRenamed : Renamed rename left right)
    (name : Name)
    (value : V) :
    Renamed rename (left.set name value)
      (right.set (rename name) value) := by
  unfold OrderedMap.set
  rw [hRenamed.index]
  cases left.index.get? name with
  | some position =>
      refine ⟨?_, hRenamed.index⟩
      simp only [hRenamed.slots, Array.map_setIfInBounds]
      rfl
  | none =>
      refine ⟨?_, ?_⟩
      · simp only [hRenamed.slots, Array.map_push]
        rfl
      · intro other
        have hSize :
            right.slots.size = left.slots.size := by
          rw [hRenamed.slots, Array.size_map]
        have hCompare :
            compare (rename name) (rename other) = .eq ↔
              compare name other = .eq := by
          rw [Std.LawfulEqCmp.compare_eq_iff_eq,
            Std.LawfulEqCmp.compare_eq_iff_eq]
          exact hRename.eq_iff
        have hOld := hRenamed.index other
        simp only [Std.TreeMap.get?_eq_getElem?] at hOld
        simp only [Std.TreeMap.get?_eq_getElem?,
          Std.TreeMap.getElem?_insert, hCompare, hSize,
          hOld]

end Renamed

end OrderedMap

end Scriptlet

------------------------------------------------------------
-- Functions and Heaps
------------------------------------------------------------

namespace Scriptlet

/-
  The same primitive, or the same code with other names. The
  code is walked, since linked code has sites beside names.
  The primitive is built in, since others may have names of
  their own.
-/
inductive Action.Renamed
    (rename : Name → Name) :
    Action → Action → Prop where
  | primitive
      {primitive : Primitive}
      (hBuiltIn : primitive.isHost = false) :
      Renamed rename (.primitive primitive)
        (.primitive primitive)
  | walked (code : Code Unit) (scope : ObjectId) :
      Renamed rename (.walked code scope)
        (.walked (code.rename rename) scope)

structure Function.Renamed
    (rename : Name → Name)
    (left right : Function) : Prop where
  name : right.name = rename left.name
  arity : right.arity = left.arity
  action : left.action.Renamed rename right.action

structure Object.Renamed
    (rename : Name → Name)
    (left right : Object) : Prop where
  role : right.role = left.role
  parent : right.parent = left.parent
  bindings : left.bindings.Renamed rename right.bindings

/- The same objects and functions under the same numbers. -/
structure Heap.Renamed
    (rename : Name → Name)
    (left right : Heap) : Prop where
  sizeObjects : right.objects.size = left.objects.size
  sizeFunctions :
    right.functions.size = left.functions.size
  objects :
    ∀ id,
      Option.Rel (Object.Renamed rename) (left.object? id)
        (right.object? id)
  functions :
    ∀ id,
      Option.Rel (Function.Renamed rename)
        (left.function? id) (right.function? id)

end Scriptlet

------------------------------------------------------------
-- Reading
------------------------------------------------------------

namespace Scriptlet

namespace Heap

namespace Renamed

variable {rename : Name → Name}
variable {left right : Heap}

theorem own?_eq
    (hRenamed : left.Renamed rename right)
    (id : ObjectId)
    (name : Name) :
    right.own? id (rename name) = left.own? id name := by
  have hObject := hRenamed.objects id
  unfold own?
  generalize left.object? id = leftObject at hObject
  generalize right.object? id = rightObject at hObject
  cases hObject with
  | none => rfl
  | some hObject => exact hObject.bindings.get?_eq name

theorem fields_eq
    (hRenamed : left.Renamed rename right)
    (object : ObjectId) :
    right.fields object =
      (left.fields object).map (Prod.map rename id) := by
  have hObject := hRenamed.objects object
  unfold fields
  generalize left.object? object = leftObject at hObject
  generalize right.object? object = rightObject at hObject
  cases hObject with
  | none => rfl
  | some hObject => exact hObject.bindings.toList_eq

theorem isRecord_eq
    (hRenamed : left.Renamed rename right)
    (id : ObjectId) :
    right.isRecord id = left.isRecord id := by
  have hObject := hRenamed.objects id
  unfold isRecord
  generalize left.object? id = leftObject at hObject
  generalize right.object? id = rightObject at hObject
  cases hObject with
  | none => rfl
  | some hObject => simp only [hObject.role]

/- A new name resolves to what the old name did. -/
theorem lookup_eq
    (hRenamed : left.Renamed rename right)
    (id : ObjectId)
    (name : Name) :
    right.lookup id (rename name) = left.lookup id name := by
  have hObject := hRenamed.objects id
  rw [lookup, lookup]
  generalize left.object? id = leftObject at hObject
  generalize right.object? id = rightObject at hObject
  cases hObject with
  | none => rfl
  | @some object other hObject =>
      simp only [hObject.bindings.get?_eq, hObject.parent]
      cases object.bindings.get? name with
      | some value => rfl
      | none =>
          cases object.parent with
          | none => rfl
          | some parent =>
              simp only
              split
              · exact hRenamed.lookup_eq parent name
              · rfl
termination_by id.index

/- A new name is visible where the old name was. -/
theorem inScope_eq
    (hRenamed : left.Renamed rename right)
    (id : ObjectId)
    (name : Name) :
    right.inScope id (rename name) =
      left.inScope id name := by
  have hObject := hRenamed.objects id
  rw [inScope, inScope]
  generalize left.object? id = leftObject at hObject
  generalize right.object? id = rightObject at hObject
  cases hObject with
  | none => rfl
  | @some object other hObject =>
      simp only [hObject.bindings.contains_eq,
        hObject.parent]
      cases object.parent with
      | none => rfl
      | some parent =>
          simp only
          split
          · rw [hRenamed.inScope_eq parent name]
          · rfl
termination_by id.index

end Renamed

end Heap

end Scriptlet

------------------------------------------------------------
-- Printing
------------------------------------------------------------

namespace Scriptlet

namespace Heap

namespace Renamed

variable {base interner : Interner}
variable {left right : Heap}

/- What is printed of a function is the text of its name. -/
theorem printedAtom_eq
    (translation : Translation base interner)
    (hRenamed : left.Renamed translation.rename right)
    (value : Value) :
    right.printedAtom interner value =
      left.printedAtom base value := by
  cases value with
  | function id =>
      have hFunction := hRenamed.functions id
      simp only [printedAtom]
      generalize left.function? id = leftFunction
        at hFunction
      generalize right.function? id = rightFunction
        at hFunction
      cases hFunction with
      | none => rfl
      | some hFunction =>
          simp only [hFunction.name, translation.lookup]
  | bool flag => cases flag <;> rfl
  | _ => rfl

theorem printedField_eq
    (translation : Translation base interner)
    (hRenamed : left.Renamed translation.rename right)
    (value : Value) :
    right.printedField interner value =
      left.printedField base value := by
  unfold printedField
  simp only [hRenamed.isRecord_eq,
    hRenamed.printedAtom_eq translation]

/- Values print the same under translated names. -/
theorem printed_eq
    (translation : Translation base interner)
    (hRenamed : left.Renamed translation.rename right)
    (value : Value) :
    right.printed interner value =
      left.printed base value := by
  unfold printed
  simp only [hRenamed.isRecord_eq, hRenamed.fields_eq,
    hRenamed.printedAtom_eq translation, List.map_map,
    Function.comp_def, Prod.map_fst, Prod.map_snd,
    translation.lookup, id,
    hRenamed.printedField_eq translation]

end Renamed

end Heap

end Scriptlet

------------------------------------------------------------
-- Writing
------------------------------------------------------------

namespace Scriptlet

namespace Heap

variable {rename : Name → Name}

theorem renamed_empty : empty.Renamed rename empty where
  sizeObjects := rfl
  sizeFunctions := rfl
  objects _ := .none
  functions _ := .none

namespace Renamed

variable {left right : Heap}

/- The same value is bound to a name and to its new name. -/
theorem define
    (hRename : Function.Injective rename)
    (hRenamed : left.Renamed rename right)
    (id : ObjectId)
    (name : Name)
    (value : Value) :
    (left.define id name value).Renamed rename
      (right.define id (rename name) value) where
  sizeObjects := by
    rw [size_objects_define, size_objects_define]
    exact hRenamed.sizeObjects
  sizeFunctions := hRenamed.sizeFunctions
  objects := by
    intro other
    have hObject := hRenamed.objects other
    rw [object?_define, object?_define]
    split
    · generalize left.object? other = leftObject at *
      generalize right.object? other = rightObject at *
      cases hObject with
      | none => exact .none
      | some hObject =>
          exact .some
            { role := hObject.role
              parent := hObject.parent
              bindings :=
                hObject.bindings.set hRename name value }
    · exact hObject
  functions := hRenamed.functions

theorem defineAll
    (hRename : Function.Injective rename)
    (hRenamed : left.Renamed rename right)
    (object : ObjectId)
    (bindings : List (Name × Value)) :
    (left.defineAll object bindings).Renamed rename
      (right.defineAll object
        (bindings.map (Prod.map rename id))) := by
  induction bindings generalizing left right with
  | nil => exact hRenamed
  | cons binding bindings ih =>
      exact ih
        (hRenamed.define hRename object binding.1 binding.2)

theorem newObject
    (hRenamed : left.Renamed rename right)
    (role : Role)
    (parent : Option ObjectId) :
    (left.newObject role parent).2.Renamed rename
      (right.newObject role parent).2 where
  sizeObjects := by
    rw [size_objects_newObject, size_objects_newObject,
      hRenamed.sizeObjects]
  sizeFunctions := hRenamed.sizeFunctions
  objects := by
    intro other
    rw [object?_newObject, object?_newObject,
      hRenamed.sizeObjects]
    split
    · exact .some ⟨rfl, rfl, OrderedMap.renamed_empty⟩
    · exact hRenamed.objects other
  functions := hRenamed.functions

theorem newFunction
    (hRenamed : left.Renamed rename right)
    {function other : Function}
    (hFunction : function.Renamed rename other) :
    (left.newFunction function).2.Renamed rename
      (right.newFunction other).2 where
  sizeObjects := hRenamed.sizeObjects
  sizeFunctions := by
    simp [Heap.newFunction, hRenamed.sizeFunctions]
  objects := hRenamed.objects
  functions := by
    intro id
    have hOld := hRenamed.functions id
    unfold Heap.newFunction Heap.function? at *
    rw [Array.getElem?_push, Array.getElem?_push,
      hRenamed.sizeFunctions]
    split
    · exact .some hFunction
    · exact hOld

end Renamed

end Heap

end Scriptlet
