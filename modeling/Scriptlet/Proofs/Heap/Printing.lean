import Scriptlet.Heap.Printed
import Scriptlet.Proofs.Heap.Layered

/-
  Printing in the presence of cycles.

  A record prints its own fields. A record among these is
  abbreviated, so that printing looks into no object but the
  printed one, and records that hold each other, or hold
  themselves, do not matter.

  Key theorems include:
    * `Heap.printed_define`
-/

------------------------------------------------------------
-- Objects That Are Not Printed
------------------------------------------------------------

namespace Scriptlet

namespace Heap

variable (heap : Heap)
variable (other : ObjectId)
variable (name : Name)
variable (bound : Value)

/- Binding a name makes no record and unmakes none. -/
theorem isRecord_define
    (id : ObjectId) :
    (heap.define other name bound).isRecord id =
      heap.isRecord id := by
  unfold isRecord
  rw [object?_define]
  by_cases hSame : other.index = id.index
  · rw [if_pos hSame]
    cases heap.object? id <;> rfl
  · rw [if_neg hSame]

/- The fields of other objects stay as they are. -/
theorem fields_define_of_ne
    {id : ObjectId}
    (hOther : id ≠ other) :
    (heap.define other name bound).fields id =
      heap.fields id := by
  have hIndex : other.index ≠ id.index := by
    intro hSame
    exact hOther (congrArg ObjectId.mk hSame.symm)
  unfold fields
  rw [object?_define, if_neg hIndex]

/- A field is printed without a look at its bindings. -/
theorem printedField_define
    (interner : Interner)
    (value : Value) :
    (heap.define other name bound).printedField interner
        value =
      heap.printedField interner value := by
  cases value with
  | object id =>
      simp only [printedField, isRecord_define]
      rfl
  | bool flag => cases flag <;> rfl
  | _ => rfl

/- Printing looks into no object but the printed one. -/
theorem printed_define
    (interner : Interner)
    {value : Value}
    (hValue : value ≠ .object other) :
    (heap.define other name bound).printed interner value =
      heap.printed interner value := by
  cases value with
  | object id =>
      have hOther : id ≠ other := by
        rintro rfl
        exact hValue rfl
      simp only [printed, isRecord_define,
        fields_define_of_ne heap other name bound hOther,
        printedField_define]
      rfl
  | bool flag => cases flag <;> rfl
  | _ => rfl

end Heap

end Scriptlet
