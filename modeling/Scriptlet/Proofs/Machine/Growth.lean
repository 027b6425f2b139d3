import Scriptlet.Proofs.Heap.Layered
import Scriptlet.Proofs.Machine.Evolution

/-
  What only grows while a machine evolves: the number of its
  objects, and the text that was printed. The number of its
  sites stays what it is.

  Key definitions include:
    * `Machine.Extends`

  Key theorems include:
    * `Machine.Evolves.objects_le`
    * `Machine.Evolves.size_sites`
    * `Machine.Evolves.extends`
-/

------------------------------------------------------------
-- Objects
------------------------------------------------------------

namespace Scriptlet

namespace Machine

variable {before after : Machine}

/- A step does not take an object away. -/
theorem Step.objects_le
    (hStep : before.Step after) :
    before.heap.objects.size ≤ after.heap.objects.size := by
  cases hStep with
  | define id name value => simp
  | newObject role parent => simp
  | newFunction function => exact Nat.le_refl _
  | dispatch id callee argc => simp
  | note event hEvent => exact Nat.le_refl _
  | write text => exact Nat.le_refl _
  | restack stack => exact Nat.le_refl _

/- Nor do many steps. -/
theorem Evolves.objects_le
    (hEvolves : before.Evolves after) :
    before.heap.objects.size ≤ after.heap.objects.size :=
  hEvolves.lift
    (fun first second =>
      first.heap.objects.size ≤ second.heap.objects.size)
    (fun _ => Nat.le_refl _)
    (fun _ _ _ => Nat.le_trans)
    (fun _ _ => Step.objects_le)

end Machine

end Scriptlet

------------------------------------------------------------
-- Sites
------------------------------------------------------------

namespace Scriptlet

namespace Machine

variable {before after : Machine}

/- Sites come from linking and not from running. -/
theorem Step.size_sites
    (hStep : before.Step after) :
    after.sites.size = before.sites.size := by
  cases hStep with
  | dispatch id callee argc => simp
  | _ => rfl

theorem Evolves.size_sites
    (hEvolves : before.Evolves after) :
    after.sites.size = before.sites.size :=
  hEvolves.lift
    (fun first second =>
      second.sites.size = first.sites.size)
    (fun _ => rfl)
    (fun _ _ _ hFirst hSecond => hSecond.trans hFirst)
    (fun _ _ => Step.size_sites)

end Machine

end Scriptlet

------------------------------------------------------------
-- Output
------------------------------------------------------------

namespace Scriptlet

/- A printer keeps what it was given before. -/
theorem Printer.exists_output_write
    (printer : Printer)
    (text : String) :
    ∃ more,
      (printer.write text).1.output =
        printer.output ++ more := by
  cases printer with
  | buffer held =>
      exact ⟨text,
        by simp [output, captured, delivered]⟩
  | silent => exact ⟨"", by simp [write]⟩
  | writer sink =>
      exact ⟨(sink.takes [] text).1,
        by simp [write, Sink.write, output, captured,
          delivered]⟩

namespace Machine

/- Whether a machine printed what another one had printed. -/
def Extends (before after : Machine) : Prop :=
  ∃ more,
    after.printer.output = before.printer.output ++ more

variable {before after later : Machine}

theorem Extends.refl (machine : Machine) :
    machine.Extends machine :=
  ⟨"", by simp⟩

theorem Extends.trans
    (hFirst : before.Extends after)
    (hSecond : after.Extends later) :
    before.Extends later := by
  rcases hFirst with ⟨first, hFirst⟩
  rcases hSecond with ⟨second, hSecond⟩
  exact ⟨first ++ second,
    by rw [hSecond, hFirst, String.append_assoc]⟩

/- A step does not take back what was printed. -/
theorem Step.extends
    (hStep : before.Step after) :
    before.Extends after := by
  cases hStep with
  | define id name value => exact .refl before
  | newObject role parent => exact .refl before
  | newFunction function => exact .refl before
  | dispatch id callee argc => exact ⟨"", by simp⟩
  | note event hEvent => exact .refl before
  | write text =>
      exact before.printer.exists_output_write text
  | restack stack => exact .refl before

/- Nor do many steps. -/
theorem Evolves.extends
    (hEvolves : before.Evolves after) :
    before.Extends after :=
  hEvolves.lift Extends Extends.refl
    (fun _ _ _ => Extends.trans) (fun _ _ => Step.extends)

end Machine

end Scriptlet
