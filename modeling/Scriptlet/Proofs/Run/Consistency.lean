import Scriptlet.Proofs.Heap.Resolution
import Scriptlet.Proofs.Run.Declaration

/-
  The heap is consistent at every moment.

  Whatever is run on a session, one thing after another, a
  name has one meaning in every object all the time: the one
  that the nearest frame on the way outward gives it.

  Key theorems include:
    * `Session.Mirrors.consistent`
    * `History.consistent`
    * `History.resolves`
-/

------------------------------------------------------------
-- Consistency of Runs
------------------------------------------------------------

namespace Scriptlet

namespace Session

variable {session plain : Session}

/- Between runs, the heap of a session is consistent. -/
theorem Mirrors.consistent
    (hMirrors : session.Mirrors plain)
    (hIndexed : session.store.heap.Indexed) :
    session.store.heap.Consistent where
  layered := hMirrors.twins.leftSound.layered
  indexed := hIndexed

/- So it is in a run, where work begins and ends. -/
theorem Mirrors.consistent_of_visits
    (hMirrors : session.Mirrors plain)
    (hIndexed : session.store.heap.Indexed)
    {job : Job}
    {program : Program}
    (hOffers : session.Offers job.script program)
    {moment : Moment}
    (hVisits : session.Visits job program moment) :
    moment.machine.heap.Consistent ∧
      (moment.last
        (session.context job.interner)).heap.Consistent := by
  have hSound :=
    ((hMirrors.sound_first hOffers).reaches hVisits).sound
  rcases hVisits.indexed hIndexed with ⟨hBegins, hEnds⟩
  exact ⟨⟨hSound.machine.layered, hBegins⟩,
    ⟨(hSound.last _).sound.layered, hEnds⟩⟩

end Session

namespace History

variable {settings : Settings}
variable {printer : Printer}
variable {interner : Interner}
variable {jobs : List Job}
variable {shown : List Shown}
variable {session : Session}

theorem consistent
    (hHistory :
      History (.fresh settings printer interner) jobs shown
        session) :
    session.store.heap.Consistent := by
  rcases hHistory.mirrors
      (Session.mirrors_fresh rfl printer interner) with
    ⟨_, hMirrors⟩
  exact hMirrors.consistent
    (hHistory.accumulates
      (Session.indexed_fresh settings printer interner)).1

/-
  Whatever a session has been through, names resolve in it
  in the nearest frame that binds them, wherever a run comes
  to, and a name bound there changes what it has to.
-/
theorem resolves
    (hHistory :
      History (.fresh settings printer interner) jobs shown
        session)
    {job : Job}
    {program : Program}
    (hOffers : session.Offers job.script program)
    {moment : Moment}
    (hVisits : session.Visits job program moment)
    {heap : Heap}
    (hHeap :
      heap = moment.machine.heap ∨
        heap =
          (moment.last
            (session.context job.interner)).heap) :
    (∀ id, heap.Resolves id) ∧
      ∀ id name value,
        id.index < heap.objects.size →
          heap.Rebinds id name value
            (heap.define id name value) := by
  rcases hHistory.mirrors
      (Session.mirrors_fresh rfl printer interner) with
    ⟨_, hMirrors⟩
  have hMoment :=
    hMirrors.consistent_of_visits
      hHistory.consistent.indexed hOffers hVisits
  have hConsistent : heap.Consistent := by
    rcases hHeap with rfl | rfl
    · exact hMoment.1
    · exact hMoment.2
  refine ⟨hConsistent.resolves, ?_⟩
  intro id name value hId
  exact hConsistent.rebinds hId name value

end History

end Scriptlet
