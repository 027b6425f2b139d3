import Scriptlet.Proofs.Cache.Replay
import Scriptlet.Proofs.Machine.Apply

/-
  Dispatching on a machine.

  Resolving a callee through a site is one dispatch at this
  site. The callee passes the check if its arity accepts the
  arguments, and a step that the site reports is noted.

  Key definitions include:
    * `Heap.target?`
    * `Event.transition?`
    * `Machine.dispatched`

  Key theorems include:
    * `Heap.toOption_check`
    * `resolveCached_dispatched`
-/

------------------------------------------------------------
-- Verdicts
------------------------------------------------------------

namespace Scriptlet

namespace Heap

/- The target of a callee that accepts so many arguments. -/
def target?
    (heap : Heap)
    (callee : FunctionId)
    (argc : Nat) :
    Option Target :=
  (heap.function? callee).bind fun function =>
    if function.arity.accepts argc then
      some (.of function)
    else
      none

/- The check gives the target, or says why there is none. -/
theorem toOption_check
    (heap : Heap)
    (interner : Interner)
    (callee : FunctionId)
    (argc : Nat)
    (line : Line) :
    (heap.check interner callee argc line).toOption =
      heap.target? callee argc := by
  unfold check target?
  cases heap.function? callee with
  | none => rfl
  | some function =>
      cases hArity : function.arity with
      | variadic =>
          simp [hArity, Arity.accepts, Except.toOption]
      | fixed expected =>
          by_cases hCount : expected = argc
          · simp [hArity, Arity.accepts, hCount,
              Except.toOption]
          · simp [hArity, Arity.accepts, hCount,
              Except.toOption]

end Heap

end Scriptlet

------------------------------------------------------------
-- Dispatches
------------------------------------------------------------

namespace Scriptlet

/- The step of a site that an event is about. -/
def Event.transition? : Event → Option Transition
  | .siteChanged step => some step
  | _ => none

namespace Machine

/-
  A machine after a dispatch at a site, which notes the step
  that the site reports.
-/
def dispatched
    (machine : Machine)
    (id : SiteId)
    (attempt : Attempt) :
    Machine :=
  match machine.sites[id.index]? with
  | some site =>
      { machine with
        sites := machine.sites.setIfInBounds id.index
          (site.dispatch attempt).2
        trace := machine.trace ++
          ((site.dispatch attempt).1.toList.map
            Event.siteChanged).toArray }
  | none => machine

variable (machine : Machine)
variable (id : SiteId)
variable (attempt : Attempt)

@[simp] theorem heap_dispatched :
    (machine.dispatched id attempt).heap =
      machine.heap := by
  unfold dispatched
  split <;> rfl

@[simp] theorem stack_dispatched :
    (machine.dispatched id attempt).stack =
      machine.stack := by
  unfold dispatched
  split <;> rfl

@[simp] theorem printer_dispatched :
    (machine.dispatched id attempt).printer =
      machine.printer := by
  unfold dispatched
  split <;> rfl

@[simp] theorem size_sites_dispatched :
    (machine.dispatched id attempt).sites.size =
      machine.sites.size := by
  unfold dispatched
  split
  · exact Array.size_setIfInBounds
  · rfl

/- A dispatch is at one site and leaves the others alone. -/
theorem getElem?_sites_dispatched
    (index : Nat) :
    (machine.dispatched id attempt).sites[index]? =
      if index = id.index then
        machine.sites[index]?.map fun site =>
          (site.dispatch attempt).2
      else
        machine.sites[index]? := by
  unfold dispatched
  by_cases hIndex : index = id.index
  · subst hIndex
    rw [if_pos rfl]
    cases hSite : machine.sites[id.index]? with
    | none => exact hSite
    | some site =>
        have hBound :=
          (Array.getElem?_eq_some_iff.mp hSite).1
        exact Array.getElem?_setIfInBounds_self_of_lt hBound
  · rw [if_neg hIndex]
    cases hSite : machine.sites[id.index]? with
    | none => rfl
    | some site =>
        exact Array.getElem?_setIfInBounds_ne
          (Ne.symm hIndex)

variable {machine id attempt}

/- Without such a site nothing changes. -/
theorem dispatched_of_none
    (hSite : machine.sites[id.index]? = none) :
    machine.dispatched id attempt = machine := by
  unfold dispatched
  rw [hSite]

/- A callee that a site knows is only asked for. -/
theorem dispatched_of_known
    {target : Target}
    (hKnown :
      machine.known? id attempt.callee = some target) :
    machine.dispatched id attempt =
      machine.asked id attempt.callee := by
  rcases Option.bind_eq_some_iff.mp hKnown with
    ⟨site, hSite, hFind⟩
  simp [dispatched, asked, hSite, CallSite.dispatch, hFind]

/- So is a callee that fails the check. -/
theorem dispatched_of_rejected
    (hRejected : attempt.verdict = none) :
    machine.dispatched id attempt =
      machine.asked id attempt.callee := by
  unfold dispatched asked
  cases machine.sites[id.index]? with
  | none => rfl
  | some site => simp [CallSite.dispatch, hRejected]

/- Any other callee is asked for and offered. -/
theorem dispatched_of_accepted
    {target : Target}
    (hUnknown : machine.known? id attempt.callee = none)
    (hAccepted : attempt.verdict = some target) :
    machine.dispatched id attempt =
      (machine.asked id attempt.callee).taught id
        attempt.callee target := by
  unfold dispatched asked taught
  cases hSite : machine.sites[id.index]? with
  | none => simp [hSite]
  | some site =>
      have hFind :
          site.state.find? attempt.callee = none := by
        simpa [known?, hSite] using hUnknown
      have hBound := (Array.getElem?_eq_some_iff.mp hSite).1
      simp only [CallSite.dispatch, CallSite.ask_fst, hFind,
        hAccepted,
        Array.getElem?_setIfInBounds_self_of_lt hBound,
        Array.setIfInBounds_setIfInBounds]
      cases ((site.ask attempt.callee).2.learn
        attempt.callee target).1 with
      | none => simp
      | some step => simp

end Machine

/-
  Resolving through a site is a dispatch at the site. It
  gives what the site knows, and else what the check gives.
-/
theorem resolveCached_dispatched
    (interner : Interner)
    (id : SiteId)
    (callee : FunctionId)
    (argc : Nat)
    (line : Line)
    (machine : Machine) :
    let next := machine.dispatched id
      { callee
        verdict := machine.heap.target? callee argc }
    resolveCached interner id callee argc line machine =
      match machine.known? id callee with
      | some target => .ok target next
      | none =>
          match
            machine.heap.check interner callee argc line
          with
          | .ok target => .ok target next
          | .error reason => .error reason next := by
  intro next
  have hCheck :=
    machine.heap.toOption_check interner callee argc line
  rw [resolveCached_apply, resolve_apply,
    Machine.heap_asked]
  cases hKnown : machine.known? id callee with
  | some target =>
      have hNext : next = machine.asked id callee :=
        Machine.dispatched_of_known hKnown
      rw [hNext]
  | none =>
      cases hResult :
          machine.heap.check interner callee argc line with
      | ok target =>
          rw [hResult] at hCheck
          have hNext :
              next =
                (machine.asked id callee).taught id callee
                  target :=
            Machine.dispatched_of_accepted hKnown
              hCheck.symm
          rw [hNext]
      | error reason =>
          rw [hResult] at hCheck
          have hNext : next = machine.asked id callee :=
            Machine.dispatched_of_rejected hCheck.symm
          rw [hNext]

end Scriptlet
