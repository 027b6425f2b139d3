import Scriptlet.Proofs.Machine.Evolution

/-
  The dispatches behind the sites of a machine.

  A log lists dispatches at all sites in their order, with
  the steps that they reported. The sites of a machine are
  what the dispatches of a log made of new sites, each site
  by its own dispatches, and the steps that the machine has
  noted are those in the log. This stays so while a machine
  evolves, with a longer log.

  Key definitions include:
    * `Dispatch`
    * `Machine.Logged`

  Key theorems include:
    * `Machine.Logged.dispatched`
    * `Machine.Evolves.logged`
-/

------------------------------------------------------------
-- Logs
------------------------------------------------------------

namespace Scriptlet

/- A dispatch at a site, and the step that it reported. -/
structure Dispatch where
  site : SiteId
  attempt : Attempt
  report : Option Transition

namespace Dispatch

/- What was dispatched at one site. -/
def attemptsAt
    (id : SiteId)
    (log : List Dispatch) :
    List Attempt :=
  (log.filter fun entry => entry.site = id).map attempt

/- What one site reported. -/
def reportsAt
    (id : SiteId)
    (log : List Dispatch) :
    List Transition :=
  (log.filter fun entry => entry.site = id).filterMap report

variable (id : SiteId)

theorem attemptsAt_append
    (log more : List Dispatch) :
    attemptsAt id (log ++ more) =
      attemptsAt id log ++ attemptsAt id more := by
  simp [attemptsAt]

theorem reportsAt_append
    (log more : List Dispatch) :
    reportsAt id (log ++ more) =
      reportsAt id log ++ reportsAt id more := by
  simp [reportsAt]

variable (attempt : Attempt)
variable (report : Option Transition)

/- A dispatch belongs to its site. -/
theorem attemptsAt_self :
    attemptsAt id [{ site := id, attempt, report }] =
      [attempt] := by
  simp [attemptsAt]

theorem reportsAt_self :
    reportsAt id [{ site := id, attempt, report }] =
      report.toList := by
  cases report with
  | none => simp [reportsAt]
  | some step => simp [reportsAt]

variable {id}
variable {other : SiteId}

/- Other sites have nothing to do with a dispatch. -/
theorem attemptsAt_other
    (hOther : other ≠ id) :
    attemptsAt id [{ site := other, attempt, report }] =
      [] := by
  simp [attemptsAt, hOther]

theorem reportsAt_other
    (hOther : other ≠ id) :
    reportsAt id [{ site := other, attempt, report }] =
      [] := by
  simp [reportsAt, hOther]

end Dispatch

end Scriptlet

------------------------------------------------------------
-- Logged Machines
------------------------------------------------------------

namespace Scriptlet

namespace Machine

/- The steps of sites that a machine has noted. -/
def transitions (machine : Machine) : List Transition :=
  machine.trace.toList.filterMap Event.transition?

/- Whether a log is behind the sites of a machine. -/
structure Logged
    (log : List Dispatch)
    (machine : Machine) : Prop where
  known :
    ∀ entry ∈ log, entry.site.index < machine.sites.size
  sites :
    ∀ (id : SiteId) (site : CallSite),
      machine.sites[id.index]? = some site →
        site.Replays (Dispatch.attemptsAt id log)
          (Dispatch.reportsAt id log)
  noted :
    machine.transitions = log.filterMap Dispatch.report

namespace Logged

variable {log : List Dispatch}
variable {machine : Machine}

/- The heap, the stack and the printer do not matter. -/
theorem congr
    {next : Machine}
    (hLogged : machine.Logged log)
    (hSites : next.sites = machine.sites)
    (hNoted : next.transitions = machine.transitions) :
    next.Logged log where
  known := by
    rw [hSites]
    exact hLogged.known
  sites := by
    rw [hSites]
    exact hLogged.sites
  noted := by
    rw [hNoted]
    exact hLogged.noted

/- A dispatch is one more entry of the log. -/
theorem dispatched
    {id : SiteId}
    {site : CallSite}
    (hLogged : machine.Logged log)
    (hSite : machine.sites[id.index]? = some site)
    (attempt : Attempt) :
    (machine.dispatched id attempt).Logged
      (log ++
        [{ site := id
           attempt
           report := (site.dispatch attempt).1 }]) := by
  have hBound := (Array.getElem?_eq_some_iff.mp hSite).1
  constructor
  case known =>
      intro entry hEntry
      rw [size_sites_dispatched]
      rcases List.mem_append.mp hEntry with hOld | hNew
      · exact hLogged.known entry hOld
      · rw [List.mem_singleton.mp hNew]
        exact hBound
  case sites =>
      intro other found hFound
      rw [getElem?_sites_dispatched] at hFound
      rw [Dispatch.attemptsAt_append,
        Dispatch.reportsAt_append]
      by_cases hSame : id = other
      · subst hSame
        rw [if_pos rfl, hSite] at hFound
        cases hFound
        rw [Dispatch.attemptsAt_self,
          Dispatch.reportsAt_self]
        exact (hLogged.sites id site hSite).dispatch attempt
      · have hIndex : other.index ≠ id.index := by
          intro hIndex
          exact hSame (congrArg SiteId.mk hIndex.symm)
        rw [if_neg hIndex] at hFound
        rw [Dispatch.attemptsAt_other _ _ hSame,
          Dispatch.reportsAt_other _ _ hSame,
          List.append_nil, List.append_nil]
        exact hLogged.sites other found hFound
  case noted =>
      have hTrace :
          (machine.dispatched id attempt).trace =
            machine.trace ++
              ((site.dispatch attempt).1.toList.map
                Event.siteChanged).toArray := by
        simp [Machine.dispatched, hSite]
      have hOld := hLogged.noted
      unfold transitions at *
      rw [hTrace, Array.toList_append, List.filterMap_append,
        List.filterMap_append, hOld]
      cases (site.dispatch attempt).1 with
      | none => rfl
      | some step => rfl

end Logged

/- Every step keeps a log, or makes it longer. -/
theorem Step.logged
    {before after : Machine}
    {log : List Dispatch}
    (hStep : before.Step after)
    (hLogged : before.Logged log) :
    ∃ more, after.Logged (log ++ more) := by
  have hSame
      (hSites : after.sites = before.sites)
      (hTrace : after.transitions = before.transitions) :
      ∃ more, after.Logged (log ++ more) := by
    refine ⟨[], ?_⟩
    rw [List.append_nil]
    exact hLogged.congr hSites hTrace
  cases hStep with
  | define id name value => exact hSame rfl rfl
  | newObject role parent => exact hSame rfl rfl
  | newFunction function => exact hSame rfl rfl
  | dispatch id callee argc =>
      cases hSite : before.sites[id.index]? with
      | none =>
          rw [dispatched_of_none hSite] at *
          exact hSame rfl rfl
      | some site =>
          exact ⟨_, hLogged.dispatched hSite _⟩
  | note event hEvent =>
      refine hSame rfl ?_
      simp [transitions, hEvent]
  | write text => exact hSame rfl rfl
  | restack stack => exact hSame rfl rfl

/- So do many steps. -/
theorem Evolves.logged
    {before after : Machine}
    {log : List Dispatch}
    (hEvolves : before.Evolves after)
    (hLogged : before.Logged log) :
    ∃ more, after.Logged (log ++ more) := by
  induction hEvolves with
  | refl => exact ⟨[], by simpa using hLogged⟩
  | tail _ hStep ih =>
      rcases ih with ⟨first, hFirst⟩
      rcases hStep.logged hFirst with ⟨second, hSecond⟩
      rw [List.append_assoc] at hSecond
      exact ⟨first ++ second, hSecond⟩

end Machine

end Scriptlet
