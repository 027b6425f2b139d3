import Scriptlet.Proofs.Run.Guarded
import Scriptlet.Proofs.Run.Session

/-
  Calls through call sites.

  At every moment of every run, after whatever runs before,
  each entry of each site is coherent with the heap. So a
  call that skips the check because its site knows the
  callee is the call that passes the check, and code and
  operators are only run with as many arguments as they
  take.

  Key definitions include:
    * `callCached`
    * `SameButSites`
    * `Moment.Dispatches`

  Key theorems include:
    * `Machine.Sound.callCached`
    * `Moment.Sound.dispatches`
    * `sites_coherent`
-/

------------------------------------------------------------
-- Cached and Checked Calls
------------------------------------------------------------

namespace Scriptlet

/- Resolve a callee through a site, and run the call. -/
def callCached
    (context : Context)
    (budget : Nat)
    (site : SiteId)
    (callee : FunctionId)
    (receiver : Value)
    (args : List Value)
    (line : Line) :
    CallM Value := do
  let target ← resolveCached context.interner site callee
    args.length line
  Caller.within context budget target receiver args line

/- The same answer, and machines that differ in sites. -/
structure SameButSites
    (left right : EStateM.Result Halt Machine Value) :
    Prop where
  answer : answerOf left = answerOf right
  heap :
    (Machine.after left).heap = (Machine.after right).heap
  stack :
    (Machine.after left).stack = (Machine.after right).stack
  printer :
    (Machine.after left).printer =
      (Machine.after right).printer

/- Where machines agree, only sites and trace differ. -/
theorem SameButSites.of_matched
    {argcs : Array Nat}
    {limit : Option Nat}
    {calls : List Activation}
    {left right : EStateM.Result Halt Machine Value}
    (hMatched :
      (Pairing.alone argcs limit).Matched calls
        (Pairing.alone argcs limit).Same
        (Signal.liftResult left)
        (Signal.liftResult right)) :
    SameButSites left right := by
  have hAlike
      {leftNext rightNext : Machine}
      (hAgree :
        (Pairing.alone argcs limit).Agree calls leftNext
          rightNext) :
      leftNext.heap = rightNext.heap ∧
        leftNext.stack = rightNext.stack ∧
          leftNext.printer = rightNext.printer := by
    refine ⟨?_, ?_, hAgree.similar.printer.symm⟩
    · rw [hAgree.similar.heap, Pairing.imageHeap_shared]
    · rw [hAgree.leftStack, hAgree.rightStack]
      rfl
  cases left with
  | ok value leftNext =>
      cases right with
      | ok other rightNext =>
          cases hMatched with
          | ok hAgree hSame =>
              rcases hSame with ⟨rfl, _⟩
              rcases hAlike hAgree with
                ⟨hHeap, hStack, hPrinter⟩
              exact ⟨rfl, hHeap, hStack, hPrinter⟩
      | error reason rightNext => cases hMatched
  | error reason leftNext =>
      cases right with
      | ok other rightNext =>
          cases hMatched with
          | lost hLost => exact hLost.1.elim
      | error other rightNext =>
          cases hMatched with
          | lost hLost => exact hLost.1.elim
          | error hAgree _ =>
              rcases hAlike hAgree with
                ⟨hHeap, hStack, hPrinter⟩
              exact ⟨rfl, hHeap, hStack, hPrinter⟩

/- Through a site that serves it, a call is as checked. -/
theorem Machine.Sound.callCached
    {argcs : Array Nat}
    {machine : Machine}
    {site : SiteId}
    {args : List Value}
    (hSound : machine.Sound argcs)
    (hServes : Serves argcs site args.length)
    (context : Context)
    (budget : Nat)
    (callee : FunctionId)
    (receiver : Value)
    (line : Line) :
    SameButSites
      (callCached context budget site callee receiver args
        line machine)
      (callChecked context budget callee receiver args line
        machine) := by
  apply SameButSites.of_matched
  rw [← Signal.lift_apply, ← Signal.lift_apply]
  unfold Scriptlet.callCached callChecked
  rw [Signal.lift_bind, Signal.lift_bind]
  apply Simulation.Matched.bind
    (Pairing.lawful_alone argcs machine.stack.limit)
    (.lift (Engine.stepwise_caching _ _ _ _ _))
    (fun target =>
      .lift (Caller.stepwise_within context budget target
        receiver args line))
  · rw [Signal.lift_apply, Signal.lift_apply]
    exact Pairing.matched_of_decides
      (Regime.lawful_equal machine.stack.limit) hSound.agree
      (hSound.resolveCached hServes context.interner callee
        line)
      (hSound.resolve context.interner callee args.length
        line)
  · rintro target _ leftNext rightNext _ hAgree ⟨rfl, hReady⟩
    exact Pairing.callsMatch_alone argcs _ context budget _
      target receiver args line leftNext rightNext hAgree
      hReady trivial (fun _ _ => trivial)

end Scriptlet

------------------------------------------------------------
-- Coherence at Every Moment
------------------------------------------------------------

namespace Scriptlet

namespace Machine

/- Whether every site is coherent with the heap. -/
def SitesCoherent (machine : Machine) : Prop :=
  ∀ site ∈ machine.sites, site.Coherent machine.heap

variable {argcs : Array Nat}
variable {machine : Machine}

theorem Sound.sitesCoherent
    (hSound : machine.Sound argcs) :
    machine.SitesCoherent := by
  intro site hSite
  rcases Array.getElem?_of_mem hSite with ⟨id, hId⟩
  exact hSound.coherent id site hId

/- A site serves calls with its number of arguments. -/
theorem Sound.serves
    (hSound : machine.Sound argcs)
    {id : SiteId}
    {site : CallSite}
    (hSite : machine.sites[id.index]? = some site) :
    Serves argcs id site.argc := by
  unfold Serves
  rw [← hSound.served, Array.getElem?_map, hSite]
  rfl

end Machine

namespace Moment

/-
  What holds of calls at a moment: all sites are coherent,
  now and when its work is done; through a site, a call of
  any callee with as many arguments as the site is for is
  the checked call; a node passes as many to its site; and a
  call runs only what takes its arguments.
-/
structure Dispatches
    (context : Context)
    (moment : Moment) : Prop where
  before : moment.machine.SitesCoherent
  after : (moment.last context).SitesCoherent
  cached :
    ∀ (id : SiteId) (site : CallSite) (budget : Nat)
      (callee : FunctionId) (receiver : Value)
      (args : List Value) (line : Line),
      moment.machine.sites[id.index]? = some site →
        args.length = site.argc →
          SameButSites
            (callCached context budget id callee receiver
              args line moment.machine)
            (callChecked context budget callee receiver args
              line moment.machine)
  served :
    ∀ scope id callee receiver args line,
      moment.work =
          .execute scope
            (.dispatch id callee receiver args line) →
        ∃ site,
          moment.machine.sites[id.index]? = some site ∧
            site.argc = args.length
  taken :
    ∀ target receiver args line,
      moment.work = .call target receiver args line →
        target.Takes args.length

/- Calls at a sound moment. -/
theorem Sound.dispatches
    {argcs : Array Nat}
    {moment : Moment}
    (hSound : moment.Sound argcs)
    (context : Context) :
    moment.Dispatches context := by
  constructor
  case before => exact hSound.machine.sitesCoherent
  case after => exact (hSound.last _).sound.sitesCoherent
  case cached =>
      intro id site budget callee receiver args line hSite
        hArgs
      have hServes := hSound.machine.serves hSite
      rw [← hArgs] at hServes
      exact hSound.machine.callCached hServes context budget
        callee receiver line
  case served =>
      intro scope id callee receiver args line hWork
      have hTask := hSound.work
      rw [hWork] at hTask
      exact hSound.machine.exists_site hTask.2
  case taken =>
      intro target receiver args line hWork
      have hReady := hSound.work
      rw [hWork] at hReady
      exact Target.Ready.takes hReady

end Moment

/-
  After any history on a fresh frame all sites are coherent.
  The next run does not depend on calls with a wrong number
  of arguments, and at each of its moments calls are
  dispatched as they should be.
-/
theorem sites_coherent
    {settings : Settings}
    {printer : Printer}
    {interner : Interner}
    {jobs : List Job}
    {shown : List Shown}
    {session : Session}
    (hHistory :
      History (.fresh settings printer interner) jobs shown
        session) :
    session.machine.SitesCoherent ∧
      ∀ (job : Job) (program : Program),
        session.Offers job.script program →
          let context := session.context job.interner
          let budget :=
            session.interpreter.budget job.hostDepth
          (∀ otherwise : Caller,
              program.runBy context
                  (.guarded context otherwise budget)
                  session.interpreter.global
                  session.machine =
                session.result job program) ∧
            ∀ moment,
              Moment.Reaches context
                  (session.first job program) moment →
                moment.Dispatches context := by
  have hMirrors :=
    (hHistory.mirrors
      (Session.mirrors_fresh rfl printer interner)).2
  refine ⟨hMirrors.twins.leftSound.sitesCoherent, ?_⟩
  intro job program hOffers context budget
  have hFirst := hMirrors.sound_first hOffers
  constructor
  · intro otherwise
    exact Program.runBy_guarded hFirst context otherwise
  · intro moment hReaches
    exact (hFirst.reaches hReaches).sound.dispatches context

/- A run after a run that has warmed the only site. -/
theorem sites_coherent_warm :
    let session := Session.fresh {} (.buffer "") .new
    let program := session.lastLinked printOne 1
    let warm :=
      (session.link printOne 1).next printOneJob program
    warm.machine.SitesCoherent ∧
      (warm.first printOneJob program).Dispatches
        (warm.context .new) := by
  intro session program warm
  have hOffers :
      (session.link printOne 1).Offers printOne program :=
    session.offers_link printOne 1
  have hHistory :
      History session [printOneJob] _ warm :=
    .link printOne 1
      (.run printOneJob program hOffers (.done _))
  rcases sites_coherent hHistory with
    ⟨hCoherent, hRuns⟩
  have hRun := hRuns printOneJob program
    (hOffers.next printOneJob program)
  exact ⟨hCoherent, hRun.2 _ .refl⟩

end Scriptlet
