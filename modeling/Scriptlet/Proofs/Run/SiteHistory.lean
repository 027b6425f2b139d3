import Scriptlet.Proofs.Cache.Numbering
import Scriptlet.Proofs.Machine.Log
import Scriptlet.Proofs.Run.Session

/-
  What call sites are in runs.

  Whatever is linked and run on a session, one thing after
  another, a log of dispatches is behind its sites at every
  moment. Linking adds sites without dispatches, and a run
  changes sites by dispatches only. So at every moment the
  functions that passed the check decide what a site is.

  Key definitions include:
    * `Machine.DispatchesAt`

  Key theorems include:
    * `Moment.Reaches.evolves`
    * `History.exists_log`
    * `callSites_account`
-/

------------------------------------------------------------
-- Moments
------------------------------------------------------------

namespace Scriptlet

namespace Task

variable {S : Type}
variable {context : Context}
variable {engine : Engine S}
variable {call : Caller}
variable {scope : ObjectId}
variable {machine next : Machine}
variable {task later : Task S}

/- A task begins on a machine that evolved. -/
theorem Leads.evolves
    (hEngine : engine.Stepwise)
    (hCall : call.Stepwise)
    (hLeads :
      Leads context engine call scope machine task next
        later) :
    machine.Evolves next := by
  have hEval
      (expr : Expr S) :
      Stepwise (expr.eval context engine call scope) :=
    Expr.stepwise_eval hEngine hCall scope expr
  have hEvalArgs
      (exprs : List (Expr S)) :
      Stepwise
        (Expr.evalArgs context engine call scope exprs) :=
    Expr.stepwise_evalArgs hEngine hCall scope exprs
  cases hLeads with
  | callArgs line site args hCallee =>
      exact (hEval _).evolves_of_ok hCallee
  | callDispatch line site hCallee hArgs =>
      exact ((hEval _).evolves_of_ok hCallee).trans
        ((hEvalArgs _).evolves_of_ok hArgs)
  | branchThen line thenBody elseBody hTest _ =>
      exact (hEval _).evolves_of_ok hTest
  | branchElse line thenBody elseBody hTest _ =>
      exact (hEval _).evolves_of_ok hTest
  | recordFields line fields =>
      exact .single (.newObject machine .record none)
  | setValue line name value hReceiver =>
      exact (hEval _).evolves_of_ok hReceiver
  | methodArgs line site args hReceiver _ =>
      exact (hEval _).evolves_of_ok hReceiver
  | methodDispatch line site hReceiver _ hArgs =>
      exact ((hEval _).evolves_of_ok hReceiver).trans
        ((hEvalArgs _).evolves_of_ok hArgs)
  | blockTail exprs hHead =>
      exact (hEval _).evolves_of_ok hHead
  | argsTail exprs hHead =>
      exact (hEval _).evolves_of_ok hHead
  | fieldsTail record name fields hHead =>
      exact ((hEval _).evolves_of_ok hHead).trans
        (.single (.define _ record name _))
  | _ => exact .refl machine

end Task

namespace Moment

variable {context : Context}
variable {moment later : Moment}

/- The code of a call begins on a machine that evolved. -/
theorem evolves_entered
    (context : Context)
    (machine : Machine)
    (scope : ObjectId)
    (params : List Name)
    (receiver : Value)
    (args : List Value)
    (stack : CallStack) :
    machine.Evolves
      (entered context machine scope params receiver args
        stack) :=
  (Stepwise.evolves_of_ok
    (Stepwise.openFrame context.this scope params receiver
      args) (openFrame_apply _ _ _ _ _ machine)).trans
    (.single (.restack _ stack))

/- So does every moment that follows from another. -/
theorem Next.evolves
    (hNext : Next context moment later) :
    moment.machine.Evolves later.machine := by
  cases hNext with
  | @walk budget scope machine next task after hLeads =>
      exact hLeads.evolves Engine.stepwise_plain
        (Caller.stepwise_within context budget)
  | @execute budget scope machine next task after hLeads =>
      exact hLeads.evolves Engine.stepwise_caching
        (Caller.stepwise_within context budget)
  | walkCall hResolve =>
      exact (Stepwise.resolve _ _ _ _).evolves_of_ok hResolve
  | executeCall hResolve =>
      exact (Stepwise.resolveCached _ _ _ _ _).evolves_of_ok
        hResolve
  | enterWalked hPush =>
      exact evolves_entered context _ _ _ _ _ _
  | enterLinked hPush =>
      exact evolves_entered context _ _ _ _ _ _

theorem Reaches.evolves
    (hReaches : Reaches context moment later) :
    moment.machine.Evolves later.machine := by
  induction hReaches with
  | refl => exact .refl moment.machine
  | tail _ hNext ih => exact ih.trans hNext.evolves

end Moment

end Scriptlet

------------------------------------------------------------
-- Sessions
------------------------------------------------------------

namespace Scriptlet

/- What a global frame is bound in has nothing to do. -/
theorem Store.survives_blank :
    Survives fun _ store =>
      store.sites = #[] ∧ store.trace = #[] where
  intern _ _ _ hBlank := hBlank
  newFunction _ _ _ _ hBlank := hBlank
  define _ _ _ _ _ _ hBlank := hBlank

namespace Expr

/- What a call is given is a new site. -/
theorem exists_new_of_mem_freshSites
    {S : Type}
    {room : Nat}
    {nodes : List (Expr S)}
    {site : CallSite}
    (hSite : site ∈ freshSites room nodes) :
    ∃ line argc, site = CallSite.new line argc room := by
  rcases List.mem_filterMap.mp hSite with
    ⟨node, _, hNode⟩
  rcases Option.map_eq_some_iff.mp hNode with
    ⟨⟨_, argc⟩, _, rfl⟩
  exact ⟨node.line, argc, rfl⟩

end Expr

/- A site that is not there was never dispatched at. -/
theorem Machine.Logged.at_unknown
    {log : List Dispatch}
    {machine : Machine}
    {id : SiteId}
    (hLogged : machine.Logged log)
    (hId : machine.sites.size ≤ id.index) :
    Dispatch.attemptsAt id log = [] ∧
      Dispatch.reportsAt id log = [] := by
  have hNone :
      (log.filter fun entry => entry.site = id) = [] := by
    rw [List.filter_eq_nil_iff]
    intro entry hEntry hSite
    have hKnown := hLogged.known entry hEntry
    rw [of_decide_eq_true hSite] at hKnown
    omega
  constructor
  · rw [Dispatch.attemptsAt, hNone, List.map_nil]
  · rw [Dispatch.reportsAt, hNone, List.filterMap_nil]

namespace Session

variable {session : Session}
variable {log : List Dispatch}

/- Nothing was dispatched on a fresh session. -/
theorem logged_fresh
    (settings : Settings)
    (printer : Printer)
    (interner : Interner) :
    (fresh settings printer interner).machine.Logged [] := by
  have hBlank :=
    Store.survives_blank.create (fun _ hBlank => hBlank)
      settings printer (.ofInterner interner) ⟨rfl, rfl⟩
  unfold fresh
  generalize
    (Interpreter.create settings printer none).run
      (.ofInterner interner) = made at *
  rcases hBlank with ⟨hSites, hTrace⟩
  constructor
  case known => simp
  case sites =>
      simp [Session.machine, Interpreter.machine, hSites]
  case noted =>
      simp [Session.machine, Interpreter.machine,
        Machine.transitions, hTrace]

/- Linking adds sites that nothing was dispatched at. -/
theorem logged_link
    (hLogged : session.machine.Logged log)
    (script : Script)
    (room : Nat) :
    (session.link script room).machine.Logged log := by
  let before := session.machine.sites
  let linked := ((script.link room).run before).1
  have hSites :
      (session.link script room).machine.sites =
        before ++
          (Expr.freshSites room
            (Expr.nodesAll linked.body)).toArray :=
    (script.run_link room before).1
  constructor
  case known =>
      intro entry hEntry
      have hKnown := hLogged.known entry hEntry
      rw [hSites, Array.size_append]
      exact Nat.lt_add_right _ hKnown
  case sites =>
      intro id site hSite
      rw [hSites, Array.getElem?_append] at hSite
      split at hSite
      case isTrue =>
          exact hLogged.sites id site hSite
      case isFalse hNew =>
          rw [List.getElem?_toArray] at hSite
          rcases Expr.exists_new_of_mem_freshSites
              (List.mem_of_getElem? hSite) with
            ⟨line, argc, rfl⟩
          rcases hLogged.at_unknown
              (Nat.le_of_not_lt hNew) with
            ⟨hAttempts, hReports⟩
          rw [hAttempts, hReports]
          exact .new line argc room
  case noted =>
      have hTrace :
          (session.link script room).machine.trace =
            (session.machine.trace.push
              (.linking room)).push
                (.linked linked.sites.length) :=
        rfl
      have hNoted := hLogged.noted
      unfold Machine.transitions at *
      rw [hTrace, ← hNoted]
      simp [Event.transition?]

/- A run makes the log longer. -/
theorem logged_next
    (hLogged : session.machine.Logged log)
    (job : Job)
    (program : Program) :
    ∃ more,
      (session.next job program).machine.Logged
        (log ++ more) := by
  have hEvolves :
      session.machine.Evolves
        (Machine.after (session.result job program)) :=
    program.stepwise_run _ _ _ _
  have hMachine :
      (session.next job program).machine =
        Machine.after (session.result job program) := by
    unfold next
    rw [outcome_eq]
    rfl
  rw [hMachine]
  exact hEvolves.logged hLogged

end Session

/- A log is behind the sites of every session. -/
theorem History.exists_log
    {session final : Session}
    {jobs : List Job}
    {shown : List Shown}
    (hHistory : History session jobs shown final)
    {log : List Dispatch}
    (hLogged : session.machine.Logged log) :
    ∃ more, final.machine.Logged (log ++ more) := by
  induction hHistory generalizing log with
  | done session => exact ⟨[], by simpa using hLogged⟩
  | link script room _ ih =>
      exact ih (Session.logged_link hLogged script room)
  | run job program _ _ ih =>
      rcases Session.logged_next hLogged job program with
        ⟨first, hNext⟩
      rcases ih hNext with ⟨second, hFinal⟩
      rw [List.append_assoc] at hFinal
      exact ⟨first ++ second, hFinal⟩

end Scriptlet

------------------------------------------------------------
-- Sites at Every Moment
------------------------------------------------------------

namespace Scriptlet

namespace Machine

variable {log : List Dispatch}
variable {machine : Machine}
variable {id : SiteId}
variable {site : CallSite}

/- A failed resolution is one miss and nothing else. -/
theorem eq_of_resolveCached
    {next : Machine}
    {interner : Interner}
    {callee : FunctionId}
    {argc : Nat}
    {line : Line}
    {reason : Halt}
    (hSite : machine.sites[id.index]? = some site)
    (hError :
      resolveCached interner id callee argc line machine =
        .error reason next) :
    next =
      { machine with
        sites := machine.sites.setIfInBounds id.index
          { site with misses := site.misses + 1 } } := by
  have hCheck :=
    machine.heap.toOption_check interner callee argc line
  rw [resolveCached_dispatched] at hError
  split at hError
  case h_1 => cases hError
  case h_2 hKnown =>
      split at hError
      case h_1 => cases hError
      case h_2 hResult =>
          cases hError
          rw [hResult] at hCheck
          have hFind : site.state.find? callee = none := by
            simpa [known?, hSite] using hKnown
          rw [dispatched_of_rejected hCheck.symm]
          simp [asked, hSite, CallSite.ask, hFind]

/-
  What resolving callees through a site does: it is the next
  dispatch in the log, no other site changes, and a callee
  that is refused leaves one miss and nothing else.
-/
structure DispatchesAt
    (machine : Machine)
    (log : List Dispatch)
    (id : SiteId)
    (site : CallSite) : Prop where
  logged :
    ∀ (interner : Interner) (callee : FunctionId)
      (argc : Nat) (line : Line),
      let attempt : Attempt :=
        { callee
          verdict := machine.heap.target? callee argc }
      (after
          (resolveCached interner id callee argc line
            machine)).Logged
        (log ++
          [{ site := id
             attempt
             report := (site.dispatch attempt).1 }])
  sites :
    ∀ (interner : Interner) (callee : FunctionId)
      (argc : Nat) (line : Line),
      let attempt : Attempt :=
        { callee
          verdict := machine.heap.target? callee argc }
      (after
          (resolveCached interner id callee argc line
            machine)).sites =
        machine.sites.setIfInBounds id.index
          (site.dispatch attempt).2
  refused :
    ∀ (interner : Interner) (callee : FunctionId)
      (argc : Nat) (line : Line) (reason : Halt)
      (next : Machine),
      resolveCached interner id callee argc line machine =
          .error reason next →
        next =
          { machine with
            sites := machine.sites.setIfInBounds id.index
              { site with misses := site.misses + 1 } }

theorem Logged.dispatchesAt
    (hLogged : machine.Logged log)
    (hSite : machine.sites[id.index]? = some site) :
    machine.DispatchesAt log id site where
  logged interner callee argc line := by
    rw [after_resolveCached]
    exact hLogged.dispatched hSite _
  sites interner callee argc line := by
    rw [after_resolveCached]
    simp [Machine.dispatched, hSite]
  refused _ _ _ _ _ _ hError :=
    eq_of_resolveCached hSite hError

end Machine

/-
  After any dispatches at a new site, the functions that
  passed the check say what the site is, how often it
  reported a step, and what it does with the next callee.

  At every moment of every run a log of dispatches is behind
  all sites and behind the steps that were noted, so that
  the same can be said of each of them.
-/
theorem callSites_account
    {settings : Settings}
    {printer : Printer}
    {interner : Interner}
    {jobs : List Job}
    {shown : List Shown}
    {session : Session}
    (hHistory :
      History (.fresh settings printer interner) jobs shown
        session)
    (job : Job)
    (program : Program)
    {moment : Moment}
    (hReaches :
      Moment.Reaches (session.context job.interner)
        (session.first job program) moment) :
    (∀ (line : Line) (argc room : Nat)
        (attempts : List Attempt),
        let new := CallSite.new line argc room
        (new.replay attempts).Accounts attempts
            (new.steps attempts) ∧
          (new.replay attempts).Answers attempts) ∧
      ∃ log,
        moment.machine.Logged log ∧
          ∀ (id : SiteId) (site : CallSite),
            moment.machine.sites[id.index]? = some site →
              site.Accounts (Dispatch.attemptsAt id log)
                  (Dispatch.reportsAt id log) ∧
                site.Answers (Dispatch.attemptsAt id log) ∧
                  moment.machine.DispatchesAt log id
                    site := by
  constructor
  · intro line argc room attempts new
    have hNew :=
      (CallSite.Accounts.new line argc room).replay attempts
    exact ⟨hNew, hNew.answers⟩
  · rcases hHistory.exists_log
        (Session.logged_fresh settings printer interner) with
      ⟨before, hSession⟩
    have hFirst :
        (session.first job program).machine =
          session.machine := by
      cases program <;> rfl
    have hEvolves := hReaches.evolves
    rw [hFirst] at hEvolves
    rcases hEvolves.logged hSession with ⟨more, hMoment⟩
    refine ⟨_, hMoment, ?_⟩
    intro id site hSite
    have hAccounts := (hMoment.sites id site hSite).accounts
    exact ⟨hAccounts, hAccounts.answers,
      hMoment.dispatchesAt hSite⟩

/-
  A run has taught the only site its only callee, so that
  one dispatch and one step are in the log.
-/
theorem callSites_account_warm :
    let session := Session.fresh {} (.buffer "") .new
    let program := session.lastLinked printOne 1
    let warm :=
      (session.link printOne 1).next printOneJob program
    let machine := (warm.first printOneJob program).machine
    ∃ site : CallSite,
      machine.sites[0]? = some site ∧
        site.state.kind = .monomorphic ∧
          ∃ log,
            machine.Logged log ∧
              site.Accounts (Dispatch.attemptsAt ⟨0⟩ log)
                  (Dispatch.reportsAt ⟨0⟩ log) ∧
                (Attempt.accepted
                  (Dispatch.attemptsAt ⟨0⟩ log)).length =
                    1 := by
  intro session program warm machine
  have hHistory :
      History session [printOneJob] _ warm :=
    .link printOne 1
      (.run printOneJob program
        (session.offers_link printOne 1) (.done _))
  rcases callSites_account hHistory printOneJob program
      .refl with
    ⟨_, log, hLogged, hSites⟩
  have hKind :
      machine.sites[0]?.map (fun site => site.state.kind) =
        some .monomorphic := by
    decide +kernel
  rcases Option.map_eq_some_iff.mp hKind with
    ⟨site, hSite, hMonomorphic⟩
  rcases hSites ⟨0⟩ site hSite with ⟨hAccounts, _, _⟩
  have hCount := hAccounts.holds.kind
  rw [hMonomorphic] at hCount
  exact ⟨site, hSite, hMonomorphic, log, hLogged, hAccounts,
    (CacheKind.of_eq_monomorphic_iff.mp hCount.symm).1⟩

end Scriptlet
