import Scriptlet.Proofs.Run.CacheDepth
import Scriptlet.Proofs.Run.Sinks

/-
  Scripts in sequence.

  Running two scripts in turn on one interpreter comes to
  the same as running one script with the statements of
  both. Each of the two is linked on its own, at different
  times. This does not show: the calls have the same numbers
  either way, and while the first script runs, no code names
  the sites of the second one.

  Key definitions include:
    * `Script.followedBy`
    * `Store.SitesExist`
    * `Program.Sequence`

  Key theorems include:
    * `Program.Sequence.run_eq`
    * `Interpreter.exists_added`
    * `Interpreter.sitesExist_run`
    * `runs_compose`
-/

------------------------------------------------------------
-- Statements in Sequence
------------------------------------------------------------

namespace Scriptlet

/- The statements of two scripts, one after the other. -/
def Script.followedBy
    (script other : Script) :
    Script where
  body := script.body ++ other.body

/- Statements run until one of them ends the run. -/
theorem Expr.evalBlock_append
    {S : Type}
    (context : Context)
    (engine : Engine S)
    (call : Caller)
    (scope : ObjectId)
    (body rest : List (Expr S)) :
    evalBlock context engine call scope (body ++ rest) =
      (do
        let _ ← evalBlock context engine call scope body
        evalBlock context engine call scope rest) := by
  induction body with
  | nil => rfl
  | cons expr body ih =>
      funext machine
      rw [List.cons_append, evalBlock, evalBlock, ih]
      simp only [RunM.bind_apply]
      cases expr.eval context engine call scope machine <;>
        rfl

/- So what follows starts where they have ended. -/
theorem runBody_append
    {S : Type}
    (context : Context)
    (engine : Engine S)
    (call : Caller)
    (global : ObjectId)
    (body rest : List (Expr S))
    (machine : Machine) :
    runBody context engine call global (body ++ rest)
        machine =
      match
        runBody context engine call global body machine
      with
      | .ok _ next =>
          runBody context engine call global rest next
      | .error reason last => .error reason last := by
  rw [runBody_apply, runBody_apply, Expr.evalBlock_append,
    RunM.bind_apply]
  cases
      Expr.evalBlock context engine call global body
        machine with
  | ok value next =>
      exact
        (runBody_apply context engine call global rest
          next).symm
  | error signal last => rfl

/- Linking goes through statements in order, too. -/
theorem Expr.run_linkAll_append
    (room : Nat)
    (body rest : List (Expr Unit))
    (sites : Array CallSite) :
    let first := (linkAll room body).run sites
    let second := (linkAll room rest).run first.2
    (linkAll room (body ++ rest)).run sites =
      (first.1 ++ second.1, second.2) := by
  induction body generalizing sites with
  | nil => rfl
  | cons expr body ih =>
      intro first second
      have hRest := ih ((expr.link room).run sites).2
      rw [List.cons_append, linkAll]
      change
        (((expr.link room).run sites).1 ::
            ((linkAll room (body ++ rest)).run
              ((expr.link room).run sites).2).1,
          ((linkAll room (body ++ rest)).run
            ((expr.link room).run sites).2).2) = _
      rw [hRest]
      rfl

end Scriptlet

------------------------------------------------------------
-- Programs in Sequence
------------------------------------------------------------

namespace Scriptlet

/- A program that has the statements of two programs. -/
inductive Program.Sequence :
    Program → Program → Program → Prop where
  | plain
      (script other : Script) :
      Sequence (.plain script) (.plain other)
        (.plain (script.followedBy other))
  | linked
      {script other whole : LinkedScript}
      (hBody : whole.body = script.body ++ other.body) :
      Sequence (.linked script) (.linked other)
        (.linked whole)

/- It runs the second one unless the first one halts. -/
theorem Program.Sequence.run_eq
    {program other whole : Program}
    (hSequence : Sequence program other whole)
    (context : Context)
    (budget : Nat)
    (global : ObjectId)
    (machine : Machine) :
    whole.run context budget global machine =
      match program.run context budget global machine with
      | .ok _ next => other.run context budget global next
      | .error reason last => .error reason last := by
  cases hSequence with
  | plain script other =>
      exact runBody_append context .plain
        (.within context budget) global script.body
        other.body machine
  | @linked script other whole hBody =>
      change
        runBody context .caching (.within context budget)
          global whole.body machine = _
      rw [hBody]
      exact runBody_append context .caching
        (.within context budget) global script.body
        other.body machine

namespace Interpreter

variable (interpreter : Interpreter)
variable (script other : Script)
variable (store : Store)

/- Preparing a script appends sites, and nothing else. -/
theorem appends_prepare :
    LinkM.Appends store.sites
      (interpreter.prepare script store).2.sites := by
  unfold prepare
  cases interpreter.strategy with
  | treeWalk => exact .refl store.sites
  | inlineCache =>
      exact
        (script.gives_link interpreter.cacheDepth
          store.sites).1

/-
  Scripts are prepared in sequence as each one is on its
  own, where the second comes when as many sites are there.
-/
theorem exists_added :
    ∃ added : Array CallSite,
      (interpreter.prepare (script.followedBy other)
          store).2.sites =
        (interpreter.prepare script store).2.sites ++
          added ∧
      ∀ later : Store,
        later.sites.size =
            (interpreter.prepare script store).2.sites.size →
          (interpreter.prepare other later).2.sites =
              later.sites ++ added ∧
            Program.Sequence
              (interpreter.prepare script store).1
              (interpreter.prepare other later).1
              (interpreter.prepare (script.followedBy other)
                store).1 := by
  unfold prepare
  cases interpreter.strategy with
  | treeWalk =>
      refine ⟨#[], Array.append_empty.symm, ?_⟩
      intro later _
      exact ⟨Array.append_empty.symm, .plain script other⟩
  | inlineCache =>
      let room := interpreter.cacheDepth
      have hAppend :=
        Expr.run_linkAll_append room script.body other.body
          store.sites
      have hAdds := Expr.adds_linkAll room other.body
      refine
        ⟨(Expr.freshSites room
          (Expr.nodesAll other.body)).toArray, ?_, ?_⟩
      · change
          ((Expr.linkAll room
            (script.body ++ other.body)).run
              store.sites).2 = _
        rw [hAppend]
        exact (hAdds _).1
      · intro later hSize
        refine ⟨(hAdds later.sites).1, .linked ?_⟩
        change
          ((Expr.linkAll room
            (script.body ++ other.body)).run
              store.sites).1 = _
        rw [hAppend]
        exact
          congrArg
            (((Expr.linkAll room script.body).run
              store.sites).1 ++ ·)
            (Expr.alike_linkAll room room other.body _ _
              hSize.symm).1

end Interpreter

end Scriptlet

------------------------------------------------------------
-- Sites That Exist
------------------------------------------------------------

namespace Scriptlet

/- An action whose code names only the first sites. -/
def Action.NamesBelow
    (count : Nat)
    (action : Action) : Prop :=
  ∀ code scope,
    action = .linked code scope →
      Expr.EveryCallAll
        (fun site _ => site.index < count) code.body

theorem Action.NamesBelow.mono
    {count more : Nat}
    {action : Action}
    (hMore : count ≤ more)
    (hNames : action.NamesBelow count) :
    action.NamesBelow more :=
  fun code scope hAction =>
    (hNames code scope hAction).mono
      (fun _ _ hBound => Nat.lt_of_lt_of_le hBound hMore) _

/- A store in which code names only sites that exist. -/
structure Store.SitesExist (store : Store) : Prop where
  functions :
    ∀ id function,
      store.heap.function? id = some function →
        function.action.NamesBelow store.sites.size
  entries :
    ∀ (id : Nat) (site : CallSite),
      store.sites[id]? = some site →
        ∀ entry ∈ site.state.entries,
          entry.target.action.NamesBelow store.sites.size

namespace Store.SitesExist

variable {store : Store}

/- Appending sites without entries does no harm. -/
theorem appends
    {later : Store}
    (hSites : store.SitesExist)
    (hHeap : later.heap = store.heap)
    (hAppends : LinkM.Appends store.sites later.sites) :
    later.SitesExist := by
  have hMore : store.sites.size ≤ later.sites.size := by
    rcases hAppends with ⟨added, hAdded, _⟩
    rw [hAdded, Array.size_append]
    exact Nat.le_add_right _ _
  constructor
  · intro id function hFunction
    rw [hHeap] at hFunction
    exact (hSites.functions id function hFunction).mono hMore
  · intro id site hSite entry hEntry
    rcases hAppends.mem_cases hSite with hOld | hNew
    · exact
        (hSites.entries id site hOld entry hEntry).mono hMore
    · rw [hNew] at hEntry
      cases hEntry

end Store.SitesExist

/- It is so where no program has run. -/
theorem Store.Pristine.sitesExist
    {objects : Nat}
    {store : Store}
    (hStore : store.Pristine objects) :
    store.SitesExist where
  functions := by
    rintro id function hFunction code scope hLinked
    rcases (hStore.builtIn id function hFunction).1 with
      ⟨primitive, hPrimitive⟩
    cases hPrimitive.symm.trans hLinked
  entries := by
    intro id site hSite
    rw [hStore.sites] at hSite
    simp at hSite

theorem Session.sitesExist_fresh
    (settings : Settings)
    (printer : Printer)
    (interner : Interner) :
    (fresh settings printer interner).store.SitesExist := by
  have hStore :=
    Interpreter.gives_create settings printer _
      (Store.pristine_ofInterner interner)
  unfold fresh
  generalize
    (Interpreter.create settings printer none).run
      (.ofInterner interner) = made at *
  exact hStore.sitesExist

namespace Surroundings

/- Machines of which the right one has more sites. -/
def unnamed
    (count : Nat)
    (beyond : Array CallSite) :
    Surroundings where
  printers := Eq
  uses site := site.index < count
  beyond := beyond

/- The same printers stay the same. -/
theorem lasting_of_eq
    {ground : Surroundings}
    (hPrinters : ground.printers = Eq) :
    ground.Lasting := by
  intro printer other text hPrinter
  rw [hPrinters] at *
  rw [hPrinter]

/- Sites that code does not name make no difference. -/
theorem alike_unnamed
    (interpreter : Interpreter)
    {store more : Store}
    {added : Array CallSite}
    (hSites : store.SitesExist)
    (hHeap : more.heap = store.heap)
    (hAdded : more.sites = store.sites ++ added) :
    (unnamed store.sites.size added).Alike
      (interpreter.machine store)
      (interpreter.machine more) where
  heap := hHeap
  printer := rfl
  sites := hAdded
  used _ hBound := .inr hBound
  functions := hSites.functions
  entries := hSites.entries

/- What a strategy makes of a script names its own sites. -/
theorem admits_prepare
    (interpreter : Interpreter)
    (script : Script)
    (store : Store)
    (added : Array CallSite) :
    let prepared := interpreter.prepare script store
    (unnamed prepared.2.sites.size added).Admits
      prepared.1 := by
  unfold Interpreter.prepare
  cases interpreter.strategy with
  | treeWalk => trivial
  | inlineCache =>
      refine
        (script.gives_link interpreter.cacheDepth
          store.sites).2.2.mono ?_ _
      intro site argc hServes
      have hBound := (Array.getElem?_eq_some_iff.mp hServes).1
      rw [Array.size_map] at hBound
      exact hBound

end Surroundings

end Scriptlet

------------------------------------------------------------
-- Runs in Sequence
------------------------------------------------------------

namespace Scriptlet

/-
  Two ends leave the same behind, but for sites and trace,
  if text goes to the same place.
-/
theorem Surroundings.Ended.finish_eq
    {ground : Surroundings}
    {stack : CallStack}
    {left right : EStateM.Result Halt Machine Unit}
    (hEnded : ground.Ended stack left right)
    (hPrinter :
      (Machine.after right).printer =
        (Machine.after left).printer)
    (interpreter : Interpreter)
    (interner : Interner) :
    let outcome :=
      interpreter.finish interner (answerOf left)
        (Machine.after left)
    interpreter.finish interner (answerOf right)
        (Machine.after right) =
      { outcome with
        store :=
          { outcome.store with
            sites := (Machine.after right).sites
            trace := (Machine.after right).trace } } := by
  unfold Interpreter.finish
  rw [hEnded.answer, hEnded.alike.heap, hEnded.rightStack,
    hEnded.leftStack, hPrinter]

/- If the sites are the same, too, only the trace differs. -/
theorem Surroundings.Ended.finish_eq_of_printing
    {stack : CallStack}
    {left right : EStateM.Result Halt Machine Unit}
    (hEnded : (printing Eq).Ended stack left right)
    (interpreter : Interpreter)
    (interner : Interner) :
    let outcome :=
      interpreter.finish interner (answerOf left)
        (Machine.after left)
    interpreter.finish interner (answerOf right)
        (Machine.after right) =
      { outcome with
        store :=
          { outcome.store with
            trace := (Machine.after right).trace } } := by
  have hSites :
      (Machine.after right).sites =
        (Machine.after left).sites :=
    hEnded.alike.sites.trans Array.append_empty
  intro outcome
  rw [hEnded.finish_eq hEnded.alike.printer.symm, hSites]
  rfl

namespace Interpreter

variable (interpreter : Interpreter)
variable (hostDepth : Nat)
variable (script : Script)
variable {store : Store}

/-
  The first of two scripts ends in the sequence as it ends
  on its own, and what is done then is done there as well.
-/
theorem exists_ended_followedBy
    (hSites : store.SitesExist)
    (other : Script) :
    let prepared := interpreter.prepare script store
    ∃ (added : Array CallSite)
      (right : EStateM.Result Halt Machine Unit),
      (Surroundings.unnamed prepared.2.sites.size
          added).Ended
        interpreter.stack
        (interpreter.result hostDepth script store) right ∧
      ∀ later : Store,
        later.sites.size = prepared.2.sites.size →
          (interpreter.prepare other later).2.sites =
              later.sites ++ added ∧
            interpreter.result hostDepth
                (script.followedBy other) store =
              match right with
              | .ok _ next =>
                  (interpreter.prepare other later).1.run
                    (interpreter.context store)
                    (interpreter.budget hostDepth)
                    interpreter.global next
              | .error reason last =>
                  .error reason last := by
  intro prepared
  rcases interpreter.exists_added script other store with
    ⟨added, hAdded, hLater⟩
  have hPrepared : prepared.2.SitesExist :=
    hSites.appends (interpreter.heap_prepare script store)
      (interpreter.appends_prepare script store)
  have hAlike :
      (Surroundings.unnamed prepared.2.sites.size
          added).Alike
        (interpreter.machine prepared.2)
        (interpreter.machine
          (interpreter.prepare (script.followedBy other)
            store).2) := by
    apply Surroundings.alike_unnamed interpreter hPrepared
    · rw [heap_prepare, heap_prepare]
    · exact hAdded
  have hEnded :=
    Surroundings.ended_run
      (Surroundings.lasting_of_eq rfl) hAlike rfl
      (Surroundings.admits_prepare interpreter script store
        added)
      (interpreter.context store)
      (interpreter.budget hostDepth) interpreter.global
  refine ⟨added, _, hEnded, ?_⟩
  intro later hSize
  rcases hLater later hSize with ⟨hOther, hSequence⟩
  exact ⟨hOther, hSequence.run_eq _ _ _ _⟩

/- A run has the sites that it was prepared with. -/
theorem size_sites_result
    (store : Store) :
    (Machine.after
        (interpreter.result hostDepth script
          store)).sites.size =
      (interpreter.prepare script store).2.sites.size :=
  (Program.stepwise_run _ _ _ _ _).size_sites

/- Code names only sites that exist, before and after. -/
theorem sitesExist_run
    (hSites : store.SitesExist) :
    (interpreter.run hostDepth script
      store).store.SitesExist := by
  rcases interpreter.exists_ended_followedBy hostDepth
      script hSites script with
    ⟨added, right, hEnded, _⟩
  have hSize :=
    interpreter.size_sites_result hostDepth script store
  rw [run_eq_finish]
  constructor
  · intro id function hFunction
    change function.action.NamesBelow
      (Machine.after _).sites.size
    rw [hSize]
    exact hEnded.alike.functions id function hFunction
  · intro id site hSite entry hEntry
    change entry.target.action.NamesBelow
      (Machine.after _).sites.size
    rw [hSize]
    exact hEnded.alike.entries id site hSite entry hEntry

/- A sequence goes on as the second script would. -/
theorem run_followedBy_of_ok
    (hSites : store.SitesExist)
    (other : Script)
    {middle : Machine}
    (hResult :
      interpreter.result hostDepth script store =
        .ok () middle) :
    let first :=
      interpreter.finish store.interner (.ok ()) middle
    let second :=
      first.interpreter.run hostDepth other first.store
    let whole :=
      interpreter.run hostDepth (script.followedBy other)
        store
    whole =
      { second with
        store :=
          { second.store with
            trace := whole.store.trace } } := by
  intro first second whole
  rcases interpreter.exists_ended_followedBy hostDepth
      script hSites other with
    ⟨added, right, hEnded, hLater⟩
  have hSize :
      middle.sites.size =
        (interpreter.prepare script store).2.sites.size := by
    have hStepwise := interpreter.size_sites_result
      hostDepth script store
    rw [hResult] at hStepwise
    exact hStepwise
  rcases hLater first.store hSize with ⟨hOther, hRun⟩
  rw [hResult] at hEnded
  cases right with
  | error reason last => cases hEnded.answer
  | ok _ next =>
      -- The second script starts on `next` in the sequence,
      -- and on its own where the first one has ended.
      let renewed := first.interpreter
      let prepared := renewed.prepare other first.store
      have hAlike :
          (Surroundings.printing Eq).Alike
            (renewed.machine prepared.2) next :=
        Surroundings.alike_printing
          (hEnded.alike.heap.trans
            (renewed.heap_prepare other first.store).symm)
          (hEnded.alike.sites.trans hOther.symm)
          hEnded.alike.printer
      have hStack :
          next.stack = (renewed.machine prepared.2).stack :=
        hEnded.rightStack.trans hEnded.leftStack.symm
      have hBudget :
          renewed.budget hostDepth =
            interpreter.budget hostDepth := by
        change middle.stack.limit.getD hostDepth = _
        rw [show middle.stack = _ from hEnded.leftStack]
        rfl
      have hBoth :=
        Surroundings.ended_run
          (Surroundings.lasting_of_eq rfl) hAlike hStack
          (Surroundings.admits_printing prepared.1)
          (renewed.context first.store)
          (renewed.budget hostDepth) renewed.global
      have hWhole :
          interpreter.result hostDepth
              (script.followedBy other) store =
            prepared.1.run (renewed.context first.store)
              (renewed.budget hostDepth) renewed.global
              next := by
        rw [hBudget]
        exact hRun
      have hLeft :
          second =
            renewed.finish store.interner
              (answerOf
                (renewed.result hostDepth other first.store))
              (Machine.after
                (renewed.result hostDepth other
                  first.store)) :=
        renewed.run_eq_finish hostDepth other first.store
      have hRight :
          whole =
            interpreter.finish store.interner
              (answerOf
                (interpreter.result hostDepth
                  (script.followedBy other) store))
              (Machine.after
                (interpreter.result hostDepth
                  (script.followedBy other) store)) :=
        interpreter.run_eq_finish hostDepth
          (script.followedBy other) store
      rw [hWhole] at hRight
      rw [hLeft, hRight]
      exact hBoth.finish_eq_of_printing renewed store.interner

/- A sequence halts where the first script does. -/
theorem run_followedBy_of_error
    (hSites : store.SitesExist)
    (other : Script)
    {reason : Halt}
    {last : Machine}
    (hResult :
      interpreter.result hostDepth script store =
        .error reason last) :
    let first :=
      interpreter.finish store.interner (.error reason) last
    let whole :=
      interpreter.run hostDepth (script.followedBy other)
        store
    whole =
        { first with
          store :=
            { first.store with
              sites := whole.store.sites
              trace := whole.store.trace } } ∧
      LinkM.Appends first.store.sites
        whole.store.sites := by
  intro first whole
  let prepared := interpreter.prepare script store
  rcases interpreter.exists_ended_followedBy hostDepth
      script hSites other with
    ⟨added, right, hEnded, hLater⟩
  rcases hLater prepared.2 rfl with ⟨hOther, hRun⟩
  rw [hResult] at hEnded
  cases right with
  | ok _ next => cases hEnded.answer
  | error same halted =>
      have hWhole :
          whole =
            interpreter.finish store.interner
              (.error same) halted := by
        refine
          (interpreter.run_eq_finish hostDepth
            (script.followedBy other) store).trans ?_
        rw [hRun]
        rfl
      have hUnused :
          LinkM.Appends prepared.2.sites
            (prepared.2.sites ++ added) := by
        rw [← hOther]
        exact interpreter.appends_prepare other prepared.2
      rw [hWhole]
      constructor
      · exact
          hEnded.finish_eq hEnded.alike.printer.symm
            interpreter store.interner
      · refine ⟨added, hEnded.alike.sites, ?_⟩
        exact hUnused.unused

end Interpreter

/- So it is after a single run. -/
theorem Script.sitesExist_runFresh
    (script : Script)
    (settings : Settings)
    (hostDepth : Nat)
    (printer : Printer)
    (interner : Interner) :
    (script.runFresh settings hostDepth printer
      (.ofInterner interner)).store.SitesExist := by
  have hFresh :=
    Session.sitesExist_fresh settings printer interner
  rw [runFresh_eq_run]
  generalize Session.fresh settings printer interner =
    session at *
  exact
    session.interpreter.sitesExist_run hostDepth script
      hFresh

/-
  Running two scripts in turn is running their statements in
  sequence. If the first one halts, the sequence halts as it
  does, and nothing of the second one is done: only sites
  that were never used tell that it was there. What is asked
  of the store, no run takes away.
-/
theorem runs_compose
    (interpreter : Interpreter)
    (hostDepth : Nat)
    (script other : Script)
    (store : Store)
    (hSites : store.SitesExist) :
    let first := interpreter.run hostDepth script store
    let second :=
      first.interpreter.run hostDepth other first.store
    let whole :=
      interpreter.run hostDepth (script.followedBy other)
        store
    first.store.SitesExist ∧
    (first.result = .ok () →
      whole =
        { second with
          store :=
            { second.store with
              trace := whole.store.trace } }) ∧
    ∀ reason,
      first.result = .error reason →
        whole =
          { first with
            store :=
              { first.store with
                sites := whole.store.sites
                trace := whole.store.trace } } ∧
        LinkM.Appends first.store.sites
          whole.store.sites := by
  intro first second whole
  refine ⟨interpreter.sitesExist_run hostDepth script hSites,
    ?_⟩
  have hFirst :
      first =
        interpreter.finish store.interner
          (answerOf
            (interpreter.result hostDepth script store))
          (Machine.after
            (interpreter.result hostDepth script store)) :=
    interpreter.run_eq_finish hostDepth script store
  cases hResult :
      interpreter.result hostDepth script store with
  | ok _ middle =>
      have hSequence :=
        interpreter.run_followedBy_of_ok hostDepth script
          hSites other hResult
      rw [hResult] at hFirst
      constructor
      · intro _
        unfold second
        rw [hFirst]
        exact hSequence
      · intro reason hError
        rw [hFirst] at hError
        cases hError
  | error reason last =>
      have hSequence :=
        interpreter.run_followedBy_of_error hostDepth script
          hSites other hResult
      rw [hResult] at hFirst
      constructor
      · intro hOk
        rw [hFirst] at hOk
        cases hOk
      · intro _ _
        rw [hFirst]
        exact hSequence

/- A script that prints, where a function was defined. -/
def printAgain : Script where
  body := [.call 1 () (.var 1 ⟨3⟩) [.literal 1 (.int 2)]]

/- A script that calls the function of an earlier one. -/
def callEarlier : Script where
  body := [.call 1 () (.var 1 ⟨1⟩) []]

/-
  A run with inline caches that has failed, and has left a
  function and sites that know it.
-/
def warmRun : Outcome Unit :=
  callAgain.runFresh
    { strategy := .inlineCache, maxCallDepth := some 2 } 0
    (.buffer "") (.ofInterner againNames)

/-
  On what this run has left, one script prints and the other
  one fails, and so they do in sequence, in either order.
-/
theorem runs_compose_warm :
    let run script :=
      warmRun.interpreter.run 0 script warmRun.store
    let first := run printAgain
    let second :=
      first.interpreter.run 0 callEarlier first.store
    let whole := run (printAgain.followedBy callEarlier)
    let other := run (callEarlier.followedBy printAgain)
    first.result = .ok () ∧
      whole =
        { second with
          store :=
            { second.store with
              trace := whole.store.trace } } ∧
      ∃ reason,
        (run callEarlier).result = .error reason ∧
          other.result = .error reason := by
  have hSites : warmRun.store.SitesExist :=
    callAgain.sitesExist_runFresh _ 0 _ againNames
  have hOk :
      (warmRun.interpreter.run 0 printAgain
        warmRun.store).result = .ok () :=
    Outcome.halt_shown_eq_none_iff.mp (by decide +kernel)
  have hFailed :
      (warmRun.interpreter.run 0 callEarlier
          warmRun.store).result =
        .error (.failed
          { cause := .tooDeep 2
            line := some 3
            backtrace :=
              [{ name := "again", line := 3 },
                { name := "again", line := 1 }] }) :=
    Outcome.halt_shown_eq_some_iff.mp (by decide +kernel)
  generalize warmRun = warm at *
  have hWhole :=
    (runs_compose warm.interpreter 0 printAgain callEarlier
      warm.store hSites).2.1 hOk
  have hOther :=
    (runs_compose warm.interpreter 0 callEarlier printAgain
      warm.store hSites).2.2 _ hFailed
  exact
    ⟨hOk, hWhole, _, hFailed,
      (congrArg Outcome.result hOther.1).trans hFailed⟩

end Scriptlet
