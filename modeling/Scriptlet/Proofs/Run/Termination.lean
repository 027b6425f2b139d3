import Scriptlet.Proofs.Heap.Printing
import Scriptlet.Proofs.Run.SingleRun

/-
  Runs with a limit end.

  The work of a moment gets smaller from moment to moment,
  and where it does not, because a call enters code, there
  is one level less for calls to nest in. With a limit the
  levels are those of the call stack, so that no run fails
  for want of levels before it reaches the limit. Climbing
  from frame to frame ends because parents are older, and
  printing a record does not look into other objects.

  Key definitions include:
    * `Task.rank`
    * `Work.rank`
    * `Moment.Bounded`
    * `Machine.made`

  Key theorems include:
    * `Moment.wellFounded_next`
    * `Script.bounded_passes`
    * `Moment.reaches_code`
    * `limited_run_ends`
-/

------------------------------------------------------------
-- Shrinking Work
------------------------------------------------------------

namespace Scriptlet

/- The size of a task. -/
noncomputable def Task.rank
    {S : Type}
    [SizeOf S] :
    Task S → Nat
  | .eval expr => sizeOf expr + 2
  | .block exprs => sizeOf exprs + 2
  | .args exprs => sizeOf exprs + 2
  | .fields _ parts => sizeOf parts + 2
  | .dispatch _ _ _ _ _ => 1

/- The size of the work in the current code. -/
noncomputable def Work.rank : Work → Nat
  | .walk _ task => task.rank
  | .execute _ task => task.rank
  | .call _ _ _ _ => 0

/- A task leads to smaller tasks. -/
theorem Task.Leads.rank_lt
    {S : Type}
    [SizeOf S]
    {context : Context}
    {engine : Engine S}
    {call : Caller}
    {scope : ObjectId}
    {machine next : Machine}
    {task later : Task S}
    (hLeads :
      Leads context engine call scope machine task next
        later) :
    later.rank < task.rank := by
  cases hLeads <;> simp [rank] <;> omega

namespace Moment

variable {context : Context}

/- Levels and work shrink, levels first. -/
theorem Next.lex
    {moment later : Moment}
    (hNext : Next context moment later) :
    Prod.Lex (· < ·) (· < ·)
      (later.budget, later.work.rank)
      (moment.budget, moment.work.rank) := by
  cases hNext with
  | walk hLeads => exact .right _ hLeads.rank_lt
  | execute hLeads => exact .right _ hLeads.rank_lt
  | walkCall hResolve => exact .right _ Nat.zero_lt_one
  | executeCall hResolve => exact .right _ Nat.zero_lt_one
  | enterWalked hPush => exact .left _ _ (Nat.lt_succ_self _)
  | enterLinked hPush => exact .left _ _ (Nat.lt_succ_self _)

/- No moment has moments after it without end. -/
theorem wellFounded_next (context : Context) :
    WellFounded fun later moment =>
      Next context moment later :=
  Subrelation.wf Next.lex
    (InvImage.wf
      (fun moment : Moment =>
        (moment.budget, moment.work.rank))
      (Prod.lex Nat.lt_wfRel Nat.lt_wfRel).wf)

end Moment

end Scriptlet

------------------------------------------------------------
-- Runs with a Limit
------------------------------------------------------------

namespace Scriptlet

/- A session begins with the stack that it was set to. -/
theorem Session.stack_fresh
    (settings : Settings)
    (printer : Printer)
    (interner : Interner) :
    (Session.fresh settings printer
        interner).interpreter.stack =
      .new settings.maxCallDepth := by
  unfold Session.fresh
  rw [Interpreter.run_create]

/- A single run begins with the limit, all levels unused. -/
theorem Script.reach_freshFirst
    (script : Script)
    (settings : Settings)
    (hostDepth : Nat)
    (printer : Printer)
    (interner : Interner) :
    (script.freshFirst settings hostDepth printer
          interner).machine.stack.limit =
        settings.maxCallDepth ∧
      (script.freshFirst settings hostDepth printer
          interner).reach =
        settings.maxCallDepth.getD hostDepth := by
  have hStack :=
    Session.stack_fresh settings printer interner
  unfold freshFirst Moment.reach
  generalize Session.fresh settings printer interner =
    session at *
  simp only [Program.machine_first, Program.budget_first,
    Interpreter.machine, Interpreter.budget, hStack]
  exact ⟨rfl, Nat.zero_add _⟩

/- A run with a limit gives a result or fails. -/
theorem Script.result_runFresh_of_limit
    (script : Script)
    (strategy : Strategy)
    (cacheDepth limit hostDepth : Nat)
    (printer : Printer)
    (interner : Interner) :
    (script.runFresh
          { strategy, cacheDepth, maxCallDepth := some limit }
          hostDepth printer (.ofInterner interner)).result =
        .ok () ∨
      ∃ failure,
        (script.runFresh
            { strategy, cacheDepth
              maxCallDepth := some limit }
            hostDepth printer
            (.ofInterner interner)).result =
          .error (.failed failure) := by
  have hRelated :=
    @Script.related_runFresh _ (Regime.lawful_ample limit)
      (some limit) (some limit) rfl rfl hostDepth hostDepth
      ⟨rfl, Nat.le_add_left _ _⟩ script strategy cacheDepth
      printer interner
  generalize
    script.runFresh
        { strategy, cacheDepth, maxCallDepth := some limit }
        hostDepth printer (.ofInterner interner) =
      ended at *
  rcases hRelated with ⟨_, hMay⟩ | ⟨_, _, hCut, _⟩
  · cases hResult : ended.result with
    | ok answer => exact .inl rfl
    | error reason =>
        have hReason := hMay reason (by
          simp only [Outcome.shown, hResult])
        cases reason with
        | failed failure => exact .inr ⟨failure, rfl⟩
        | exhausted => exact absurd rfl hReason
  · exact hCut.elim

/-
  What holds at a moment of a run with a limit: there are as
  many levels left as the stack is below the limit; names
  are looked for on a way outward that ends; and a value is
  printed without regard to what other objects hold.
-/
structure Moment.Bounded
    (context : Context)
    (bound : Nat)
    (moment : Moment) : Prop where
  limit : moment.machine.stack.limit = some bound
  levels :
    moment.machine.stack.depth + moment.budget = bound
  climbs : moment.machine.heap.Climbs
  climbsAfter : (moment.last context).heap.Climbs
  printed :
    ∀ other name field value,
      value ≠ .object other →
        (moment.machine.heap.define other name
            field).printed context.interner value =
          moment.machine.heap.printed context.interner value

/- A single run with a limit passes bounded moments. -/
theorem Script.bounded_passes
    (script : Script)
    {settings : Settings}
    {bound : Nat}
    (hLimit : settings.maxCallDepth = some bound)
    {hostDepth : Nat}
    {printer : Printer}
    {interner : Interner}
    {moment : Moment}
    (hPasses :
      script.Passes settings hostDepth printer interner
        moment)
    (context : Context) :
    moment.Bounded context bound := by
  rcases script.sound_passes settings hostDepth printer
      interner hPasses with
    ⟨argcs, hSucceeds⟩
  rcases script.reach_freshFirst settings hostDepth printer
      interner with
    ⟨hFirst, hReach⟩
  rw [hLimit] at hFirst hReach
  constructor
  case limit => exact hSucceeds.limit.trans hFirst
  case levels => exact hSucceeds.reach.trans hReach
  case climbs =>
      exact hSucceeds.sound.machine.layered.climbs
  case climbsAfter =>
      exact (hSucceeds.sound.last _).sound.layered.climbs
  case printed =>
      intro other name field value hValue
      exact Heap.printed_define _ other name field
        context.interner hValue

end Scriptlet

------------------------------------------------------------
-- Inside a Call
------------------------------------------------------------

namespace Scriptlet

/- A machine after a function was made and bound. -/
def Machine.made
    (machine : Machine)
    (scope : ObjectId)
    (name : Name)
    (function : Function) :
    Machine :=
  { machine with
    heap := (machine.heap.newFunction function).2.define
      scope name
      (.function ⟨machine.heap.functions.size⟩) }

/-
  Where a function is made and then called, its code is run
  if there is room for the call.
-/
theorem Moment.reaches_code
    (context : Context)
    (budget : Nat)
    {machine : Machine}
    {scope : ObjectId}
    {stack : CallStack}
    (name : Name)
    (body : List (Expr Unit))
    (writtenAt line : Line)
    (hLookup :
      (machine.made scope name
          { name
            arity := .fixed 0
            action := .walked
              { name := some name
                params := []
                body, writtenAt }
              scope }).heap.lookup scope name =
        .function ⟨machine.heap.functions.size⟩)
    (hPush :
      machine.stack.push { callee := name, line } =
        .ok stack) :
    ∃ next : Machine,
      Reaches context
          { budget := budget + 1
            work := .walk scope
              (.block
                [.function writtenAt (some name) [] body
                    writtenAt,
                  .call line () (.var line name) []])
            machine }
          { budget
            work := .walk ⟨machine.heap.objects.size⟩
              (.block body)
            machine := next } ∧
        next.stack = stack := by
  let code : Code Unit :=
    { name := some name, params := [], body, writtenAt }
  let function : Function :=
    { name, arity := .fixed 0, action := .walked code scope }
  let made := machine.made scope name function
  let callee : FunctionId := ⟨machine.heap.functions.size⟩
  let call : Expr Unit := .call line () (.var line name) []
  let caller := Caller.within context (budget + 1)
  let scene (work : Work) : Moment :=
    { budget := budget + 1, work, machine := made }
  have hMade :
      (Expr.function writtenAt (some name) [] body
          writtenAt).eval context .plain caller scope
          machine =
        .ok (.function callee) made := by
    rw [Expr.eval, EvalM.makeFunction_apply]
    rfl
  have hCallee :
      (Expr.var line name).eval context .plain caller scope
          made =
        .ok (.function callee) made := by
    rw [← hLookup]
    rfl
  have hFunction :
      made.heap.function? callee = some function :=
    Array.getElem?_push_size
  have hResolve :
      resolve context.interner callee 0 line made =
        .ok (.of function) made := by
    rw [resolve_apply, (Heap.check_eq_ok_iff _).mpr
      ⟨function, hFunction, rfl, rfl⟩]
  have hCall :
      Next context (scene (.walk scope (.block [call])))
        (scene (.walk scope (.eval call))) :=
    .walk (.blockHead made call [])
  have hDispatch :
      Next context (scene (.walk scope (.eval call)))
        (scene (.walk scope
          (.dispatch () callee .undefined [] line))) :=
    .walk (.callDispatch line () hCallee rfl)
  have hSize :
      made.heap.objects.size = machine.heap.objects.size :=
    Heap.size_objects_define _ _ _ _
  have hReaches :=
    Relation.ReflTransGen.head
      (.walk (.blockTail [call] hMade))
      (.head hCall
        (.head hDispatch
          (.head (.walkCall hResolve)
            (.single (.enterWalked hPush)))))
  rw [hSize] at hReaches
  exact ⟨_, hReaches, rfl⟩

/- A run that walks begins with the script as it stands. -/
theorem Script.work_freshFirst_of_treeWalk
    (script : Script)
    {settings : Settings}
    (hWalk : settings.strategy = .treeWalk)
    (hostDepth : Nat)
    (printer : Printer)
    (interner : Interner) :
    (script.freshFirst settings hostDepth printer
        interner).work =
      .walk
        (Session.fresh settings printer
          interner).interpreter.global
        (.block script.body) := by
  have hStrategy :
      (Session.fresh settings printer
        interner).interpreter.strategy = .treeWalk := by
    unfold Session.fresh
    rw [Interpreter.run_create]
    exact hWalk
  unfold freshFirst Interpreter.prepare
  simp only [hStrategy]
  rfl

/-
  With one level, a run of `callAgain` comes to the code of
  the function that it makes.
-/
theorem exists_passes_againBody :
    ∃ machine : Machine,
      callAgain.Passes { maxCallDepth := some 1 } 0
          (.buffer "") againNames
          { budget := 0
            work := .walk ⟨1⟩ (.block againBody)
            machine } ∧
        machine.stack.depth = 1 := by
  let first :=
    callAgain.freshFirst { maxCallDepth := some 1 } 0
      (.buffer "") againNames
  let function : Function :=
    { name := ⟨1⟩
      arity := .fixed 0
      action := .walked
        { name := some ⟨1⟩
          params := []
          body := againBody
          writtenAt := 1 }
        ⟨0⟩ }
  have hBudget : first.budget = 1 := by decide +kernel
  have hWork :
      first.work = .walk ⟨0⟩ (.block callAgain.body) := by
    have hGlobal :
        (Session.fresh { maxCallDepth := some 1 }
          (.buffer "") againNames).interpreter.global =
            ⟨0⟩ := by
      decide +kernel
    rw [← hGlobal]
    exact callAgain.work_freshFirst_of_treeWalk rfl 0 _ _
  have hStack :
      first.machine.stack =
        { calls := [], limit := some 1 } := by
    decide +kernel
  have hObjects : first.machine.heap.objects.size = 1 := by
    decide +kernel
  have hLookup :
      (first.machine.made ⟨0⟩ ⟨1⟩ function).heap.lookup ⟨0⟩
          ⟨1⟩ =
        .function ⟨first.machine.heap.functions.size⟩ := by
    decide +kernel
  -- Nothing else of the first moment matters from here on.
  change ∃ machine,
    Moment.Reaches _ first
      { budget := 0
        work := .walk ⟨1⟩ (.block againBody)
        machine } ∧
      machine.stack.depth = 1
  clear_value first
  rcases first with ⟨budget, work, machine⟩
  simp only at hBudget hWork hStack hObjects hLookup
  subst hBudget hWork
  have hPush :
      machine.stack.push { callee := ⟨1⟩, line := 4 } =
        .ok
          { calls := [{ callee := ⟨1⟩, line := 4 }]
            limit := some 1 } := by
    rw [hStack]
    rfl
  rcases Moment.reaches_code _ 0 ⟨1⟩ againBody 1 4 hLookup
      hPush with
    ⟨next, hReaches, hNext⟩
  rw [hObjects] at hReaches
  refine ⟨next, hReaches, ?_⟩
  rw [hNext]
  rfl

end Scriptlet

------------------------------------------------------------
-- Ends of Runs
------------------------------------------------------------

namespace Scriptlet

/-
  A run with a limit ends with a result or a failure. Every
  moment that it passes through is bounded, and has only
  finitely many after it.
-/
theorem limited_run_ends
    (script : Script)
    (strategy : Strategy)
    (cacheDepth limit hostDepth : Nat)
    (printer : Printer)
    (interner : Interner) :
    let settings : Settings :=
      { strategy, cacheDepth, maxCallDepth := some limit }
    let outcome :=
      script.runFresh settings hostDepth printer
        (.ofInterner interner)
    let context :=
      script.freshContext settings printer interner
    (outcome.result = .ok () ∨
        ∃ failure,
          outcome.result = .error (.failed failure)) ∧
      (WellFounded fun later moment =>
          Moment.Next context moment later) ∧
        ∀ moment,
          script.Passes settings hostDepth printer interner
              moment →
            moment.Bounded context limit := by
  intro settings outcome context
  refine ⟨script.result_runFresh_of_limit strategy
    cacheDepth limit hostDepth printer interner,
    Moment.wellFounded_next context, ?_⟩
  intro moment hPasses
  exact script.bounded_passes rfl hPasses context

/-
  A run with one level passes through the code of a function
  that calls itself, and no level is left there.
-/
theorem limited_run_ends_callAgain :
    ∃ machine : Machine,
      let moment : Moment :=
        { budget := 0
          work := .walk ⟨1⟩ (.block againBody)
          machine }
      callAgain.Passes { maxCallDepth := some 1 } 0
          (.buffer "") againNames moment ∧
        machine.stack.depth = 1 ∧
          moment.Bounded
            (callAgain.freshContext
              { maxCallDepth := some 1 } (.buffer "")
              againNames)
            1 := by
  rcases exists_passes_againBody with
    ⟨machine, hPasses, hDepth⟩
  exact ⟨machine, hPasses, hDepth,
    (limited_run_ends callAgain .treeWalk 3 1 0 (.buffer "")
      againNames).2.2 _ hPasses⟩

end Scriptlet
