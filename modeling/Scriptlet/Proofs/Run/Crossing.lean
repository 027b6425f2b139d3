import Scriptlet.Proofs.Run.Balance

/-
  How a failure travels outward.

  Nothing catches a failure. Where the work of a moment
  fails, the work that it is part of fails as well, with the
  same failure, except that the innermost call which the
  failure leaves gives it the active calls. All calls beyond
  that one find that it has them, and change nothing.

  Key definitions include:
    * `Moment.halt?`
    * `Moment.Crosses`

  Key theorems include:
    * `Task.Leads.error`
    * `Moment.Next.halt`
    * `Moment.Reaches.halt`
-/

------------------------------------------------------------
-- Tasks
------------------------------------------------------------

namespace Scriptlet

namespace Task

variable {S : Type}
variable {context : Context}
variable {engine : Engine S}
variable {call : Caller}
variable {scope : ObjectId}

/- Forgetting an answer forgets no signal. -/
theorem discard_eq_error
    {A : Type}
    {work : EvalM A}
    {machine last : Machine}
    {signal : Signal} :
    (do
        let _ ← work
        return () : EvalM Unit) machine =
          .error signal last ↔
      work machine = .error signal last := by
  rw [RunM.bind_apply]
  cases work machine with
  | ok answer next =>
      constructor
      · intro hError
        cases hError
      · intro hError
        cases hError
  | error other next => simp

/- Whatever stops a task stops the task that led to it. -/
theorem Leads.error
    {machine next last : Machine}
    {task later : Task S}
    {signal : Signal}
    (hLeads :
      Leads context engine call scope machine task next
        later)
    (hLater :
      later.run context engine call scope next =
        .error signal last) :
    task.run context engine call scope machine =
      .error signal last := by
  cases hLeads with
  | block line body =>
      simp only [run, discard_eq_error] at hLater ⊢
      rw [Expr.eval]
      exact hLater
  | assignValue line declares name value =>
      simp only [run, discard_eq_error] at hLater ⊢
      rw [Expr.eval, RunM.bind_apply, hLater]
  | callCallee line site callee args =>
      simp only [run, discard_eq_error] at hLater ⊢
      rw [Expr.eval, RunM.bind_apply, hLater]
  | callArgs line site args hCallee =>
      simp only [run, discard_eq_error] at hLater ⊢
      rw [Expr.eval, RunM.bind_apply, hCallee]
      simp only [RunM.bind_apply,
        EvalM.expectFunction_apply, hLater]
  | callDispatch line site hCallee hArgs =>
      simp only [run, discard_eq_error] at hLater ⊢
      rw [Expr.eval, RunM.bind_apply, hCallee]
      simp only [RunM.bind_apply,
        EvalM.expectFunction_apply, hArgs]
      exact hLater
  | retValue line value =>
      simp only [run, discard_eq_error] at hLater ⊢
      rw [Expr.eval, RunM.bind_apply, hLater]
  | branchTest line test thenBody elseBody =>
      simp only [run, discard_eq_error] at hLater ⊢
      rw [Expr.eval, RunM.bind_apply, hLater]
  | branchThen line thenBody elseBody hTest hTruthy =>
      simp only [run, discard_eq_error] at hLater ⊢
      rw [Expr.eval, RunM.bind_apply, hTest]
      simp only [hTruthy, if_true]
      exact hLater
  | branchElse line thenBody elseBody hTest hFalsy =>
      simp only [run, discard_eq_error] at hLater ⊢
      rw [Expr.eval, RunM.bind_apply, hTest]
      simp only [hFalsy, Bool.false_eq_true, if_false]
      exact hLater
  | recordFields line fields =>
      rw [run] at hLater
      rw [run, discard_eq_error, Expr.eval]
      simp only [RunM.bind_apply, Machine.onHeap_apply,
        hLater]
  | getReceiver line receiver name =>
      simp only [run, discard_eq_error] at hLater ⊢
      rw [Expr.eval, RunM.bind_apply, hLater]
  | setReceiver line receiver name value =>
      simp only [run, discard_eq_error] at hLater ⊢
      rw [Expr.eval, RunM.bind_apply, hLater]
  | setValue line name value hReceiver =>
      simp only [run, discard_eq_error] at hLater ⊢
      rw [Expr.eval, RunM.bind_apply, hReceiver]
      simp only [RunM.bind_apply, EvalM.expectObject_apply,
        hLater]
  | methodReceiver line site receiver name args =>
      simp only [run, discard_eq_error] at hLater ⊢
      rw [Expr.eval, RunM.bind_apply, hLater]
  | methodArgs line site args hReceiver hField =>
      simp only [run, discard_eq_error] at hLater ⊢
      rw [Expr.eval, RunM.bind_apply, hReceiver]
      simp only [RunM.bind_apply, EvalM.expectObject_apply,
        Machine.askHeap_apply, hField, Option.getD_some,
        EvalM.expectFunction_apply, hLater]
  | methodDispatch line site hReceiver hField hArgs =>
      simp only [run, discard_eq_error] at hLater ⊢
      rw [Expr.eval, RunM.bind_apply, hReceiver]
      simp only [RunM.bind_apply, EvalM.expectObject_apply,
        Machine.askHeap_apply, hField, Option.getD_some,
        EvalM.expectFunction_apply, hArgs]
      exact hLater
  | blockHead expr exprs =>
      simp only [run, discard_eq_error] at hLater ⊢
      rw [Expr.evalBlock, RunM.bind_apply, hLater]
  | blockTail exprs hHead =>
      simp only [run, discard_eq_error] at hLater ⊢
      rw [Expr.evalBlock, RunM.bind_apply, hHead]
      exact hLater
  | argsHead expr exprs =>
      simp only [run, discard_eq_error] at hLater ⊢
      rw [Expr.evalArgs, RunM.bind_apply, hLater]
  | argsTail exprs hHead =>
      simp only [run, discard_eq_error] at hLater ⊢
      rw [Expr.evalArgs, RunM.bind_apply, hHead]
      simp only [RunM.bind_apply, hLater]
  | fieldsHead record name expr fields =>
      rw [run, discard_eq_error] at hLater
      rw [run, Expr.evalFields, RunM.bind_apply, hLater]
  | fieldsTail record name fields hHead =>
      rw [run] at hLater
      rw [run, Expr.evalFields, RunM.bind_apply, hHead]
      simp only [RunM.bind_apply]
      exact hLater

end Task

end Scriptlet

------------------------------------------------------------
-- Moments
------------------------------------------------------------

namespace Scriptlet

namespace Failure

/- A failure that has calls is not given others. -/
theorem withCalls_of_ne_nil
    (failure : Failure)
    (backtrace : Backtrace)
    (hCalls : failure.backtrace ≠ []) :
    failure.withCalls backtrace = failure := by
  unfold withCalls
  rw [if_neg (by simpa using hCalls)]

/- Where no call is active none is given. -/
theorem withCalls_nil (failure : Failure) :
    failure.withCalls [] = failure := by
  rcases failure with ⟨cause, line, backtrace⟩
  cases backtrace <;> rfl

end Failure

/- Why a computation halted, if it did. -/
def resultHalt?
    {A : Type} :
    EStateM.Result Signal Machine A → Option Halt
  | .ok _ _ => none
  | .error (.ret _ _) _ => none
  | .error (.halt reason) _ => some reason

theorem resultHalt?_eq_some_iff
    {A : Type}
    {result : EStateM.Result Signal Machine A}
    {reason : Halt} :
    resultHalt? result = some reason ↔
      ∃ last, result = .error (.halt reason) last := by
  cases result with
  | ok answer next => simp [resultHalt?]
  | error signal next =>
      cases signal <;> simp [resultHalt?]

namespace Moment

/- Why the work of a moment halts, if it does. -/
def halt?
    (context : Context)
    (moment : Moment) :
    Option Halt :=
  match moment.work with
  | .walk scope task =>
      resultHalt?
        (task.run context .plain
          (.within context moment.budget) scope
          moment.machine)
  | .execute scope task =>
      resultHalt?
        (task.run context .caching
          (.within context moment.budget) scope
          moment.machine)
  | .call target receiver args line =>
      resultHalt?
        (Signal.lift
          (Caller.within context moment.budget target
            receiver args line)
          moment.machine)

variable {context : Context}
variable {moment later : Moment}

/-
  How a halt passes from the work of a moment to the work
  that it is part of: as it is, or out of a call, where it
  is given the calls that are active inside.
-/
inductive Crosses
    (context : Context)
    (moment later : Moment)
    (reason : Halt) : Prop where
  | within
      (hStack : later.machine.stack = moment.machine.stack)
      (hHalt : moment.halt? context = some reason)
  | outward
      (call : Activation)
      (hStack :
        later.machine.stack.calls =
          call :: moment.machine.stack.calls)
      (hHalt :
        moment.halt? context =
          some (reason.withCalls
            (later.machine.stack.backtrace
              context.interner)))

/- A call halts as its code does, with the active calls. -/
theorem code_of_halt
    {S : Type}
    {engine : Engine S}
    {call : Caller}
    {callee : Name}
    {line : Line}
    {scope : ObjectId}
    {params : List Name}
    {receiver : Value}
    {args : List Value}
    {body : List (Expr S)}
    {machine : Machine}
    {stack : CallStack}
    {reason : Halt}
    (hPush : machine.stack.push { callee, line } = .ok stack)
    (hHalt :
      resultHalt?
          (Task.run context engine call
            ⟨machine.heap.objects.size⟩ (.block body)
            (entered context machine scope params receiver
              args stack)) =
        some reason)
    (hStack :
      (Machine.after
        (Task.run context engine call
          ⟨machine.heap.objects.size⟩ (.block body)
          (entered context machine scope params receiver
            args stack))).stack = stack) :
    resultHalt?
        (Signal.lift
          (do
            let frame ← openFrame context.this scope params
              receiver args
            activate context.interner callee line
              (Caller.runCode context engine (some call)
                body frame))
          machine) =
      some (reason.withCalls
        (stack.backtrace context.interner)) := by
  rcases resultHalt?_eq_some_iff.mp hHalt with ⟨last, hRun⟩
  have hLast : last.stack = stack := by
    rw [hRun] at hStack
    exact hStack
  have hOpened :
      (machine.opened context.this scope params receiver
        args).stack.push { callee, line } = .ok stack :=
    hPush
  have hCode :
      Caller.runCode context engine (some call) body
          ⟨machine.heap.objects.size⟩
          { machine.opened context.this scope params receiver
              args with stack } =
        .error (.halt reason) last :=
    Task.discard_eq_error.mp hRun
  rw [Signal.lift_bind, RunM.bind_apply, Signal.lift_apply,
    openFrame_apply]
  simp only [Signal.liftResult]
  rw [Signal.lift_apply, activate_apply, hOpened]
  simp only [hCode]
  rw [leaveCall, hLast]
  rfl

/- A dispatch halts as the call does that it comes to. -/
theorem dispatch_of_halt
    {S : Type}
    {engine : Engine S}
    {call : Caller}
    {scope : ObjectId}
    {site : S}
    {callee : FunctionId}
    {receiver : Value}
    {args : List Value}
    {line : Line}
    {target : Target}
    {machine next : Machine}
    {reason : Halt}
    (hResolve :
      engine.resolve context.interner site callee
        args.length line machine = .ok target next)
    (hHalt :
      resultHalt?
          (Signal.lift (call target receiver args line)
            next) = some reason) :
    resultHalt?
        (Task.run context engine call scope
          (.dispatch site callee receiver args line)
          machine) = some reason := by
  rcases resultHalt?_eq_some_iff.mp hHalt with
    ⟨last, hLast⟩
  apply resultHalt?_eq_some_iff.mpr
  refine ⟨last, ?_⟩
  rw [Task.run, Task.discard_eq_error, Signal.lift_bind,
    RunM.bind_apply, Signal.lift_apply, hResolve]
  exact hLast

/- A halt of a task passes to the task that led to it. -/
theorem leads_of_halt
    {S : Type}
    {engine : Engine S}
    {budget : Nat}
    {scope : ObjectId}
    {machine next : Machine}
    {task later : Task S}
    {reason : Halt}
    (hEngine :
      (Discipline.balance fun _ => True).Governs context
        machine.stack engine fun _ => True)
    (hLeads :
      Task.Leads context engine (.within context budget)
        scope machine task next later)
    (hHalt :
      resultHalt?
          (later.run context engine (.within context budget)
            scope next) = some reason) :
    next.stack = machine.stack ∧
      resultHalt?
          (task.run context engine (.within context budget)
            scope machine) = some reason := by
  rcases resultHalt?_eq_some_iff.mp hHalt with ⟨last, hLast⟩
  have hLater :=
    hEngine.leads (Discipline.lawful_balance_true context)
      hLeads ⟨rfl, trivial⟩ trivial
      (Discipline.asks_balance machine task)
  exact ⟨hLater.1.1,
    resultHalt?_eq_some_iff.mpr ⟨last, hLeads.error hLast⟩⟩

/- What halts the work of a moment halts the one before. -/
theorem Next.halt
    (hNext : Next context moment later)
    {reason : Halt}
    (hHalt : later.halt? context = some reason) :
    Crosses context moment later reason := by
  have hD := Discipline.lawful_balance_true context
  cases hNext with
  | walk hLeads =>
      rcases leads_of_halt (hD.walking _) hLeads hHalt with
        ⟨hStack, hOuter⟩
      exact .within hStack hOuter
  | execute hLeads =>
      rcases leads_of_halt (hD.executing _) hLeads hHalt with
        ⟨hStack, hOuter⟩
      exact .within hStack hOuter
  | @walkCall _ _ machine _ callee _ _ args line hResolve =>
      have hStack := stack_resolve context.interner callee
        args.length line machine
      rw [hResolve] at hStack
      exact .within hStack (dispatch_of_halt hResolve hHalt)
  | @executeCall _ _ machine _ site callee _ _ args line
      hResolve =>
      have hStack := stack_resolveCached context.interner
        site callee args.length line machine
      rw [hResolve] at hStack
      exact .within hStack (dispatch_of_halt hResolve hHalt)
  | @enterWalked budget machine stack name code scope
      receiver args line hPush =>
      have hStack := stack_last context
        { budget
          work := .walk ⟨machine.heap.objects.size⟩
            (.block code.body)
          machine := entered context machine scope
            code.params receiver args stack }
      exact .outward { callee := name, line }
        (congrArg CallStack.calls
          (CallStack.eq_of_push hPush))
        (code_of_halt hPush hHalt hStack)
  | @enterLinked budget machine stack name code scope
      receiver args line hPush =>
      have hStack := stack_last context
        { budget
          work := .execute ⟨machine.heap.objects.size⟩
            (.block code.body)
          machine := entered context machine scope
            code.params receiver args stack }
      exact .outward { callee := name, line }
        (congrArg CallStack.calls
          (CallStack.eq_of_push hPush))
        (code_of_halt hPush hHalt hStack)

/-
  A failure comes out of all the work that it is raised in.
  Either no call is left on the way, or it has the calls
  that are active where it is raised, unless it was given
  others before.
-/
theorem Reaches.halt
    (hReaches : Reaches context moment later)
    {raised : Failure}
    (hHalt : later.halt? context = some (.failed raised)) :
    (later.machine.stack = moment.machine.stack ∧
        moment.halt? context = some (.failed raised)) ∨
      (later.machine.stack.calls ≠ [] ∧
        moment.halt? context =
          some (.failed (raised.withCalls
            (later.machine.stack.backtrace
              context.interner)))) := by
  -- The induction follows the failure outward, from where
  -- it is raised to the first moment.
  induction hReaches using
      Relation.ReflTransGen.head_induction_on with
  | refl => exact .inl ⟨rfl, hHalt⟩
  | head hNext _ ih =>
      rcases ih with ⟨hSame, hRaised⟩ | ⟨hCalls, hGiven⟩
      · cases hNext.halt hRaised with
        | within hStack hOuter =>
            exact .inl ⟨hSame.trans hStack, hOuter⟩
        | outward call hStack hOuter =>
            rw [← hSame] at hStack hOuter
            exact .inr ⟨by simp [hStack], hOuter⟩
      · cases hNext.halt hGiven with
        | within hStack hOuter =>
            exact .inr ⟨hCalls, hOuter⟩
        | outward call hStack hOuter =>
            refine .inr ⟨hCalls, hOuter.trans ?_⟩
            have hKept :
                (raised.withCalls
                  (later.machine.stack.backtrace
                    context.interner)).backtrace ≠ [] := by
              unfold Failure.withCalls
              split
              · simpa [CallStack.backtrace] using hCalls
              case isFalse hSome => simpa using hSome
            rw [Halt.withCalls,
              Failure.withCalls_of_ne_nil _ _ hKept]

/- What comes out where no call was active. -/
theorem Reaches.halt_of_calls
    (hReaches : Reaches context moment later)
    (hCalls : moment.machine.stack.calls = [])
    {raised : Failure}
    (hHalt : later.halt? context = some (.failed raised)) :
    moment.halt? context =
      some (.failed (raised.withCalls
        (later.machine.stack.backtrace
          context.interner))) := by
  rcases hReaches.halt hHalt with
    ⟨hStack, hRaised⟩ | ⟨_, hGiven⟩
  · have hNone :
        later.machine.stack.backtrace context.interner =
          [] := by
      rw [hStack]
      simp [CallStack.backtrace, hCalls]
    rw [hRaised, hNone, Failure.withCalls_nil]
  · exact hGiven

end Moment

end Scriptlet
