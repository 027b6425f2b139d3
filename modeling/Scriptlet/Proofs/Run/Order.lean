import Scriptlet.Proofs.Run.SiteHistory

/-
  Which work of a run comes first.

  The work of a moment ends before the work that it is part
  of, and pieces of one work are done one after another. So
  of two pieces of work in a run, what the first one leaves
  behind is what the second one finds, or becomes it by
  further steps.

  Key definitions include:
    * `Moment.Precedes`
    * `Moment.EndsBefore`

  Key theorems include:
    * `Task.Leads.evolves_last`
    * `Moment.Reaches.evolves_last`
    * `Moment.Precedes.evolves`
    * `Moment.Reaches.ordered`
-/

------------------------------------------------------------
-- Ends of Tasks
------------------------------------------------------------

namespace Scriptlet

/- What the first part leaves evolves in the rest. -/
theorem Stepwise.evolves_bind
    {E A B : Type}
    (first : RunM E A)
    {rest : A → RunM E B}
    (hRest : ∀ answer, Stepwise (rest answer))
    (machine : Machine) :
    (Machine.after (first machine)).Evolves
      (Machine.after ((first >>= rest) machine)) := by
  rw [RunM.bind_apply]
  cases first machine with
  | ok answer next => exact hRest answer next
  | error reason last => exact .refl last

variable {S : Type}
variable {context : Context}
variable {engine : Engine S}
variable {call : Caller}
variable {scope : ObjectId}
variable {machine next : Machine}

namespace Expr

/- What is left of a call when it has a function. -/
theorem eval_call_of_callee
    {callee : Expr S}
    {function : FunctionId}
    (hCallee :
      callee.eval context engine call scope machine =
        .ok (.function function) next)
    (line : Line)
    (site : S)
    (args : List (Expr S)) :
    (Expr.call line site callee args).eval context engine
        call scope machine =
      (do
        let values ← evalArgs context engine call scope args
        Signal.lift do
          let target ← engine.resolve context.interner site
            function values.length line
          call target .undefined values line)
        next := by
  rw [eval, RunM.bind_apply, hCallee]
  simp only
  rw [RunM.bind_apply, EvalM.expectFunction_apply]

/- What is left of a method call when it has a function. -/
theorem eval_method_of_field
    {receiver : Expr S}
    {object : ObjectId}
    {name : Name}
    {function : FunctionId}
    (hReceiver :
      receiver.eval context engine call scope machine =
        .ok (.object object) next)
    (hField :
      next.heap.own? object name =
        some (.function function))
    (line : Line)
    (site : S)
    (args : List (Expr S)) :
    (Expr.method line site receiver name args).eval context
        engine call scope machine =
      (do
        let values ← evalArgs context engine call scope args
        Signal.lift do
          let target ← engine.resolve context.interner site
            function values.length line
          call target (.object object) values line)
        next := by
  rw [eval, RunM.bind_apply, hReceiver]
  simp only
  rw [RunM.bind_apply, EvalM.expectObject_apply]
  simp only
  rw [RunM.bind_apply, Machine.askHeap_apply, hField]
  simp only [Option.getD_some]
  rw [RunM.bind_apply, EvalM.expectFunction_apply]

end Expr

namespace Task

variable {task later : Task S}

/- Doing a task takes steps. -/
theorem stepwise_run
    (hEngine : engine.Stepwise)
    (hCall : call.Stepwise)
    (scope : ObjectId)
    (task : Task S) :
    Stepwise (task.run context engine call scope) := by
  cases task with
  | eval expr =>
      exact .bind
        (Expr.stepwise_eval hEngine hCall scope expr)
        fun _ => .pure _
  | block exprs =>
      exact .bind
        (Expr.stepwise_evalBlock hEngine hCall scope exprs)
        fun _ => .pure _
  | args exprs =>
      exact .bind
        (Expr.stepwise_evalArgs hEngine hCall scope exprs)
        fun _ => .pure _
  | fields record fields =>
      exact Expr.stepwise_evalFields hEngine hCall scope
        record fields
  | dispatch site callee receiver values line =>
      exact .bind
        (.lift (.bind (hEngine _ _ _ _ _)
          fun _ => hCall _ _ _ _))
        fun _ => .pure _

/- A task ends on its way to the end of what led to it. -/
theorem Leads.evolves_last
    (hEngine : engine.Stepwise)
    (hCall : call.Stepwise)
    (hLeads :
      Leads context engine call scope machine task next
        later) :
    (Machine.after
        (later.run context engine call scope next)).Evolves
      (Machine.after
        (task.run context engine call scope machine)) := by
  have hEval
      (expr : Expr S) :
      Stepwise (expr.eval context engine call scope) :=
    Expr.stepwise_eval hEngine hCall scope expr
  have hBlock
      (exprs : List (Expr S)) :
      Stepwise
        (Expr.evalBlock context engine call scope exprs) :=
    Expr.stepwise_evalBlock hEngine hCall scope exprs
  have hArgs
      (exprs : List (Expr S)) :
      Stepwise
        (Expr.evalArgs context engine call scope exprs) :=
    Expr.stepwise_evalArgs hEngine hCall scope exprs
  have hFields
      (record : ObjectId)
      (fields : List (Name × Expr S)) :
      Stepwise
        (Expr.evalFields context engine call scope record
          fields) :=
    Expr.stepwise_evalFields hEngine hCall scope record
      fields
  have hInvoke
      (site : S)
      (callee : FunctionId)
      (receiver : Value)
      (args : List Value)
      (line : Line) :
      Stepwise
        (Signal.lift do
          let target ← engine.resolve context.interner site
            callee args.length line
          call target receiver args line) :=
    .lift (.bind (hEngine _ _ _ _ _) fun _ => hCall _ _ _ _)
  cases hLeads with
  | block line body =>
      simp only [run, after_discard]
      rw [Expr.eval]
      exact .refl _
  | assignValue line declares name value =>
      simp only [run, after_discard]
      rw [Expr.eval]
      exact Stepwise.evolves_bind _
        (fun _ => .bindLocal _ _ _ _ _ _) _
  | callCallee line site callee args =>
      simp only [run, after_discard]
      rw [Expr.eval]
      exact Stepwise.evolves_bind _ (by simp [*]) _
  | callArgs line site args hCallee =>
      simp only [run, after_discard]
      rw [Expr.eval_call_of_callee hCallee]
      exact Stepwise.evolves_bind _ (by simp [*]) _
  | callDispatch line site hCallee hValues =>
      simp only [run, after_discard]
      rw [Expr.eval_call_of_callee hCallee,
        RunM.bind_apply, hValues]
      exact .refl _
  | retValue line value =>
      simp only [run, after_discard]
      rw [Expr.eval]
      exact Stepwise.evolves_bind _ (by simp) _
  | branchTest line test thenBody elseBody =>
      simp only [run, after_discard]
      rw [Expr.eval]
      refine Stepwise.evolves_bind _ (fun value => ?_) _
      split
      · exact hBlock thenBody
      · exact hBlock elseBody
  | branchThen line thenBody elseBody hTest hTruthy =>
      simp only [run, after_discard]
      rw [Expr.eval, RunM.bind_apply, hTest]
      simp only [hTruthy, if_true]
      exact .refl _
  | branchElse line thenBody elseBody hTest hFalsy =>
      simp only [run, after_discard]
      rw [Expr.eval, RunM.bind_apply, hTest]
      simp only [hFalsy, Bool.false_eq_true, if_false]
      exact .refl _
  | recordFields line fields =>
      simp only [run, after_discard]
      rw [Expr.eval, RunM.bind_apply, Machine.onHeap_apply]
      exact Stepwise.evolves_bind _ (by simp) _
  | getReceiver line receiver name =>
      simp only [run, after_discard]
      rw [Expr.eval]
      exact Stepwise.evolves_bind _ (by simp) _
  | setReceiver line receiver name value =>
      simp only [run, after_discard]
      rw [Expr.eval]
      refine Stepwise.evolves_bind _ (fun found => ?_) _
      apply Stepwise.bind (.expectObject _ found line)
      intro object
      apply Stepwise.bind (hEval value)
      intro result
      exact .bind (.define object name result)
        fun _ => .pure _
  | setValue line name value hReceiver =>
      simp only [run, after_discard]
      rw [Expr.eval, RunM.bind_apply, hReceiver]
      simp only
      rw [RunM.bind_apply, EvalM.expectObject_apply]
      refine Stepwise.evolves_bind _ (fun result => ?_) _
      exact .bind (.define _ name result) fun _ => .pure _
  | methodReceiver line site receiver name args =>
      simp only [run, after_discard]
      rw [Expr.eval]
      refine Stepwise.evolves_bind _ (fun found => ?_) _
      apply Stepwise.bind (.expectObject _ found line)
      intro object
      apply Stepwise.bind (.askHeap _)
      intro field
      apply Stepwise.bind (.expectFunction _ _ line)
      intro callee
      exact .bind (hArgs args)
        fun values => hInvoke site callee _ values line
  | methodArgs line site args hReceiver hField =>
      simp only [run, after_discard]
      rw [Expr.eval_method_of_field hReceiver hField]
      exact Stepwise.evolves_bind _ (by simp [*]) _
  | methodDispatch line site hReceiver hField hValues =>
      simp only [run, after_discard]
      rw [Expr.eval_method_of_field hReceiver hField,
        RunM.bind_apply, hValues]
      exact .refl _
  | blockHead expr exprs =>
      simp only [run, after_discard]
      rw [Expr.evalBlock]
      exact Stepwise.evolves_bind _ (fun _ => hBlock exprs) _
  | blockTail exprs hHead =>
      simp only [run, after_discard]
      rw [Expr.evalBlock, RunM.bind_apply, hHead]
      exact .refl _
  | argsHead expr exprs =>
      simp only [run, after_discard]
      rw [Expr.evalArgs]
      exact Stepwise.evolves_bind _ (by simp [*]) _
  | argsTail exprs hHead =>
      simp only [run, after_discard]
      rw [Expr.evalArgs, RunM.bind_apply, hHead]
      exact Stepwise.evolves_bind _ (by simp) _
  | fieldsHead record name expr fields =>
      simp only [run, after_discard]
      rw [Expr.evalFields]
      exact Stepwise.evolves_bind _ (by simp [*]) _
  | fieldsTail record name fields hHead =>
      simp only [run]
      rw [Expr.evalFields, RunM.bind_apply, hHead]
      exact .refl _

/- Pieces of one task are done one after another. -/
theorem Leads.ordered
    (hEngine : engine.Stepwise)
    (hCall : call.Stepwise)
    {other : Machine}
    {last : Task S}
    (hFirst :
      Leads context engine call scope machine task next
        later)
    (hSecond :
      Leads context engine call scope machine task other
        last) :
    (next = other ∧ later = last) ∨
      (Machine.after
          (later.run context engine call scope
            next)).Evolves other ∨
        (Machine.after
          (last.run context engine call scope
            other)).Evolves next := by
  have hEval
      {expr : Expr S}
      {value : Value}
      {before after : Machine}
      (hValue :
        expr.eval context engine call scope before =
          .ok value after) :
      (Machine.after
        ((Task.eval expr).run context engine call scope
          before)).Evolves after := by
    rw [run, after_discard, hValue]
    exact .refl after
  have hArgs
      {exprs : List (Expr S)}
      {values : List Value}
      {before after : Machine}
      (hValues :
        Expr.evalArgs context engine call scope exprs
          before = .ok values after) :
      (Machine.after
          ((Task.args exprs).run context engine call scope
            before)).Evolves after ∧
        before.Evolves after := by
    rw [run, after_discard, hValues]
    exact ⟨.refl after,
      (Expr.stepwise_evalArgs hEngine hCall scope
        exprs).evolves_of_ok hValues⟩
  cases hFirst with
  | callCallee line site callee args =>
      cases hSecond with
      | callCallee => exact .inl ⟨rfl, rfl⟩
      | callArgs _ _ _ hCallee =>
          exact .inr (.inl (hEval hCallee))
      | callDispatch _ _ hCallee hValues =>
          exact .inr (.inl
            ((hEval hCallee).trans (hArgs hValues).2))
  | callArgs line site args hCallee =>
      cases hSecond with
      | callCallee => exact .inr (.inr (hEval hCallee))
      | callArgs _ _ _ hOther =>
          cases hCallee.symm.trans hOther
          exact .inl ⟨rfl, rfl⟩
      | callDispatch _ _ hOther hValues =>
          cases hCallee.symm.trans hOther
          exact .inr (.inl (hArgs hValues).1)
  | callDispatch line site hCallee hValues =>
      cases hSecond with
      | callCallee =>
          exact .inr (.inr
            ((hEval hCallee).trans (hArgs hValues).2))
      | callArgs _ _ _ hOther =>
          cases hCallee.symm.trans hOther
          exact .inr (.inr (hArgs hValues).1)
      | callDispatch _ _ hOther hOthers =>
          cases hCallee.symm.trans hOther
          cases hValues.symm.trans hOthers
          exact .inl ⟨rfl, rfl⟩
  | branchTest line test thenBody elseBody =>
      cases hSecond with
      | branchTest => exact .inl ⟨rfl, rfl⟩
      | branchThen _ _ _ hTest _ =>
          exact .inr (.inl (hEval hTest))
      | branchElse _ _ _ hTest _ =>
          exact .inr (.inl (hEval hTest))
  | branchThen line thenBody elseBody hTest hTruthy =>
      cases hSecond with
      | branchTest => exact .inr (.inr (hEval hTest))
      | branchThen _ _ _ hOther _ =>
          cases hTest.symm.trans hOther
          exact .inl ⟨rfl, rfl⟩
      | branchElse _ _ _ hOther hFalsy =>
          cases hTest.symm.trans hOther
          cases hTruthy.symm.trans hFalsy
  | branchElse line thenBody elseBody hTest hFalsy =>
      cases hSecond with
      | branchTest => exact .inr (.inr (hEval hTest))
      | branchThen _ _ _ hOther hTruthy =>
          cases hTest.symm.trans hOther
          cases hTruthy.symm.trans hFalsy
      | branchElse _ _ _ hOther _ =>
          cases hTest.symm.trans hOther
          exact .inl ⟨rfl, rfl⟩
  | setReceiver line receiver name value =>
      cases hSecond with
      | setReceiver => exact .inl ⟨rfl, rfl⟩
      | setValue _ _ _ hReceiver =>
          exact .inr (.inl (hEval hReceiver))
  | setValue line name value hReceiver =>
      cases hSecond with
      | setReceiver => exact .inr (.inr (hEval hReceiver))
      | setValue _ _ _ hOther =>
          cases hReceiver.symm.trans hOther
          exact .inl ⟨rfl, rfl⟩
  | methodReceiver line site receiver name args =>
      cases hSecond with
      | methodReceiver => exact .inl ⟨rfl, rfl⟩
      | methodArgs _ _ _ hReceiver _ =>
          exact .inr (.inl (hEval hReceiver))
      | methodDispatch _ _ hReceiver _ hValues =>
          exact .inr (.inl
            ((hEval hReceiver).trans (hArgs hValues).2))
  | methodArgs line site args hReceiver hField =>
      cases hSecond with
      | methodReceiver =>
          exact .inr (.inr (hEval hReceiver))
      | methodArgs _ _ _ hOther _ =>
          cases hReceiver.symm.trans hOther
          exact .inl ⟨rfl, rfl⟩
      | methodDispatch _ _ hOther _ hValues =>
          cases hReceiver.symm.trans hOther
          exact .inr (.inl (hArgs hValues).1)
  | methodDispatch line site hReceiver hField hValues =>
      cases hSecond with
      | methodReceiver =>
          exact .inr (.inr
            ((hEval hReceiver).trans (hArgs hValues).2))
      | methodArgs _ _ _ hOther _ =>
          cases hReceiver.symm.trans hOther
          exact .inr (.inr (hArgs hValues).1)
      | methodDispatch _ _ hOther hFields hOthers =>
          cases hReceiver.symm.trans hOther
          cases hField.symm.trans hFields
          cases hValues.symm.trans hOthers
          exact .inl ⟨rfl, rfl⟩
  | blockHead expr exprs =>
      cases hSecond with
      | blockHead => exact .inl ⟨rfl, rfl⟩
      | blockTail _ hHead =>
          exact .inr (.inl (hEval hHead))
  | blockTail exprs hHead =>
      cases hSecond with
      | blockHead => exact .inr (.inr (hEval hHead))
      | blockTail _ hOther =>
          cases hHead.symm.trans hOther
          exact .inl ⟨rfl, rfl⟩
  | argsHead expr exprs =>
      cases hSecond with
      | argsHead => exact .inl ⟨rfl, rfl⟩
      | argsTail _ hHead =>
          exact .inr (.inl (hEval hHead))
  | argsTail exprs hHead =>
      cases hSecond with
      | argsHead => exact .inr (.inr (hEval hHead))
      | argsTail _ hOther =>
          cases hHead.symm.trans hOther
          exact .inl ⟨rfl, rfl⟩
  | fieldsHead record name expr fields =>
      cases hSecond with
      | fieldsHead => exact .inl ⟨rfl, rfl⟩
      | fieldsTail _ _ _ hHead =>
          exact .inr (.inl
            ((hEval hHead).trans
              (.single (.define _ record name _))))
  | fieldsTail record name fields hHead =>
      cases hSecond with
      | fieldsHead =>
          exact .inr (.inr
            ((hEval hHead).trans
              (.single (.define _ record name _))))
      | fieldsTail _ _ _ hOther =>
          cases hHead.symm.trans hOther
          exact .inl ⟨rfl, rfl⟩
  | _ =>
      cases hSecond
      exact .inl ⟨rfl, rfl⟩

end Task

end Scriptlet

------------------------------------------------------------
-- Ends of Moments
------------------------------------------------------------

namespace Scriptlet

namespace Moment

variable {context : Context}
variable {moment later : Moment}

/- A dispatch ends where the call ends that it comes to. -/
theorem evolves_dispatch
    {S : Type}
    {engine : Engine S}
    {call : Caller}
    {scope : ObjectId}
    {site : S}
    {callee : FunctionId}
    {receiver : Value}
    {args : List Value}
    {line : Line}
    {target : Target}
    {machine next : Machine}
    (hResolve :
      engine.resolve context.interner site callee
        args.length line machine = .ok target next) :
    (Machine.after
        (call target receiver args line next)).Evolves
      (Machine.after
        (Task.run context engine call scope
          (.dispatch site callee receiver args line)
          machine)) := by
  rw [Task.run, Task.after_discard, Signal.lift_apply,
    after_liftResult, RunM.bind_apply, hResolve]
  exact .refl _

/- A call ends by leaving the code that it has run. -/
theorem evolves_code
    {S : Type}
    {engine : Engine S}
    {call : Caller}
    {callee : Name}
    {line : Line}
    {scope : ObjectId}
    {params : List Name}
    {receiver : Value}
    {args : List Value}
    {body : List (Expr S)}
    {machine : Machine}
    {stack : CallStack}
    (hPush :
      machine.stack.push { callee, line } = .ok stack) :
    (Machine.after
        (Task.run context engine call
          ⟨machine.heap.objects.size⟩ (.block body)
          (entered context machine scope params receiver
            args stack))).Evolves
      (Machine.after
        ((do
          let frame ← openFrame context.this scope params
            receiver args
          activate context.interner callee line
            (Caller.runCode context engine (some call)
              body frame) : CallM Value)
          machine)) := by
  have hOpened :
      (machine.opened context.this scope params receiver
        args).stack.push { callee, line } = .ok stack :=
    hPush
  rw [Task.run, Task.after_discard, RunM.bind_apply,
    openFrame_apply]
  simp only
  rw [activate_apply, hOpened]
  have hLeave :=
    Simulation.evolves_leaveCall context.interner
      (Expr.evalBlock context engine call
        ⟨machine.heap.objects.size⟩ body
        (entered context machine scope params receiver args
          stack))
  rw [after_liftResult] at hLeave
  exact hLeave

/- Work ends on the way to the end of what it is part of. -/
theorem Next.evolves_last
    (hNext : Next context moment later) :
    (later.last context).Evolves (moment.last context) := by
  cases hNext with
  | @walk budget scope machine next task after hLeads =>
      exact hLeads.evolves_last Engine.stepwise_plain
        (Caller.stepwise_within context budget)
  | @execute budget scope machine next task after hLeads =>
      exact hLeads.evolves_last Engine.stepwise_caching
        (Caller.stepwise_within context budget)
  | walkCall hResolve => exact evolves_dispatch hResolve
  | executeCall hResolve => exact evolves_dispatch hResolve
  | enterWalked hPush => exact evolves_code hPush
  | enterLinked hPush => exact evolves_code hPush

theorem Reaches.evolves_last
    (hReaches : Reaches context moment later) :
    (later.last context).Evolves (moment.last context) := by
  induction hReaches with
  | refl => exact .refl _
  | tail _ hNext ih => exact hNext.evolves_last.trans ih

/- The machine that work begins on evolves to its end. -/
theorem evolves_last
    (context : Context)
    (moment : Moment) :
    moment.machine.Evolves (moment.last context) := by
  rcases moment with ⟨budget, work, machine⟩
  have hCall := Caller.stepwise_within context budget
  cases work with
  | walk scope task =>
      exact task.stepwise_run Engine.stepwise_plain hCall
        scope machine
  | execute scope task =>
      exact task.stepwise_run Engine.stepwise_caching hCall
        scope machine
  | call target receiver args line =>
      exact hCall target receiver args line machine

end Moment

end Scriptlet

------------------------------------------------------------
-- Order
------------------------------------------------------------

namespace Scriptlet

namespace Moment

variable (context : Context)

/-
  Whether work is over before other work begins. Both are
  part of the work of one moment, in pieces of which one
  begins on what the other has left.
-/
def Precedes (early late : Moment) : Prop :=
  ∃ outer first second,
    Next context outer first ∧
      Next context outer second ∧
        (first.last context).Evolves second.machine ∧
          Reaches context first early ∧
            Reaches context second late

/-
  Whether work is over before other work is: it is over
  before that begins, or it is part of it.
-/
def EndsBefore (early late : Moment) : Prop :=
  Precedes context early late ∨
    Relation.TransGen (Next context) late early

variable {context : Context}
variable {early late : Moment}

/- What is left by work is found by the work after it. -/
theorem Precedes.evolves
    (hPrecedes : Precedes context early late) :
    (early.last context).Evolves late.machine := by
  rcases hPrecedes with
    ⟨outer, first, second, _, _, hOrder, hEarly, hLate⟩
  exact hEarly.evolves_last.trans
    (hOrder.trans hLate.evolves)

/- Pieces of the work of a moment are done in turn. -/
theorem Next.ordered
    {outer first second : Moment}
    (hFirst : Next context outer first)
    (hSecond : Next context outer second) :
    first = second ∨
      (first.last context).Evolves second.machine ∨
        (second.last context).Evolves first.machine := by
  cases hFirst with
  | @walk budget scope machine next task later hLeads =>
      cases hSecond with
      | walk hOther =>
          rcases hLeads.ordered Engine.stepwise_plain
              (Caller.stepwise_within context budget)
              hOther with
            ⟨rfl, rfl⟩ | hOrder
          · exact .inl rfl
          · exact .inr hOrder
      | walkCall hResolve => cases hLeads
  | @execute budget scope machine next task later hLeads =>
      cases hSecond with
      | execute hOther =>
          rcases hLeads.ordered Engine.stepwise_caching
              (Caller.stepwise_within context budget)
              hOther with
            ⟨rfl, rfl⟩ | hOrder
          · exact .inl rfl
          · exact .inr hOrder
      | executeCall hResolve => cases hLeads
  | walkCall hResolve =>
      cases hSecond with
      | walk hLeads => cases hLeads
      | walkCall hOther =>
          cases hResolve.symm.trans hOther
          exact .inl rfl
  | executeCall hResolve =>
      cases hSecond with
      | execute hLeads => cases hLeads
      | executeCall hOther =>
          cases hResolve.symm.trans hOther
          exact .inl rfl
  | enterWalked hPush =>
      cases hSecond with
      | enterWalked hOther =>
          cases hPush.symm.trans hOther
          exact .inl rfl
  | enterLinked hPush =>
      cases hSecond with
      | enterLinked hOther =>
          cases hPush.symm.trans hOther
          exact .inl rfl

/- Of two moments of a run the work of one is over first. -/
theorem Reaches.ordered
    {start : Moment}
    (hEarly : Reaches context start early)
    (hLate : Reaches context start late) :
    early = late ∨ EndsBefore context early late ∨
      EndsBefore context late early := by
  induction hEarly using
      Relation.ReflTransGen.head_induction_on with
  | refl =>
      rcases Relation.reflTransGen_iff_eq_or_transGen.mp
          hLate with
        hSame | hInside
      · exact .inl hSame.symm
      · exact .inr (.inr (.inr hInside))
  | head hFirst hEarly ih =>
      rcases hLate.cases_head with
        rfl | ⟨second, hSecond, hRest⟩
      · exact .inr (.inl (.inr
          (.head' hFirst hEarly)))
      · rcases hFirst.ordered hSecond with
          rfl | hOrder | hOrder
        · exact ih hRest
        · exact .inr (.inl (.inl
            ⟨_, _, _, hFirst, hSecond, hOrder, hEarly,
              hRest⟩))
        · exact .inr (.inr (.inl
            ⟨_, _, _, hSecond, hFirst, hOrder, hRest,
              hEarly⟩))

end Moment

end Scriptlet
