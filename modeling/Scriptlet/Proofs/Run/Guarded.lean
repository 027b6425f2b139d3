import Scriptlet.Proofs.Run.Reachable

/-
  Calls that are never made.

  A run depends on how calls are run only where it reaches a
  call. From a sound moment all calls that are reached take
  the arguments they are given, so that nothing depends on
  what would happen to those that do not: to code with fewer
  or more parameters than there are arguments, and to an
  operator without its two operands.

  Key definitions include:
    * `Task.CallsAlike`
    * `Target.Takes`
    * `Caller.guarded`

  Key theorems include:
    * `Expr.eval_of_callsAlike`
    * `Moment.Sound.callsAlike`
    * `Program.runBy_guarded`
-/

------------------------------------------------------------
-- Calls on the Way
------------------------------------------------------------

namespace Scriptlet

namespace Task

variable {S : Type}

/- The tasks that a task leads to, sooner or later. -/
def Reaches
    (context : Context)
    (engine : Engine S)
    (call : Caller)
    (scope : ObjectId) :
    Machine × Task S → Machine × Task S → Prop :=
  Relation.ReflTransGen fun before after =>
    Leads context engine call scope before.1 before.2
      after.1 after.2

/-
  Whether another caller does the same wherever a task leads
  to a call.
-/
def CallsAlike
    (context : Context)
    (engine : Engine S)
    (call other : Caller)
    (scope : ObjectId)
    (machine : Machine)
    (task : Task S) : Prop :=
  ∀ before site callee receiver args line target after,
    Reaches context engine call scope (machine, task)
        (before,
          .dispatch site callee receiver args line) →
      engine.resolve context.interner site callee
          args.length line before = .ok target after →
        other target receiver args line after =
          call target receiver args line after

variable {context : Context}
variable {engine : Engine S}
variable {call other : Caller}
variable {scope : ObjectId}
variable {machine : Machine}

/- What a task leads to calls alike if the task does. -/
theorem CallsAlike.leads
    {next : Machine}
    {task later : Task S}
    (hAlike :
      CallsAlike context engine call other scope machine
        task)
    (hLeads :
      Leads context engine call scope machine task next
        later) :
    CallsAlike context engine call other scope next
      later := by
  intro before site callee receiver args line target after
    hReaches hResolve
  exact hAlike before site callee receiver args line target
    after (.head hLeads hReaches) hResolve

/- A call that is reached is run alike. -/
theorem CallsAlike.dispatch
    {site : S}
    {callee : FunctionId}
    {receiver : Value}
    {args : List Value}
    {line : Line}
    (hAlike :
      CallsAlike context engine call other scope machine
        (.dispatch site callee receiver args line)) :
    (Signal.lift do
        let target ← engine.resolve context.interner site
          callee args.length line
        other target receiver args line : EvalM Value)
        machine =
      (Signal.lift do
        let target ← engine.resolve context.interner site
          callee args.length line
        call target receiver args line : EvalM Value)
        machine := by
  rw [Signal.lift_apply, Signal.lift_apply]
  refine congrArg Signal.liftResult
    (RunM.bind_congr rfl ?_)
  intro target next hResolve
  exact hAlike machine site callee receiver args line target
    next .refl hResolve

end Task

end Scriptlet

------------------------------------------------------------
-- Evaluation by Another Caller
------------------------------------------------------------

namespace Scriptlet

/- Where a function was read, a function is bound. -/
theorem Value.eq_some_of_getD
    {field : Option Value}
    {id : FunctionId}
    (hField : field.getD .undefined = .function id) :
    field = some (.function id) := by
  cases field with
  | none => cases hField
  | some value => exact congrArg some hField

namespace Expr

variable {S : Type}
variable {context : Context}
variable {engine : Engine S}
variable {call other : Caller}
variable {scope : ObjectId}

mutual

/- Evaluation depends only on the calls it reaches. -/
theorem eval_of_callsAlike
    {machine : Machine}
    (expr : Expr S)
    (hAlike :
      Task.CallsAlike context engine call other scope
        machine (.eval expr)) :
    expr.eval context engine other scope machine =
      expr.eval context engine call scope machine := by
  cases expr with
  | block line body =>
      rw [eval, eval]
      exact evalBlock_of_callsAlike body
        (hAlike.leads (.block machine line body))
  | literal line value => rw [eval, eval]
  | var line name => rw [eval, eval]
  | assign line declares name value =>
      rw [eval, eval]
      exact RunM.bind_congr
        (eval_of_callsAlike value
          (hAlike.leads (.assignValue _ _ _ _ value)))
        (fun _ _ _ => rfl)
  | function line name params body writtenAt =>
      rw [eval, eval]
  | call line site callee args =>
      rw [eval, eval]
      refine RunM.bind_congr
        (eval_of_callsAlike callee
          (hAlike.leads (.callCallee _ _ _ callee _))) ?_
      intro value next hCallee
      refine RunM.bind_congr rfl ?_
      intro function third hExpect
      rcases EvalM.eq_of_expectFunction _ _ hExpect with
        ⟨rfl, rfl⟩
      refine RunM.bind_congr
        (evalArgs_of_callsAlike args
          (hAlike.leads (.callArgs line site args hCallee)))
        ?_
      intro values last hArgs
      exact (hAlike.leads
        (.callDispatch line site hCallee hArgs)).dispatch
  | ret line value =>
      rw [eval, eval]
      exact RunM.bind_congr
        (eval_of_callsAlike value
          (hAlike.leads (.retValue _ _ value)))
        (fun _ _ _ => rfl)
  | branch line test thenBody elseBody =>
      rw [eval, eval]
      refine RunM.bind_congr
        (eval_of_callsAlike test
          (hAlike.leads (.branchTest _ _ test _ _))) ?_
      intro value next hTest
      cases hTruthy : value.isTruthy with
      | true =>
          exact evalBlock_of_callsAlike thenBody
            (hAlike.leads
              (.branchThen line thenBody elseBody hTest
                hTruthy))
      | false =>
          exact evalBlock_of_callsAlike elseBody
            (hAlike.leads
              (.branchElse line thenBody elseBody hTest
                hTruthy))
  | record line fields =>
      rw [eval, eval]
      refine RunM.bind_congr rfl ?_
      intro record next hNew
      cases hNew
      exact RunM.bind_congr
        (evalFields_of_callsAlike fields
          (hAlike.leads (.recordFields _ _ fields)))
        (fun _ _ _ => rfl)
  | getField line receiver name =>
      rw [eval, eval]
      exact RunM.bind_congr
        (eval_of_callsAlike receiver
          (hAlike.leads (.getReceiver _ _ receiver _)))
        (fun _ _ _ => rfl)
  | setField line receiver name value =>
      rw [eval, eval]
      refine RunM.bind_congr
        (eval_of_callsAlike receiver
          (hAlike.leads (.setReceiver _ _ receiver _ _)))
        ?_
      intro object next hReceiver
      refine RunM.bind_congr rfl ?_
      intro id third hExpect
      rcases EvalM.eq_of_expectObject _ _ hExpect with
        ⟨rfl, rfl⟩
      exact RunM.bind_congr
        (eval_of_callsAlike value
          (hAlike.leads
            (.setValue line name value hReceiver)))
        (fun _ _ _ => rfl)
  | method line site receiver name args =>
      rw [eval, eval]
      refine RunM.bind_congr
        (eval_of_callsAlike receiver
          (hAlike.leads
            (.methodReceiver _ _ _ receiver _ _))) ?_
      intro object next hReceiver
      refine RunM.bind_congr rfl ?_
      intro id third hExpect
      rcases EvalM.eq_of_expectObject _ _ hExpect with
        ⟨rfl, rfl⟩
      refine RunM.bind_congr rfl ?_
      intro field fourth hField
      cases hField
      refine RunM.bind_congr rfl ?_
      intro function fifth hExpect
      rcases EvalM.eq_of_expectFunction _ _ hExpect with
        ⟨hFunction, rfl⟩
      have hField :
          fifth.heap.own? id name =
            some (.function function) :=
        Value.eq_some_of_getD hFunction
      refine RunM.bind_congr
        (evalArgs_of_callsAlike args
          (hAlike.leads
            (.methodArgs line site args hReceiver hField)))
        ?_
      intro values last hArgs
      exact (hAlike.leads
        (.methodDispatch line site hReceiver hField
          hArgs)).dispatch

/- So do statements. -/
theorem evalBlock_of_callsAlike
    {machine : Machine}
    (exprs : List (Expr S))
    (hAlike :
      Task.CallsAlike context engine call other scope
        machine (.block exprs)) :
    evalBlock context engine other scope exprs machine =
      evalBlock context engine call scope exprs
        machine := by
  cases exprs with
  | nil => rw [evalBlock, evalBlock]
  | cons expr exprs =>
      rw [evalBlock, evalBlock]
      refine RunM.bind_congr
        (eval_of_callsAlike expr
          (hAlike.leads (.blockHead _ expr _))) ?_
      intro value next hHead
      exact evalBlock_of_callsAlike exprs
        (hAlike.leads (.blockTail exprs hHead))

/- So do arguments. -/
theorem evalArgs_of_callsAlike
    {machine : Machine}
    (exprs : List (Expr S))
    (hAlike :
      Task.CallsAlike context engine call other scope
        machine (.args exprs)) :
    evalArgs context engine other scope exprs machine =
      evalArgs context engine call scope exprs
        machine := by
  cases exprs with
  | nil => rw [evalArgs, evalArgs]
  | cons expr exprs =>
      rw [evalArgs, evalArgs]
      refine RunM.bind_congr
        (eval_of_callsAlike expr
          (hAlike.leads (.argsHead _ expr _))) ?_
      intro value next hHead
      exact RunM.bind_congr
        (evalArgs_of_callsAlike exprs
          (hAlike.leads (.argsTail exprs hHead)))
        (fun _ _ _ => rfl)

/- So do fields. -/
theorem evalFields_of_callsAlike
    {machine : Machine}
    {record : ObjectId}
    (fields : List (Name × Expr S))
    (hAlike :
      Task.CallsAlike context engine call other scope
        machine (.fields record fields)) :
    evalFields context engine other scope record fields
        machine =
      evalFields context engine call scope record fields
        machine := by
  cases fields with
  | nil => rw [evalFields, evalFields]
  | cons field fields =>
      rcases field with ⟨name, expr⟩
      rw [evalFields, evalFields]
      refine RunM.bind_congr
        (eval_of_callsAlike expr
          (hAlike.leads (.fieldsHead _ _ _ expr _))) ?_
      intro value next hHead
      refine RunM.bind_congr rfl ?_
      intro _ last hDefine
      cases hDefine
      exact evalFields_of_callsAlike fields
        (hAlike.leads
          (.fieldsTail record name fields hHead))

end

end Expr

end Scriptlet

------------------------------------------------------------
-- Guarded Calls
------------------------------------------------------------

namespace Scriptlet

/- Whether a target takes so many arguments. -/
def Target.Takes (argc : Nat) (target : Target) : Prop :=
  match target.action with
  | .primitive (.operator _) => argc = 2
  | .primitive _ => True
  | .walked code _ => code.params.length = argc
  | .linked code _ => code.params.length = argc

instance
    (argc : Nat)
    (target : Target) :
    Decidable (target.Takes argc) :=
  match target with
  | ⟨_, .primitive (.operator _)⟩ =>
      inferInstanceAs (Decidable (argc = 2))
  | ⟨_, .primitive .print⟩ =>
      inferInstanceAs (Decidable True)
  | ⟨_, .primitive (.host _)⟩ =>
      inferInstanceAs (Decidable True)
  | ⟨_, .walked code _⟩ =>
      inferInstanceAs (Decidable (code.params.length = argc))
  | ⟨_, .linked code _⟩ =>
      inferInstanceAs (Decidable (code.params.length = argc))

/- A call that is ready takes its arguments. -/
theorem Target.Ready.takes
    {argcs : Array Nat}
    {objects argc : Nat}
    {target : Target}
    (hReady : target.Ready argcs objects argc) :
    target.Takes argc := by
  rcases target with ⟨name, action⟩
  cases action with
  | walked code scope => exact hReady.1
  | linked code scope => exact hReady.1
  | primitive primitive =>
      cases primitive with
      | print => trivial
      | operator op => exact hReady
      | host function => trivial

namespace Caller

/- Run calls that take their arguments, or do otherwise. -/
def only (otherwise call : Caller) : Caller :=
  fun target receiver args line =>
    if target.Takes args.length then
      call target receiver args line
    else
      otherwise target receiver args line

/- Run nested calls, but only those that take arguments. -/
def guarded
    (context : Context)
    (otherwise : Caller) :
    (budget : Nat) → Caller
  | 0 => only otherwise (around context none)
  | budget + 1 =>
      only otherwise
        (around context
          (some (guarded context otherwise budget)))

end Caller

namespace Moment

variable {argcs : Array Nat}
variable {context : Context}

/-
  Another caller does the same for calls that are ready on a
  sound machine.
-/
def SameWhenReady
    (argcs : Array Nat)
    (call other : Caller) : Prop :=
  ∀ (machine : Machine) (target : Target)
    (receiver : Value) (args : List Value) (line : Line),
    machine.Sound argcs →
      target.Ready argcs machine.heap.objects.size
          args.length →
        other target receiver args line machine =
          call target receiver args line machine

/- From a sound moment only ready calls are reached. -/
theorem Sound.callsAlike
    {S : Type}
    {engine : Engine S}
    {budget : Nat}
    {scope : ObjectId}
    {other : Caller}
    {work : Task S → Work}
    (hLeads :
      ∀ {machine next task later},
        Task.Leads context engine (.within context budget)
            scope machine task next later →
          Next context
            { budget, work := work task, machine }
            { budget, work := work later, machine := next })
    (hCalls :
      ∀ {machine next site callee receiver args line target},
        engine.resolve context.interner site callee
            (List.length args) line machine =
              .ok target next →
          Next context
            { budget
              work := work
                (.dispatch site callee receiver args line)
              machine }
            { budget
              work := .call target receiver args line
              machine := next })
    {machine : Machine}
    {task : Task S}
    (hSound :
      Sound argcs { budget, work := work task, machine })
    (hSame :
      SameWhenReady argcs (.within context budget) other) :
    task.CallsAlike context engine (.within context budget)
      other scope machine := by
  intro before site callee receiver args line target after
    hReaches hResolve
  have hBefore :
      Reaches context
        { budget, work := work task, machine }
        { budget
          work := work
            (.dispatch site callee receiver args line)
          machine := before } :=
    Relation.ReflTransGen.lift
      (fun pair : Machine × Task S =>
        ({ budget, work := work pair.2, machine := pair.1 } :
          Moment))
      (fun _ _ => hLeads) _ _ hReaches
  have hCall :=
    (hSound.reaches (hBefore.tail (hCalls hResolve))).sound
  exact hSame after target receiver args line hCall.machine
    hCall.work

theorem Sound.callsAlike_walk
    {budget : Nat}
    {scope : ObjectId}
    {task : Task Unit}
    {machine : Machine}
    {other : Caller}
    (hSound :
      Sound argcs
        { budget, work := .walk scope task, machine })
    (hSame :
      SameWhenReady argcs (.within context budget) other) :
    task.CallsAlike context .plain (.within context budget)
      other scope machine :=
  hSound.callsAlike .walk .walkCall hSame

theorem Sound.callsAlike_execute
    {budget : Nat}
    {scope : ObjectId}
    {task : Task SiteId}
    {machine : Machine}
    {other : Caller}
    (hSound :
      Sound argcs
        { budget, work := .execute scope task, machine })
    (hSame :
      SameWhenReady argcs (.within context budget) other) :
    task.CallsAlike context .caching
      (.within context budget) other scope machine :=
  hSound.callsAlike .execute .executeCall hSame

/- A ready call is the same if all calls inside it are. -/
theorem SameWhenReady.around
    {budget : Nat}
    {other : Caller}
    (hSame :
      SameWhenReady argcs (.within context budget) other) :
    SameWhenReady argcs (.within context (budget + 1))
      (.around context (some other)) := by
  intro machine target receiver args line hSound hReady
  rcases target with ⟨name, action⟩
  have hMoment :
      Sound argcs
        { budget := budget + 1
          work := .call { name, action } receiver args line
          machine } :=
    ⟨hSound, hReady⟩
  rw [Caller.within]
  unfold Caller.around
  cases action with
  | primitive primitive => rfl
  | walked code scope =>
      refine RunM.bind_congr rfl ?_
      intro frame opened hOpen
      rw [openFrame_apply] at hOpen
      cases hOpen
      apply activate_congr
      intro stack hPush
      have hEntered :=
        (hMoment.next
          (@Next.enterWalked context _ _ _ _ _ _ _ _ _
            hPush)).sound
      exact Expr.evalBlock_of_callsAlike code.body
        (hEntered.callsAlike_walk hSame)
  | linked code scope =>
      refine RunM.bind_congr rfl ?_
      intro frame opened hOpen
      rw [openFrame_apply] at hOpen
      cases hOpen
      apply activate_congr
      intro stack hPush
      have hEntered :=
        (hMoment.next
          (@Next.enterLinked context _ _ _ _ _ _ _ _ _
            hPush)).sound
      exact Expr.evalBlock_of_callsAlike code.body
        (hEntered.callsAlike_execute hSame)

/- A guard changes nothing for calls that are ready. -/
theorem SameWhenReady.only
    {call other : Caller}
    (hSame : SameWhenReady argcs call other)
    (otherwise : Caller) :
    SameWhenReady argcs call (.only otherwise other) := by
  intro machine target receiver args line hSound hReady
  unfold Caller.only
  rw [if_pos hReady.takes]
  exact hSame machine target receiver args line hSound
    hReady

/- At no depth is there a call for the guard to stop. -/
theorem sameWhenReady_guarded
    (argcs : Array Nat)
    (context : Context)
    (otherwise : Caller)
    (budget : Nat) :
    SameWhenReady argcs (.within context budget)
      (.guarded context otherwise budget) := by
  induction budget with
  | zero =>
      apply SameWhenReady.only
      intro machine target receiver args line _ _
      rfl
  | succ budget ih => exact ih.around.only otherwise

end Moment

/- A sound program does not depend on other calls. -/
theorem Program.runBy_guarded
    {program : Program}
    {argcs : Array Nat}
    {budget : Nat}
    {global : ObjectId}
    {machine : Machine}
    (hSound :
      (program.first budget global machine).Sound argcs)
    (context : Context)
    (otherwise : Caller) :
    program.runBy context
        (.guarded context otherwise budget) global machine =
      program.run context budget global machine := by
  have hSame :=
    Moment.sameWhenReady_guarded argcs context otherwise
      budget
  cases program with
  | plain script =>
      rw [run, runBy, runBy, runBody_apply, runBody_apply]
      exact congrArg endOf
        (Expr.evalBlock_of_callsAlike script.body
          (hSound.callsAlike_walk hSame))
  | linked script =>
      rw [run, runBy, runBy, runBody_apply, runBody_apply]
      exact congrArg endOf
        (Expr.evalBlock_of_callsAlike script.body
          (hSound.callsAlike_execute hSame))

end Scriptlet
