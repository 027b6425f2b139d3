import Scriptlet.Proofs.Run.Program

/-
  The moments of a run.

  A moment is a piece of work that a run is about to begin,
  with the machine that it begins on and the nesting of
  calls that is left. One moment leads to another if doing
  the first work means to begin the second. The moments that
  can be reached from the start of a program are the states
  that its run passes through, those inside of calls that
  never end included.

  Key definitions include:
    * `Task`
    * `Task.Leads`
    * `Moment`
    * `Moment.Next`
    * `Moment.Reaches`
-/

------------------------------------------------------------
-- Tasks
------------------------------------------------------------

namespace Scriptlet

/- A piece of the work of evaluating in a frame. -/
inductive Task (S : Type) where
  | eval (expr : Expr S)
  | block (exprs : List (Expr S))
  | args (exprs : List (Expr S))
  | fields
      (record : ObjectId)
      (fields : List (Name × Expr S))
  | dispatch
      (site : S)
      (callee : FunctionId)
      (receiver : Value)
      (args : List Value)
      (line : Line)

namespace Task

variable {S : Type}

/- Do the work, and forget what it gives. -/
def run
    (context : Context)
    (engine : Engine S)
    (call : Caller)
    (scope : ObjectId) :
    Task S → EvalM Unit
  | .eval expr => do
      let _ ← expr.eval context engine call scope
      return ()
  | .block exprs => do
      let _ ← Expr.evalBlock context engine call scope exprs
      return ()
  | .args exprs => do
      let _ ← Expr.evalArgs context engine call scope exprs
      return ()
  | .fields record parts =>
      Expr.evalFields context engine call scope record parts
  | .dispatch site callee receiver values line => do
      let _ ← Signal.lift do
        let target ← engine.resolve context.interner site
          callee values.length line
        call target receiver values line
      return ()

/- A condition on every call that a task may make. -/
def Meets (meets : S → Nat → Prop) : Task S → Prop
  | .eval expr => expr.EveryCall meets
  | .block exprs => Expr.EveryCallAll meets exprs
  | .args exprs => Expr.EveryCallAll meets exprs
  | .fields _ parts => Expr.EveryCallFields meets parts
  | .dispatch site _ _ values _ => meets site values.length

/-
  Which task, on which machine, a task begins on its way.
  There is one case for each part of each expression.
-/
inductive Leads
    (context : Context)
    (engine : Engine S)
    (call : Caller)
    (scope : ObjectId) :
    Machine → Task S → Machine → Task S → Prop where
  | block
      (machine : Machine)
      (line : Line)
      (body : List (Expr S)) :
      Leads context engine call scope
        machine (.eval (.block line body))
        machine (.block body)
  | assignValue
      (machine : Machine)
      (line : Line)
      (declares : Bool)
      (name : Name)
      (value : Expr S) :
      Leads context engine call scope
        machine (.eval (.assign line declares name value))
        machine (.eval value)
  | callCallee
      (machine : Machine)
      (line : Line)
      (site : S)
      (callee : Expr S)
      (args : List (Expr S)) :
      Leads context engine call scope
        machine (.eval (.call line site callee args))
        machine (.eval callee)
  | callArgs
      {machine next : Machine}
      {callee : Expr S}
      {function : FunctionId}
      (line : Line)
      (site : S)
      (args : List (Expr S))
      (hCallee :
        callee.eval context engine call scope machine =
          .ok (.function function) next) :
      Leads context engine call scope
        machine (.eval (.call line site callee args))
        next (.args args)
  | callDispatch
      {machine next last : Machine}
      {callee : Expr S}
      {args : List (Expr S)}
      {function : FunctionId}
      {values : List Value}
      (line : Line)
      (site : S)
      (hCallee :
        callee.eval context engine call scope machine =
          .ok (.function function) next)
      (hArgs :
        Expr.evalArgs context engine call scope args next =
          .ok values last) :
      Leads context engine call scope
        machine (.eval (.call line site callee args))
        last
        (.dispatch site function .undefined values line)
  | retValue
      (machine : Machine)
      (line : Line)
      (value : Expr S) :
      Leads context engine call scope
        machine (.eval (.ret line value))
        machine (.eval value)
  | branchTest
      (machine : Machine)
      (line : Line)
      (test : Expr S)
      (thenBody elseBody : List (Expr S)) :
      Leads context engine call scope
        machine
        (.eval (.branch line test thenBody elseBody))
        machine (.eval test)
  | branchThen
      {machine next : Machine}
      {test : Expr S}
      {value : Value}
      (line : Line)
      (thenBody elseBody : List (Expr S))
      (hTest :
        test.eval context engine call scope machine =
          .ok value next)
      (hTruthy : value.isTruthy = true) :
      Leads context engine call scope
        machine
        (.eval (.branch line test thenBody elseBody))
        next (.block thenBody)
  | branchElse
      {machine next : Machine}
      {test : Expr S}
      {value : Value}
      (line : Line)
      (thenBody elseBody : List (Expr S))
      (hTest :
        test.eval context engine call scope machine =
          .ok value next)
      (hFalsy : value.isTruthy = false) :
      Leads context engine call scope
        machine
        (.eval (.branch line test thenBody elseBody))
        next (.block elseBody)
  | recordFields
      (machine : Machine)
      (line : Line)
      (fields : List (Name × Expr S)) :
      Leads context engine call scope
        machine (.eval (.record line fields))
        { machine with heap := machine.heap.newRecord.2 }
        (.fields machine.heap.newRecord.1 fields)
  | getReceiver
      (machine : Machine)
      (line : Line)
      (receiver : Expr S)
      (name : Name) :
      Leads context engine call scope
        machine (.eval (.getField line receiver name))
        machine (.eval receiver)
  | setReceiver
      (machine : Machine)
      (line : Line)
      (receiver : Expr S)
      (name : Name)
      (value : Expr S) :
      Leads context engine call scope
        machine (.eval (.setField line receiver name value))
        machine (.eval receiver)
  | setValue
      {machine next : Machine}
      {receiver : Expr S}
      {object : ObjectId}
      (line : Line)
      (name : Name)
      (value : Expr S)
      (hReceiver :
        receiver.eval context engine call scope machine =
          .ok (.object object) next) :
      Leads context engine call scope
        machine (.eval (.setField line receiver name value))
        next (.eval value)
  | methodReceiver
      (machine : Machine)
      (line : Line)
      (site : S)
      (receiver : Expr S)
      (name : Name)
      (args : List (Expr S)) :
      Leads context engine call scope
        machine
        (.eval (.method line site receiver name args))
        machine (.eval receiver)
  | methodArgs
      {machine next : Machine}
      {receiver : Expr S}
      {object : ObjectId}
      {function : FunctionId}
      {name : Name}
      (line : Line)
      (site : S)
      (args : List (Expr S))
      (hReceiver :
        receiver.eval context engine call scope machine =
          .ok (.object object) next)
      (hField :
        next.heap.own? object name =
          some (.function function)) :
      Leads context engine call scope
        machine
        (.eval (.method line site receiver name args))
        next (.args args)
  | methodDispatch
      {machine next last : Machine}
      {receiver : Expr S}
      {args : List (Expr S)}
      {object : ObjectId}
      {function : FunctionId}
      {values : List Value}
      {name : Name}
      (line : Line)
      (site : S)
      (hReceiver :
        receiver.eval context engine call scope machine =
          .ok (.object object) next)
      (hField :
        next.heap.own? object name =
          some (.function function))
      (hArgs :
        Expr.evalArgs context engine call scope args next =
          .ok values last) :
      Leads context engine call scope
        machine
        (.eval (.method line site receiver name args))
        last
        (.dispatch site function (.object object) values
          line)
  | blockHead
      (machine : Machine)
      (expr : Expr S)
      (exprs : List (Expr S)) :
      Leads context engine call scope
        machine (.block (expr :: exprs))
        machine (.eval expr)
  | blockTail
      {machine next : Machine}
      {expr : Expr S}
      {value : Value}
      (exprs : List (Expr S))
      (hHead :
        expr.eval context engine call scope machine =
          .ok value next) :
      Leads context engine call scope
        machine (.block (expr :: exprs))
        next (.block exprs)
  | argsHead
      (machine : Machine)
      (expr : Expr S)
      (exprs : List (Expr S)) :
      Leads context engine call scope
        machine (.args (expr :: exprs))
        machine (.eval expr)
  | argsTail
      {machine next : Machine}
      {expr : Expr S}
      {value : Value}
      (exprs : List (Expr S))
      (hHead :
        expr.eval context engine call scope machine =
          .ok value next) :
      Leads context engine call scope
        machine (.args (expr :: exprs))
        next (.args exprs)
  | fieldsHead
      (machine : Machine)
      (record : ObjectId)
      (name : Name)
      (expr : Expr S)
      (fields : List (Name × Expr S)) :
      Leads context engine call scope
        machine (.fields record ((name, expr) :: fields))
        machine (.eval expr)
  | fieldsTail
      {machine next : Machine}
      {expr : Expr S}
      {value : Value}
      (record : ObjectId)
      (name : Name)
      (fields : List (Name × Expr S))
      (hHead :
        expr.eval context engine call scope machine =
          .ok value next) :
      Leads context engine call scope
        machine (.fields record ((name, expr) :: fields))
        { next with
          heap := next.heap.define record name value }
        (.fields record fields)

end Task

end Scriptlet

------------------------------------------------------------
-- Moments
------------------------------------------------------------

namespace Scriptlet

/-
  What a run is about to do: a task of walking or executing
  in a frame, or a call that was resolved.
-/
inductive Work where
  | walk (scope : ObjectId) (task : Task Unit)
  | execute (scope : ObjectId) (task : Task SiteId)
  | call
      (target : Target)
      (receiver : Value)
      (args : List Value)
      (line : Line)

/- Work, the machine for it, and how deep calls may nest. -/
structure Moment where
  budget : Nat
  work : Work
  machine : Machine

namespace Moment

/-
  The machine that is left when the work of a moment ends in
  whatever way.
-/
def last (context : Context) (moment : Moment) : Machine :=
  match moment.work with
  | .walk scope task =>
      Machine.after
        (task.run context .plain
          (.within context moment.budget) scope
          moment.machine)
  | .execute scope task =>
      Machine.after
        (task.run context .caching
          (.within context moment.budget) scope
          moment.machine)
  | .call target receiver args line =>
      Machine.after
        (Caller.within context moment.budget target receiver
          args line moment.machine)

/- The machine on which the code of a call begins. -/
def entered
    (context : Context)
    (machine : Machine)
    (scope : ObjectId)
    (params : List Name)
    (receiver : Value)
    (args : List Value)
    (stack : CallStack) :
    Machine :=
  { machine.opened context.this scope params receiver
      args with stack }

/-
  Which moment follows from another: a task leads to a task,
  a dispatch to a call, and a call to the code it runs.
-/
inductive Next (context : Context) :
    Moment → Moment → Prop where
  | walk
      {budget : Nat}
      {scope : ObjectId}
      {machine next : Machine}
      {task later : Task Unit}
      (hLeads :
        Task.Leads context .plain (.within context budget)
          scope machine task next later) :
      Next context
        { budget, work := .walk scope task, machine }
        { budget
          work := .walk scope later
          machine := next }
  | execute
      {budget : Nat}
      {scope : ObjectId}
      {machine next : Machine}
      {task later : Task SiteId}
      (hLeads :
        Task.Leads context .caching (.within context budget)
          scope machine task next later) :
      Next context
        { budget, work := .execute scope task, machine }
        { budget
          work := .execute scope later
          machine := next }
  | walkCall
      {budget : Nat}
      {scope : ObjectId}
      {machine next : Machine}
      {callee : FunctionId}
      {target : Target}
      {receiver : Value}
      {args : List Value}
      {line : Line}
      (hResolve :
        resolve context.interner callee args.length line
          machine = .ok target next) :
      Next context
        { budget
          work := .walk scope
            (.dispatch () callee receiver args line)
          machine }
        { budget
          work := .call target receiver args line
          machine := next }
  | executeCall
      {budget : Nat}
      {scope : ObjectId}
      {machine next : Machine}
      {site : SiteId}
      {callee : FunctionId}
      {target : Target}
      {receiver : Value}
      {args : List Value}
      {line : Line}
      (hResolve :
        resolveCached context.interner site callee
          args.length line machine = .ok target next) :
      Next context
        { budget
          work := .execute scope
            (.dispatch site callee receiver args line)
          machine }
        { budget
          work := .call target receiver args line
          machine := next }
  | enterWalked
      {budget : Nat}
      {machine : Machine}
      {stack : CallStack}
      {name : Name}
      {code : Code Unit}
      {scope : ObjectId}
      {receiver : Value}
      {args : List Value}
      {line : Line}
      (hPush :
        machine.stack.push { callee := name, line } =
          .ok stack) :
      Next context
        { budget := budget + 1
          work := .call { name, action := .walked code scope }
            receiver args line
          machine }
        { budget
          work := .walk ⟨machine.heap.objects.size⟩
            (.block code.body)
          machine := entered context machine scope
            code.params receiver args stack }
  | enterLinked
      {budget : Nat}
      {machine : Machine}
      {stack : CallStack}
      {name : Name}
      {code : Code SiteId}
      {scope : ObjectId}
      {receiver : Value}
      {args : List Value}
      {line : Line}
      (hPush :
        machine.stack.push { callee := name, line } =
          .ok stack) :
      Next context
        { budget := budget + 1
          work := .call { name, action := .linked code scope }
            receiver args line
          machine }
        { budget
          work := .execute ⟨machine.heap.objects.size⟩
            (.block code.body)
          machine := entered context machine scope
            code.params receiver args stack }

/- Moments that follow from another sooner or later. -/
def Reaches (context : Context) : Moment → Moment → Prop :=
  Relation.ReflTransGen (Next context)

end Moment

end Scriptlet
