import Mathlib.Logic.Relation
import Scriptlet.Proofs.Machine.Dispatched

/-
  What running can do to a machine.

  Every change that a running program makes is one of a few
  steps. A machine evolves into another one by a sequence of
  steps, and every computation of the evaluator leaves a
  machine that its first one evolves into.

  Key definitions include:
    * `Machine.Step`
    * `Machine.Evolves`
    * `Machine.after`
    * `answerOf`
    * `Stepwise`

  Key theorems include:
    * `Expr.stepwise_eval`
    * `Caller.stepwise_within`
-/

------------------------------------------------------------
-- Steps
------------------------------------------------------------

namespace Scriptlet

namespace Machine

/-
  One change of a machine. The stack may change in any way
  here; that it is balanced is a matter of whole calls. What
  sites report is noted by dispatches and by nothing else.
-/
inductive Step : Machine → Machine → Prop where
  | define
      (machine : Machine)
      (id : ObjectId)
      (name : Name)
      (value : Value) :
      Step machine
        { machine with
          heap := machine.heap.define id name value }
  | newObject
      (machine : Machine)
      (role : Role)
      (parent : Option ObjectId) :
      Step machine
        { machine with
          heap := (machine.heap.newObject role parent).2 }
  | newFunction
      (machine : Machine)
      (function : Function) :
      Step machine
        { machine with
          heap := (machine.heap.newFunction function).2 }
  | dispatch
      (machine : Machine)
      (id : SiteId)
      (callee : FunctionId)
      (argc : Nat) :
      Step machine
        (machine.dispatched id
          { callee
            verdict := machine.heap.target? callee argc })
  | note
      (machine : Machine)
      (event : Event)
      (hEvent : event.transition? = none) :
      Step machine
        { machine with trace := machine.trace.push event }
  | write
      (machine : Machine)
      (text : String) :
      Step machine
        { machine with
          printer := (machine.printer.write text).1 }
  | restack
      (machine : Machine)
      (stack : CallStack) :
      Step machine { machine with stack }

/- A machine and one that steps lead to. -/
def Evolves : Machine → Machine → Prop :=
  Relation.ReflTransGen Step

namespace Evolves

variable {first second third : Machine}

/- No step at all. -/
theorem refl (machine : Machine) :
    machine.Evolves machine :=
  Relation.ReflTransGen.refl

/- A single step. -/
theorem single
    (hStep : Step first second) :
    first.Evolves second :=
  Relation.ReflTransGen.single hStep

/- Steps after steps. -/
theorem trans
    (hFirst : first.Evolves second)
    (hSecond : second.Evolves third) :
    first.Evolves third :=
  Relation.ReflTransGen.trans hFirst hSecond

/-
  What every step respects, all steps together respect, if
  it is a matter of order.
-/
theorem lift
    (relation : Machine → Machine → Prop)
    (hRefl : ∀ machine, relation machine machine)
    (hTrans : ∀ first second third,
      relation first second → relation second third →
        relation first third)
    (hStep : ∀ before after,
      Step before after → relation before after)
    (hEvolves : first.Evolves second) :
    relation first second := by
  induction hEvolves with
  | refl => exact hRefl first
  | tail _ hLast ih =>
      exact hTrans _ _ _ ih (hStep _ _ hLast)

end Evolves

end Machine

end Scriptlet

------------------------------------------------------------
-- Stepwise Computations
------------------------------------------------------------

namespace Scriptlet

variable {E F A B : Type}

/- The machine that a computation leaves behind. -/
def Machine.after :
    EStateM.Result E Machine A → Machine
  | .ok _ machine => machine
  | .error _ machine => machine

@[simp] theorem Machine.after_ok
    (answer : A)
    (machine : Machine) :
    Machine.after
        (.ok answer machine :
          EStateM.Result E Machine A) =
      machine := by
  rfl

/- What a computation answered. -/
def answerOf :
    EStateM.Result E Machine A → Except E A
  | .ok answer _ => .ok answer
  | .error reason _ => .error reason

/- A computation that changes its machine only by steps. -/
def Stepwise (run : RunM E A) : Prop :=
  ∀ machine : Machine,
    machine.Evolves (Machine.after (run machine))

namespace Stepwise

/- What a stepwise computation leaves has evolved. -/
theorem evolves_of_ok
    {run : RunM E A}
    {answer : A}
    {machine next : Machine}
    (hSteps : Stepwise run)
    (hRun : run machine = .ok answer next) :
    machine.Evolves next := by
  have hEvolves := hSteps machine
  rw [hRun] at hEvolves
  exact hEvolves

/- Answering changes nothing. -/
@[simp] theorem pure (answer : A) :
    Stepwise (pure answer : RunM E A) := by
  intro machine
  exact .refl machine

/- Stopping changes nothing. -/
@[simp] theorem throw (reason : E) :
    Stepwise (throw reason : RunM E A) := by
  intro machine
  exact .refl machine

/- One computation after another. -/
@[simp] theorem bind
    {first : RunM E A}
    {rest : A → RunM E B}
    (hFirst : Stepwise first)
    (hRest : ∀ answer, Stepwise (rest answer)) :
    Stepwise (first >>= rest) := by
  intro machine
  have hEvolves := hFirst machine
  rw [RunM.bind_apply]
  cases hRun : first machine with
  | ok answer next =>
      rw [hRun] at hEvolves
      exact hEvolves.trans (hRest answer next)
  | error reason next =>
      rw [hRun] at hEvolves
      exact hEvolves

/- Changing the answer changes nothing else. -/
@[simp] theorem map
    {run : RunM E A}
    (change : A → B)
    (hRun : Stepwise run) :
    Stepwise (change <$> run) := by
  rw [map_eq_pure_bind]
  exact bind hRun fun _ => pure _

/- Stopping for another reason. -/
@[simp] theorem adaptExcept
    {run : RunM E A}
    (adapt : E → F)
    (hRun : Stepwise run) :
    Stepwise (EStateM.adaptExcept adapt run) := by
  intro machine
  have hEvolves := hRun machine
  rw [RunM.adaptExcept_apply]
  cases hResult : run machine with
  | ok answer next =>
      rw [hResult] at hEvolves
      exact hEvolves
  | error reason next =>
      rw [hResult] at hEvolves
      exact hEvolves

/- Reading changes nothing. -/
@[simp] theorem askHeap (question : Heap → A) :
    Stepwise (Machine.askHeap question : RunM E A) := by
  intro machine
  exact .refl machine

/- Reading the printed form of a value. -/
@[simp] theorem printed
    (interner : Interner)
    (value : Value) :
    Stepwise
      (Machine.printed interner value : RunM E String) :=
  askHeap _

/- Binding a name. -/
@[simp] theorem define
    (id : ObjectId)
    (name : Name)
    (value : Value) :
    Stepwise
      (Machine.define id name value : RunM E Unit) := by
  intro machine
  exact .single (.define machine id name value)

/- Adding an object. -/
@[simp] theorem newObject
    (role : Role)
    (parent : Option ObjectId) :
    Stepwise
      (Machine.onHeap
        (fun heap => heap.newObject role parent) :
        RunM E ObjectId) := by
  intro machine
  exact .single (.newObject machine role parent)

/- Adding a record. -/
@[simp] theorem newRecord :
    Stepwise
      (Machine.onHeap Heap.newRecord :
        RunM E ObjectId) :=
  newObject .record none

/- Adding a function. -/
@[simp] theorem newFunction (function : Function) :
    Stepwise
      (Machine.onHeap
        (fun heap => heap.newFunction function) :
        RunM E FunctionId) := by
  intro machine
  exact .single (.newFunction machine function)

/- Noting an event. -/
@[simp] theorem note
    (event : Event)
    (hEvent : event.transition? = none) :
    Stepwise (Machine.note event : RunM E Unit) := by
  intro machine
  exact .single (.note machine event hEvent)

/- Printing a text. -/
@[simp] theorem print (text : String) :
    Stepwise (Machine.print text : RunM E Unit) := by
  intro machine
  have hWrite := Machine.Step.write machine text
  rw [Machine.print_apply, Machine.after_ok, Machine.wrote]
  cases (machine.printer.write text).2 with
  | none => exact .single hWrite
  | some reason =>
      exact (Machine.Evolves.single hWrite).trans
        (.single (.note _ (.printRefused reason) rfl))

end Stepwise

end Scriptlet

------------------------------------------------------------
-- Resolution
------------------------------------------------------------

namespace Scriptlet

/- Resolving through a site leaves what a dispatch leaves. -/
theorem Machine.after_resolveCached
    (machine : Machine)
    (interner : Interner)
    (id : SiteId)
    (callee : FunctionId)
    (argc : Nat)
    (line : Line) :
    Machine.after
        (resolveCached interner id callee argc line
          machine) =
      machine.dispatched id
        { callee
          verdict := machine.heap.target? callee argc } := by
  rw [resolveCached_dispatched]
  split
  · rfl
  · split <;> rfl

namespace Stepwise

/- Checking a callee changes nothing. -/
@[simp] theorem resolve
    (interner : Interner)
    (callee : FunctionId)
    (argc : Nat)
    (line : Line) :
    Stepwise
      (Scriptlet.resolve interner callee argc line) := by
  intro machine
  rw [resolve_apply]
  split
  · exact .refl machine
  · exact .refl machine

/- Resolving through a site is a dispatch. -/
@[simp] theorem resolveCached
    (interner : Interner)
    (site : SiteId)
    (callee : FunctionId)
    (argc : Nat)
    (line : Line) :
    Stepwise
      (Scriptlet.resolveCached interner site callee argc
        line) := by
  intro machine
  rw [Machine.after_resolveCached]
  exact .single (.dispatch machine site callee argc)

end Stepwise

/- An engine that resolves by steps. -/
def Engine.Stepwise {S : Type} (engine : Engine S) : Prop :=
  ∀ interner site callee argc line,
    Scriptlet.Stepwise
      (engine.resolve interner site callee argc line)

/- Both engines resolve by steps. -/
theorem Engine.stepwise_plain :
    Engine.plain.Stepwise := by
  intro interner _ callee argc line
  exact Stepwise.resolve interner callee argc line

theorem Engine.stepwise_caching :
    Engine.caching.Stepwise := by
  intro interner site callee argc line
  exact Stepwise.resolveCached interner site callee argc
    line

end Scriptlet

------------------------------------------------------------
-- Expressions
------------------------------------------------------------

namespace Scriptlet

namespace Stepwise

/- A call as an expression. -/
@[simp] theorem lift
    {A : Type}
    {call : CallM A}
    (hCall : Stepwise call) :
    Stepwise (Signal.lift call) :=
  adaptExcept Signal.halt hCall

/- Failing changes nothing. -/
@[simp] theorem fail
    {A : Type}
    (cause : Cause)
    (line : Line) :
    Stepwise (EvalM.fail cause line : EvalM A) :=
  throw _

@[simp] theorem expectFunction
    (interner : Interner)
    (value : Value)
    (line : Line) :
    Stepwise
      (EvalM.expectFunction interner value line) := by
  unfold EvalM.expectFunction
  split
  · exact pure _
  · exact bind (printed interner value) fun _ => fail _ line

@[simp] theorem expectObject
    (interner : Interner)
    (value : Value)
    (line : Line) :
    Stepwise (EvalM.expectObject interner value line) := by
  unfold EvalM.expectObject
  split
  · exact pure _
  · exact bind (printed interner value) fun _ => fail _ line

@[simp] theorem bindLocal
    (interner : Interner)
    (scope : ObjectId)
    (declares : Bool)
    (name : Name)
    (value : Value)
    (line : Line) :
    Stepwise
      (EvalM.bindLocal interner scope declares name value
        line) := by
  unfold EvalM.bindLocal
  apply bind (askHeap _)
  intro visible
  split
  · exact fail _ line
  · exact bind (define scope name value) fun _ => pure value

@[simp] theorem makeFunction
    {S : Type}
    (context : Context)
    (engine : Engine S)
    (scope : ObjectId)
    (code : Code S) :
    Stepwise
      (EvalM.makeFunction context engine scope code) := by
  unfold EvalM.makeFunction
  apply bind (newFunction _)
  intro id
  split
  · apply bind (define scope _ (.function id))
    intro _
    exact pure _
  · exact pure _

end Stepwise

/- A caller that runs calls by steps. -/
def Caller.Stepwise (call : Caller) : Prop :=
  ∀ target receiver args line,
    Scriptlet.Stepwise (call target receiver args line)

namespace Expr

variable {S : Type}
variable {context : Context}
variable {engine : Engine S}
variable {call : Caller}

mutual

/- Evaluating an expression goes by steps. -/
theorem stepwise_eval
    (hEngine : engine.Stepwise)
    (hCall : call.Stepwise)
    (scope : ObjectId)
    (expr : Expr S) :
    Stepwise (expr.eval context engine call scope) := by
  cases expr with
  | block line body =>
      rw [eval]
      exact stepwise_evalBlock hEngine hCall scope body
  | literal line value =>
      rw [eval]
      exact .pure _
  | var line name =>
      rw [eval]
      exact .askHeap _
  | assign line declares name value =>
      rw [eval]
      apply Stepwise.bind
        (stepwise_eval hEngine hCall scope value)
      intro value
      exact .bindLocal _ scope declares name value line
  | function line name params body writtenAt =>
      rw [eval]
      exact .makeFunction context engine scope _
  | call line site callee args =>
      rw [eval]
      apply Stepwise.bind
        (stepwise_eval hEngine hCall scope callee)
      intro callee
      apply Stepwise.bind (.expectFunction _ callee line)
      intro callee
      apply Stepwise.bind
        (stepwise_evalArgs hEngine hCall scope args)
      intro args
      apply Stepwise.lift
      apply Stepwise.bind
        (hEngine _ site callee args.length line)
      intro target
      exact hCall target .undefined args line
  | ret line value =>
      rw [eval]
      apply Stepwise.bind
        (stepwise_eval hEngine hCall scope value)
      intro value
      exact .throw _
  | branch line test thenBody elseBody =>
      rw [eval]
      apply Stepwise.bind
        (stepwise_eval hEngine hCall scope test)
      intro test
      split
      · exact stepwise_evalBlock hEngine hCall scope
          thenBody
      · exact stepwise_evalBlock hEngine hCall scope
          elseBody
  | record line fields =>
      rw [eval]
      apply Stepwise.bind .newRecord
      intro record
      apply Stepwise.bind
        (stepwise_evalFields hEngine hCall scope record
          fields)
      intro _
      exact .pure _
  | getField line receiver name =>
      rw [eval]
      apply Stepwise.bind
        (stepwise_eval hEngine hCall scope receiver)
      intro receiver
      apply Stepwise.bind (.expectObject _ receiver line)
      intro object
      apply Stepwise.bind (.askHeap _)
      intro field
      exact .pure _
  | setField line receiver name value =>
      rw [eval]
      apply Stepwise.bind
        (stepwise_eval hEngine hCall scope receiver)
      intro receiver
      apply Stepwise.bind (.expectObject _ receiver line)
      intro object
      apply Stepwise.bind
        (stepwise_eval hEngine hCall scope value)
      intro value
      apply Stepwise.bind (.define object name value)
      intro _
      exact .pure value
  | method line site receiver name args =>
      rw [eval]
      apply Stepwise.bind
        (stepwise_eval hEngine hCall scope receiver)
      intro receiver
      apply Stepwise.bind (.expectObject _ receiver line)
      intro object
      apply Stepwise.bind (.askHeap _)
      intro field
      apply Stepwise.bind (.expectFunction _ _ line)
      intro callee
      apply Stepwise.bind
        (stepwise_evalArgs hEngine hCall scope args)
      intro args
      apply Stepwise.lift
      apply Stepwise.bind
        (hEngine _ site callee args.length line)
      intro target
      exact hCall target (.object object) args line

theorem stepwise_evalBlock
    (hEngine : engine.Stepwise)
    (hCall : call.Stepwise)
    (scope : ObjectId)
    (exprs : List (Expr S)) :
    Stepwise
      (evalBlock context engine call scope exprs) := by
  cases exprs with
  | nil =>
      rw [evalBlock]
      exact .pure _
  | cons expr exprs =>
      rw [evalBlock]
      apply Stepwise.bind
        (stepwise_eval hEngine hCall scope expr)
      intro _
      exact stepwise_evalBlock hEngine hCall scope exprs

theorem stepwise_evalArgs
    (hEngine : engine.Stepwise)
    (hCall : call.Stepwise)
    (scope : ObjectId)
    (exprs : List (Expr S)) :
    Stepwise
      (evalArgs context engine call scope exprs) := by
  cases exprs with
  | nil =>
      rw [evalArgs]
      exact .pure _
  | cons expr exprs =>
      rw [evalArgs]
      apply Stepwise.bind
        (stepwise_eval hEngine hCall scope expr)
      intro value
      apply Stepwise.bind
        (stepwise_evalArgs hEngine hCall scope exprs)
      intro values
      exact .pure _

theorem stepwise_evalFields
    (hEngine : engine.Stepwise)
    (hCall : call.Stepwise)
    (scope record : ObjectId)
    (fields : List (Name × Expr S)) :
    Stepwise
      (evalFields context engine call scope record
        fields) := by
  cases fields with
  | nil =>
      rw [evalFields]
      exact .pure _
  | cons field fields =>
      rcases field with ⟨name, expr⟩
      rw [evalFields]
      apply Stepwise.bind
        (stepwise_eval hEngine hCall scope expr)
      intro value
      apply Stepwise.bind (.define record name value)
      intro _
      exact stepwise_evalFields hEngine hCall scope record
        fields

end

end Expr

end Scriptlet

------------------------------------------------------------
-- Calls
------------------------------------------------------------

namespace Scriptlet

namespace Stepwise

/- Doing what a host function asks for. -/
theorem hostCode
    (interner : Interner)
    (code : HostCode) :
    Stepwise (code.run interner) := by
  induction code with
  | answer value => exact pure value
  | fail failure => exact throw failure
  | print text next ih =>
      exact bind (print text) fun _ => ih
  | printed value next ih =>
      exact bind (printed interner value) ih
  | look next ih => exact bind (askHeap _) ih
  | define id name value next ih =>
      exact bind (define id name value) fun _ => ih
  | newObject role parent next ih =>
      exact bind (newObject role parent) ih
  | newFunction name arity body next _ ih =>
      exact bind (newFunction _) ih

/- Calling a primitive. -/
theorem primitive
    (interner : Interner)
    (primitive : Primitive)
    (receiver : Value)
    (args : List Value) :
    Stepwise
      (primitive.call interner receiver args) := by
  cases primitive with
  | print =>
      unfold Primitive.call Primitive.printLine
      apply bind (askHeap _)
      intro texts
      apply bind (note _ rfl)
      intro _
      apply bind (print _)
      intro _
      exact pure _
  | operator op =>
      unfold Primitive.call
      simp only
      split
      · exact pure _
      · exact throw _
  | host function =>
      exact hostCode interner
        (function.body interner receiver args)

/- Binding names one after another. -/
theorem evolves_defineAll
    (id : ObjectId)
    (bindings : List (Name × Value))
    (machine : Machine) :
    machine.Evolves
      { machine with
        heap := machine.heap.defineAll id bindings } := by
  induction bindings generalizing machine with
  | nil => exact .refl machine
  | cons binding bindings ih =>
      rcases binding with ⟨name, value⟩
      exact (Machine.Evolves.single
        (.define machine id name value)).trans (ih _)

theorem openFrame
    (this : Name)
    (scope : ObjectId)
    (params : List Name)
    (receiver : Value)
    (args : List Value) :
    Stepwise
      (Scriptlet.openFrame this scope params receiver
        args) := by
  intro machine
  have hScope := Machine.Evolves.single
    (.newObject machine .scope (some scope))
  exact hScope.trans (evolves_defineAll _ _ _)

theorem activate
    (interner : Interner)
    (callee : Name)
    (line : Line)
    {body : EvalM Value}
    (hBody : Stepwise body) :
    Stepwise
      (Scriptlet.activate interner callee line body) := by
  intro machine
  unfold Scriptlet.activate
  cases machine.stack.push { callee, line } with
  | error cause => exact .refl machine
  | ok stack =>
      have hInside :=
        (Machine.Evolves.single
          (.restack machine stack)).trans
          (hBody { machine with stack })
      simp only
      cases hRun : body { machine with stack } with
      | ok value next =>
          rw [hRun] at hInside
          exact hInside.trans (.single (.restack _ _))
      | error signal next =>
          rw [hRun] at hInside
          have hPop := hInside.trans
            (.single (.restack _ next.stack.pop))
          cases signal with
          | ret value line => exact hPop
          | halt reason =>
              cases reason with
              | failed failure => exact hPop
              | exhausted => exact hPop

end Stepwise

namespace Caller

variable {context : Context}

/- Running code, if calls may nest any deeper. -/
theorem stepwise_runCode
    {S : Type}
    {engine : Engine S}
    {inner : Option Caller}
    (hEngine : engine.Stepwise)
    (hInner : ∀ call ∈ inner, Stepwise call)
    (body : List (Expr S))
    (frame : ObjectId) :
    Scriptlet.Stepwise
      (runCode context engine inner body frame) := by
  cases inner with
  | none => exact .throw _
  | some call =>
      exact Expr.stepwise_evalBlock hEngine
        (hInner call rfl) frame body

/- One level of calls. -/
theorem stepwise_around
    {inner : Option Caller}
    (hInner : ∀ call ∈ inner, Stepwise call) :
    Stepwise (around context inner) := by
  intro target receiver args line
  unfold around
  cases target.action with
  | primitive primitive =>
      exact .adaptExcept _ (.primitive _ _ _ _)
  | walked code scope =>
      apply Stepwise.bind (.openFrame _ scope _ _ _)
      intro frame
      apply Stepwise.activate
      exact stepwise_runCode Engine.stepwise_plain hInner
        code.body frame
  | linked code scope =>
      apply Stepwise.bind (.openFrame _ scope _ _ _)
      intro frame
      apply Stepwise.activate
      exact stepwise_runCode Engine.stepwise_caching hInner
        code.body frame

/- Calls go by steps, however deep they nest. -/
theorem stepwise_within
    (context : Context)
    (budget : Nat) :
    Stepwise (within context budget) := by
  induction budget with
  | zero => exact stepwise_around (by simp)
  | succ budget ih => exact stepwise_around (by simpa)

end Caller

end Scriptlet
