import Scriptlet.Proofs.Run.Moment

/-
  What holds at every moment of a run.

  A moment is sound if its machine is and if its work may be
  done on it: the frame is there, the sites of linked code
  serve its calls, and a resolved call is ready for its
  arguments. A sound moment leads to sound moments only, and
  leaves a sound machine when its work ends. The stack is in
  balance all the time: what a call may still nest and what
  is active already add up to the same.

  Key definitions include:
    * `Machine.Follows`
    * `Moment.Sound`
    * `Moment.Succeeds`
    * `Program.first`

  Key theorems include:
    * `Moment.Sound.next`
    * `Moment.Sound.reaches`
    * `Moment.Sound.last`
    * `Program.last_first`
-/

------------------------------------------------------------
-- A Machine Beside Itself
------------------------------------------------------------

namespace Scriptlet

namespace Pairing

/- A machine beside itself, with the same stack. -/
def alone
    (argcs : Array Nat)
    (limit : Option Nat) :
    Simulation :=
  (shared argcs).under (.equal limit)

theorem lawful_alone
    (argcs : Array Nat)
    (limit : Option Nat) :
    (alone argcs limit).Lawful :=
  lawful_under (lawful_shared argcs)
    (Regime.lawful_equal limit)

theorem callsMatch_alone
    (argcs : Array Nat)
    (limit : Option Nat)
    (context : Context)
    (budget : Nat)
    (calls : List Activation) :
    (alone argcs limit).CallsMatch calls
      (.within context budget) (.within context budget) :=
  Simulation.callsMatch_within (lawful_alone argcs limit)
    budget budget calls rfl

end Pairing

namespace Machine

/-
  A machine that work has led to: it is sound, no object is
  gone, and the stack is as it was.
-/
structure Follows
    (argcs : Array Nat)
    (before after : Machine) : Prop where
  sound : after.Sound argcs
  size :
    before.heap.objects.size ≤ after.heap.objects.size
  stack : after.stack = before.stack

variable {argcs : Array Nat}
variable {machine : Machine}

theorem Follows.refl
    (hSound : machine.Sound argcs) :
    Follows argcs machine machine :=
  ⟨hSound, Nat.le_refl _, rfl⟩

theorem Follows.trans
    {first second third : Machine}
    (hFirst : Follows argcs first second)
    (hSecond : Follows argcs second third) :
    Follows argcs first third :=
  ⟨hSecond.sound, Nat.le_trans hFirst.size hSecond.size,
    hSecond.stack.trans hFirst.stack⟩

/- A sound machine agrees with itself. -/
theorem Sound.agree
    (hSound : machine.Sound argcs) :
    (Pairing.alone argcs machine.stack.limit).Agree
      machine.stack.calls machine machine where
  similar :=
    { leftSound := hSound
      rightSound := hSound
      heap := (Pairing.imageHeap_shared argcs _).symm
      printer := rfl }
  leftStack := rfl
  rightStack := rfl

/- Work that matches itself leads to a machine. -/
theorem Follows.of_matched
    {A B : Type}
    {related : Machine → A → B → Prop}
    {work : EvalM A}
    (hWork : Stepwise work)
    {result : EStateM.Result Signal Machine B}
    (hMatched :
      (Pairing.alone argcs machine.stack.limit).Matched
        machine.stack.calls related (work machine)
        result) :
    Follows argcs machine
      (Machine.after (work machine)) := by
  have hSize := (hWork machine).objects_le
  generalize work machine = workResult at *
  cases hMatched with
  | ok hAgree _ =>
      exact ⟨hAgree.similar.leftSound, hSize,
        hAgree.leftStack⟩
  | error hAgree _ =>
      exact ⟨hAgree.similar.leftSound, hSize,
        hAgree.leftStack⟩
  | lost hLost => exact hLost.1.elim

end Machine

end Scriptlet

------------------------------------------------------------
-- Evaluation
------------------------------------------------------------

namespace Scriptlet

/- Engines that run sound machines alike at any limit. -/
def EnginePair.Fit
    {S T : Type}
    (argcs : Array Nat)
    (pair : EnginePair S T) : Prop :=
  ∀ limit, pair.Lawful (Pairing.alone argcs limit)

theorem EnginePair.fit_walking (argcs : Array Nat) :
    EnginePair.walking.Fit argcs :=
  fun limit => (Pairing.lawful_alone argcs limit).walking

theorem EnginePair.fit_executing (argcs : Array Nat) :
    (Pairing.alone argcs none).executing.Fit argcs :=
  fun limit => (Pairing.lawful_alone argcs limit).executing

namespace Expr

variable {S T : Type}
variable {argcs : Array Nat}
variable {pair : EnginePair S T}
variable {machine : Machine}
variable {scope : ObjectId}

/- Where an expression leads to. -/
theorem follows_eval
    (hPair : pair.Fit argcs)
    (hSound : machine.Sound argcs)
    (hScope : scope.index < machine.heap.objects.size)
    (expr : Expr S)
    (hServed : expr.EveryCall pair.serves)
    (context : Context)
    (budget : Nat) :
    machine.Follows argcs
      (Machine.after
        (expr.eval context pair.left
          (.within context budget) scope machine)) := by
  have hCall := Caller.stepwise_within context budget
  apply Machine.Follows.of_matched
    (stepwise_eval (hPair none).leftStepwise hCall scope
      expr)
  exact matched_eval (Pairing.lawful_alone argcs _)
    (hPair _)
    (Pairing.callsMatch_alone argcs _ context budget _)
    hCall hCall hSound.agree hScope expr hServed

/- Where a block leads to. -/
theorem follows_evalBlock
    (hPair : pair.Fit argcs)
    (hSound : machine.Sound argcs)
    (hScope : scope.index < machine.heap.objects.size)
    (exprs : List (Expr S))
    (hServed : EveryCallAll pair.serves exprs)
    (context : Context)
    (budget : Nat) :
    machine.Follows argcs
      (Machine.after
        (evalBlock context pair.left
          (.within context budget) scope exprs
          machine)) := by
  have hCall := Caller.stepwise_within context budget
  apply Machine.Follows.of_matched
    (stepwise_evalBlock (hPair none).leftStepwise hCall
      scope exprs)
  exact matched_evalBlock (Pairing.lawful_alone argcs _)
    (hPair _)
    (Pairing.callsMatch_alone argcs _ context budget _)
    hCall hCall hSound.agree hScope exprs hServed

/- Where record fields lead to. -/
theorem follows_evalFields
    (hPair : pair.Fit argcs)
    (hSound : machine.Sound argcs)
    (hScope : scope.index < machine.heap.objects.size)
    (record : ObjectId)
    (fields : List (Name × Expr S))
    (hServed : EveryCallFields pair.serves fields)
    (context : Context)
    (budget : Nat) :
    machine.Follows argcs
      (Machine.after
        (evalFields context pair.left
          (.within context budget) scope record fields
          machine)) := by
  have hCall := Caller.stepwise_within context budget
  apply Machine.Follows.of_matched
    (stepwise_evalFields (hPair none).leftStepwise hCall
      scope record fields)
  exact matched_evalFields (Pairing.lawful_alone argcs _)
    (hPair _)
    (Pairing.callsMatch_alone argcs _ context budget _)
    hCall hCall hSound.agree hScope trivial fields hServed

/- Where arguments lead to, with a value for each. -/
theorem follows_evalArgs
    (hPair : pair.Fit argcs)
    (hSound : machine.Sound argcs)
    (hScope : scope.index < machine.heap.objects.size)
    (exprs : List (Expr S))
    (hServed : EveryCallAll pair.serves exprs)
    (context : Context)
    (budget : Nat) :
    machine.Follows argcs
        (Machine.after
          (evalArgs context pair.left
            (.within context budget) scope exprs
            machine)) ∧
      ∀ values next,
        evalArgs context pair.left (.within context budget)
            scope exprs machine = .ok values next →
          values.length = exprs.length := by
  have hCall := Caller.stepwise_within context budget
  have hMatched :=
    @matched_evalArgs _ _ _ _ _ context _ _
      (Pairing.lawful_alone argcs machine.stack.limit)
      (hPair _)
      (Pairing.callsMatch_alone argcs _ context budget _)
      hCall hCall scope _ _ hSound.agree hScope exprs
      hServed
  refine ⟨.of_matched
    (stepwise_evalArgs (hPair none).leftStepwise hCall scope
      exprs) hMatched, ?_⟩
  intro values next hValues
  rw [hValues] at hMatched
  generalize
    evalArgs context pair.right (.within context budget)
      scope (mapSitesAll pair.mark exprs) machine =
        rightResult at hMatched
  cases hMatched with
  | ok _ hRelated => exact hRelated.2.1

end Expr

end Scriptlet

------------------------------------------------------------
-- Tasks
------------------------------------------------------------

namespace Scriptlet

namespace Task

variable {S T : Type}
variable {argcs : Array Nat}
variable {pair : EnginePair S T}
variable {machine next : Machine}
variable {scope : ObjectId}
variable {context : Context}
variable {budget : Nat}

/- A part that gave a value led to a machine. -/
theorem follows_of_eval
    (hPair : pair.Fit argcs)
    (hSound : machine.Sound argcs)
    (hScope : scope.index < machine.heap.objects.size)
    {expr : Expr S}
    (hServed : expr.EveryCall pair.serves)
    {value : Value}
    (hEval :
      expr.eval context pair.left (.within context budget)
        scope machine = .ok value next) :
    machine.Follows argcs next := by
  have hNext := Expr.follows_eval hPair hSound hScope expr
    hServed context budget
  rw [hEval] at hNext
  exact hNext

/- So did arguments that gave values. -/
theorem follows_of_evalArgs
    (hPair : pair.Fit argcs)
    (hSound : machine.Sound argcs)
    (hScope : scope.index < machine.heap.objects.size)
    {exprs : List (Expr S)}
    (hServed : Expr.EveryCallAll pair.serves exprs)
    {values : List Value}
    (hArgs :
      Expr.evalArgs context pair.left
        (.within context budget) scope exprs machine =
          .ok values next) :
    machine.Follows argcs next ∧
      values.length = exprs.length := by
  rcases Expr.follows_evalArgs hPair hSound hScope exprs
      hServed context budget with
    ⟨hNext, hLength⟩
  rw [hArgs] at hNext
  exact ⟨hNext, hLength values next hArgs⟩

/- So did both before a call, and the site serves it. -/
theorem follows_of_operands
    (hPair : pair.Fit argcs)
    (hSound : machine.Sound argcs)
    (hScope : scope.index < machine.heap.objects.size)
    {expr : Expr S}
    {exprs : List (Expr S)}
    {site : S}
    (hServed :
      pair.serves site exprs.length ∧
        expr.EveryCall pair.serves ∧
          Expr.EveryCallAll pair.serves exprs)
    {value : Value}
    {values : List Value}
    {last : Machine}
    (hEval :
      expr.eval context pair.left (.within context budget)
        scope machine = .ok value next)
    (hArgs :
      Expr.evalArgs context pair.left
        (.within context budget) scope exprs next =
          .ok values last) :
    machine.Follows argcs last ∧
      pair.serves site values.length := by
  have hFirst := follows_of_eval hPair hSound hScope
    hServed.2.1 hEval
  rcases follows_of_evalArgs hPair hFirst.sound
      (Nat.lt_of_lt_of_le hScope hFirst.size) hServed.2.2
      hArgs with
    ⟨hSecond, hLength⟩
  refine ⟨hFirst.trans hSecond, ?_⟩
  rw [hLength]
  exact hServed.1

/- A task leads to tasks on machines that follow. -/
theorem Leads.follows
    (hPair : pair.Fit argcs)
    {task later : Task S}
    (hLeads :
      Leads context pair.left (.within context budget) scope
        machine task next later)
    (hSound : machine.Sound argcs)
    (hScope : scope.index < machine.heap.objects.size)
    (hMeets : task.Meets pair.serves) :
    machine.Follows argcs next ∧
      later.Meets pair.serves := by
  cases hLeads with
  | block line body => exact ⟨.refl hSound, hMeets⟩
  | assignValue line declares name value =>
      exact ⟨.refl hSound, hMeets⟩
  | callCallee line site callee args =>
      exact ⟨.refl hSound, hMeets.2.1⟩
  | callArgs line site args hCallee =>
      exact ⟨follows_of_eval hPair hSound hScope hMeets.2.1
        hCallee, hMeets.2.2⟩
  | callDispatch line site hCallee hArgs =>
      exact follows_of_operands hPair hSound hScope hMeets
        hCallee hArgs
  | retValue line value => exact ⟨.refl hSound, hMeets⟩
  | branchTest line test thenBody elseBody =>
      exact ⟨.refl hSound, hMeets.1⟩
  | branchThen line thenBody elseBody hTest hTruthy =>
      exact ⟨follows_of_eval hPair hSound hScope hMeets.1
        hTest, hMeets.2.1⟩
  | branchElse line thenBody elseBody hTest hFalsy =>
      exact ⟨follows_of_eval hPair hSound hScope hMeets.1
        hTest, hMeets.2.2⟩
  | recordFields line fields =>
      have hNew := Machine.Evolves.single
        (.newObject machine .record none)
      exact ⟨⟨hSound.newObject .record (by simp),
        hNew.objects_le, rfl⟩, hMeets⟩
  | getReceiver line receiver name =>
      exact ⟨.refl hSound, hMeets⟩
  | setReceiver line receiver name value =>
      exact ⟨.refl hSound, hMeets.1⟩
  | setValue line name value hReceiver =>
      exact ⟨follows_of_eval hPair hSound hScope hMeets.1
        hReceiver, hMeets.2⟩
  | methodReceiver line site receiver name args =>
      exact ⟨.refl hSound, hMeets.2.1⟩
  | methodArgs line site args hReceiver hField =>
      exact ⟨follows_of_eval hPair hSound hScope hMeets.2.1
        hReceiver, hMeets.2.2⟩
  | methodDispatch line site hReceiver hField hArgs =>
      exact follows_of_operands hPair hSound hScope hMeets
        hReceiver hArgs
  | blockHead expr exprs =>
      exact ⟨.refl hSound, hMeets.1⟩
  | blockTail exprs hHead =>
      exact ⟨follows_of_eval hPair hSound hScope hMeets.1
        hHead, hMeets.2⟩
  | argsHead expr exprs =>
      exact ⟨.refl hSound, hMeets.1⟩
  | argsTail exprs hHead =>
      exact ⟨follows_of_eval hPair hSound hScope hMeets.1
        hHead, hMeets.2⟩
  | fieldsHead record name expr fields =>
      exact ⟨.refl hSound, hMeets.1⟩
  | @fieldsTail between _ value record name fields hHead =>
      have hFirst := follows_of_eval hPair hSound hScope
        hMeets.1 hHead
      have hBind := Machine.Evolves.single
        (.define between record name value)
      exact ⟨hFirst.trans
        ⟨hFirst.sound.define record name value,
          hBind.objects_le, rfl⟩, hMeets.2⟩

/- Forgetting an answer leaves the same machine. -/
theorem after_discard
    {A : Type}
    (work : EvalM A)
    (machine : Machine) :
    Machine.after
        ((do
          let _ ← work
          return () : EvalM Unit) machine) =
      Machine.after (work machine) := by
  rw [RunM.bind_apply]
  cases work machine <;> rfl

/- Where a whole task leads to. -/
theorem follows_run
    (hPair : pair.Fit argcs)
    (task : Task S)
    (hSound : machine.Sound argcs)
    (hScope : scope.index < machine.heap.objects.size)
    (hMeets : task.Meets pair.serves) :
    machine.Follows argcs
      (Machine.after
        (task.run context pair.left (.within context budget)
          scope machine)) := by
  have hCall := Caller.stepwise_within context budget
  cases task with
  | eval expr =>
      rw [run, after_discard]
      exact Expr.follows_eval hPair hSound hScope expr hMeets
        context budget
  | block exprs =>
      rw [run, after_discard]
      exact Expr.follows_evalBlock hPair hSound hScope exprs
        hMeets context budget
  | args exprs =>
      rw [run, after_discard]
      exact (Expr.follows_evalArgs hPair hSound hScope exprs
        hMeets context budget).1
  | fields record fields =>
      rw [run]
      exact Expr.follows_evalFields hPair hSound hScope
        record fields hMeets context budget
  | dispatch site callee receiver args line =>
      rw [run, after_discard]
      apply Machine.Follows.of_matched
        (.lift (.bind ((hPair none).leftStepwise _ _ _ _ _)
          fun target => hCall target _ _ _))
      exact Simulation.matched_dispatch
        (Pairing.lawful_alone argcs _) (hPair _)
        (Pairing.callsMatch_alone argcs _ context budget _)
        hCall hSound.agree context.interner hMeets trivial
        trivial (fun _ _ => trivial) line

end Task

end Scriptlet

------------------------------------------------------------
-- Moments
------------------------------------------------------------

namespace Scriptlet

namespace Moment

/- A sound machine, and work that may be done on it. -/
structure Sound
    (argcs : Array Nat)
    (moment : Moment) : Prop where
  machine : moment.machine.Sound argcs
  work :
    match moment.work with
    | .walk scope _ =>
        scope.index < moment.machine.heap.objects.size
    | .execute scope task =>
        scope.index < moment.machine.heap.objects.size ∧
          task.Meets (Serves argcs)
    | .call target _ args _ =>
        target.Ready argcs moment.machine.heap.objects.size
          args.length

variable {argcs : Array Nat}
variable {context : Context}

/- Walking asks nothing of the calls in a task. -/
theorem meets_walking (task : Task Unit) :
    task.Meets EnginePair.walking.serves := by
  have hMeets site argc :
      EnginePair.walking.serves site argc := trivial
  cases task with
  | eval expr => exact Expr.everyCall_of_forall hMeets expr
  | block exprs =>
      exact Expr.everyCallAll_of_forall hMeets exprs
  | args exprs =>
      exact Expr.everyCallAll_of_forall hMeets exprs
  | fields record fields =>
      exact Expr.everyCallFields_of_forall hMeets fields
  | dispatch site callee receiver args line =>
      exact hMeets site args.length

/- Where deciding on a target leads to. -/
theorem follows_of_decides
    {machine next : Machine}
    {interner : Interner}
    {callee : FunctionId}
    {target : Target}
    {argc : Nat}
    {line : Line}
    (hSound : machine.Sound argcs)
    (hDecides :
      machine.Decides argcs
        (machine.heap.check interner callee argc line)
        (.ok target next)) :
    machine.Follows argcs next ∧
      target.Ready argcs next.heap.objects.size argc := by
  rcases hDecides with
    ⟨last, hLast, hHeap, hStack, _, hResult⟩
  cases hCheck :
      machine.heap.check interner callee argc line with
  | error reason =>
      rw [hCheck] at hResult
      cases hResult
  | ok other =>
      rw [hCheck] at hResult
      cases hResult
      rw [hHeap]
      exact ⟨⟨hLast, Nat.le_of_eq (by rw [hHeap]), hStack⟩,
        hSound.ready_of_check hCheck⟩

/- The machine on which the code of a ready call begins. -/
theorem sound_entered
    {machine : Machine}
    {argc : Nat}
    {target : Target}
    {scope : ObjectId}
    (hSound : machine.Sound argcs)
    (hReady :
      target.Ready argcs machine.heap.objects.size argc)
    (hScope : target.action.scope? = some scope)
    (params : List Name)
    (receiver : Value)
    (args : List Value)
    (stack : CallStack) :
    (entered context machine scope params receiver args
        stack).Sound argcs ∧
      machine.heap.objects.size <
        (entered context machine scope params receiver args
          stack).heap.objects.size := by
  rcases (Pairing.lawful_alone argcs none).opened
      context.this params hSound.agree.similar hReady hScope
      trivial (fun _ _ => trivial) with
    ⟨hTwins, hFrame⟩
  exact ⟨hTwins.leftSound.congr rfl rfl, hFrame⟩

/- How deep calls may nest, active ones included. -/
def reach (moment : Moment) : Nat :=
  moment.machine.stack.depth + moment.budget

/- A sound moment that has the stack it ought to have. -/
structure Succeeds
    (argcs : Array Nat)
    (moment later : Moment) : Prop where
  sound : later.Sound argcs
  limit :
    later.machine.stack.limit = moment.machine.stack.limit
  reach : later.reach = moment.reach

/- Work of the same level, on a machine that follows. -/
theorem Succeeds.of_follows
    {budget : Nat}
    {work later : Work}
    {machine next : Machine}
    (hFollows : machine.Follows argcs next)
    (hSound :
      Sound argcs { budget, work := later, machine := next }) :
    Succeeds argcs { budget, work, machine }
      { budget, work := later, machine := next } where
  sound := hSound
  limit := congrArg CallStack.limit hFollows.stack
  reach :=
    congrArg (fun stack => stack.depth + budget)
      hFollows.stack

/- Code of a call, one level deeper. -/
theorem Succeeds.of_push
    {budget : Nat}
    {work later : Work}
    {machine next : Machine}
    {call : Activation}
    (hPush : machine.stack.push call = .ok next.stack)
    (hSound :
      Sound argcs { budget, work := later, machine := next }) :
    Succeeds argcs { budget := budget + 1, work, machine }
      { budget, work := later, machine := next } := by
  have hStack := CallStack.eq_of_push hPush
  refine ⟨hSound, ?_, ?_⟩
  · simp [hStack]
  · simp only [Moment.reach, CallStack.depth, hStack,
      List.length_cons]
    omega

/- Sound moments lead to sound moments. -/
theorem Sound.next
    {moment later : Moment}
    (hSound : moment.Sound argcs)
    (hNext : Next context moment later) :
    Succeeds argcs moment later := by
  rcases hSound with ⟨hMachine, hWork⟩
  cases hNext with
  | walk hLeads =>
      rcases hLeads.follows (EnginePair.fit_walking argcs)
          hMachine hWork (meets_walking _) with
        ⟨hFollows, _⟩
      exact .of_follows hFollows ⟨hFollows.sound,
        Nat.lt_of_lt_of_le hWork hFollows.size⟩
  | execute hLeads =>
      rcases hLeads.follows (EnginePair.fit_executing argcs)
          hMachine hWork.1 hWork.2 with
        ⟨hFollows, hMeets⟩
      exact .of_follows hFollows ⟨hFollows.sound,
        Nat.lt_of_lt_of_le hWork.1 hFollows.size, hMeets⟩
  | @walkCall _ _ _ _ callee _ _ args line hResolve =>
      have hDecides := hMachine.resolve context.interner
        callee args.length line
      rw [hResolve] at hDecides
      rcases follows_of_decides hMachine hDecides with
        ⟨hFollows, hReady⟩
      exact .of_follows hFollows ⟨hFollows.sound, hReady⟩
  | @executeCall _ _ _ _ _ callee _ _ args line hResolve =>
      have hDecides := hMachine.resolveCached hWork.2
        context.interner callee line
      rw [hResolve] at hDecides
      rcases follows_of_decides hMachine hDecides with
        ⟨hFollows, hReady⟩
      exact .of_follows hFollows ⟨hFollows.sound, hReady⟩
  | enterWalked hPush =>
      rcases sound_entered hMachine hWork rfl _ _ _ _ with
        ⟨hLater, hFrame⟩
      exact .of_push hPush ⟨hLater, hFrame⟩
  | enterLinked hPush =>
      rcases sound_entered hMachine hWork rfl _ _ _ _ with
        ⟨hLater, hFrame⟩
      exact .of_push hPush ⟨hLater, hFrame, hWork.2.2⟩

/- What a sound moment leads to, sooner or later. -/
theorem Sound.reaches
    {moment later : Moment}
    (hSound : moment.Sound argcs)
    (hReaches : Reaches context moment later) :
    Succeeds argcs moment later := by
  induction hReaches with
  | refl => exact ⟨hSound, rfl, rfl⟩
  | tail _ hNext ih =>
      have hLast := ih.sound.next hNext
      exact ⟨hLast.sound, hLast.limit.trans ih.limit,
        hLast.reach.trans ih.reach⟩

/- Where a ready call leads to. -/
theorem follows_call
    {machine : Machine}
    {target : Target}
    {args : List Value}
    (hSound : machine.Sound argcs)
    (hReady :
      target.Ready argcs machine.heap.objects.size
        args.length)
    (budget : Nat)
    (receiver : Value)
    (line : Line) :
    machine.Follows argcs
      (Machine.after
        (Caller.within context budget target receiver args
          line machine)) := by
  have hFollows :=
    Machine.Follows.of_matched
      (.lift (Caller.stepwise_within context budget target
        receiver args line))
      (Pairing.callsMatch_alone argcs machine.stack.limit
        context budget machine.stack.calls target receiver
        args line machine machine hSound.agree hReady trivial
        (fun _ _ => trivial))
  rw [Signal.lift_apply, after_liftResult] at hFollows
  exact hFollows

/- Sound moments end on sound machines. -/
theorem Sound.last
    {moment : Moment}
    (hSound : moment.Sound argcs)
    (context : Context) :
    moment.machine.Follows argcs (moment.last context) := by
  rcases moment with ⟨budget, work, machine⟩
  rcases hSound with ⟨hMachine, hWork⟩
  cases work with
  | walk scope task =>
      exact task.follows_run (EnginePair.fit_walking argcs)
        hMachine hWork (meets_walking task)
  | execute scope task =>
      exact task.follows_run
        (EnginePair.fit_executing argcs) hMachine hWork.1
        hWork.2
  | call target receiver args line =>
      exact follows_call hMachine hWork budget receiver line

end Moment

end Scriptlet

------------------------------------------------------------
-- Programs
------------------------------------------------------------

namespace Scriptlet

namespace Program

/- The moment that the run of a program begins with. -/
def first
    (program : Program)
    (budget : Nat)
    (global : ObjectId)
    (machine : Machine) :
    Moment :=
  match program with
  | .plain script =>
      { budget
        work := .walk global (.block script.body)
        machine }
  | .linked script =>
      { budget
        work := .execute global (.block script.body)
        machine }

@[simp] theorem budget_first
    (program : Program)
    (budget : Nat)
    (global : ObjectId)
    (machine : Machine) :
    (program.first budget global machine).budget =
      budget := by
  cases program <;> rfl

@[simp] theorem machine_first
    (program : Program)
    (budget : Nat)
    (global : ObjectId)
    (machine : Machine) :
    (program.first budget global machine).machine =
      machine := by
  cases program <;> rfl

/- The first moment ends when the program does. -/
theorem last_first
    (program : Program)
    (context : Context)
    (budget : Nat)
    (global : ObjectId)
    (machine : Machine) :
    (program.first budget global machine).last context =
      Machine.after
        (program.run context budget global machine) := by
  cases program with
  | plain script =>
      change _ = Machine.after (runBody _ _ _ _ _ machine)
      rw [runBody_apply, after_endOf]
      exact Task.after_discard _ machine
  | linked script =>
      change _ = Machine.after (runBody _ _ _ _ _ machine)
      rw [runBody_apply, after_endOf]
      exact Task.after_discard _ machine

/- Programs of a script begin with sound moments. -/
theorem sound_first
    {program : Program}
    {script : Script}
    {argcs : Array Nat}
    {machine : Machine}
    {global : ObjectId}
    (hProgram : program.IsOf script argcs)
    (hSound : machine.Sound argcs)
    (hGlobal : global.index < machine.heap.objects.size)
    (budget : Nat) :
    (program.first budget global machine).Sound argcs := by
  cases program with
  | plain other => exact ⟨hSound, hGlobal⟩
  | linked other => exact ⟨hSound, hGlobal, hProgram.2⟩

end Program

end Scriptlet
