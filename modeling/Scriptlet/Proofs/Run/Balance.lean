import Scriptlet.Proofs.Machine.Effect
import Scriptlet.Proofs.Run.DepthLimit
import Scriptlet.Proofs.Run.Disciplined
import Scriptlet.Proofs.Run.Termination

/-
  The call stack is balanced.

  Whatever work begins on a machine, sound or not, it leaves
  the stack that it found, in whichever way it ends. On the
  way the stack never grows past its limit, and no call is
  ended where none is active: it does not matter what a pop
  would do to a stack without calls.

  Key definitions include:
    * `CallStack.Fits`
    * `Discipline.balance`
    * `Caller.withinBy`
    * `Interpreter.KeepsStack`

  Key theorems include:
    * `Moment.stack_last`
    * `Moment.fits_reaches`
    * `Caller.withinBy_eq`
    * `callStack_balanced`
-/

------------------------------------------------------------
-- Stacks Within Their Limit
------------------------------------------------------------

namespace Scriptlet

namespace CallStack

/- A stack with at most as many calls as its limit says. -/
def Fits (stack : CallStack) : Prop :=
  ∀ limit, stack.limit = some limit → stack.depth ≤ limit

/- A stack without calls fits every limit. -/
theorem fits_new (limit : Option Nat) :
    (new limit).Fits := by
  intro bound _
  exact Nat.zero_le bound

/- A push that succeeds stays within the limit. -/
theorem fits_of_push
    {stack next : CallStack}
    {call : Activation}
    (hPush : stack.push call = .ok next) :
    next.Fits := by
  intro limit hLimit
  have hNext := eq_of_push hPush
  have hBelow : ¬limit ≤ stack.depth := by
    intro hFull
    have hError : stack.push call = .error (.tooDeep limit) :=
      (push_eq_error_iff _).mpr
        ⟨limit, by rw [← hLimit, hNext], hFull, rfl⟩
    rw [hPush] at hError
    cases hError
  rw [hNext]
  simp only [depth, List.length_cons] at *
  omega

end CallStack

end Scriptlet

------------------------------------------------------------
-- Balance as a Discipline
------------------------------------------------------------

namespace Scriptlet

/- Checking a callee keeps the stack. -/
theorem stack_resolve
    (interner : Interner)
    (callee : FunctionId)
    (argc : Nat)
    (line : Line)
    (machine : Machine) :
    (Machine.after
      (resolve interner callee argc line machine)).stack =
        machine.stack := by
  rw [resolve_apply]
  split <;> rfl

/- So does asking a site first. -/
theorem stack_resolveCached
    (interner : Interner)
    (site : SiteId)
    (callee : FunctionId)
    (argc : Nat)
    (line : Line)
    (machine : Machine) :
    (Machine.after
      (resolveCached interner site callee argc line
        machine)).stack = machine.stack := by
  have hStack := stack_resolve interner callee argc line
    (machine.asked site callee)
  rw [Machine.stack_asked] at hStack
  rw [resolveCached_apply]
  cases machine.known? site callee with
  | some target => exact Machine.stack_asked machine _ _
  | none =>
      simp only
      generalize
        resolve interner callee argc line
          (machine.asked site callee) = result at *
      cases result with
      | ok target next =>
          exact (Machine.stack_taught next _ _ _).trans
            hStack
      | error reason next => exact hStack

namespace Discipline

/-
  On every level the stack is the same all the time, and it
  is as it should be. Nothing else is asked.
-/
def balance (fits : CallStack → Prop) : Discipline where
  Level := CallStack
  valid level machine := machine.stack = level ∧ fits level
  frame _ _ := True
  fills _ _ := True
  holds _ _ := True
  ready _ _ _ _ := True
  walks _ _ := True
  executes _ _ := True
  may _ _ := True
  returns _ _ := True

variable {fits : CallStack → Prop}

/- A call that keeps the stack ends in balance. -/
theorem ends_balance
    {A : Type}
    {level : CallStack}
    {machine : Machine}
    (hValid : (balance fits).valid level machine)
    {result : EStateM.Result Halt Machine A}
    (hStack : (Machine.after result).stack = machine.stack) :
    (balance fits).Ends level (fun _ _ => True)
      (Signal.liftResult result) := by
  have hAfter :
      (balance fits).valid level (Machine.after result) :=
    ⟨hStack.trans hValid.1, hValid.2⟩
  cases result with
  | ok answer next => exact .ok hAfter trivial
  | error reason next => exact .halt hAfter trivial

/- An engine that keeps the stack is all that is needed. -/
theorem governs_balance
    {S : Type}
    {engine : Engine S}
    (context : Context)
    (level : CallStack)
    (hSteps : engine.Stepwise)
    (hResolve :
      ∀ site callee argc line machine,
        (Machine.after
          (engine.resolve context.interner site callee argc
            line machine)).stack = machine.stack) :
    (balance fits).Governs context level engine
      fun _ => True where
  stepwise := hSteps
  parts _ _ := trivial
  fails _ _ := trivial
  returns _ := trivial
  write _ hValid _ _ := hValid
  close _ hValid _ := hValid
  resolve := by
    intro machine expr site argc callee _ _ hValid
    rw [Signal.lift_apply]
    exact ends_balance hValid
      (hResolve site callee argc expr.line machine)

/- Balance is kept if every push keeps the stack fitting. -/
theorem lawful_balance
    (hFits :
      ∀ {stack next : CallStack} {call : Activation},
        fits stack → stack.push call = .ok next → fits next)
    (context : Context) :
    (balance fits).Lawful context := by
  -- Entering code is the same for both kinds of it: inside,
  -- the level is the stack that the push gave.
  have hEnters
      {level stack : CallStack}
      {machine : Machine}
      {call : Activation}
      (hValid : (balance fits).valid level machine)
      (hPush : machine.stack.push call = .ok stack) :
      (balance fits).Enters context level stack machine
        stack := by
    refine ⟨⟨rfl, hFits (hValid.1 ▸ hValid.2) hPush⟩, ?_,
      fun _ _ => trivial⟩
    intro next hNext
    have hPop : stack.pop = level :=
      (CallStack.pop_of_push hPush).trans hValid.1
    refine ⟨?_, hValid.2⟩
    change next.stack.pop = level
    rw [hNext.1, hPop]
  constructor
  case frame_mono => exact fun _ _ => trivial
  case fills_mono => exact fun _ _ => trivial
  case holds_mono => exact fun _ _ => trivial
  case ready_mono => exact fun _ _ => trivial
  case congr =>
      intro level machine next hValid _ _ hStack
      exact ⟨hStack.trans hValid.1, hValid.2⟩
  case atom => exact fun _ _ _ => trivial
  case lookup => exact fun _ _ _ => trivial
  case own => exact fun _ _ _ => trivial
  case define => exact fun _ hValid _ _ => hValid
  case newRecord =>
      exact fun hValid => ⟨hValid, trivial, trivial⟩
  case newScope => exact fun hValid _ _ => ⟨hValid, trivial⟩
  case walking =>
      exact fun level => governs_balance context level
        Engine.stepwise_plain
        (fun _ => stack_resolve context.interner)
  case executing =>
      exact fun level => governs_balance context level
        Engine.stepwise_caching
        (stack_resolveCached context.interner)
  case raises => exact fun _ _ => trivial
  case host =>
      intro level machine line target function receiver args
        inner hValid _ hAction _ _
      rw [Signal.lift_apply]
      exact ends_balance hValid
        (Caller.stack_around hAction context inner receiver
          args line machine)
  case exhausted => exact fun _ => trivial
  case full => exact fun _ _ _ => trivial
  case enterWalked =>
      intro level machine line target code scope stack
        hValid _ _ hPush
      exact ⟨stack, hEnters hValid hPush,
        fun _ _ => trivial⟩
  case enterLinked =>
      intro level machine line target code scope stack
        hValid _ _ hPush
      exact ⟨stack, hEnters hValid hPush,
        fun _ _ => trivial⟩

/- Balance admits any task. -/
theorem asks_balance
    {S : Type}
    (machine : Machine)
    (task : Task S) :
    (balance fits).Asks (fun _ => True) machine task := by
  cases task with
  | eval expr => trivial
  | block exprs => exact fun _ _ => trivial
  | args exprs => exact fun _ _ => trivial
  | fields record fields =>
      exact ⟨trivial, fun _ _ => trivial⟩
  | dispatch site callee receiver args line =>
      refine ⟨trivial, fun _ _ => trivial, ?_⟩
      exact ⟨.call line site (.literal line .undefined)
        (args.map fun _ => .literal line .undefined),
        trivial, rfl, by simp [Expr.site?]⟩

/- Balance admits any moment with a stack that fits. -/
theorem admits_balance
    (moment : Moment)
    (hFits : fits moment.machine.stack) :
    (balance fits).Admits moment.machine.stack moment := by
  rcases moment with ⟨budget, work, machine⟩
  refine ⟨⟨rfl, hFits⟩, ?_⟩
  cases work with
  | walk scope task =>
      exact ⟨trivial, asks_balance machine task⟩
  | execute scope task =>
      exact ⟨trivial, asks_balance machine task⟩
  | call target receiver args line =>
      exact ⟨trivial, trivial, fun _ _ => trivial⟩

end Discipline

end Scriptlet

------------------------------------------------------------
-- Moments
------------------------------------------------------------

namespace Scriptlet

open Discipline

/- Stacks may be anything. -/
theorem Discipline.lawful_balance_true
    (context : Context) :
    (balance fun _ => True).Lawful context :=
  lawful_balance (fun _ _ => trivial) context

/- Work leaves the stack that it found. -/
theorem Moment.stack_last
    (context : Context)
    (moment : Moment) :
    (moment.last context).stack = moment.machine.stack :=
  ((admits_balance moment trivial).last
    (lawful_balance_true context)).1.1

/- A stack within its limit stays there. -/
theorem Moment.fits_reaches
    {context : Context}
    {moment later : Moment}
    (hFits : moment.machine.stack.Fits)
    (hReaches : Moment.Reaches context moment later) :
    later.machine.stack.limit =
        moment.machine.stack.limit ∧
      later.machine.stack.Fits := by
  let fits (stack : CallStack) : Prop :=
    stack.limit = moment.machine.stack.limit ∧ stack.Fits
  have hPushes
      {stack next : CallStack}
      {call : Activation}
      (hStack : fits stack)
      (hPush : stack.push call = .ok next) :
      fits next := by
    have hLimit : next.limit = stack.limit := by
      rw [CallStack.eq_of_push hPush]
    exact ⟨hLimit.trans hStack.1,
      CallStack.fits_of_push hPush⟩
  have hFirst : (balance fits).Admits _ moment :=
    admits_balance moment ⟨rfl, hFits⟩
  rcases hFirst.reaches (lawful_balance hPushes context)
      hReaches with
    ⟨level, hLater⟩
  rw [hLater.valid.1]
  exact hLater.valid.2

end Scriptlet

------------------------------------------------------------
-- No Pop Without a Call
------------------------------------------------------------

namespace Scriptlet

open Discipline

/- Leave a call, ending it in some way. -/
def leaveCallBy
    (pop : CallStack → CallStack)
    (interner : Interner) :
    EStateM.Result Signal Machine Value →
      EStateM.Result Halt Machine Value
  | .ok value machine =>
      .ok value { machine with stack := pop machine.stack }
  | .error (.ret value _) machine =>
      .ok value { machine with stack := pop machine.stack }
  | .error (.halt reason) machine =>
      .error
        (reason.withCalls (machine.stack.backtrace interner))
        { machine with stack := pop machine.stack }

/- Run code as an active call that is ended in some way. -/
def activateBy
    (pop : CallStack → CallStack)
    (interner : Interner)
    (callee : Name)
    (line : Line)
    (body : EvalM Value) :
    CallM Value := fun machine =>
  match machine.stack.push { callee, line } with
  | .error cause =>
      .error
        (.failed
          (((Failure.ofCause cause).locate line).withCalls
            (machine.stack.backtrace interner)))
        machine
  | .ok stack =>
      leaveCallBy pop interner (body { machine with stack })

namespace Caller

/- Run a resolved call that is ended in some way. -/
def aroundBy
    (pop : CallStack → CallStack)
    (context : Context)
    (inner : Option Caller) :
    Caller := fun target receiver args line =>
  match target.action with
  | .primitive _ =>
      around context inner target receiver args line
  | .walked code scope => do
      let frame ← openFrame context.this scope
        code.params receiver args
      activateBy pop context.interner target.name line
        (runCode context .plain inner code.body frame)
  | .linked code scope => do
      let frame ← openFrame context.this scope
        code.params receiver args
      activateBy pop context.interner target.name line
        (runCode context .caching inner code.body frame)

/- Run nested calls, all of which are ended in some way. -/
def withinBy
    (pop : CallStack → CallStack)
    (context : Context) :
    (budget : Nat) → Caller
  | 0 => aroundBy pop context none
  | budget + 1 =>
      aroundBy pop context (some (withinBy pop context budget))

end Caller

/- A way to end calls, as far as calls are active. -/
def CallStack.IsPop (pop : CallStack → CallStack) : Prop :=
  ∀ stack, stack.calls ≠ [] → pop stack = stack.pop

variable {pop : CallStack → CallStack}

/- Where a call is active, it is left alike. -/
theorem leaveCallBy_eq
    (hPop : CallStack.IsPop pop)
    (interner : Interner)
    {result : EStateM.Result Signal Machine Value}
    (hActive : (Machine.after result).stack.calls ≠ []) :
    leaveCallBy pop interner result =
      leaveCall interner result := by
  have hSame := hPop _ hActive
  cases result with
  | ok value next =>
      simp only [Machine.after] at hSame
      rw [leaveCallBy, leaveCall, hSame]
  | error signal next =>
      simp only [Machine.after] at hSame
      cases signal with
      | ret value line =>
          rw [leaveCallBy, leaveCall, hSame]
      | halt reason => rw [leaveCallBy, leaveCall, hSame]

/- Code that keeps the stack ends with its call active. -/
theorem activateBy_eq
    (hPop : CallStack.IsPop pop)
    (interner : Interner)
    (callee : Name)
    (line : Line)
    {body : EvalM Value}
    (hBody :
      ∀ machine : Machine,
        (Machine.after (body machine)).stack =
          machine.stack) :
    activateBy pop interner callee line body =
      activate interner callee line body := by
  funext machine
  rw [activate_apply, activateBy]
  cases hPush : machine.stack.push { callee, line } with
  | error cause => rfl
  | ok stack =>
      apply leaveCallBy_eq hPop
      rw [hBody, CallStack.eq_of_push hPush]
      simp

/- Code keeps the stack. -/
theorem Caller.stack_runCode
    {S : Type}
    {engine : Engine S}
    {context : Context}
    (hEngine :
      ∀ level,
        (balance fun _ => True).Governs context level engine
          fun _ => True)
    (budget : Nat)
    (body : List (Expr S))
    (frame : ObjectId)
    (machine : Machine) :
    (Machine.after
      (runCode context engine (inner? context budget) body
        frame machine)).stack = machine.stack := by
  have hD := lawful_balance_true context
  have hCalls :
      ∀ call ∈ inner? context budget,
        (balance fun _ => True).Obeys call ∧
          call.Stepwise := by
    cases budget with
    | zero => simp [inner?]
    | succ budget =>
        simpa [inner?] using
          ⟨obeys_within hD budget,
            stepwise_within context budget⟩
  exact (ends_runCode hD (hEngine machine.stack) hCalls
    ⟨rfl, trivial⟩ trivial body
    (fun _ _ => trivial)).valid.1

/- It does not matter how a call that is none would end. -/
theorem Caller.withinBy_eq
    (hPop : CallStack.IsPop pop)
    (context : Context)
    (budget : Nat) :
    withinBy pop context budget = within context budget := by
  have hD := lawful_balance_true context
  have hAround (budget : Nat) :
      aroundBy pop context (inner? context budget) =
        around context (inner? context budget) := by
    funext target receiver args line
    unfold aroundBy
    cases hAction : target.action with
    | primitive primitive => rfl
    | walked code scope =>
        unfold around
        rw [hAction]
        simp only
        congr
        funext frame
        exact activateBy_eq hPop _ _ _
          (stack_runCode hD.walking budget code.body frame)
    | linked code scope =>
        unfold around
        rw [hAction]
        simp only
        congr
        funext frame
        exact activateBy_eq hPop _ _ _
          (stack_runCode hD.executing budget code.body
            frame)
  induction budget with
  | zero => exact hAround 0
  | succ budget ih =>
      rw [withinBy, ih]
      exact hAround (budget + 1)

end Scriptlet

------------------------------------------------------------
-- Interpreters
------------------------------------------------------------

namespace Scriptlet

namespace Interpreter

/- Whatever an interpreter does, it keeps its stack. -/
structure KeepsStack
    (interpreter : Interpreter)
    (hostDepth : Nat)
    (store : Store) : Prop where
  walk :
    ∀ script,
      (interpreter.walk hostDepth script
        store).interpreter.stack = interpreter.stack
  execute :
    ∀ script,
      (interpreter.execute hostDepth script
        store).interpreter.stack = interpreter.stack
  run :
    ∀ script,
      (interpreter.run hostDepth script
        store).interpreter.stack = interpreter.stack
  resolve :
    ∀ callee argc line,
      (interpreter.resolve callee argc line
        store).interpreter.stack = interpreter.stack
  callTarget :
    ∀ target receiver args line,
      (interpreter.callTarget hostDepth target receiver args
        line store).interpreter.stack = interpreter.stack
  call :
    ∀ callee receiver args line,
      (interpreter.call hostDepth callee receiver args line
        store).interpreter.stack = interpreter.stack

/- A task that keeps the stack of every machine. -/
theorem stack_perform
    {A : Type}
    (interpreter : Interpreter)
    (store : Store)
    {task : Context → CallM A}
    (hTask :
      ∀ context machine,
        (Machine.after (task context machine)).stack =
          machine.stack) :
    (interpreter.perform store task).interpreter.stack =
      interpreter.stack := by
  rw [perform_eq]
  exact hTask _ _

/- Starting a program keeps the stack. -/
theorem stack_start
    (interpreter : Interpreter)
    (hostDepth : Nat)
    (program : Program)
    (store : Store) :
    (interpreter.start hostDepth program
      store).interpreter.stack = interpreter.stack := by
  rw [start_eq_perform]
  apply stack_perform
  intro context machine
  rw [← Program.last_first, Moment.stack_last,
    Program.machine_first]

/- A resolved call keeps the stack. -/
theorem stack_within
    (context : Context)
    (budget : Nat)
    (target : Target)
    (receiver : Value)
    (args : List Value)
    (line : Line)
    (machine : Machine) :
    (Machine.after
      (Caller.within context budget target receiver args
        line machine)).stack = machine.stack :=
  Moment.stack_last context
    { budget
      work := .call target receiver args line
      machine }

/- A checked call keeps the stack. -/
theorem stack_callChecked
    (context : Context)
    (budget : Nat)
    (callee : FunctionId)
    (receiver : Value)
    (args : List Value)
    (line : Line)
    (machine : Machine) :
    (Machine.after
      (callChecked context budget callee receiver args line
        machine)).stack = machine.stack := by
  have hResolve := stack_resolve context.interner callee
    args.length line machine
  unfold callChecked
  rw [RunM.bind_apply]
  cases hResult :
      Scriptlet.resolve context.interner callee args.length
        line machine with
  | ok target next =>
      rw [hResult] at hResolve
      exact (stack_within context budget target receiver args
        line next).trans hResolve
  | error reason next =>
      rw [hResult] at hResolve
      exact hResolve

theorem keepsStack
    (interpreter : Interpreter)
    (hostDepth : Nat)
    (store : Store) :
    interpreter.KeepsStack hostDepth store where
  walk script :=
    interpreter.stack_start hostDepth (.plain script) store
  execute script :=
    interpreter.stack_start hostDepth (.linked script) store
  run script := by
    rw [run_eq_start]
    exact interpreter.stack_start hostDepth _ _
  resolve callee argc line :=
    interpreter.stack_perform store fun context =>
      stack_resolve context.interner callee argc line
  callTarget target receiver args line :=
    interpreter.stack_perform store fun context =>
      stack_within context _ target receiver args line
  call callee receiver args line :=
    interpreter.stack_perform store fun context =>
      stack_callChecked context _ callee receiver args line

end Interpreter

/- A history ends with the stack that it began with. -/
theorem History.stack_eq
    {session final : Session}
    {jobs : List Job}
    {shown : List Shown}
    (hHistory : History session jobs shown final) :
    final.interpreter.stack =
      session.interpreter.stack := by
  induction hHistory with
  | done session => rfl
  | link script room _ ih => exact ih
  | @run session _ _ _ job program _ _ ih =>
      exact ih.trans
        (session.interpreter.stack_start job.hostDepth
          program _)

/-
  The call stack is balanced.

    * Work of any kind that begins on a machine ends with
      the same stack. While it goes on, a stack that is
      within its limit stays within that limit.
    * Calls would not change if a pop did something else to
      a stack without calls.
    * Whatever an interpreter is asked to do, it has the
      same stack afterwards.
    * Between the runs of a session no call is active, and
      in every run the limit is the one that was set.
-/
theorem callStack_balanced :
    (∀ (context : Context) (moment : Moment),
        (moment.last context).stack =
            moment.machine.stack ∧
          (moment.machine.stack.Fits →
            ∀ later,
              Moment.Reaches context moment later →
                later.machine.stack.limit =
                    moment.machine.stack.limit ∧
                  later.machine.stack.Fits)) ∧
      (∀ (context : Context) (pop : CallStack → CallStack),
          CallStack.IsPop pop →
            ∀ budget,
              Caller.withinBy pop context budget =
                .within context budget) ∧
        (∀ (interpreter : Interpreter) (hostDepth : Nat)
            (store : Store),
            interpreter.KeepsStack hostDepth store) ∧
          ∀ (settings : Settings) (printer : Printer)
            (interner : Interner) (jobs : List Job)
            (shown : List Shown) (final : Session),
            History (.fresh settings printer interner) jobs
                shown final →
              final.interpreter.callDepth = 0 ∧
                ∀ job program moment,
                  Moment.Reaches
                      (final.context job.interner)
                      (final.first job program) moment →
                    moment.machine.stack.limit =
                        settings.maxCallDepth ∧
                      moment.machine.stack.Fits := by
  refine ⟨?_, ?_, Interpreter.keepsStack, ?_⟩
  · intro context moment
    exact ⟨moment.stack_last context,
      fun hFits later hReaches =>
        Moment.fits_reaches hFits hReaches⟩
  · intro context pop hPop budget
    exact Caller.withinBy_eq hPop context budget
  · intro settings printer interner jobs shown final
      hHistory
    have hStack : final.interpreter.stack =
        .new settings.maxCallDepth :=
      hHistory.stack_eq.trans
        (Session.stack_fresh settings printer interner)
    constructor
    · unfold Interpreter.callDepth
      rw [hStack]
      rfl
    · intro job program moment hReaches
      have hFirst :
          (final.first job program).machine.stack =
            .new settings.maxCallDepth := by
        unfold Session.first
        rw [Program.machine_first]
        exact hStack
      have hMoment := Moment.fits_reaches
        (by rw [hFirst]; exact CallStack.fits_new _)
        hReaches
      rw [hFirst] at hMoment
      exact hMoment

/-
  A run that fails two calls deep leaves no call active, and
  the next run begins on a stack within the limit.
-/
theorem callStack_balanced_callAgain :
    let session :=
      Session.fresh { maxCallDepth := some 2 } (.buffer "")
        againNames
    let job : Job :=
      { script := callAgain
        interner := session.store.interner
        hostDepth := 0 }
    let next := session.next job (.plain callAgain)
    (session.outcome job (.plain callAgain)).shown.halt =
        some (.failed
          { cause := .tooDeep 2
            line := some 3
            backtrace :=
              [{ name := "again", line := 3 },
                { name := "again", line := 4 }] }) ∧
      next.interpreter.callDepth = 0 ∧
        (next.first job
          (.plain callAgain)).machine.stack.Fits := by
  intro session job next
  have hFinal :=
    callStack_balanced.2.2.2 { maxCallDepth := some 2 }
      (.buffer "") againNames [job] _ next
      (.run job (.plain callAgain) rfl (.done next))
  exact ⟨by decide +kernel, hFinal.1,
    (hFinal.2 job (.plain callAgain) _ .refl).2⟩

end Scriptlet
