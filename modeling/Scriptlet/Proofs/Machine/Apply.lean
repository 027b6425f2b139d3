import Scriptlet.Eval.Call
import Scriptlet.Proofs.Value.Operator

/-
  Computations applied to a machine.

  A computation is a function of the machine it starts on.
  The equations here say what the basic computations give
  for one machine, so that later proofs need not open them.

  Key definitions include:
    * `Heap.check`
    * `Machine.asked`
    * `Machine.taught`
    * `Machine.wrote`
    * `Machine.opened`
    * `leaveCall`

  Key theorems include:
    * `RunM.bind_apply`
    * `resolve_apply`
    * `resolveCached_apply`
    * `Primitive.printLine_apply`
    * `openFrame_apply`
    * `activate_apply`
-/

------------------------------------------------------------
-- Sequences
------------------------------------------------------------

namespace Scriptlet

namespace RunM

variable {E F A B : Type}

/- The rest runs on the machine that the first part left. -/
theorem bind_apply
    (first : RunM E A)
    (rest : A → RunM E B)
    (machine : Machine) :
    (first >>= rest) machine =
      match first machine with
      | .ok answer next => rest answer next
      | .error reason next => .error reason next := by
  change EStateM.bind first rest machine = _
  unfold EStateM.bind
  cases first machine <;> rfl

/- Sequences with the same parts on the way are the same. -/
theorem bind_congr
    {first other : RunM E A}
    {rest otherRest : A → RunM E B}
    {machine : Machine}
    (hFirst : other machine = first machine)
    (hRest :
      ∀ answer next,
        first machine = .ok answer next →
          otherRest answer next = rest answer next) :
    (other >>= otherRest) machine =
      (first >>= rest) machine := by
  rw [bind_apply, bind_apply, hFirst]
  cases hResult : first machine with
  | ok answer next => exact hRest answer next hResult
  | error reason next => rfl

/- Changing the reason leaves the machine alone. -/
theorem adaptExcept_apply
    (adapt : E → F)
    (run : RunM E A)
    (machine : Machine) :
    EStateM.adaptExcept adapt run machine =
      match run machine with
      | .ok answer next => .ok answer next
      | .error reason next => .error (adapt reason) next := by
  unfold EStateM.adaptExcept
  cases run machine <;> rfl

end RunM

namespace Machine

variable {E A : Type}

/- Reading the heap changes nothing. -/
theorem askHeap_apply
    (question : Heap → A)
    (machine : Machine) :
    (askHeap question : RunM E A) machine =
      .ok (question machine.heap) machine := by
  rfl

/- Changing the heap changes nothing else. -/
theorem onHeap_apply
    (change : Heap → A × Heap)
    (machine : Machine) :
    (onHeap change : RunM E A) machine =
      .ok (change machine.heap).1
        { machine with
          heap := (change machine.heap).2 } := by
  rfl

end Machine

/- A sequence of calls is a sequence of expressions. -/
theorem Signal.lift_bind
    {A B : Type}
    (first : CallM A)
    (rest : A → CallM B) :
    Signal.lift (first >>= rest) =
      Signal.lift first >>= fun answer =>
        Signal.lift (rest answer) := by
  funext machine
  unfold Signal.lift
  rw [RunM.bind_apply, RunM.adaptExcept_apply,
    RunM.adaptExcept_apply, RunM.bind_apply]
  cases first machine with
  | ok answer next =>
      simp only
      rw [RunM.adaptExcept_apply]
  | error reason next => rfl

end Scriptlet

------------------------------------------------------------
-- Checked Resolution
------------------------------------------------------------

namespace Scriptlet

/-
  The target of a callee, or why it cannot be called with a
  number of arguments.
-/
def Heap.check
    (heap : Heap)
    (interner : Interner)
    (callee : FunctionId)
    (argc : Nat)
    (line : Line) :
    Except Halt Target :=
  match heap.function? callee with
  | some function =>
      match function.arity with
      | .fixed expected =>
          if expected = argc then
            .ok (.of function)
          else
            .error
              (.failedAt
                (.wrongArgumentCount
                  (interner.lookup function.name)
                  expected argc)
                line)
      | .variadic => .ok (.of function)
  | none =>
      .error
        (.failedAt
          (.notAFunction
            (heap.printed interner (.function callee)))
          line)

/- Checking a callee reads the heap and changes nothing. -/
theorem resolve_apply
    (interner : Interner)
    (callee : FunctionId)
    (argc : Nat)
    (line : Line)
    (machine : Machine) :
    resolve interner callee argc line machine =
      match machine.heap.check interner callee argc line with
      | .ok target => .ok target machine
      | .error reason => .error reason machine := by
  unfold resolve Heap.check
  rw [RunM.bind_apply]
  change
    (match machine.heap.function? callee with
      | some function => _
      | none => _ : CallM Target) machine = _
  cases machine.heap.function? callee with
  | none => rfl
  | some function =>
      cases hArity : function.arity with
      | variadic =>
          simp only [hArity]
          rfl
      | fixed expected =>
          simp only [hArity]
          split
          · rfl
          · rfl

namespace Heap

variable {heap : Heap}
variable {interner : Interner}
variable {callee : FunctionId}
variable {argc : Nat}
variable {line : Line}

/- The callees that pass are those whose arity accepts. -/
theorem check_eq_ok_iff
    (target : Target) :
    heap.check interner callee argc line = .ok target ↔
      ∃ function,
        heap.function? callee = some function ∧
          function.arity.accepts argc = true ∧
            target = .of function := by
  constructor
  · intro hCheck
    unfold check at hCheck
    split at hCheck
    case h_1 function hFunction =>
        split at hCheck
        case h_1 expected hArity =>
            split at hCheck
            case isTrue hCount =>
                cases hCheck
                exact ⟨function, hFunction,
                  by simp [hArity, Arity.accepts, hCount],
                  rfl⟩
            case isFalse => cases hCheck
        case h_2 hArity =>
            cases hCheck
            exact ⟨function, hFunction,
              by simp [hArity, Arity.accepts], rfl⟩
    case h_2 => cases hCheck
  · rintro ⟨function, hFunction, hAccepts, rfl⟩
    unfold check
    rw [hFunction]
    cases hArity : function.arity with
    | variadic => simp only [hArity]
    | fixed expected =>
        have hCount : expected = argc := by
          simpa [hArity, Arity.accepts] using hAccepts
        simp only [hArity, hCount, if_true]

/- A callee that fails the check fails on the line. -/
theorem exists_cause_of_check
    {reason : Halt}
    (hCheck :
      heap.check interner callee argc line =
        .error reason) :
    ∃ cause,
      reason = .failedAt cause line ∧ cause.Ordinary := by
  unfold check at hCheck
  split at hCheck
  · split at hCheck
    · split at hCheck
      · cases hCheck
      · cases hCheck
        exact ⟨_, rfl, nofun, nofun⟩
    · cases hCheck
  · cases hCheck
    exact ⟨_, rfl, nofun, nofun⟩

end Heap

end Scriptlet

------------------------------------------------------------
-- Call Sites
------------------------------------------------------------

namespace Scriptlet

namespace Machine

/- What a site remembers for a callee. -/
def known?
    (machine : Machine)
    (id : SiteId)
    (callee : FunctionId) :
    Option Target :=
  machine.sites[id.index]?.bind fun site =>
    site.state.find? callee

/- The machine after a site was asked. -/
def asked
    (machine : Machine)
    (id : SiteId)
    (callee : FunctionId) :
    Machine :=
  match machine.sites[id.index]? with
  | some site =>
      { machine with
        sites := machine.sites.setIfInBounds id.index
          (site.ask callee).2 }
  | none => machine

/- The machine after a site was offered a callee. -/
def taught
    (machine : Machine)
    (id : SiteId)
    (callee : FunctionId)
    (target : Target) :
    Machine :=
  match machine.sites[id.index]? with
  | some site =>
      { machine with
        sites := machine.sites.setIfInBounds id.index
          (site.learn callee target).2
        trace :=
          match (site.learn callee target).1 with
          | some step =>
              machine.trace.push (.siteChanged step)
          | none => machine.trace }
  | none => machine

variable (machine : Machine)
variable (id : SiteId)
variable (callee : FunctionId)
variable (target : Target)

/- Sites are not part of the heap. -/
@[simp] theorem heap_asked :
    (machine.asked id callee).heap = machine.heap := by
  unfold asked
  split <;> rfl

@[simp] theorem stack_asked :
    (machine.asked id callee).stack = machine.stack := by
  unfold asked
  split <;> rfl

@[simp] theorem printer_asked :
    (machine.asked id callee).printer =
      machine.printer := by
  unfold asked
  split <;> rfl

@[simp] theorem heap_taught :
    (machine.taught id callee target).heap =
      machine.heap := by
  unfold taught
  split <;> rfl

@[simp] theorem stack_taught :
    (machine.taught id callee target).stack =
      machine.stack := by
  unfold taught
  split <;> rfl

@[simp] theorem printer_taught :
    (machine.taught id callee target).printer =
      machine.printer := by
  unfold taught
  split <;> rfl

/- Asking gives what the site remembers. -/
theorem askSite_apply :
    askSite id callee machine =
      .ok (machine.known? id callee)
        (machine.asked id callee) := by
  unfold known? asked
  change
    (match
      (match machine.sites[id.index]? with
      | some site =>
          ((site.ask callee).1,
            { machine with
              sites := machine.sites.setIfInBounds id.index
                (site.ask callee).2 })
      | none => (none, machine)) with
    | (answer, next) => EStateM.Result.ok answer next) = _
  cases machine.sites[id.index]? with
  | none => rfl
  | some site => simp

/- Teaching changes the site and may note the change. -/
theorem teachSite_apply :
    teachSite id callee target machine =
      .ok () (machine.taught id callee target) := by
  rfl

end Machine

/-
  Cached resolution asks the site, and checks the callee and
  teaches the site only if that was in vain.
-/
theorem resolveCached_apply
    (interner : Interner)
    (site : SiteId)
    (callee : FunctionId)
    (argc : Nat)
    (line : Line)
    (machine : Machine) :
    resolveCached interner site callee argc line machine =
      match machine.known? site callee with
      | some target =>
          .ok target (machine.asked site callee)
      | none =>
          match
            resolve interner callee argc line
              (machine.asked site callee)
          with
          | .ok target next =>
              .ok target (next.taught site callee target)
          | .error reason next => .error reason next := by
  unfold resolveCached
  rw [RunM.bind_apply, Machine.askSite_apply]
  cases machine.known? site callee with
  | some target => rfl
  | none =>
      simp only
      rw [RunM.bind_apply]
      cases
        resolve interner callee argc line
          (machine.asked site callee) with
      | error reason next => rfl
      | ok target next =>
          simp only
          rw [RunM.bind_apply, Machine.teachSite_apply]
          rfl

end Scriptlet

------------------------------------------------------------
-- Printing
------------------------------------------------------------

namespace Scriptlet

namespace Machine

/- The machine after a text was printed. -/
def wrote
    (machine : Machine)
    (text : String) :
    Machine :=
  { machine with
    printer := (machine.printer.write text).1
    trace :=
      match (machine.printer.write text).2 with
      | some reason =>
          machine.trace.push (.printRefused reason)
      | none => machine.trace }

/- Printing does not fail, even if the text is refused. -/
theorem print_apply
    {E : Type}
    (text : String)
    (machine : Machine) :
    (print text : RunM E Unit) machine =
      .ok () (machine.wrote text) := by
  refine congrArg (EStateM.Result.ok ()) ?_
  simp only [wrote]
  rcases machine.printer.write text with ⟨printer, refusal⟩
  cases refusal <;> rfl

end Machine

/- A printed line is noted before it is written. -/
theorem Primitive.printLine_apply
    (interner : Interner)
    (args : List Value)
    (machine : Machine) :
    printLine interner args machine =
      let line := String.intercalate " "
        (args.map (machine.heap.printed interner))
      .ok .undefined
        (Machine.wrote
          { machine with
            trace := machine.trace.push
              (.printing args.length line) }
          (line ++ "\n")) := by
  unfold printLine
  simp only [RunM.bind_apply]
  change
    (match
      (Machine.print _ : RunM Failure Unit)
        { machine with trace := machine.trace.push _ } with
    | .ok _ next =>
        (EStateM.Result.ok Value.undefined next)
    | .error reason next => .error reason next) = _
  rw [Machine.print_apply]

end Scriptlet

------------------------------------------------------------
-- Frames
------------------------------------------------------------

namespace Scriptlet

/- The machine after a frame was opened for a call. -/
def Machine.opened
    (machine : Machine)
    (this : Name)
    (scope : ObjectId)
    (params : List Name)
    (receiver : Value)
    (args : List Value) :
    Machine :=
  { machine with
    heap :=
      (machine.heap.newScope (some scope)).2.defineAll
        (machine.heap.newScope (some scope)).1
        ((this, receiver) :: params.zip args) }

/- Opening a frame adds it at the end of the heap. -/
theorem openFrame_apply
    (this : Name)
    (scope : ObjectId)
    (params : List Name)
    (receiver : Value)
    (args : List Value)
    (machine : Machine) :
    openFrame this scope params receiver args machine =
      .ok ⟨machine.heap.objects.size⟩
        (machine.opened this scope params receiver args) := by
  rfl

end Scriptlet

------------------------------------------------------------
-- Checks and Bindings
------------------------------------------------------------

namespace Scriptlet

namespace EvalM

variable (interner : Interner)
variable (machine : Machine)

/- A value that is no function is reported as printed. -/
theorem expectFunction_apply
    (value : Value)
    (line : Line) :
    expectFunction interner value line machine =
      match value with
      | .function id => .ok id machine
      | _ =>
          .error
            (.halt
              (.failedAt
                (.notAFunction
                  (machine.heap.printed interner value))
                line))
            machine := by
  cases value <;> rfl

/- A value that is no object is reported as printed. -/
theorem expectObject_apply
    (value : Value)
    (line : Line) :
    expectObject interner value line machine =
      match value with
      | .object id => .ok id machine
      | _ =>
          .error
            (.halt
              (.failedAt
                (.notAnObject
                  (machine.heap.printed interner value))
                line))
            machine := by
  cases value <;> rfl

/- Only a function passes for one. -/
theorem eq_of_expectFunction
    {value : Value}
    {line : Line}
    {id : FunctionId}
    {next : Machine}
    (hExpect :
      expectFunction interner value line machine =
        .ok id next) :
    value = .function id ∧ next = machine := by
  rw [expectFunction_apply] at hExpect
  cases value with
  | function other =>
      cases hExpect
      exact ⟨rfl, rfl⟩
  | _ => cases hExpect

/- Only an object passes for one. -/
theorem eq_of_expectObject
    {value : Value}
    {line : Line}
    {id : ObjectId}
    {next : Machine}
    (hExpect :
      expectObject interner value line machine =
        .ok id next) :
    value = .object id ∧ next = machine := by
  rw [expectObject_apply] at hExpect
  cases value with
  | object other =>
      cases hExpect
      exact ⟨rfl, rfl⟩
  | _ => cases hExpect

/- A declaration of a visible name changes nothing. -/
theorem bindLocal_apply
    (scope : ObjectId)
    (declares : Bool)
    (name : Name)
    (value : Value)
    (line : Line) :
    bindLocal interner scope declares name value line
        machine =
      if declares && machine.heap.inScope scope name then
        .error
          (.halt
            (.failedAt
              (.alreadyDeclared (interner.lookup name))
              line))
          machine
      else
        .ok value
          { machine with
            heap := machine.heap.define scope name
              value } := by
  unfold bindLocal
  rw [RunM.bind_apply]
  change
    (if declares && machine.heap.inScope scope name then
      _ else _ : EvalM Value) machine = _
  split
  · rfl
  · rfl

/-
  A literal becomes the youngest function, and is bound if
  it has a name.
-/
theorem makeFunction_apply
    {S : Type}
    (context : Context)
    (engine : Engine S)
    (scope : ObjectId)
    (code : Code S) :
    makeFunction context engine scope code machine =
      .ok (.function ⟨machine.heap.functions.size⟩)
        (let made :=
          { machine with
            heap := (machine.heap.newFunction
              { name := code.name.getD context.lambda
                arity := .fixed code.params.length
                action := engine.close code scope }).2 }
        match code.name with
        | some name =>
            { made with
              heap := made.heap.define scope name
                (.function ⟨machine.heap.functions.size⟩) }
        | none => made) := by
  unfold makeFunction
  cases code.name <;> rfl

end EvalM

end Scriptlet

------------------------------------------------------------
-- Calls
------------------------------------------------------------

namespace Scriptlet

/- A halt that leaves a call with these active calls. -/
def Halt.withCalls (backtrace : Backtrace) : Halt → Halt
  | .failed failure => .failed (failure.withCalls backtrace)
  | .exhausted => .exhausted

/-
  How the result of a body leaves its call: returning ends,
  a halt is given the active calls, and the stack is popped.
-/
def leaveCall
    (interner : Interner) :
    EStateM.Result Signal Machine Value →
      EStateM.Result Halt Machine Value
  | .ok value machine =>
      .ok value { machine with stack := machine.stack.pop }
  | .error (.ret value _) machine =>
      .ok value { machine with stack := machine.stack.pop }
  | .error (.halt reason) machine =>
      .error
        (reason.withCalls (machine.stack.backtrace interner))
        { machine with stack := machine.stack.pop }

/- Code runs between a push and a pop, if it runs. -/
theorem activate_apply
    (interner : Interner)
    (callee : Name)
    (line : Line)
    (body : EvalM Value)
    (machine : Machine) :
    activate interner callee line body machine =
      match machine.stack.push { callee, line } with
      | .error cause =>
          .error
            (.failed
              (((Failure.ofCause cause).locate
                line).withCalls
                  (machine.stack.backtrace interner)))
            machine
      | .ok stack =>
          leaveCall interner (body { machine with stack }) := by
  unfold activate leaveCall
  cases machine.stack.push { callee, line } with
  | error cause => rfl
  | ok stack =>
      simp only
      cases body { machine with stack } with
      | ok value next => rfl
      | error signal next =>
          cases signal with
          | ret value line => rfl
          | halt reason => cases reason <;> rfl

/- Only what the code does once it runs matters. -/
theorem activate_congr
    {interner : Interner}
    {callee : Name}
    {line : Line}
    {body other : EvalM Value}
    {machine : Machine}
    (hBody :
      ∀ stack,
        machine.stack.push { callee, line } = .ok stack →
          other { machine with stack } =
            body { machine with stack }) :
    activate interner callee line other machine =
      activate interner callee line body machine := by
  rw [activate_apply, activate_apply]
  cases hPush : machine.stack.push { callee, line } with
  | error cause => rfl
  | ok stack =>
      exact congrArg (leaveCall interner)
        (hBody stack hPush)

end Scriptlet
