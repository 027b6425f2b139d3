import Scriptlet.Proofs.Eval.SimulatedCall
import Scriptlet.Proofs.Syntax.Nodes

/-
  What a running program keeps.

  A discipline says what holds of the machine while a
  program runs, and of everything that the program handles:
  the frame it is in, the records it makes, the values it
  computes and the targets it calls. It also says which code
  may run, and in which ways code may end. All of this may
  depend on the level, which changes where code is entered.

  A discipline is lawful if every single step respects it.
  This module states the laws, and how a computation ends
  under a discipline. The modules after it show that whole
  evaluations and calls respect every lawful discipline.

  Key definitions include:
    * `Discipline`
    * `Discipline.Ends`
    * `Discipline.Governs`
    * `Discipline.Lawful`

  Key theorems include:
    * `Discipline.Ends.bind`
-/

------------------------------------------------------------
-- Disciplines
------------------------------------------------------------

namespace Scriptlet

/-
  What is kept while programs run.

    * `valid` is what holds of the machine.
    * `frame`, `fills` and `holds` say what is known about
      the current scope, about a record whose fields are
      still being bound, and about every value.
    * `ready` is what is known about a target that is called
      from a line.
    * `walks` and `executes` say which nodes may run.
    * `may` says how code may halt, and `returns` from which
      lines it may return.
-/
structure Discipline where
  Level : Type
  valid : Level → Machine → Prop
  frame : Machine → ObjectId → Prop
  fills : Machine → ObjectId → Prop
  holds : Machine → Value → Prop
  ready : Level → Machine → Line → Target → Prop
  walks : Level → Expr Unit → Prop
  executes : Level → Expr SiteId → Prop
  may : Level → Halt → Prop
  returns : Level → Line → Prop

namespace Discipline

variable (D : Discipline)

/- How a computation ends that gives certain answers. -/
inductive Ends
    {A : Type}
    (level : D.Level)
    (gives : Machine → A → Prop) :
    EStateM.Result Signal Machine A → Prop where
  | ok
      {machine : Machine}
      {answer : A}
      (hValid : D.valid level machine)
      (hGives : gives machine answer) :
      Ends level gives (.ok answer machine)
  | halt
      {machine : Machine}
      {reason : Halt}
      (hValid : D.valid level machine)
      (hMay : D.may level reason) :
      Ends level gives (.error (.halt reason) machine)
  | ret
      {machine : Machine}
      {value : Value}
      {line : Line}
      (hValid : D.valid level machine)
      (hHolds : D.holds machine value)
      (hReturns : D.returns level line) :
      Ends level gives (.error (.ret value line) machine)

/- As many values as there should be, all of which hold. -/
def HoldsAll
    (argc : Nat)
    (machine : Machine)
    (values : List Value) : Prop :=
  values.length = argc ∧
    ∀ value ∈ values, D.holds machine value

/- A caller that runs calls with discipline. -/
def Obeys (call : Caller) : Prop :=
  ∀ level target receiver args line machine,
    D.valid level machine →
      D.ready level machine line target →
        D.holds machine receiver →
          (∀ arg ∈ args, D.holds machine arg) →
            D.Ends level D.holds
              (Signal.lift (call target receiver args line)
                machine)

end Discipline

end Scriptlet

------------------------------------------------------------
-- Laws
------------------------------------------------------------

namespace Scriptlet

namespace Discipline

/- What an engine owes to a discipline at one level. -/
structure Governs
    (D : Discipline)
    (context : Context)
    (level : D.Level)
    {S : Type}
    (engine : Engine S)
    (code : Expr S → Prop) : Prop where
  stepwise : engine.Stepwise
  parts :
    ∀ {expr part : Expr S},
      code expr → part ∈ expr.parts → code part
  fails :
    ∀ {expr : Expr S} {cause : Cause},
      cause.Ordinary → code expr →
        D.may level (.failedAt cause expr.line)
  returns :
    ∀ {line : Line} {value : Expr S},
      code (.ret line value) → D.returns level line
  write :
    ∀ {machine : Machine} {line : Line}
      {receiver value : Expr S} {name : Name}
      {id : ObjectId} {result : Value},
      code (.setField line receiver name value) →
        D.valid level machine →
          D.holds machine (.object id) →
            D.holds machine result →
              D.valid level
                { machine with
                  heap := machine.heap.define id name
                    result }
  close :
    ∀ {machine : Machine} {line writtenAt : Line}
      {name : Option Name} {params : List Name}
      {body : List (Expr S)} {scope : ObjectId},
      code (.function line name params body writtenAt) →
        D.valid level machine →
          D.frame machine scope →
            D.valid level
              { machine with
                heap := (machine.heap.newFunction
                  { name := name.getD context.lambda
                    arity := .fixed params.length
                    action := engine.close
                      { name, params, body, writtenAt }
                      scope }).2 }
  resolve :
    ∀ {machine : Machine} {expr : Expr S} {site : S}
      {argc : Nat} (callee : FunctionId),
      code expr → expr.site? = some (site, argc) →
        D.valid level machine →
          D.Ends level
            (fun next => D.ready level next expr.line)
            (Signal.lift
              (engine.resolve context.interner site callee
                argc expr.line)
              machine)

/-
  How code is entered whose call was pushed: its level is
  valid inside, and what it leaves is valid outside, with
  halts given the active calls.
-/
structure Enters
    (D : Discipline)
    (context : Context)
    (level inner : D.Level)
    (machine : Machine)
    (stack : CallStack) : Prop where
  valid : D.valid inner { machine with stack }
  leave :
    ∀ {next : Machine},
      D.valid inner next →
        D.valid level { next with stack := next.stack.pop }
  may :
    ∀ {next : Machine} {reason : Halt},
      D.valid inner next → D.may inner reason →
        D.may level
          (reason.withCalls
            (next.stack.backtrace context.interner))

/- What a discipline has to survive. -/
structure Lawful
    (D : Discipline)
    (context : Context) : Prop where
  frame_mono :
    ∀ {before after : Machine} {scope : ObjectId},
      before.Evolves after → D.frame before scope →
        D.frame after scope
  fills_mono :
    ∀ {before after : Machine} {record : ObjectId},
      before.Evolves after → D.fills before record →
        D.fills after record
  holds_mono :
    ∀ {before after : Machine} {value : Value},
      before.Evolves after → D.holds before value →
        D.holds after value
  ready_mono :
    ∀ {level : D.Level} {before after : Machine}
      {line : Line} {target : Target},
      before.Evolves after →
        D.ready level before line target →
          D.ready level after line target
  congr :
    ∀ {level : D.Level} {machine next : Machine},
      D.valid level machine →
        next.heap = machine.heap →
          next.sites = machine.sites →
            next.stack = machine.stack →
              D.valid level next
  atom :
    ∀ (machine : Machine) {value : Value},
      value.object? = none → D.holds machine value
  lookup :
    ∀ {level : D.Level} {machine : Machine}
      {scope : ObjectId} (name : Name),
      D.valid level machine → D.frame machine scope →
        D.holds machine (machine.heap.lookup scope name)
  own :
    ∀ {level : D.Level} {machine : Machine} {id : ObjectId}
      (name : Name),
      D.valid level machine →
        D.holds machine (.object id) →
          D.holds machine
            ((machine.heap.own? id name).getD .undefined)
  define :
    ∀ {level : D.Level} {machine : Machine} {id : ObjectId}
      {value : Value} (name : Name),
      D.valid level machine →
        D.frame machine id ∨ D.fills machine id →
          D.holds machine value →
            D.valid level
              { machine with
                heap := machine.heap.define id name value }
  newRecord :
    ∀ {level : D.Level} {machine : Machine},
      D.valid level machine →
        D.valid level
            { machine with
              heap := machine.heap.newRecord.2 } ∧
          D.fills
              { machine with
                heap := machine.heap.newRecord.2 }
              machine.heap.newRecord.1 ∧
            D.holds
              { machine with
                heap := machine.heap.newRecord.2 }
              (.object machine.heap.newRecord.1)
  newScope :
    ∀ {level : D.Level} {machine : Machine} {line : Line}
      {target : Target} {scope : ObjectId},
      D.valid level machine →
        D.ready level machine line target →
          target.action.scope? = some scope →
            D.valid level
                { machine with
                  heap := (machine.heap.newScope
                    (some scope)).2 } ∧
              D.frame
                { machine with
                  heap := (machine.heap.newScope
                    (some scope)).2 }
                ⟨machine.heap.objects.size⟩
  walking :
    ∀ level, D.Governs context level .plain (D.walks level)
  executing :
    ∀ level,
      D.Governs context level .caching (D.executes level)
  raises :
    ∀ {level : D.Level} {machine : Machine} {line : Line}
      {target : Target} {cause : Cause},
      cause.Ordinary → D.ready level machine line target →
        D.may level (.failedAt cause line)
  host :
    ∀ {level : D.Level} {machine : Machine} {line : Line}
      {target : Target} {function : HostFunction}
      {receiver : Value} {args : List Value}
      (inner : Option Caller),
      D.valid level machine →
        D.ready level machine line target →
          target.action = .primitive (.host function) →
            D.holds machine receiver →
              (∀ arg ∈ args, D.holds machine arg) →
                D.Ends level D.holds
                  (Signal.lift
                    (Caller.around context inner target
                      receiver args line)
                    machine)
  exhausted : ∀ level, D.may level .exhausted
  full :
    ∀ {level : D.Level} {machine : Machine} {line : Line}
      {target : Target} {cause : Cause},
      D.valid level machine →
        D.ready level machine line target →
          machine.stack.push { callee := target.name, line }
              = .error cause →
            D.may level
              (.failed
                (((Failure.ofCause cause).locate
                  line).withCalls
                    (machine.stack.backtrace
                      context.interner)))
  enterWalked :
    ∀ {level : D.Level} {machine : Machine} {line : Line}
      {target : Target} {code : Code Unit} {scope : ObjectId}
      {stack : CallStack},
      D.valid level machine →
        D.ready level machine line target →
          target.action = .walked code scope →
            machine.stack.push
                { callee := target.name, line } =
                  .ok stack →
              ∃ inner,
                D.Enters context level inner machine stack ∧
                  ∀ expr ∈ code.body, D.walks inner expr
  enterLinked :
    ∀ {level : D.Level} {machine : Machine} {line : Line}
      {target : Target} {code : Code SiteId}
      {scope : ObjectId} {stack : CallStack},
      D.valid level machine →
        D.ready level machine line target →
          target.action = .linked code scope →
            machine.stack.push
                { callee := target.name, line } =
                  .ok stack →
              ∃ inner,
                D.Enters context level inner machine stack ∧
                  ∀ expr ∈ code.body, D.executes inner expr

end Discipline

end Scriptlet

------------------------------------------------------------
-- Ends of Sequences
------------------------------------------------------------

namespace Scriptlet

namespace Discipline

variable {D : Discipline}
variable {A B : Type}
variable {level : D.Level}
variable {gives : Machine → A → Prop}

namespace Ends

/- A machine is valid at the end of whatever kind. -/
theorem valid
    {result : EStateM.Result Signal Machine A}
    (hEnds : D.Ends level gives result) :
    D.valid level (Machine.after result) := by
  cases hEnds with
  | ok hValid _ => exact hValid
  | halt hValid _ => exact hValid
  | ret hValid _ _ => exact hValid

/-
  A sequence ends well if its first part does, and its rest
  does from wherever the first part gives an answer.
-/
theorem bind
    {further : Machine → B → Prop}
    {first : EvalM A}
    {rest : A → EvalM B}
    {machine : Machine}
    (hSteps : Stepwise first)
    (hFirst : D.Ends level gives (first machine))
    (hRest :
      ∀ answer next,
        machine.Evolves next → D.valid level next →
          gives next answer →
            D.Ends level further (rest answer next)) :
    D.Ends level further ((first >>= rest) machine) := by
  have hEvolves := hSteps machine
  rw [RunM.bind_apply]
  generalize first machine = result at *
  cases hFirst with
  | ok hValid hGives =>
      exact hRest _ _ hEvolves hValid hGives
  | halt hValid hMay => exact .halt hValid hMay
  | ret hValid hHolds hReturns =>
      exact .ret hValid hHolds hReturns

end Ends

end Discipline

end Scriptlet
