import Scriptlet.Proofs.Heap.MapFunctions
import Scriptlet.Proofs.Machine.Evolution
import Scriptlet.Proofs.Syntax.Annotation

/-
  Running two machines side by side.

  A simulation says how a machine on the left and a machine
  on the right may differ while programs are run on both. On
  the left, functions and trees are taken as they are; on
  the right, linked code may carry other annotations and may
  be run by another engine. The stacks may have different
  limits, and calls may be given different budgets, so a run
  on the left may be cut short; from there on nothing is
  asked of the right but what a cut run is owed.

  A simulation is lawful if it survives every step that
  running takes. This module states the laws and how two
  results match. The modules after it show that evaluation
  and calls match under every lawful simulation.

  Key definitions include:
    * `View`
    * `Simulation`
    * `Simulation.Agree`
    * `Simulation.Matched`
    * `Simulation.Lawful`

  Key theorems include:
    * `Simulation.Matched.bind`
-/

------------------------------------------------------------
-- Simulations
------------------------------------------------------------

namespace Scriptlet

/-
  What becomes of linked code on the right: `mark` changes
  its annotations, and `right` runs it.
-/
structure View where
  Mark : Type
  mark : SiteId → Mark
  right : Engine Mark

namespace View

variable (view : View)

/- What stands on the right for an action on the left. -/
def image : Action → Action
  | .primitive primitive => .primitive primitive
  | .walked code scope => .walked code scope
  | .linked code scope =>
      view.right.close (code.mapSites view.mark) scope

/- What stands on the right for a function on the left. -/
def imageFunction (function : Function) : Function :=
  { function with action := view.image function.action }

/- What stands on the right for a target on the left. -/
def imageTarget (target : Target) : Target :=
  { target with action := view.image target.action }

/- What stands on the right for a heap on the left. -/
def imageHeap (heap : Heap) : Heap :=
  heap.mapFunctions view.imageFunction

/- Functions keep their names, so values print the same. -/
theorem printed_imageHeap
    (heap : Heap)
    (interner : Interner)
    (value : Value) :
    (view.imageHeap heap).printed interner value =
      heap.printed interner value := by
  have hName function :
      (view.imageFunction function).name = function.name :=
    rfl
  exact Heap.printed_mapFunctions heap interner hName value

end View

/-
  How two machines may differ.

    * `similar` relates everything but the stacks.
    * `frame`, `holds` and `ready` say what is known on the
      left about the current scope, about every value that
      is handled, and about a target and the number of
      arguments that it is called with.
    * `serves` says which sites may stand at calls.
    * `fits` relates the depth and the two budgets.
    * `may` says how both runs may halt together, and `lost`
      what is owed where only the left one halts.
-/
structure Simulation extends View where
  leftLimit : Option Nat
  rightLimit : Option Nat
  similar : Machine → Machine → Prop
  frame : Machine → ObjectId → Prop
  holds : Machine → Value → Prop
  ready : Machine → Nat → Target → Prop
  serves : SiteId → Nat → Prop
  fits : Nat → Nat → Nat → Prop
  may : Halt → Prop
  lost : Halt → Machine → Machine → Prop

namespace Simulation

variable (P : Simulation)

/- Machines that are similar and have the same calls. -/
structure Agree
    (calls : List Activation)
    (left right : Machine) : Prop where
  similar : P.similar left right
  leftStack :
    left.stack = { calls, limit := P.leftLimit }
  rightStack :
    right.stack = { calls, limit := P.rightLimit }

/- Signals that may end an expression on both sides. -/
def Fine (machine : Machine) : Signal → Prop
  | .halt reason => P.may reason
  | .ret value _ => P.holds machine value

/-
  Two results that match: both gave related answers, or both
  stopped with the same signal, or the left run was cut.
-/
inductive Matched
    {A B : Type}
    (calls : List Activation)
    (related : Machine → A → B → Prop) :
    EStateM.Result Signal Machine A →
      EStateM.Result Signal Machine B → Prop where
  | ok
      {left right : Machine}
      {answer : A}
      {other : B}
      (hAgree : P.Agree calls left right)
      (hRelated : related left answer other) :
      Matched calls related (.ok answer left)
        (.ok other right)
  | error
      {left right : Machine}
      {signal : Signal}
      (hAgree : P.Agree calls left right)
      (hFine : P.Fine left signal) :
      Matched calls related (.error signal left)
        (.error signal right)
  | lost
      {left : Machine}
      {reason : Halt}
      {result : EStateM.Result Signal Machine B}
      (hLost : P.lost reason left (Machine.after result)) :
      Matched calls related (.error (.halt reason) left)
        result

/- The same value on both sides, and one that holds. -/
def Same
    (machine : Machine)
    (value other : Value) : Prop :=
  value = other ∧ P.holds machine value

/- The image of a target that is ready for its arguments. -/
def Resolved
    (argc : Nat)
    (machine : Machine)
    (target other : Target) : Prop :=
  other = P.imageTarget target ∧
    P.ready machine argc target

/- Callers under which calls match. -/
def CallsMatch
    (calls : List Activation)
    (leftCall rightCall : Caller) : Prop :=
  ∀ target receiver args line left right,
    P.Agree calls left right →
      P.ready left args.length target →
        P.holds left receiver →
          (∀ arg ∈ args, P.holds left arg) →
            P.Matched calls P.Same
              (Signal.lift
                (leftCall target receiver args line) left)
              (Signal.lift
                (rightCall (P.imageTarget target) receiver
                  args line)
                right)

end Simulation

/- Engines that are run side by side on marked trees. -/
structure EnginePair (S T : Type) where
  left : Engine S
  right : Engine T
  mark : S → T
  serves : S → Nat → Prop

/- The engines that run code which is walked. -/
def EnginePair.walking : EnginePair Unit Unit where
  left := .plain
  right := .plain
  mark := id
  serves _ _ := True

/- The engines that run code which is linked on the left. -/
def Simulation.executing
    (P : Simulation) :
    EnginePair SiteId P.Mark where
  left := .caching
  right := P.right
  mark := P.mark
  serves := P.serves

end Scriptlet

------------------------------------------------------------
-- Laws
------------------------------------------------------------

namespace Scriptlet

/- Whether a stack of a depth has reached a limit. -/
def AtLimit (limit : Option Nat) (depth : Nat) : Prop :=
  ∃ bound, limit = some bound ∧ bound ≤ depth

/- The scope that an action runs its code in. -/
def Action.scope? : Action → Option ObjectId
  | .primitive _ => none
  | .walked _ scope => some scope
  | .linked _ scope => some scope

/- An engine whose functions run their code with it. -/
def Engine.Faithful {S : Type} (engine : Engine S) : Prop :=
  ∀ context inner name code scope receiver args line,
    Caller.around context inner
        ⟨name, engine.close code scope⟩ receiver args line =
      (do
        let frame ← openFrame context.this scope
          code.params receiver args
        activate context.interner name line
          (Caller.runCode context engine inner code.body
            frame))

/- What two engines owe each other. -/
structure EnginePair.Lawful
    {S T : Type}
    (pair : EnginePair S T)
    (P : Simulation) : Prop where
  leftStepwise : pair.left.Stepwise
  rightStepwise : pair.right.Stepwise
  close :
    ∀ {left right : Machine} {scope : ObjectId}
      {code : Code S} (name : Name),
      P.similar left right → P.frame left scope →
        Expr.EveryCallAll pair.serves code.body →
          P.similar
              { left with
                heap := (left.heap.newFunction
                  { name
                    arity := .fixed code.params.length
                    action := pair.left.close code
                      scope }).2 }
              { right with
                heap := (right.heap.newFunction
                  { name
                    arity := .fixed code.params.length
                    action := pair.right.close
                      (code.mapSites pair.mark)
                      scope }).2 } ∧
            P.holds
              { left with
                heap := (left.heap.newFunction
                  { name
                    arity := .fixed code.params.length
                    action := pair.left.close code
                      scope }).2 }
              (.function ⟨left.heap.functions.size⟩)
  resolve :
    ∀ {calls : List Activation} {left right : Machine}
      {site : S} {callee : FunctionId} {argc : Nat}
      (interner : Interner) (line : Line),
      pair.serves site argc → P.Agree calls left right →
        P.holds left (.function callee) →
          P.Matched calls (P.Resolved argc)
            (Signal.lift
              (pair.left.resolve interner site callee argc
                line)
              left)
            (Signal.lift
              (pair.right.resolve interner (pair.mark site)
                callee argc line)
              right)

/- What a simulation has to survive. -/
structure Simulation.Lawful (P : Simulation) : Prop where
  heap :
    ∀ {left right : Machine},
      P.similar left right →
        right.heap = P.imageHeap left.heap
  restack :
    ∀ {left right : Machine}
      (leftStack rightStack : CallStack),
      P.similar left right →
        P.similar { left with stack := leftStack }
          { right with stack := rightStack }
  frame_mono :
    ∀ {before after : Machine} {scope : ObjectId},
      before.Evolves after → P.frame before scope →
        P.frame after scope
  holds_mono :
    ∀ {before after : Machine} {value : Value},
      before.Evolves after → P.holds before value →
        P.holds after value
  literal :
    ∀ (machine : Machine) (literal : Literal),
      P.holds machine (.ofLiteral literal)
  lookup :
    ∀ {left right : Machine} {scope : ObjectId}
      (name : Name),
      P.similar left right → P.frame left scope →
        P.holds left (left.heap.lookup scope name)
  own :
    ∀ {left right : Machine} {id : ObjectId} (name : Name),
      P.similar left right → P.holds left (.object id) →
        P.holds left
          ((left.heap.own? id name).getD .undefined)
  define :
    ∀ {left right : Machine} {id : ObjectId} {value : Value}
      (name : Name),
      P.similar left right →
        P.frame left id ∨ P.holds left (.object id) →
          P.holds left value →
            P.similar
              { left with
                heap := left.heap.define id name value }
              { right with
                heap := right.heap.define id name value }
  newRecord :
    ∀ {left right : Machine},
      P.similar left right →
        P.similar
            { left with heap := left.heap.newRecord.2 }
            { right with heap := right.heap.newRecord.2 } ∧
          P.holds
            { left with heap := left.heap.newRecord.2 }
            (.object ⟨left.heap.objects.size⟩)
  walking : EnginePair.walking.Lawful P
  executing : P.executing.Lawful P
  faithful : P.right.Faithful
  primitive :
    ∀ {calls : List Activation} {left right : Machine}
      {target : Target} {primitive : Primitive}
      {receiver : Value} {args : List Value}
      (context : Context) (line : Line),
      P.Agree calls left right →
        P.ready left args.length target →
          target.action = .primitive primitive →
            P.holds left receiver →
              (∀ arg ∈ args, P.holds left arg) →
                P.Matched calls P.Same
                  (Signal.lift
                    (Caller.around context none target
                      receiver args line)
                    left)
                  (Signal.lift
                    (Caller.around context none target
                      receiver args line)
                    right)
  enter :
    ∀ {left right : Machine} {argc : Nat} {target : Target}
      {scope : ObjectId},
      P.similar left right → P.ready left argc target →
        target.action.scope? = some scope →
          P.similar
              { left with
                heap :=
                  (left.heap.newScope (some scope)).2 }
              { right with
                heap :=
                  (right.heap.newScope (some scope)).2 } ∧
            P.frame
              { left with
                heap :=
                  (left.heap.newScope (some scope)).2 }
              ⟨left.heap.objects.size⟩
  served :
    ∀ {left : Machine} {argc : Nat} {target : Target}
      {code : Code SiteId} {scope : ObjectId},
      P.ready left argc target →
        target.action = .linked code scope →
          Expr.EveryCallAll P.serves code.body
  may_failedAt :
    ∀ (cause : Cause) (line : Line),
      (∀ depth, cause ≠ .tooDeep depth) →
        P.may (.failedAt cause line)
  may_withCalls :
    ∀ {reason : Halt} (backtrace : Backtrace),
      P.may reason → P.may (reason.withCalls backtrace)
  room :
    ∀ {depth leftBudget rightBudget : Nat},
      P.fits depth leftBudget rightBudget →
        ¬AtLimit P.leftLimit depth →
          ¬AtLimit P.rightLimit depth
  nest :
    ∀ {depth leftBudget rightBudget : Nat},
      P.fits depth leftBudget rightBudget →
        ¬AtLimit P.leftLimit depth →
          (∃ leftInner rightInner,
              leftBudget = leftInner + 1 ∧
                rightBudget = rightInner + 1 ∧
                  P.fits (depth + 1) leftInner
                    rightInner) ∨
            (leftBudget = 0 ∧ rightBudget = 0 ∧
                P.may .exhausted) ∨
              (leftBudget = 0 ∧
                ∀ left right, P.similar left right →
                  P.lost .exhausted left right)
  full :
    ∀ {depth leftBudget rightBudget bound : Nat},
      P.fits depth leftBudget rightBudget →
        P.leftLimit = some bound → bound ≤ depth →
          (P.rightLimit = some bound ∧
              ∀ failure : Failure,
                failure.cause = .tooDeep bound →
                  P.may (.failed failure)) ∨
            ∀ (left right : Machine) (failure : Failure),
              P.similar left right →
                failure.cause = .tooDeep bound →
                  failure.backtrace.length = depth →
                    P.lost (.failed failure) left right
  lost_mono :
    ∀ {reason : Halt} {left right later : Machine},
      P.lost reason left right → right.Evolves later →
        P.lost reason left later
  lost_restack :
    ∀ {reason : Halt} {left right : Machine}
      (stack : CallStack),
      P.lost reason left right →
        P.lost reason { left with stack } right
  lost_withCalls :
    ∀ {reason : Halt} {left right : Machine}
      {depth leftBudget rightBudget : Nat}
      (backtrace : Backtrace),
      P.fits (depth + 1) leftBudget rightBudget →
        P.lost reason left right →
          P.lost (reason.withCalls backtrace) left right

end Scriptlet

------------------------------------------------------------
-- Matching Sequences
------------------------------------------------------------

namespace Scriptlet

namespace Simulation

variable {P : Simulation}

namespace Matched

variable {A B C D : Type}
variable {calls : List Activation}
variable {related : Machine → A → B → Prop}
variable {further : Machine → C → D → Prop}
variable {left right : Machine}

/-
  Sequences match if their first parts do, and their rests
  do from wherever the first parts agree on an answer. The
  right run may go on where the left one was cut.
-/
theorem bind
    (hP : P.Lawful)
    {leftFirst : EvalM A}
    {rightFirst : EvalM B}
    {leftRest : A → EvalM C}
    {rightRest : B → EvalM D}
    (hLeft : Stepwise leftFirst)
    (hRight : ∀ other, Stepwise (rightRest other))
    (hFirst :
      P.Matched calls related (leftFirst left)
        (rightFirst right))
    (hRest :
      ∀ answer other leftNext rightNext,
        left.Evolves leftNext →
          P.Agree calls leftNext rightNext →
            related leftNext answer other →
              P.Matched calls further
                (leftRest answer leftNext)
                (rightRest other rightNext)) :
    P.Matched calls further
      ((leftFirst >>= leftRest) left)
      ((rightFirst >>= rightRest) right) := by
  have hEvolves := hLeft left
  rw [RunM.bind_apply, RunM.bind_apply]
  generalize leftFirst left = leftResult at *
  generalize rightFirst right = rightResult at *
  cases hFirst with
  | ok hAgree hRelated =>
      exact hRest _ _ _ _ hEvolves hAgree hRelated
  | error hAgree hFine => exact .error hAgree hFine
  | lost hLost =>
      cases rightResult with
      | ok other next =>
          exact .lost
            (hP.lost_mono hLost (hRight other next))
      | error signal next => exact .lost hLost

end Matched

/- Agreement survives a change that keeps the stacks. -/
theorem Agree.of_similar
    {calls : List Activation}
    {left right leftNext rightNext : Machine}
    (hSimilar : P.similar leftNext rightNext)
    (hAgree : P.Agree calls left right)
    (hLeft : leftNext.stack = left.stack)
    (hRight : rightNext.stack = right.stack) :
    P.Agree calls leftNext rightNext where
  similar := hSimilar
  leftStack := hLeft.trans hAgree.leftStack
  rightStack := hRight.trans hAgree.rightStack

end Simulation

end Scriptlet
