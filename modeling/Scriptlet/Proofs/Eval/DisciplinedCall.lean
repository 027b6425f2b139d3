import Scriptlet.Proofs.Eval.DisciplinedExpr
import Scriptlet.Proofs.Value.Operator

/-
  Calls under a discipline.

  A call of a ready target ends as the discipline says. For
  a primitive that is built in, this is read off what it
  does, and for any other it is one of the laws. Code is run
  on a level of its own, between a push and a pop of the
  call stack, and the calls inside of it end as they should
  by induction on the budget.

  Key theorems include:
    * `Discipline.Lawful.primitive`
    * `Discipline.ends_activate`
    * `Discipline.obeys_within`
-/

------------------------------------------------------------
-- Primitives
------------------------------------------------------------

namespace Scriptlet

namespace Discipline

variable {D : Discipline}
variable {context : Context}
variable {level : D.Level}
variable {machine : Machine}
variable {target : Target}
variable {line : Line}
variable {receiver : Value}
variable {args : List Value}

/- Primitives keep discipline, built in or not. -/
theorem Lawful.primitive
    (hD : D.Lawful context)
    {primitive : Primitive}
    (hValid : D.valid level machine)
    (hReady : D.ready level machine line target)
    (hAction : target.action = .primitive primitive)
    (hReceiver : D.holds machine receiver)
    (hArgs : ∀ arg ∈ args, D.holds machine arg)
    (inner : Option Caller) :
    D.Ends level D.holds
      (Signal.lift
        (Caller.around context inner target receiver args
          line)
        machine) := by
  cases primitive with
  | host function =>
      exact hD.host inner hValid hReady hAction hReceiver
        hArgs
  | print =>
      rw [Signal.lift_apply]
      unfold Caller.around
      rw [hAction]
      simp only [Primitive.call]
      rw [RunM.adaptExcept_apply, Primitive.printLine_apply]
      exact .ok (hD.congr hValid rfl rfl rfl)
        (hD.atom _ rfl)
  | operator op =>
      rw [Signal.lift_apply]
      unfold Caller.around
      rw [hAction]
      simp only [Primitive.call]
      cases hApply : op.apply args with
      | ok value =>
          rcases Operator.eq_int_of_apply hApply with
            ⟨count, rfl⟩
          exact .ok hValid (hD.atom machine rfl)
      | error cause =>
          exact .halt hValid
            (hD.raises (Operator.ordinary_of_apply hApply)
              hReady)

end Discipline

end Scriptlet

------------------------------------------------------------
-- Frames
------------------------------------------------------------

namespace Scriptlet

namespace Discipline

variable {D : Discipline}
variable {context : Context}
variable {level : D.Level}

/- Names are bound in a frame one after another. -/
theorem Lawful.defineAll
    (hD : D.Lawful context)
    {id : ObjectId}
    (bindings : List (Name × Value))
    {machine : Machine}
    (hValid : D.valid level machine)
    (hFrame : D.frame machine id)
    (hHolds :
      ∀ binding ∈ bindings, D.holds machine binding.2) :
    D.valid level
        { machine with
          heap := machine.heap.defineAll id bindings } ∧
      D.frame
        { machine with
          heap := machine.heap.defineAll id bindings }
        id := by
  induction bindings generalizing machine with
  | nil => exact ⟨hValid, hFrame⟩
  | cons binding bindings ih =>
      rcases binding with ⟨name, value⟩
      have hStep := Machine.Evolves.single
        (.define machine id name value)
      have hValue : D.holds machine value :=
        hHolds (name, value) List.mem_cons_self
      refine ih
        (hD.define name hValid (.inl hFrame) hValue)
        (hD.frame_mono hStep hFrame) ?_
      intro other hOther
      exact hD.holds_mono hStep
        (hHolds other (List.mem_cons_of_mem _ hOther))

/- A frame is opened for a call of a ready target. -/
theorem Lawful.opened
    (hD : D.Lawful context)
    {machine : Machine}
    {line : Line}
    {target : Target}
    {scope : ObjectId}
    {receiver : Value}
    {args : List Value}
    (params : List Name)
    (hValid : D.valid level machine)
    (hReady : D.ready level machine line target)
    (hScope : target.action.scope? = some scope)
    (hReceiver : D.holds machine receiver)
    (hArgs : ∀ arg ∈ args, D.holds machine arg) :
    D.valid level
        (machine.opened context.this scope params receiver
          args) ∧
      D.frame
          (machine.opened context.this scope params receiver
            args)
          ⟨machine.heap.objects.size⟩ ∧
        D.ready level
          (machine.opened context.this scope params receiver
            args)
          line target := by
  have hSteps := Stepwise.openFrame context.this scope
    params receiver args machine
  have hNew := Machine.Evolves.single
    (.newObject machine .scope (some scope))
  rcases hD.newScope hValid hReady hScope with
    ⟨hMade, hFrame⟩
  have hBound :
      ∀ binding ∈ (context.this, receiver) ::
          params.zip args,
        D.holds
          { machine with
            heap := (machine.heap.newScope (some scope)).2 }
          binding.2 := by
    intro binding hBinding
    rcases List.mem_cons.mp hBinding with rfl | hBinding
    · exact hD.holds_mono hNew hReceiver
    · have hArg := (List.of_mem_zip hBinding).2
      exact hD.holds_mono hNew (hArgs _ hArg)
  rcases hD.defineAll _ hMade hFrame hBound with
    ⟨hOpened, hInside⟩
  exact ⟨hOpened, hInside, hD.ready_mono hSteps hReady⟩

end Discipline

end Scriptlet

------------------------------------------------------------
-- Calls
------------------------------------------------------------

namespace Scriptlet

namespace Discipline

variable {D : Discipline}
variable {context : Context}
variable {level inner : D.Level}
variable {machine : Machine}
variable {target : Target}
variable {line : Line}

/- What code leaves inside, its call leaves outside. -/
theorem ends_leaveCall
    (hD : D.Lawful context)
    {stack : CallStack}
    (hEnters : D.Enters context level inner machine stack)
    {result : EStateM.Result Signal Machine Value}
    (hBody : D.Ends inner D.holds result) :
    D.Ends level D.holds
      (Signal.liftResult
        (leaveCall context.interner result)) := by
  cases hBody with
  | @ok next value hValid hHolds =>
      have hPop := Machine.Evolves.single
        (.restack next next.stack.pop)
      exact .ok (hEnters.leave hValid)
        (hD.holds_mono hPop hHolds)
  | @halt next reason hValid hMay =>
      exact .halt (hEnters.leave hValid)
        (hEnters.may hValid hMay)
  | @ret next value line hValid hHolds hReturns =>
      have hPop := Machine.Evolves.single
        (.restack next next.stack.pop)
      exact .ok (hEnters.leave hValid)
        (hD.holds_mono hPop hHolds)

/- A call ends well if its code does, once that runs. -/
theorem ends_activate
    (hD : D.Lawful context)
    (hValid : D.valid level machine)
    (hReady : D.ready level machine line target)
    {body : EvalM Value}
    (hBody :
      ∀ stack,
        machine.stack.push
            { callee := target.name, line } = .ok stack →
          ∃ inner,
            D.Enters context level inner machine stack ∧
              D.Ends inner D.holds
                (body { machine with stack })) :
    D.Ends level D.holds
      (Signal.lift
        (activate context.interner target.name line body)
        machine) := by
  rw [Signal.lift_apply, activate_apply]
  cases hPush :
      machine.stack.push { callee := target.name, line } with
  | error cause =>
      exact .halt hValid (hD.full hValid hReady hPush)
  | ok stack =>
      rcases hBody stack hPush with
        ⟨inner, hEnters, hEnds⟩
      exact ends_leaveCall hD hEnters hEnds

/- Code runs if calls may nest any deeper. -/
theorem ends_runCode
    (hD : D.Lawful context)
    {S : Type}
    {engine : Engine S}
    {code : Expr S → Prop}
    (hEngine : D.Governs context level engine code)
    {call? : Option Caller}
    (hCalls :
      ∀ call ∈ call?, D.Obeys call ∧ call.Stepwise)
    (hValid : D.valid level machine)
    {frame : ObjectId}
    (hFrame : D.frame machine frame)
    (body : List (Expr S))
    (hBody : ∀ expr ∈ body, code expr) :
    D.Ends level D.holds
      (Caller.runCode context engine call? body frame
        machine) := by
  cases call? with
  | none => exact .halt hValid (hD.exhausted level)
  | some call =>
      rcases hCalls call rfl with ⟨hCall, hSteps⟩
      exact Expr.ends_evalBlock hD hEngine hCall hSteps
        hValid hFrame body hBody

/-
  A call of code: a frame is opened, and the code is run in
  it on the level that it is entered on.
-/
theorem ends_code
    (hD : D.Lawful context)
    {S : Type}
    {engine : Engine S}
    {code : D.Level → Expr S → Prop}
    (hEngine :
      ∀ inner, D.Governs context inner engine (code inner))
    {call? : Option Caller}
    (hCalls :
      ∀ call ∈ call?, D.Obeys call ∧ call.Stepwise)
    (hValid : D.valid level machine)
    (hReady : D.ready level machine line target)
    {scope : ObjectId}
    (hScope : target.action.scope? = some scope)
    {receiver : Value}
    {args : List Value}
    (hReceiver : D.holds machine receiver)
    (hArgs : ∀ arg ∈ args, D.holds machine arg)
    (params : List Name)
    {body : List (Expr S)}
    (hEnter :
      ∀ {machine : Machine} {stack : CallStack},
        D.valid level machine →
          D.ready level machine line target →
            machine.stack.push
                { callee := target.name, line } =
                  .ok stack →
              ∃ inner,
                D.Enters context level inner machine stack ∧
                  ∀ expr ∈ body, code inner expr) :
    D.Ends level D.holds
      (Signal.lift
        (do
          let frame ← openFrame context.this scope params
            receiver args
          activate context.interner target.name line
            (Caller.runCode context engine call? body
              frame))
        machine) := by
  rcases hD.opened params hValid hReady hScope hReceiver
      hArgs with
    ⟨hOpened, hFrame, hStill⟩
  rw [Signal.lift_bind, RunM.bind_apply, Signal.lift_apply,
    openFrame_apply]
  apply ends_activate hD hOpened hStill
  intro stack hPush
  rcases hEnter hOpened hStill hPush with
    ⟨inner, hEnters, hBody⟩
  have hRestack := Machine.Evolves.single
    (.restack (machine.opened context.this scope params
      receiver args) stack)
  exact ⟨inner, hEnters,
    ends_runCode hD (hEngine inner) hCalls hEnters.valid
      (hD.frame_mono hRestack hFrame) body hBody⟩

/- Calls end well if the calls inside them do. -/
theorem obeys_around
    (hD : D.Lawful context)
    {call? : Option Caller}
    (hCalls :
      ∀ call ∈ call?, D.Obeys call ∧ call.Stepwise) :
    D.Obeys (Caller.around context call?) := by
  intro level target receiver args line machine hValid
    hReady hReceiver hArgs
  cases hAction : target.action with
  | primitive primitive =>
      exact hD.primitive hValid hReady hAction hReceiver
        hArgs call?
  | walked code scope =>
      unfold Caller.around
      rw [hAction]
      exact ends_code hD hD.walking hCalls hValid hReady
        (by rw [hAction]; rfl) hReceiver hArgs code.params
        fun hNext hStill =>
          hD.enterWalked hNext hStill hAction
  | linked code scope =>
      unfold Caller.around
      rw [hAction]
      exact ends_code hD hD.executing hCalls hValid hReady
        (by rw [hAction]; rfl) hReceiver hArgs code.params
        fun hNext hStill =>
          hD.enterLinked hNext hStill hAction

/- Calls end well, however deep they may nest. -/
theorem obeys_within
    (hD : D.Lawful context)
    (budget : Nat) :
    D.Obeys (.within context budget) := by
  induction budget with
  | zero => exact obeys_around hD (by simp)
  | succ budget ih =>
      have hSteps := Caller.stepwise_within context budget
      exact obeys_around hD (by simpa using ⟨ih, hSteps⟩)

end Discipline

end Scriptlet
