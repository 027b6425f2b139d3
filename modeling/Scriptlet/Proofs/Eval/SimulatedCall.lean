import Scriptlet.Proofs.Eval.SimulatedExpr

/-
  Calls under a simulation.

  Calls match at every depth for which the budgets fit. The
  argument is by induction on the left budget: the code of a
  call is evaluated one level deeper, where calls match by
  hypothesis, and between the push and the pop of the call
  the stacks stay alike.

  Key theorems include:
    * `Simulation.matched_leaveCall`
    * `Simulation.callsMatch_within`
-/

------------------------------------------------------------
-- Frames
------------------------------------------------------------

namespace Scriptlet

namespace Simulation

variable {P : Simulation}

/- Names are bound one after another on both sides. -/
theorem Lawful.defineAll
    (hP : P.Lawful)
    {id : ObjectId}
    (bindings : List (Name × Value))
    {left right : Machine}
    (hSimilar : P.similar left right)
    (hFrame : P.frame left id)
    (hHolds : ∀ binding ∈ bindings, P.holds left binding.2) :
    P.similar
        { left with
          heap := left.heap.defineAll id bindings }
        { right with
          heap := right.heap.defineAll id bindings } ∧
      P.frame
        { left with
          heap := left.heap.defineAll id bindings } id := by
  induction bindings generalizing left right with
  | nil => exact ⟨hSimilar, hFrame⟩
  | cons binding bindings ih =>
      rcases binding with ⟨name, value⟩
      have hStep := Machine.Evolves.single
        (.define left id name value)
      have hValue : P.holds left value :=
        hHolds (name, value) (by simp)
      have hNext := hP.define name hSimilar (.inl hFrame)
        hValue
      refine ih hNext (hP.frame_mono hStep hFrame) ?_
      intro other hOther
      exact hP.holds_mono hStep
        (hHolds other (List.mem_cons_of_mem _ hOther))

/- Frames are opened on both sides alike. -/
theorem Lawful.opened
    (hP : P.Lawful)
    {left right : Machine}
    {argc : Nat}
    {target : Target}
    {scope : ObjectId}
    {receiver : Value}
    {args : List Value}
    (this : Name)
    (params : List Name)
    (hSimilar : P.similar left right)
    (hReady : P.ready left argc target)
    (hScope : target.action.scope? = some scope)
    (hReceiver : P.holds left receiver)
    (hArgs : ∀ arg ∈ args, P.holds left arg) :
    P.similar
        (left.opened this scope params receiver args)
        (right.opened this scope params receiver args) ∧
      P.frame
        (left.opened this scope params receiver args)
        ⟨left.heap.objects.size⟩ := by
  rcases hP.enter hSimilar hReady hScope with
    ⟨hEntered, hFrame⟩
  have hNew := Machine.Evolves.single
    (.newObject left .scope (some scope))
  have hSize := hP.size_objects_eq hSimilar
  unfold Machine.opened
  rw [show (right.heap.newScope (some scope)).1 =
    (left.heap.newScope (some scope)).1 from
      congrArg ObjectId.mk hSize]
  apply hP.defineAll _ hEntered hFrame
  intro binding hBinding
  rcases List.mem_cons.mp hBinding with rfl | hBinding
  · exact hP.holds_mono hNew hReceiver
  · have hArg := (List.of_mem_zip hBinding).2
    exact hP.holds_mono hNew (hArgs _ hArg)

end Simulation

end Scriptlet

------------------------------------------------------------
-- Pushing and Popping
------------------------------------------------------------

namespace Scriptlet

namespace CallStack

/- At its limit a stack refuses one more call. -/
theorem push_of_limit
    {calls : List Activation}
    {bound : Nat}
    (hBound : bound ≤ calls.length)
    (call : Activation) :
    push { calls, limit := some bound } call =
      .error (.tooDeep bound) := by
  simp [push, depth, hBound]

/- Below its limit a stack takes one more call. -/
theorem push_of_not_atLimit
    {calls : List Activation}
    {limit : Option Nat}
    (hLimit : ¬AtLimit limit calls.length)
    (call : Activation) :
    push { calls, limit } call =
      .ok { calls := call :: calls, limit } := by
  cases limit with
  | none => rfl
  | some bound =>
      have hBelow : ¬bound ≤ calls.length :=
        fun hBound => hLimit ⟨bound, rfl, hBound⟩
      simp [push, depth, hBelow]

end CallStack

/- The result of a call as the result of an expression. -/
def Signal.liftResult
    {A : Type} :
    EStateM.Result Halt Machine A →
      EStateM.Result Signal Machine A
  | .ok answer machine => .ok answer machine
  | .error reason machine => .error (.halt reason) machine

theorem after_liftResult
    {A : Type}
    (result : EStateM.Result Halt Machine A) :
    Machine.after (Signal.liftResult result) =
      Machine.after result := by
  cases result <;> rfl

/- Lifting a call lifts its result. -/
theorem Signal.lift_apply
    {A : Type}
    (call : CallM A)
    (machine : Machine) :
    Signal.lift call machine =
      Signal.liftResult (call machine) := by
  unfold Signal.lift
  rw [RunM.adaptExcept_apply]
  cases call machine <;> rfl

namespace Simulation

variable {P : Simulation}
variable {calls : List Activation}

/- Both stacks end the same call. -/
theorem Lawful.pop
    (hP : P.Lawful)
    {call : Activation}
    {left right : Machine}
    (hAgree : P.Agree (call :: calls) left right) :
    P.Agree calls
      { left with stack := left.stack.pop }
      { right with stack := right.stack.pop } where
  similar := hP.restack _ _ hAgree.similar
  leftStack := by rw [hAgree.leftStack]; rfl
  rightStack := by rw [hAgree.rightStack]; rfl

/- Agreeing machines have the same active calls. -/
theorem Agree.backtrace
    {left right : Machine}
    (hAgree : P.Agree calls left right)
    (interner : Interner) :
    right.stack.backtrace interner =
      left.stack.backtrace interner := by
  rw [hAgree.leftStack, hAgree.rightStack]
  rfl

/- The machine that is left behind on the right. -/
theorem evolves_leaveCall
    (interner : Interner)
    (result : EStateM.Result Signal Machine Value) :
    (Machine.after result).Evolves
      (Machine.after
        (Signal.liftResult
          (leaveCall interner result))) := by
  cases result with
  | ok value next => exact .single (.restack next _)
  | error signal next =>
      cases signal with
      | ret value line => exact .single (.restack next _)
      | halt reason => exact .single (.restack next _)

/- Results that match inside a call match outside of it. -/
theorem matched_leaveCall
    (hP : P.Lawful)
    {call : Activation}
    {leftBudget rightBudget : Nat}
    {leftResult rightResult :
      EStateM.Result Signal Machine Value}
    (interner : Interner)
    (hFits :
      P.fits (calls.length + 1) leftBudget rightBudget)
    (hBody :
      P.Matched (call :: calls) P.Same leftResult
        rightResult) :
    P.Matched calls P.Same
      (Signal.liftResult (leaveCall interner leftResult))
      (Signal.liftResult
        (leaveCall interner rightResult)) := by
  cases hBody with
  | @ok left right value other hAgree hSame =>
      rcases hSame with ⟨rfl, hHolds⟩
      exact .ok (hP.pop hAgree)
        ⟨rfl, hP.holds_mono (.single (.restack _ _)) hHolds⟩
  | @error left right signal hAgree hFine =>
      cases signal with
      | ret value line =>
          exact .ok (hP.pop hAgree)
            ⟨rfl,
              hP.holds_mono (.single (.restack _ _)) hFine⟩
      | halt reason =>
          simp only [leaveCall, Signal.liftResult,
            hAgree.backtrace interner]
          exact .error (hP.pop hAgree)
            (hP.may_withCalls _ hFine)
  | @lost left reason result hLost =>
      have hLater := hP.lost_mono hLost
        (evolves_leaveCall interner rightResult)
      exact .lost
        (hP.lost_restack _
          (hP.lost_withCalls _ hFits hLater))

end Simulation

end Scriptlet

------------------------------------------------------------
-- Calls
------------------------------------------------------------

namespace Scriptlet

namespace Caller

/- Who runs the calls inside a call, within a budget. -/
def inner?
    (context : Context) :
    Nat → Option Caller
  | 0 => none
  | budget + 1 => some (within context budget)

/- What runs calls one level deeper takes steps. -/
theorem stepwise_inner?
    (context : Context)
    (budget : Nat) :
    ∀ call ∈ inner? context budget, call.Stepwise := by
  cases budget with
  | zero => simp [inner?]
  | succ budget =>
      simpa [inner?] using stepwise_within context budget

/- A budget pays for the call and for those inside it. -/
theorem within_eq
    (context : Context)
    (budget : Nat) :
    within context budget =
      around context (inner? context budget) := by
  cases budget <;> rfl

/- A primitive makes no calls of its own. -/
theorem around_primitive
    (context : Context)
    (inner : Option Caller)
    {target : Target}
    {primitive : Primitive}
    (hAction : target.action = .primitive primitive) :
    around context inner target =
      around context none target := by
  unfold around
  rw [hAction]

end Caller

namespace Simulation

variable {P : Simulation}
variable {calls : List Activation}
variable {context : Context}
variable {left right : Machine}

/- A call that does not fit the left stack. -/
theorem matched_activate_of_full
    (hP : P.Lawful)
    {leftBudget rightBudget bound : Nat}
    (hAgree : P.Agree calls left right)
    (hFits : P.fits calls.length leftBudget rightBudget)
    (hLimit : P.leftLimit = some bound)
    (hBound : bound ≤ calls.length)
    (callee : Name)
    (line : Line)
    (leftBody : EvalM Value)
    {rightBody : EvalM Value}
    (hRight : Stepwise rightBody) :
    P.Matched calls P.Same
      (Signal.lift
        (activate context.interner callee line leftBody)
        left)
      (Signal.lift
        (activate context.interner callee line rightBody)
        right) := by
  have hLeftPush :
      left.stack.push { callee, line } =
        .error (.tooDeep bound) := by
    rw [hAgree.leftStack, hLimit]
    exact CallStack.push_of_limit hBound _
  have hSteps := Stepwise.lift
    (Stepwise.activate context.interner callee line hRight)
    right
  rw [Signal.lift_apply, activate_apply, hLeftPush]
  rcases hP.full hFits hLimit hBound with
    ⟨hRightLimit, hMay⟩ | hLost
  · have hRightPush :
        right.stack.push { callee, line } =
          .error (.tooDeep bound) := by
      rw [hAgree.rightStack, hRightLimit]
      exact CallStack.push_of_limit hBound _
    rw [Signal.lift_apply, activate_apply, hRightPush,
      hAgree.backtrace]
    exact .error hAgree (hMay _ (by simp [Failure.ofCause]))
  · refine .lost (hP.lost_mono ?_ hSteps)
    refine hLost _ _ _ hAgree.similar
      (by simp [Failure.ofCause]) ?_
    rw [hAgree.leftStack]
    simp [Failure.withCalls, Failure.ofCause,
      CallStack.backtrace]

/- A call of code that is run by two engines. -/
theorem matched_code
    (hP : P.Lawful)
    {S T : Type}
    {pair : EnginePair S T}
    (hPair : pair.Lawful P)
    {leftBudget rightBudget : Nat}
    (hAgree : P.Agree calls left right)
    (hFits : P.fits calls.length leftBudget rightBudget)
    {frame : ObjectId}
    (hFrame : P.frame left frame)
    {body : List (Expr S)}
    (hServed : Expr.EveryCallAll pair.serves body)
    (callee : Name)
    (line : Line)
    (hInner :
      ∀ leftInner rightInner,
        leftBudget = leftInner + 1 →
          P.fits (calls.length + 1) leftInner rightInner →
            P.CallsMatch ({ callee, line } :: calls)
              (.within context leftInner)
              (.within context rightInner)) :
    P.Matched calls P.Same
      (Signal.lift
        (activate context.interner callee line
          (Caller.runCode context pair.left
            (Caller.inner? context leftBudget) body frame))
        left)
      (Signal.lift
        (activate context.interner callee line
          (Caller.runCode context pair.right
            (Caller.inner? context rightBudget)
            (Expr.mapSitesAll pair.mark body) frame))
        right) := by
  have hRightBody :
      Stepwise
        (Caller.runCode context pair.right
          (Caller.inner? context rightBudget)
          (Expr.mapSitesAll pair.mark body) frame) :=
    Caller.stepwise_runCode hPair.rightStepwise
      (Caller.stepwise_inner? context rightBudget) _ frame
  by_cases hFull : AtLimit P.leftLimit calls.length
  · rcases hFull with ⟨bound, hLimit, hBound⟩
    exact matched_activate_of_full hP hAgree hFits hLimit
      hBound callee line _ hRightBody
  have hLeftPush := CallStack.push_of_not_atLimit hFull
    { callee, line }
  have hRightPush := CallStack.push_of_not_atLimit
    (hP.room hFits hFull) { callee, line }
  rw [Signal.lift_apply, Signal.lift_apply, activate_apply,
    activate_apply, hAgree.leftStack, hAgree.rightStack,
    hLeftPush, hRightPush]
  simp only
  have hPushed :
      P.Agree ({ callee, line } :: calls)
        { left with
          stack :=
            { calls := { callee, line } :: calls
              limit := P.leftLimit } }
        { right with
          stack :=
            { calls := { callee, line } :: calls
              limit := P.rightLimit } } :=
    ⟨hP.restack _ _ hAgree.similar, rfl, rfl⟩
  rcases hP.nest hFits hFull with
    ⟨leftInner, rightInner, rfl, rfl, hDeeper⟩ |
      ⟨rfl, rfl, hMay⟩ | ⟨rfl, hLost⟩
  · apply matched_leaveCall hP context.interner hDeeper
    exact Expr.matched_evalBlock hP hPair
      (hInner leftInner rightInner rfl hDeeper)
      (Caller.stepwise_within context leftInner)
      (Caller.stepwise_within context rightInner) hPushed
      (hP.frame_mono (.single (.restack left _)) hFrame)
      body hServed
  · exact .error (hP.pop hPushed) hMay
  · -- Only the left run is out of budget: the right one may
    -- do anything from here on.
    have hCut := hLost _ _ hPushed.similar
    exact .lost
      (hP.lost_restack _
        (hP.lost_mono hCut
          ((hRightBody _).trans
            (evolves_leaveCall context.interner _))))

/- Calls match if the calls inside them do. -/
theorem callsMatch_of_inner
    (hP : P.Lawful)
    {leftBudget rightBudget : Nat}
    (hFits : P.fits calls.length leftBudget rightBudget)
    (hInner :
      ∀ call leftInner rightInner,
        leftBudget = leftInner + 1 →
          P.fits (calls.length + 1) leftInner rightInner →
            P.CallsMatch (call :: calls)
              (.within context leftInner)
              (.within context rightInner)) :
    P.CallsMatch calls (.within context leftBudget)
      (.within context rightBudget) := by
  intro target receiver args line left right hAgree hReady
    hReceiver hArgs
  rcases target with ⟨name, action⟩
  have hSize := hP.size_objects_eq hAgree.similar
  have hOpened scope params
      (hScope : action.scope? = some scope) :=
    hP.opened context.this params hAgree.similar hReady
      hScope hReceiver hArgs
  rw [Caller.within_eq, Caller.within_eq]
  cases action with
  | primitive primitive =>
      rw [Caller.around_primitive context _ rfl,
        Caller.around_primitive context _ rfl]
      exact hP.primitive context line hAgree hReady rfl
        hReceiver hArgs
  | walked code scope =>
      rcases hOpened scope code.params rfl with
        ⟨hSimilar, hFrame⟩
      have hBody := matched_code hP hP.walking
        (.of_similar hSimilar hAgree rfl rfl) hFits hFrame
        (Expr.everyCallAll_of_forall
          (fun _ _ => trivial) code.body) name line
        (hInner _)
      rw [EnginePair.walking, Expr.mapSitesAll_id] at hBody
      unfold View.imageTarget View.image Caller.around
      simp only [Signal.lift_bind]
      rw [RunM.bind_apply, RunM.bind_apply,
        Signal.lift_apply, Signal.lift_apply,
        openFrame_apply, openFrame_apply, hSize]
      exact hBody
  | linked code scope =>
      rcases hOpened scope code.params rfl with
        ⟨hSimilar, hFrame⟩
      have hBody := matched_code hP hP.executing
        (.of_similar hSimilar hAgree rfl rfl) hFits hFrame
        (hP.served hReady rfl) name line (hInner _)
      unfold View.imageTarget View.image
      simp only
      rw [hP.faithful]
      unfold Caller.around
      simp only [Signal.lift_bind]
      rw [RunM.bind_apply, RunM.bind_apply,
        Signal.lift_apply, Signal.lift_apply,
        openFrame_apply, openFrame_apply, hSize]
      exact hBody

/- Calls match at every depth for which the budgets fit. -/
theorem callsMatch_within
    (hP : P.Lawful)
    (leftBudget rightBudget : Nat)
    (calls : List Activation)
    (hFits : P.fits calls.length leftBudget rightBudget) :
    P.CallsMatch calls (.within context leftBudget)
      (.within context rightBudget) := by
  induction leftBudget generalizing rightBudget calls with
  | zero =>
      apply callsMatch_of_inner hP hFits
      intro call leftInner rightInner hZero
      omega
  | succ leftBudget ih =>
      apply callsMatch_of_inner hP hFits
      intro call leftInner rightInner hBudget hDeeper
      have hEq : leftBudget = leftInner := by omega
      subst hEq
      exact ih rightInner (call :: calls) hDeeper

end Simulation

end Scriptlet
