import Scriptlet.Proofs.Eval.Simulation

/-
  Expressions under a simulation.

  If calls match, so does the evaluation of every expression
  whose call nodes are served. The argument follows the
  shape of the expression: every part is evaluated on both
  sides, and each check and each binding between two parts
  reads and writes the same on both sides.

  Key theorems include:
    * `Expr.matched_eval`
    * `Expr.matched_evalBlock`
-/

------------------------------------------------------------
-- Checks and Bindings
------------------------------------------------------------

namespace Scriptlet

namespace Simulation

variable {P : Simulation}
variable {calls : List Activation}
variable {left right : Machine}

/- Both sides have equally many objects. -/
theorem Lawful.size_objects_eq
    (hP : P.Lawful)
    (hSimilar : P.similar left right) :
    right.heap.objects.size = left.heap.objects.size := by
  rw [hP.heap hSimilar]
  rfl

/- Values print the same on both sides. -/
theorem Lawful.printed
    (hP : P.Lawful)
    (hSimilar : P.similar left right)
    (interner : Interner)
    (value : Value) :
    right.heap.printed interner value =
      left.heap.printed interner value := by
  rw [hP.heap hSimilar]
  exact P.printed_imageHeap left.heap interner value

/- A failure of the program matches itself. -/
theorem Lawful.matched_failedAt
    (hP : P.Lawful)
    (hAgree : P.Agree calls left right)
    {A B : Type}
    {related : Machine → A → B → Prop}
    (cause : Cause)
    (line : Line)
    (hCause : ∀ depth, cause ≠ .tooDeep depth) :
    P.Matched calls related
      (.error (.halt (.failedAt cause line)) left)
      (.error (.halt (.failedAt cause line)) right) :=
  .error hAgree (hP.may_failedAt cause line hCause)

/- A function is expected on both sides alike. -/
theorem matched_expectFunction
    (hP : P.Lawful)
    (hAgree : P.Agree calls left right)
    (interner : Interner)
    {value : Value}
    (hHolds : P.holds left value)
    (line : Line) :
    P.Matched calls
      (fun machine id other =>
        id = other ∧ P.holds machine (.function id))
      (EvalM.expectFunction interner value line left)
      (EvalM.expectFunction interner value line right) := by
  rw [EvalM.expectFunction_apply,
    EvalM.expectFunction_apply,
    hP.printed hAgree.similar]
  cases value with
  | function id => exact .ok hAgree ⟨rfl, hHolds⟩
  | _ =>
      exact hP.matched_failedAt hAgree _ line (by simp)

/- An object is expected on both sides alike. -/
theorem matched_expectObject
    (hP : P.Lawful)
    (hAgree : P.Agree calls left right)
    (interner : Interner)
    {value : Value}
    (hHolds : P.holds left value)
    (line : Line) :
    P.Matched calls
      (fun machine id other =>
        id = other ∧ P.holds machine (.object id))
      (EvalM.expectObject interner value line left)
      (EvalM.expectObject interner value line right) := by
  rw [EvalM.expectObject_apply, EvalM.expectObject_apply,
    hP.printed hAgree.similar]
  cases value with
  | object id => exact .ok hAgree ⟨rfl, hHolds⟩
  | _ =>
      exact hP.matched_failedAt hAgree _ line (by simp)

/- An object has the same fields on both sides. -/
theorem matched_own
    (hP : P.Lawful)
    (hAgree : P.Agree calls left right)
    {object : ObjectId}
    (hObject : P.holds left (.object object))
    (name : Name) :
    P.Matched calls
      (fun machine field other =>
        field = other ∧
          P.holds machine (field.getD .undefined))
      ((Machine.askHeap fun heap =>
        heap.own? object name : EvalM _) left)
      ((Machine.askHeap fun heap =>
        heap.own? object name : EvalM _) right) := by
  refine .ok hAgree
    ⟨?_, hP.own name hAgree.similar hObject⟩
  rw [hP.heap hAgree.similar]
  rfl

/- A name is bound on both sides alike. -/
theorem matched_define
    (hP : P.Lawful)
    (hAgree : P.Agree calls left right)
    {id : ObjectId}
    {value : Value}
    (hObject : P.frame left id ∨ P.holds left (.object id))
    (hHolds : P.holds left value)
    (name : Name) :
    P.Matched calls (fun _ _ _ => True)
      (Machine.define id name value left)
      (Machine.define id name value right) :=
  .ok
    (.of_similar
      (hP.define name hAgree.similar hObject hHolds)
      hAgree rfl rfl)
    trivial

/- A variable is bound, or refused, on both sides alike. -/
theorem matched_bindLocal
    (hP : P.Lawful)
    (hAgree : P.Agree calls left right)
    (interner : Interner)
    {scope : ObjectId}
    {value : Value}
    (hFrame : P.frame left scope)
    (hHolds : P.holds left value)
    (declares : Bool)
    (name : Name)
    (line : Line) :
    P.Matched calls P.Same
      (EvalM.bindLocal interner scope declares name value
        line left)
      (EvalM.bindLocal interner scope declares name value
        line right) := by
  have hVisible :
      right.heap.inScope scope name =
        left.heap.inScope scope name := by
    rw [hP.heap hAgree.similar]
    exact Heap.inScope_mapFunctions _ _ scope name
  rw [EvalM.bindLocal_apply, EvalM.bindLocal_apply,
    hVisible]
  split
  · exact hP.matched_failedAt hAgree _ line (by simp)
  · have hKept := hP.holds_mono
      (.single (.define left scope name value)) hHolds
    exact .ok
      (.of_similar
        (hP.define name hAgree.similar (.inl hFrame) hHolds)
        hAgree rfl rfl)
      ⟨rfl, hKept⟩

/- A literal becomes the same function on both sides. -/
theorem matched_makeFunction
    (hP : P.Lawful)
    {S T : Type}
    {pair : EnginePair S T}
    (hPair : pair.Lawful P)
    (hAgree : P.Agree calls left right)
    (context : Context)
    {scope : ObjectId}
    {code : Code S}
    (hFrame : P.frame left scope)
    (hServed : Expr.EveryCallAll pair.serves code.body) :
    P.Matched calls P.Same
      (EvalM.makeFunction context pair.left scope code left)
      (EvalM.makeFunction context pair.right scope
        (code.mapSites pair.mark) right) := by
  have hSize :
      right.heap.functions.size =
        left.heap.functions.size := by
    rw [hP.heap hAgree.similar]
    exact Heap.size_functions_mapFunctions _ _
  rcases hPair.close (code.name.getD context.lambda)
      hAgree.similar hFrame hServed with
    ⟨hSimilar, hHolds⟩
  have hMade := Agree.of_similar hSimilar hAgree rfl rfl
  rw [EvalM.makeFunction_apply, EvalM.makeFunction_apply,
    hSize]
  rcases code with ⟨name, params, body, writtenAt⟩
  cases name with
  | none => exact .ok hMade ⟨rfl, hHolds⟩
  | some name =>
      have hFrameMade function := hP.frame_mono
        (.single (.newFunction left function)) hFrame
      have hKept value := hP.holds_mono
        (.single (.define _ scope name value)) hHolds
      exact .ok
        (.of_similar
          (hP.define name hSimilar (.inl (hFrameMade _))
            hHolds)
          hMade rfl rfl)
        ⟨rfl, hKept _⟩

end Simulation

end Scriptlet

------------------------------------------------------------
-- Calls From Expressions
------------------------------------------------------------

namespace Scriptlet

namespace Simulation

variable {P : Simulation}
variable {calls : List Activation}
variable {left right : Machine}
variable {S T : Type}
variable {pair : EnginePair S T}
variable {leftCall rightCall : Caller}

/- Resolving a callee and calling it. -/
theorem matched_dispatch
    (hP : P.Lawful)
    (hPair : pair.Lawful P)
    (hCall : P.CallsMatch calls leftCall rightCall)
    (hRightCall : rightCall.Stepwise)
    (hAgree : P.Agree calls left right)
    (interner : Interner)
    {site : S}
    {callee : FunctionId}
    {receiver : Value}
    {args : List Value}
    (hServed : pair.serves site args.length)
    (hCallee : P.holds left (.function callee))
    (hReceiver : P.holds left receiver)
    (hArgs : ∀ arg ∈ args, P.holds left arg)
    (line : Line) :
    P.Matched calls P.Same
      (Signal.lift
        (do
          let target ← pair.left.resolve interner site
            callee args.length line
          leftCall target receiver args line)
        left)
      (Signal.lift
        (do
          let target ← pair.right.resolve interner
            (pair.mark site) callee args.length line
          rightCall target receiver args line)
        right) := by
  rw [Signal.lift_bind, Signal.lift_bind]
  apply Matched.bind hP
    (.lift (hPair.leftStepwise _ _ _ _ _))
    (fun target => .lift (hRightCall target _ _ _))
    (hPair.resolve interner line hServed hAgree hCallee)
  rintro target _ leftNext rightNext hEvolves hNext
    ⟨rfl, hReady⟩
  exact hCall target receiver args line leftNext rightNext
    hNext hReady
    (hP.holds_mono hEvolves hReceiver)
    (fun arg hArg =>
      hP.holds_mono hEvolves (hArgs arg hArg))

/- Checking a callee, evaluating arguments, and calling. -/
theorem matched_invoke
    (hP : P.Lawful)
    (hPair : pair.Lawful P)
    (hCall : P.CallsMatch calls leftCall rightCall)
    (hLeftCall : leftCall.Stepwise)
    (hRightCall : rightCall.Stepwise)
    (hAgree : P.Agree calls left right)
    (context : Context)
    {scope : ObjectId}
    {site : S}
    {args : List (Expr S)}
    {callee receiver : Value}
    (hServed : pair.serves site args.length)
    (hCallee : P.holds left callee)
    (hReceiver : P.holds left receiver)
    (hArgs :
      ∀ {leftNext rightNext},
        left.Evolves leftNext →
          P.Agree calls leftNext rightNext →
            P.Matched calls
              (fun machine values others =>
                values = others ∧
                  values.length = args.length ∧
                    ∀ value ∈ values,
                      P.holds machine value)
              (Expr.evalArgs context pair.left leftCall
                scope args leftNext)
              (Expr.evalArgs context pair.right rightCall
                scope (Expr.mapSitesAll pair.mark args)
                rightNext))
    (line : Line) :
    P.Matched calls P.Same
      ((do
        let callee ← EvalM.expectFunction context.interner
          callee line
        let args ← Expr.evalArgs context pair.left leftCall
          scope args
        Signal.lift do
          let target ← pair.left.resolve context.interner
            site callee args.length line
          leftCall target receiver args line :
            EvalM Value) left)
      ((do
        let callee ← EvalM.expectFunction context.interner
          callee line
        let args ← Expr.evalArgs context pair.right
          rightCall scope (Expr.mapSitesAll pair.mark args)
        Signal.lift do
          let target ← pair.right.resolve context.interner
            (pair.mark site) callee args.length line
          rightCall target receiver args line :
            EvalM Value) right) := by
  have hDispatch callee (values : List Value) :
      Stepwise
        (Signal.lift do
          let target ← pair.right.resolve context.interner
            (pair.mark site) callee values.length line
          rightCall target receiver values line) :=
    .lift (.bind (hPair.rightStepwise _ _ _ _ _)
      fun target => hRightCall target _ _ _)
  apply Matched.bind hP (.expectFunction _ _ _)
    (fun _ => .bind
      (Expr.stepwise_evalArgs hPair.rightStepwise hRightCall
        scope _)
      fun _ => hDispatch _ _)
    (matched_expectFunction hP hAgree _ hCallee line)
  rintro callee _ leftNext rightNext hEvolves hNext
    ⟨rfl, hFunction⟩
  apply Matched.bind hP
    (Expr.stepwise_evalArgs hPair.leftStepwise hLeftCall
      scope args)
    (fun _ => hDispatch _ _) (hArgs hEvolves hNext)
  rintro values _ leftLast rightLast hRest hLast
    ⟨rfl, hLength, hValues⟩
  rw [← hLength] at hServed
  exact matched_dispatch hP hPair hCall hRightCall hLast _
    hServed (hP.holds_mono hRest hFunction)
    (hP.holds_mono (hEvolves.trans hRest) hReceiver) hValues
    line

end Simulation

end Scriptlet

------------------------------------------------------------
-- Expressions
------------------------------------------------------------

namespace Scriptlet

namespace Expr

open Simulation

variable {P : Simulation}
variable {calls : List Activation}
variable {S T : Type}
variable {pair : EnginePair S T}
variable {context : Context}
variable {leftCall rightCall : Caller}

mutual

/- Evaluation matches under a lawful simulation. -/
theorem matched_eval
    (hP : P.Lawful)
    (hPair : pair.Lawful P)
    (hCall : P.CallsMatch calls leftCall rightCall)
    (hLeftCall : leftCall.Stepwise)
    (hRightCall : rightCall.Stepwise)
    {scope : ObjectId}
    {left right : Machine}
    (hAgree : P.Agree calls left right)
    (hFrame : P.frame left scope)
    (expr : Expr S)
    (hServed : expr.EveryCall pair.serves) :
    P.Matched calls P.Same
      (expr.eval context pair.left leftCall scope left)
      ((expr.mapSites pair.mark).eval context pair.right
        rightCall scope right) := by
  have hLeftEval expr := @stepwise_eval _ context _ _
    hPair.leftStepwise hLeftCall scope expr
  have hRightEval expr := @stepwise_eval _ context _ _
    hPair.rightStepwise hRightCall scope expr
  have hRightBlock exprs := @stepwise_evalBlock _ context
    _ _ hPair.rightStepwise hRightCall scope exprs
  have hLeftFields record fields := @stepwise_evalFields _
    context _ _ hPair.leftStepwise hLeftCall scope record
    fields
  have hRightFields record fields := @stepwise_evalFields _
    context _ _ hPair.rightStepwise hRightCall scope record
    fields
  have hRightInvoke site callee receiver args line :
      Stepwise (do
        let callee ← EvalM.expectFunction context.interner
          callee line
        let args ← evalArgs context pair.right rightCall
          scope args
        Signal.lift do
          let target ← pair.right.resolve context.interner
            site callee args.length line
          rightCall target receiver args line :
            EvalM Value) :=
    .bind (.expectFunction _ _ _) fun _ =>
      .bind (stepwise_evalArgs hPair.rightStepwise
        hRightCall scope args) fun _ =>
          .lift (.bind (hPair.rightStepwise _ _ _ _ _)
            fun target => hRightCall target _ _ _)
  cases expr with
  | block line body =>
      rw [mapSites, eval, eval]
      exact matched_evalBlock hP hPair hCall hLeftCall
        hRightCall hAgree hFrame body hServed
  | literal line value =>
      rw [mapSites, eval, eval]
      exact .ok hAgree ⟨rfl, hP.literal left value⟩
  | var line name =>
      rw [mapSites, eval, eval]
      have hLookup :
          right.heap.lookup scope name =
            left.heap.lookup scope name := by
        rw [hP.heap hAgree.similar]
        exact Heap.lookup_mapFunctions _ _ scope name
      exact .ok hAgree
        ⟨hLookup.symm,
          hP.lookup name hAgree.similar hFrame⟩
  | assign line declares name value =>
      rw [mapSites, eval, eval]
      apply Matched.bind hP (hLeftEval value) (by simp)
        (matched_eval hP hPair hCall hLeftCall hRightCall
          hAgree hFrame value hServed)
      rintro value _ leftNext rightNext hEvolves hNext
        ⟨rfl, hHolds⟩
      exact matched_bindLocal hP hNext _
        (hP.frame_mono hEvolves hFrame) hHolds _ _ _
  | function line name params body writtenAt =>
      rw [mapSites, eval, eval]
      exact matched_makeFunction hP hPair hAgree context
        hFrame hServed
  | call line site callee args =>
      rcases hServed with ⟨hSite, hServed, hServedArgs⟩
      rw [mapSites, eval, eval]
      apply Matched.bind hP (hLeftEval callee)
        (fun _ => hRightInvoke _ _ _ _ _)
        (matched_eval hP hPair hCall hLeftCall hRightCall
          hAgree hFrame callee hServed)
      rintro callee _ leftNext rightNext hEvolves hNext
        ⟨rfl, hHolds⟩
      exact matched_invoke hP hPair hCall hLeftCall
        hRightCall hNext context hSite hHolds
        (hP.literal _ .undefined)
        (fun hRest hLast => matched_evalArgs hP hPair hCall
          hLeftCall hRightCall hLast
          (hP.frame_mono (hEvolves.trans hRest) hFrame) args
          hServedArgs) line
  | ret line value =>
      rw [mapSites, eval, eval]
      apply Matched.bind hP (hLeftEval value)
        (fun _ => .throw _)
        (matched_eval hP hPair hCall hLeftCall hRightCall
          hAgree hFrame value hServed)
      rintro value _ leftNext rightNext hEvolves hNext
        ⟨rfl, hHolds⟩
      exact .error hNext hHolds
  | branch line test thenBody elseBody =>
      rcases hServed with
        ⟨hServed, hServedThen, hServedElse⟩
      rw [mapSites, eval, eval]
      apply Matched.bind hP (hLeftEval test) _
        (matched_eval hP hPair hCall hLeftCall hRightCall
          hAgree hFrame test hServed)
      · rintro test _ leftNext rightNext hEvolves hNext
          ⟨rfl, hHolds⟩
        have hFrameNext := hP.frame_mono hEvolves hFrame
        split
        · exact matched_evalBlock hP hPair hCall hLeftCall
            hRightCall hNext hFrameNext thenBody hServedThen
        · exact matched_evalBlock hP hPair hCall hLeftCall
            hRightCall hNext hFrameNext elseBody hServedElse
      · intro test
        split
        · exact hRightBlock _
        · exact hRightBlock _
  | record line fields =>
      rw [mapSites, eval, eval]
      rcases hP.newRecord hAgree.similar with
        ⟨hSimilar, hRecord⟩
      have hSize := hP.size_objects_eq hAgree.similar
      have hNew :
          P.Matched calls
            (fun machine id other =>
              id = other ∧ P.holds machine (.object id))
            ((Machine.onHeap Heap.newRecord :
              EvalM ObjectId) left)
            ((Machine.onHeap Heap.newRecord :
              EvalM ObjectId) right) :=
        .ok (.of_similar hSimilar hAgree rfl rfl)
          ⟨congrArg ObjectId.mk hSize.symm, hRecord⟩
      apply Matched.bind hP .newRecord
        (by simp [hRightFields]) hNew
      rintro record _ leftNext rightNext hEvolves hNext
        ⟨rfl, hHolds⟩
      apply Matched.bind hP (hLeftFields record fields)
        (by simp)
        (matched_evalFields hP hPair hCall hLeftCall
          hRightCall hNext (hP.frame_mono hEvolves hFrame)
          hHolds fields hServed)
      intro _ _ leftLast rightLast hRest hLast _
      exact .ok hLast ⟨rfl, hP.holds_mono hRest hHolds⟩
  | getField line receiver name =>
      rw [mapSites, eval, eval]
      apply Matched.bind hP (hLeftEval receiver) (by simp)
        (matched_eval hP hPair hCall hLeftCall hRightCall
          hAgree hFrame receiver hServed)
      rintro receiver _ leftNext rightNext hEvolves hNext
        ⟨rfl, hHolds⟩
      apply Matched.bind hP (.expectObject _ _ _) (by simp)
        (matched_expectObject hP hNext _ hHolds line)
      rintro object _ leftThird rightThird _ hThird
        ⟨rfl, hObject⟩
      apply Matched.bind hP (.askHeap _) (by simp)
        (matched_own hP hThird hObject name)
      rintro field _ leftLast rightLast _ hLast ⟨rfl, hField⟩
      exact .ok hLast ⟨rfl, hField⟩
  | setField line receiver name value =>
      rcases hServed with ⟨hServed, hServedValue⟩
      rw [mapSites, eval, eval]
      apply Matched.bind hP (hLeftEval receiver)
        (fun _ => .bind (.expectObject _ _ _) fun _ =>
          .bind (hRightEval _) (by simp))
        (matched_eval hP hPair hCall hLeftCall hRightCall
          hAgree hFrame receiver hServed)
      rintro receiver _ leftNext rightNext hEvolves hNext
        ⟨rfl, hHolds⟩
      apply Matched.bind hP (.expectObject _ _ _)
        (fun _ => .bind (hRightEval _) (by simp))
        (matched_expectObject hP hNext _ hHolds line)
      rintro object _ leftThird rightThird hSecond hThird
        ⟨rfl, hObject⟩
      have hFrameThird := hP.frame_mono
        (hEvolves.trans hSecond) hFrame
      apply Matched.bind hP (hLeftEval value) (by simp)
        (matched_eval hP hPair hCall hLeftCall hRightCall
          hThird hFrameThird value hServedValue)
      rintro value _ leftFourth rightFourth hLast hFourth
        ⟨rfl, hValue⟩
      apply Matched.bind hP (.define object name value)
        (by simp)
        (matched_define hP hFourth
          (.inr (hP.holds_mono hLast hObject)) hValue name)
      intro _ _ leftFifth rightFifth hDefine hFifth _
      exact .ok hFifth
        ⟨rfl, hP.holds_mono hDefine hValue⟩
  | method line site receiver name args =>
      rcases hServed with ⟨hSite, hServed, hServedArgs⟩
      rw [mapSites, eval, eval]
      apply Matched.bind hP (hLeftEval receiver)
        (fun _ => .bind (.expectObject _ _ _) fun _ =>
          .bind (.askHeap _) fun _ =>
            hRightInvoke _ _ _ _ _)
        (matched_eval hP hPair hCall hLeftCall hRightCall
          hAgree hFrame receiver hServed)
      rintro receiver _ leftNext rightNext hEvolves hNext
        ⟨rfl, hHolds⟩
      apply Matched.bind hP (.expectObject _ _ _)
        (fun _ => .bind (.askHeap _) fun _ =>
          hRightInvoke _ _ _ _ _)
        (matched_expectObject hP hNext _ hHolds line)
      rintro object _ leftThird rightThird hSecond hThird
        ⟨rfl, hObject⟩
      apply Matched.bind hP (.askHeap _)
        (fun _ => hRightInvoke _ _ _ _ _)
        (matched_own hP hThird hObject name)
      rintro field _ leftFourth rightFourth hAsk hFourth
        ⟨rfl, hField⟩
      have hSoFar := (hEvolves.trans hSecond).trans hAsk
      exact matched_invoke hP hPair hCall hLeftCall
        hRightCall hFourth context hSite hField
        (hP.holds_mono hAsk hObject)
        (fun hRest hLast => matched_evalArgs hP hPair hCall
          hLeftCall hRightCall hLast
          (hP.frame_mono (hSoFar.trans hRest) hFrame) args
          hServedArgs) line

/- Blocks match. -/
theorem matched_evalBlock
    (hP : P.Lawful)
    (hPair : pair.Lawful P)
    (hCall : P.CallsMatch calls leftCall rightCall)
    (hLeftCall : leftCall.Stepwise)
    (hRightCall : rightCall.Stepwise)
    {scope : ObjectId}
    {left right : Machine}
    (hAgree : P.Agree calls left right)
    (hFrame : P.frame left scope)
    (exprs : List (Expr S))
    (hServed : EveryCallAll pair.serves exprs) :
    P.Matched calls P.Same
      (evalBlock context pair.left leftCall scope exprs
        left)
      (evalBlock context pair.right rightCall scope
        (mapSitesAll pair.mark exprs) right) := by
  cases exprs with
  | nil =>
      rw [mapSitesAll, evalBlock, evalBlock]
      exact .ok hAgree ⟨rfl, hP.literal left .undefined⟩
  | cons expr exprs =>
      rcases hServed with ⟨hServed, hServedRest⟩
      rw [mapSitesAll, evalBlock, evalBlock]
      apply Matched.bind hP
        (stepwise_eval hPair.leftStepwise hLeftCall scope
          expr)
        (fun _ => stepwise_evalBlock hPair.rightStepwise
          hRightCall scope _)
        (matched_eval hP hPair hCall hLeftCall hRightCall
          hAgree hFrame expr hServed)
      intro _ _ leftNext rightNext hEvolves hNext _
      exact matched_evalBlock hP hPair hCall hLeftCall
        hRightCall hNext (hP.frame_mono hEvolves hFrame)
        exprs hServedRest

/- Arguments match, one value for each expression. -/
theorem matched_evalArgs
    (hP : P.Lawful)
    (hPair : pair.Lawful P)
    (hCall : P.CallsMatch calls leftCall rightCall)
    (hLeftCall : leftCall.Stepwise)
    (hRightCall : rightCall.Stepwise)
    {scope : ObjectId}
    {left right : Machine}
    (hAgree : P.Agree calls left right)
    (hFrame : P.frame left scope)
    (exprs : List (Expr S))
    (hServed : EveryCallAll pair.serves exprs) :
    P.Matched calls
      (fun machine values others =>
        values = others ∧ values.length = exprs.length ∧
          ∀ value ∈ values, P.holds machine value)
      (evalArgs context pair.left leftCall scope exprs left)
      (evalArgs context pair.right rightCall scope
        (mapSitesAll pair.mark exprs) right) := by
  cases exprs with
  | nil =>
      rw [mapSitesAll, evalArgs, evalArgs]
      exact .ok hAgree ⟨rfl, rfl, by simp⟩
  | cons expr exprs =>
      rcases hServed with ⟨hServed, hServedRest⟩
      have hRightArgs exprs := @stepwise_evalArgs _ context
        _ _ hPair.rightStepwise hRightCall scope exprs
      rw [mapSitesAll, evalArgs, evalArgs]
      apply Matched.bind hP
        (stepwise_eval hPair.leftStepwise hLeftCall scope
          expr)
        (by simp [hRightArgs])
        (matched_eval hP hPair hCall hLeftCall hRightCall
          hAgree hFrame expr hServed)
      rintro value _ leftNext rightNext hEvolves hNext
        ⟨rfl, hValue⟩
      apply Matched.bind hP
        (stepwise_evalArgs hPair.leftStepwise hLeftCall
          scope exprs)
        (by simp)
        (matched_evalArgs hP hPair hCall hLeftCall
          hRightCall hNext (hP.frame_mono hEvolves hFrame)
          exprs hServedRest)
      rintro values _ leftLast rightLast hRest hLast
        ⟨rfl, hLength, hValues⟩
      refine .ok hLast ⟨rfl, by simp [hLength], ?_⟩
      intro other hOther
      rcases List.mem_cons.mp hOther with rfl | hOther
      · exact hP.holds_mono hRest hValue
      · exact hValues other hOther

/- The fields of a record match. -/
theorem matched_evalFields
    (hP : P.Lawful)
    (hPair : pair.Lawful P)
    (hCall : P.CallsMatch calls leftCall rightCall)
    (hLeftCall : leftCall.Stepwise)
    (hRightCall : rightCall.Stepwise)
    {scope record : ObjectId}
    {left right : Machine}
    (hAgree : P.Agree calls left right)
    (hFrame : P.frame left scope)
    (hRecord : P.holds left (.object record))
    (fields : List (Name × Expr S))
    (hServed : EveryCallFields pair.serves fields) :
    P.Matched calls (fun _ _ _ => True)
      (evalFields context pair.left leftCall scope record
        fields left)
      (evalFields context pair.right rightCall scope record
        (mapSitesFields pair.mark fields) right) := by
  cases fields with
  | nil =>
      rw [mapSitesFields, evalFields, evalFields]
      exact .ok hAgree trivial
  | cons field fields =>
      rcases field with ⟨name, expr⟩
      rcases hServed with ⟨hServed, hServedRest⟩
      have hRightFields fields := @stepwise_evalFields _
        context _ _ hPair.rightStepwise hRightCall scope
        record fields
      rw [mapSitesFields, evalFields, evalFields]
      apply Matched.bind hP
        (stepwise_eval hPair.leftStepwise hLeftCall scope
          expr)
        (by simp [hRightFields])
        (matched_eval hP hPair hCall hLeftCall hRightCall
          hAgree hFrame expr hServed)
      rintro value _ leftNext rightNext hEvolves hNext
        ⟨rfl, hValue⟩
      have hRecordNext := hP.holds_mono hEvolves hRecord
      apply Matched.bind hP (.define record name value)
        (fun _ => hRightFields _)
        (matched_define hP hNext (.inr hRecordNext) hValue
          name)
      intro _ _ leftThird rightThird hDefine hThird _
      exact matched_evalFields hP hPair hCall hLeftCall
        hRightCall hThird
        (hP.frame_mono (hEvolves.trans hDefine) hFrame)
        (hP.holds_mono hDefine hRecordNext) fields
        hServedRest

end

end Expr

end Scriptlet
