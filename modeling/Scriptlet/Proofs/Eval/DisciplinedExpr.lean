import Scriptlet.Proofs.Eval.Discipline

/-
  Evaluation under a discipline.

  Code that may run on a valid machine, in a frame, ends as
  the discipline says. The proof follows the evaluator: one
  case for each kind of node, in which the parts of the node
  are evaluated one after another on valid machines.

  Key theorems include:
    * `Expr.ends_eval`
    * `Expr.ends_evalBlock`
    * `Expr.ends_evalArgs`
    * `Expr.ends_evalFields`
-/

------------------------------------------------------------
-- Single Steps
------------------------------------------------------------

namespace Scriptlet

namespace Discipline

variable {D : Discipline}
variable {context : Context}
variable {level : D.Level}
variable {S : Type}
variable {engine : Engine S}
variable {code : Expr S → Prop}
variable {call : Caller}
variable {machine : Machine}
variable {scope : ObjectId}

/- A callee is a function, or code fails on the line. -/
theorem Governs.expectFunction
    (hEngine : D.Governs context level engine code)
    {expr : Expr S}
    (hCode : code expr)
    (hValid : D.valid level machine)
    (value : Value) :
    D.Ends level (fun _ _ => True)
      (EvalM.expectFunction context.interner value expr.line
        machine) := by
  rw [EvalM.expectFunction_apply]
  split
  · exact .ok hValid trivial
  · exact .halt hValid (hEngine.fails ⟨nofun, nofun⟩ hCode)

/- A receiver is an object, or code fails on the line. -/
theorem Governs.expectObject
    (hEngine : D.Governs context level engine code)
    {expr : Expr S}
    (hCode : code expr)
    (hValid : D.valid level machine)
    {value : Value}
    (hHolds : D.holds machine value) :
    D.Ends level (fun next id => D.holds next (.object id))
      (EvalM.expectObject context.interner value expr.line
        machine) := by
  rw [EvalM.expectObject_apply]
  split
  · exact .ok hValid hHolds
  · exact .halt hValid (hEngine.fails ⟨nofun, nofun⟩ hCode)

/- A value is bound in the frame, or code fails. -/
theorem Governs.bindLocal
    (hD : D.Lawful context)
    (hEngine : D.Governs context level engine code)
    {expr : Expr S}
    (hCode : code expr)
    (hValid : D.valid level machine)
    (hFrame : D.frame machine scope)
    {value : Value}
    (hHolds : D.holds machine value)
    (declares : Bool)
    (name : Name) :
    D.Ends level D.holds
      (EvalM.bindLocal context.interner scope declares name
        value expr.line machine) := by
  rw [EvalM.bindLocal_apply]
  split
  · exact .halt hValid (hEngine.fails ⟨nofun, nofun⟩ hCode)
  · have hBind := Machine.Evolves.single
      (.define machine scope name value)
    exact .ok (hD.define name hValid (.inl hFrame) hHolds)
      (hD.holds_mono hBind hHolds)

/- A function is made, and bound if it has a name. -/
theorem Governs.makeFunction
    (hD : D.Lawful context)
    (hEngine : D.Governs context level engine code)
    {line writtenAt : Line}
    {name : Option Name}
    {params : List Name}
    {body : List (Expr S)}
    (hCode :
      code (.function line name params body writtenAt))
    (hValid : D.valid level machine)
    (hFrame : D.frame machine scope) :
    D.Ends level D.holds
      (EvalM.makeFunction context engine scope
        { name, params, body, writtenAt } machine) := by
  have hClose := hEngine.close hCode hValid hFrame
  rw [EvalM.makeFunction_apply]
  refine .ok ?_ (hD.atom _ rfl)
  cases name with
  | none => exact hClose
  | some name =>
      have hMade := Machine.Evolves.single
        (.newFunction machine
          { name := name
            arity := .fixed params.length
            action := engine.close
              { name := some name, params, body, writtenAt }
              scope })
      exact hD.define name hClose
        (.inl (hD.frame_mono hMade hFrame))
        (hD.atom _ rfl)

/- A callee is resolved, and its target is called. -/
theorem Governs.dispatch
    (hEngine : D.Governs context level engine code)
    (hCall : D.Obeys call)
    (hD : D.Lawful context)
    {expr : Expr S}
    {site : S}
    {argc : Nat}
    (hCode : code expr)
    (hSite : expr.site? = some (site, argc))
    (hValid : D.valid level machine)
    {receiver : Value}
    {args : List Value}
    (hReceiver : D.holds machine receiver)
    (hArgs : D.HoldsAll argc machine args)
    (callee : FunctionId) :
    D.Ends level D.holds
      (Signal.lift
        (do
          let target ← engine.resolve context.interner site
            callee args.length expr.line
          call target receiver args expr.line)
        machine) := by
  rcases hArgs with ⟨rfl, hArgs⟩
  rw [Signal.lift_bind]
  apply Ends.bind (.lift (hEngine.stepwise _ _ _ _ _))
    (hEngine.resolve callee hCode hSite hValid)
  intro target next hEvolves hNext hReady
  apply hCall level target receiver args expr.line next
    hNext hReady (hD.holds_mono hEvolves hReceiver)
  intro arg hArg
  exact hD.holds_mono hEvolves (hArgs arg hArg)

end Discipline

end Scriptlet

------------------------------------------------------------
-- Evaluation
------------------------------------------------------------

namespace Scriptlet

namespace Expr

open Discipline

variable {D : Discipline}
variable {context : Context}
variable {level : D.Level}
variable {S : Type}
variable {engine : Engine S}
variable {code : Expr S → Prop}
variable {call : Caller}

mutual

/- Expressions that may run end as they may. -/
theorem ends_eval
    (hD : D.Lawful context)
    (hEngine : D.Governs context level engine code)
    (hCall : D.Obeys call)
    (hSteps : call.Stepwise)
    {machine : Machine}
    {scope : ObjectId}
    (hValid : D.valid level machine)
    (hFrame : D.frame machine scope)
    (expr : Expr S)
    (hCode : code expr) :
    D.Ends level D.holds
      (expr.eval context engine call scope machine) := by
  have hEval (expr : Expr S) :
      Stepwise (expr.eval context engine call scope) :=
    stepwise_eval hEngine.stepwise hSteps scope expr
  cases expr with
  | block line body =>
      rw [eval]
      exact ends_evalBlock hD hEngine hCall hSteps hValid
        hFrame body fun _ hPart =>
          hEngine.parts hCode hPart
  | literal line value =>
      rw [eval]
      exact .ok hValid
        (hD.atom machine (by cases value <;> rfl))
  | var line name =>
      rw [eval]
      exact .ok hValid (hD.lookup name hValid hFrame)
  | assign line declares name value =>
      rw [eval]
      apply Ends.bind (hEval value)
        (ends_eval hD hEngine hCall hSteps hValid hFrame
          value (hEngine.parts hCode (by simp [parts])))
      intro result next hEvolves hNext hResult
      exact hEngine.bindLocal hD hCode hNext
        (hD.frame_mono hEvolves hFrame) hResult declares
        name
  | function line name params body writtenAt =>
      rw [eval]
      exact hEngine.makeFunction hD hCode hValid hFrame
  | call line site callee args =>
      rw [eval]
      apply Ends.bind (hEval callee)
        (ends_eval hD hEngine hCall hSteps hValid hFrame
          callee (hEngine.parts hCode (by simp [parts])))
      intro value next hFirst hNext _
      apply Ends.bind (.expectFunction _ value line)
        (hEngine.expectFunction hCode hNext value)
      intro function last hSecond hLast _
      apply Ends.bind
        (stepwise_evalArgs hEngine.stepwise hSteps scope
          args)
        (ends_evalArgs hD hEngine hCall hSteps hLast
          (hD.frame_mono (hFirst.trans hSecond) hFrame) args
          fun _ hPart => hEngine.parts hCode
            (List.mem_cons_of_mem _ hPart))
      intro values final _ hFinal hValues
      exact hEngine.dispatch hCall hD hCode rfl hFinal
        (hD.atom final rfl) hValues function
  | ret line value =>
      rw [eval]
      apply Ends.bind (hEval value)
        (ends_eval hD hEngine hCall hSteps hValid hFrame
          value (hEngine.parts hCode (by simp [parts])))
      intro result next _ hNext hResult
      exact .ret hNext hResult (hEngine.returns hCode)
  | branch line test thenBody elseBody =>
      rw [eval]
      apply Ends.bind (hEval test)
        (ends_eval hD hEngine hCall hSteps hValid hFrame
          test (hEngine.parts hCode (by simp [parts])))
      intro result next hEvolves hNext _
      have hInside := hD.frame_mono hEvolves hFrame
      split
      · exact ends_evalBlock hD hEngine hCall hSteps hNext
          hInside thenBody fun _ hPart =>
            hEngine.parts hCode (by simp [parts, hPart])
      · exact ends_evalBlock hD hEngine hCall hSteps hNext
          hInside elseBody fun _ hPart =>
            hEngine.parts hCode (by simp [parts, hPart])
  | record line fields =>
      rw [eval]
      have hNew := Machine.Evolves.single
        (.newObject machine .record none)
      rcases hD.newRecord hValid with
        ⟨hMade, hFills, hHolds⟩
      have hRecord :
          D.Ends level
            (fun next id =>
              D.frame next scope ∧ D.fills next id ∧
                D.holds next (.object id))
            (Machine.onHeap Heap.newRecord machine) :=
        .ok hMade
          ⟨hD.frame_mono hNew hFrame, hFills, hHolds⟩
      apply Ends.bind .newRecord hRecord
      intro record next _ hNext hRecord
      apply Ends.bind
        (stepwise_evalFields hEngine.stepwise hSteps scope
          record fields)
        (ends_evalFields hD hEngine hCall hSteps hNext
          hRecord.1 hRecord.2.1 fields fun _ hPart =>
            hEngine.parts hCode hPart)
      intro _ last hEvolves hLast _
      exact .ok hLast (hD.holds_mono hEvolves hRecord.2.2)
  | getField line receiver name =>
      rw [eval]
      apply Ends.bind (hEval receiver)
        (ends_eval hD hEngine hCall hSteps hValid hFrame
          receiver (hEngine.parts hCode (by simp [parts])))
      intro value next _ hNext hValue
      apply Ends.bind (.expectObject _ value line)
        (hEngine.expectObject hCode hNext hValue)
      intro object last _ hLast hObject
      exact .ok hLast (hD.own name hLast hObject)
  | setField line receiver name value =>
      rw [eval]
      apply Ends.bind (hEval receiver)
        (ends_eval hD hEngine hCall hSteps hValid hFrame
          receiver (hEngine.parts hCode (by simp [parts])))
      intro target next hFirst hNext hTarget
      apply Ends.bind (.expectObject _ target line)
        (hEngine.expectObject hCode hNext hTarget)
      intro object last hSecond hLast hObject
      apply Ends.bind (hEval value)
        (ends_eval hD hEngine hCall hSteps hLast
          (hD.frame_mono (hFirst.trans hSecond) hFrame)
          value (hEngine.parts hCode (by simp [parts])))
      intro result final hThird hFinal hResult
      have hBind := Machine.Evolves.single
        (.define final object name result)
      exact .ok
        (hEngine.write hCode hFinal
          (hD.holds_mono hThird hObject) hResult)
        (hD.holds_mono hBind hResult)
  | method line site receiver name args =>
      rw [eval]
      apply Ends.bind (hEval receiver)
        (ends_eval hD hEngine hCall hSteps hValid hFrame
          receiver (hEngine.parts hCode (by simp [parts])))
      intro value next hFirst hNext hValue
      apply Ends.bind (.expectObject _ value line)
        (hEngine.expectObject hCode hNext hValue)
      intro object last hSecond hLast hObject
      rw [RunM.bind_apply]
      apply Ends.bind (.expectFunction _ _ line)
        (hEngine.expectFunction hCode hLast _)
      intro function found hThird hFound _
      have hInside := hD.frame_mono
        ((hFirst.trans hSecond).trans hThird) hFrame
      apply Ends.bind
        (stepwise_evalArgs hEngine.stepwise hSteps scope
          args)
        (ends_evalArgs hD hEngine hCall hSteps hFound
          hInside args fun _ hPart => hEngine.parts hCode
            (List.mem_cons_of_mem _ hPart))
      intro values final hFourth hFinal hValues
      exact hEngine.dispatch hCall hD hCode rfl hFinal
        (hD.holds_mono (hThird.trans hFourth) hObject)
        hValues function

theorem ends_evalBlock
    (hD : D.Lawful context)
    (hEngine : D.Governs context level engine code)
    (hCall : D.Obeys call)
    (hSteps : call.Stepwise)
    {machine : Machine}
    {scope : ObjectId}
    (hValid : D.valid level machine)
    (hFrame : D.frame machine scope)
    (exprs : List (Expr S))
    (hCode : ∀ expr ∈ exprs, code expr) :
    D.Ends level D.holds
      (evalBlock context engine call scope exprs
        machine) := by
  cases exprs with
  | nil =>
      rw [evalBlock]
      exact .ok hValid (hD.atom machine rfl)
  | cons expr exprs =>
      rw [evalBlock]
      apply Ends.bind
        (stepwise_eval hEngine.stepwise hSteps scope expr)
        (ends_eval hD hEngine hCall hSteps hValid hFrame
          expr (hCode expr List.mem_cons_self))
      intro _ next hEvolves hNext _
      exact ends_evalBlock hD hEngine hCall hSteps hNext
        (hD.frame_mono hEvolves hFrame) exprs
        fun other hOther =>
          hCode other (List.mem_cons_of_mem _ hOther)

/- Arguments give a value each. -/
theorem ends_evalArgs
    (hD : D.Lawful context)
    (hEngine : D.Governs context level engine code)
    (hCall : D.Obeys call)
    (hSteps : call.Stepwise)
    {machine : Machine}
    {scope : ObjectId}
    (hValid : D.valid level machine)
    (hFrame : D.frame machine scope)
    (exprs : List (Expr S))
    (hCode : ∀ expr ∈ exprs, code expr) :
    D.Ends level (D.HoldsAll exprs.length)
      (evalArgs context engine call scope exprs
        machine) := by
  cases exprs with
  | nil =>
      rw [evalArgs]
      exact .ok hValid ⟨rfl, by simp⟩
  | cons expr exprs =>
      rw [evalArgs]
      apply Ends.bind
        (stepwise_eval hEngine.stepwise hSteps scope expr)
        (ends_eval hD hEngine hCall hSteps hValid hFrame
          expr (hCode expr List.mem_cons_self))
      intro value next hFirst hNext hValue
      apply Ends.bind
        (stepwise_evalArgs hEngine.stepwise hSteps scope
          exprs)
        (ends_evalArgs hD hEngine hCall hSteps hNext
          (hD.frame_mono hFirst hFrame) exprs
          fun other hOther =>
            hCode other (List.mem_cons_of_mem _ hOther))
      intro values last hSecond hLast hValues
      refine .ok hLast ⟨by simp [hValues.1], ?_⟩
      intro result hResult
      rcases List.mem_cons.mp hResult with rfl | hResult
      · exact hD.holds_mono hSecond hValue
      · exact hValues.2 result hResult

theorem ends_evalFields
    (hD : D.Lawful context)
    (hEngine : D.Governs context level engine code)
    (hCall : D.Obeys call)
    (hSteps : call.Stepwise)
    {machine : Machine}
    {scope record : ObjectId}
    (hValid : D.valid level machine)
    (hFrame : D.frame machine scope)
    (hFills : D.fills machine record)
    (fields : List (Name × Expr S))
    (hCode : ∀ expr ∈ fields.map Prod.snd, code expr) :
    D.Ends level (fun _ _ => True)
      (evalFields context engine call scope record fields
        machine) := by
  cases fields with
  | nil =>
      rw [evalFields]
      exact .ok hValid trivial
  | cons field fields =>
      rcases field with ⟨name, expr⟩
      rw [evalFields]
      apply Ends.bind
        (stepwise_eval hEngine.stepwise hSteps scope expr)
        (ends_eval hD hEngine hCall hSteps hValid hFrame
          expr (hCode expr (by simp)))
      intro value next hFirst hNext hValue
      have hBind := Machine.Evolves.single
        (.define next record name value)
      have hLater := hFirst.trans hBind
      have hBound := hD.define name hNext
        (.inr (hD.fills_mono hFirst hFills)) hValue
      rw [RunM.bind_apply]
      exact ends_evalFields hD hEngine hCall hSteps hBound
        (hD.frame_mono hLater hFrame)
        (hD.fills_mono hLater hFills) fields
        fun other hOther =>
          hCode other (List.mem_cons_of_mem _ hOther)

end

end Expr

end Scriptlet
