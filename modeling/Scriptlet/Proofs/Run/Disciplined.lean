import Scriptlet.Proofs.Eval.DisciplinedCall
import Scriptlet.Proofs.Run.Reachable

/-
  Moments under a discipline.

  A discipline admits a moment if the machine is valid on
  some level and the work is such as may be done there. An
  admitted moment leads to admitted moments only, on its own
  level or on that of the code which it enters, and its work
  ends as the discipline says.

  Key definitions include:
    * `Discipline.Asks`
    * `Discipline.Permits`
    * `Discipline.Admits`
    * `Moment.value?`

  Key theorems include:
    * `Discipline.Admits.next`
    * `Discipline.Admits.reaches`
    * `Discipline.Admits.last`
-/

------------------------------------------------------------
-- Admitted Work
------------------------------------------------------------

namespace Scriptlet

namespace Discipline

variable (D : Discipline)

/- What a task needs, if certain nodes may run. -/
def Asks
    {S : Type}
    (code : Expr S → Prop)
    (machine : Machine) :
    Task S → Prop
  | .eval expr => code expr
  | .block exprs => ∀ expr ∈ exprs, code expr
  | .args exprs => ∀ expr ∈ exprs, code expr
  | .fields record parts =>
      D.fills machine record ∧
        ∀ expr ∈ parts.map Prod.snd, code expr
  | .dispatch site _ receiver args line =>
      D.holds machine receiver ∧
        (∀ arg ∈ args, D.holds machine arg) ∧
          ∃ expr,
            code expr ∧ expr.line = line ∧
              expr.site? = some (site, args.length)

/- What work needs on a level. -/
def Permits
    (level : D.Level)
    (machine : Machine) :
    Work → Prop
  | .walk scope task =>
      D.frame machine scope ∧
        D.Asks (D.walks level) machine task
  | .execute scope task =>
      D.frame machine scope ∧
        D.Asks (D.executes level) machine task
  | .call target receiver args line =>
      D.ready level machine line target ∧
        D.holds machine receiver ∧
          ∀ arg ∈ args, D.holds machine arg

/- A valid machine, and work that may be done on it. -/
structure Admits
    (level : D.Level)
    (moment : Moment) : Prop where
  valid : D.valid level moment.machine
  work : D.Permits level moment.machine moment.work

end Discipline

end Scriptlet

------------------------------------------------------------
-- Tasks
------------------------------------------------------------

namespace Scriptlet

namespace Discipline

variable {D : Discipline}
variable {context : Context}
variable {level : D.Level}
variable {S : Type}
variable {engine : Engine S}
variable {code : Expr S → Prop}
variable {machine next : Machine}
variable {scope : ObjectId}
variable {budget : Nat}

/- What an answer of a computation tells. -/
theorem Ends.of_ok
    {A : Type}
    {gives : Machine → A → Prop}
    {work : EvalM A}
    {answer : A}
    (hSteps : Stepwise work)
    (hEnds : D.Ends level gives (work machine))
    (hAnswer : work machine = .ok answer next) :
    machine.Evolves next ∧ D.valid level next ∧
      gives next answer := by
  have hEvolves := hSteps machine
  rw [hAnswer] at hEnds hEvolves
  cases hEnds with
  | ok hValid hGives => exact ⟨hEvolves, hValid, hGives⟩

/- What is known where a part has given a value. -/
theorem Governs.of_eval
    (hD : D.Lawful context)
    (hEngine : D.Governs context level engine code)
    (hValid : D.valid level machine)
    (hFrame : D.frame machine scope)
    {expr : Expr S}
    (hCode : code expr)
    {value : Value}
    (hEval :
      expr.eval context engine (.within context budget)
        scope machine = .ok value next) :
    machine.Evolves next ∧ D.valid level next ∧
      D.holds next value := by
  have hSteps := Caller.stepwise_within context budget
  exact Ends.of_ok
    (Expr.stepwise_eval hEngine.stepwise hSteps scope expr)
    (Expr.ends_eval hD hEngine (obeys_within hD budget)
      hSteps hValid hFrame expr hCode) hEval

/- What is known where arguments have given values. -/
theorem Governs.of_evalArgs
    (hD : D.Lawful context)
    (hEngine : D.Governs context level engine code)
    (hValid : D.valid level machine)
    (hFrame : D.frame machine scope)
    {exprs : List (Expr S)}
    (hCode : ∀ expr ∈ exprs, code expr)
    {values : List Value}
    (hArgs :
      Expr.evalArgs context engine (.within context budget)
        scope exprs machine = .ok values next) :
    machine.Evolves next ∧ D.valid level next ∧
      D.HoldsAll exprs.length next values := by
  have hSteps := Caller.stepwise_within context budget
  exact Ends.of_ok
    (Expr.stepwise_evalArgs hEngine.stepwise hSteps scope
      exprs)
    (Expr.ends_evalArgs hD hEngine (obeys_within hD budget)
      hSteps hValid hFrame exprs hCode) hArgs

/- A dispatch may be done where its operands were found. -/
theorem asks_dispatch
    {expr : Expr S}
    {site : S}
    {argc : Nat}
    (hCode : code expr)
    (hSite : expr.site? = some (site, argc))
    {receiver : Value}
    (hReceiver : D.holds machine receiver)
    {args : List Value}
    (hArgs : D.HoldsAll argc machine args)
    (callee : FunctionId) :
    D.Asks code machine
      (.dispatch site callee receiver args expr.line) := by
  rcases hArgs with ⟨rfl, hArgs⟩
  exact ⟨hReceiver, hArgs, expr, hCode, rfl, hSite⟩

/-
  A task leads to tasks that may be done as well, on valid
  machines on which the frame is still there.
-/
theorem Governs.leads
    (hD : D.Lawful context)
    (hEngine : D.Governs context level engine code)
    {task later : Task S}
    (hLeads :
      Task.Leads context engine (.within context budget)
        scope machine task next later)
    (hValid : D.valid level machine)
    (hFrame : D.frame machine scope)
    (hAsks : D.Asks code machine task) :
    D.valid level next ∧ D.frame next scope ∧
      D.Asks code next later := by
  have hEval {expr : Expr S} {value : Value}
      {after : Machine} (hCode : code expr)
      (hRun :
        expr.eval context engine (.within context budget)
          scope machine = .ok value after) :=
    hEngine.of_eval hD hValid hFrame hCode hRun
  cases hLeads with
  | block line body =>
      exact ⟨hValid, hFrame, fun _ hPart =>
        hEngine.parts hAsks hPart⟩
  | assignValue line declares name value =>
      exact ⟨hValid, hFrame,
        hEngine.parts hAsks (by simp [Expr.parts])⟩
  | callCallee line site callee args =>
      exact ⟨hValid, hFrame,
        hEngine.parts hAsks (by simp [Expr.parts])⟩
  | callArgs line site args hCallee =>
      have hPart := hEngine.parts hAsks List.mem_cons_self
      rcases hEval hPart hCallee with
        ⟨hEvolves, hNext, _⟩
      exact ⟨hNext, hD.frame_mono hEvolves hFrame,
        fun _ hArg => hEngine.parts hAsks
          (List.mem_cons_of_mem _ hArg)⟩
  | callDispatch line site hCallee hArgs =>
      have hPart := hEngine.parts hAsks List.mem_cons_self
      rcases hEval hPart hCallee with
        ⟨hFirst, hNext, _⟩
      have hInside := hD.frame_mono hFirst hFrame
      rcases hEngine.of_evalArgs hD hNext hInside
          (fun _ hArg => hEngine.parts hAsks
            (List.mem_cons_of_mem _ hArg)) hArgs with
        ⟨hSecond, hLast, hValues⟩
      exact ⟨hLast, hD.frame_mono hSecond hInside,
        asks_dispatch hAsks rfl (hD.atom _ rfl) hValues _⟩
  | retValue line value =>
      exact ⟨hValid, hFrame,
        hEngine.parts hAsks (by simp [Expr.parts])⟩
  | branchTest line test thenBody elseBody =>
      exact ⟨hValid, hFrame,
        hEngine.parts hAsks (by simp [Expr.parts])⟩
  | branchThen line thenBody elseBody hTest hTruthy =>
      have hPart := hEngine.parts hAsks List.mem_cons_self
      rcases hEval hPart hTest with ⟨hEvolves, hNext, _⟩
      exact ⟨hNext, hD.frame_mono hEvolves hFrame,
        fun _ hThen => hEngine.parts hAsks
          (by simp [Expr.parts, hThen])⟩
  | branchElse line thenBody elseBody hTest hFalsy =>
      have hPart := hEngine.parts hAsks List.mem_cons_self
      rcases hEval hPart hTest with ⟨hEvolves, hNext, _⟩
      exact ⟨hNext, hD.frame_mono hEvolves hFrame,
        fun _ hElse => hEngine.parts hAsks
          (by simp [Expr.parts, hElse])⟩
  | recordFields line fields =>
      have hNew := Machine.Evolves.single
        (.newObject machine .record none)
      rcases hD.newRecord hValid with ⟨hMade, hFills, _⟩
      exact ⟨hMade, hD.frame_mono hNew hFrame, hFills,
        fun _ hPart => hEngine.parts hAsks hPart⟩
  | getReceiver line receiver name =>
      exact ⟨hValid, hFrame,
        hEngine.parts hAsks (by simp [Expr.parts])⟩
  | setReceiver line receiver name value =>
      exact ⟨hValid, hFrame,
        hEngine.parts hAsks (by simp [Expr.parts])⟩
  | setValue line name value hReceiver =>
      have hPart := hEngine.parts hAsks List.mem_cons_self
      rcases hEval hPart hReceiver with
        ⟨hEvolves, hNext, _⟩
      exact ⟨hNext, hD.frame_mono hEvolves hFrame,
        hEngine.parts hAsks (by simp [Expr.parts])⟩
  | methodReceiver line site receiver name args =>
      exact ⟨hValid, hFrame,
        hEngine.parts hAsks (by simp [Expr.parts])⟩
  | methodArgs line site args hReceiver hField =>
      have hPart := hEngine.parts hAsks List.mem_cons_self
      rcases hEval hPart hReceiver with
        ⟨hEvolves, hNext, _⟩
      exact ⟨hNext, hD.frame_mono hEvolves hFrame,
        fun _ hArg => hEngine.parts hAsks
          (List.mem_cons_of_mem _ hArg)⟩
  | methodDispatch line site hReceiver hField hArgs =>
      have hPart := hEngine.parts hAsks List.mem_cons_self
      rcases hEval hPart hReceiver with
        ⟨hFirst, hNext, hObject⟩
      have hInside := hD.frame_mono hFirst hFrame
      rcases hEngine.of_evalArgs hD hNext hInside
          (fun _ hArg => hEngine.parts hAsks
            (List.mem_cons_of_mem _ hArg)) hArgs with
        ⟨hSecond, hLast, hValues⟩
      exact ⟨hLast, hD.frame_mono hSecond hInside,
        asks_dispatch hAsks rfl
          (hD.holds_mono hSecond hObject) hValues _⟩
  | blockHead expr exprs =>
      exact ⟨hValid, hFrame,
        hAsks expr List.mem_cons_self⟩
  | @blockTail next expr value exprs hHead =>
      rcases hEval (hAsks expr List.mem_cons_self) hHead with
        ⟨hEvolves, hNext, _⟩
      exact ⟨hNext, hD.frame_mono hEvolves hFrame,
        fun other hOther =>
          hAsks other (List.mem_cons_of_mem _ hOther)⟩
  | argsHead expr exprs =>
      exact ⟨hValid, hFrame,
        hAsks expr List.mem_cons_self⟩
  | @argsTail next expr value exprs hHead =>
      rcases hEval (hAsks expr List.mem_cons_self) hHead with
        ⟨hEvolves, hNext, _⟩
      exact ⟨hNext, hD.frame_mono hEvolves hFrame,
        fun other hOther =>
          hAsks other (List.mem_cons_of_mem _ hOther)⟩
  | fieldsHead record name expr fields =>
      exact ⟨hValid, hFrame,
        hAsks.2 expr List.mem_cons_self⟩
  | @fieldsTail between expr value record name fields
      hHead =>
      rcases hEval (hAsks.2 expr List.mem_cons_self)
          hHead with
        ⟨hFirst, hNext, hValue⟩
      have hBind := Machine.Evolves.single
        (.define between record name value)
      have hLater := hFirst.trans hBind
      have hFills := hD.fills_mono hFirst hAsks.1
      exact ⟨hD.define name hNext (.inr hFills) hValue,
        hD.frame_mono hLater hFrame,
        hD.fills_mono hBind hFills,
        fun other hOther =>
          hAsks.2 other (List.mem_cons_of_mem _ hOther)⟩

/- A dispatch that resolves leads to a ready target. -/
theorem Governs.of_resolve
    (hD : D.Lawful context)
    (hEngine : D.Governs context level engine code)
    {site : S}
    {callee : FunctionId}
    {receiver : Value}
    {args : List Value}
    {line : Line}
    {target : Target}
    (hValid : D.valid level machine)
    (hAsks :
      D.Asks code machine
        (.dispatch site callee receiver args line))
    (hResolve :
      engine.resolve context.interner site callee
        args.length line machine = .ok target next) :
    D.Admits level
      { budget
        work := .call target receiver args line
        machine := next } := by
  rcases hAsks with
    ⟨hReceiver, hArgs, expr, hCode, rfl, hSite⟩
  have hEnds := hEngine.resolve callee hCode hSite hValid
  have hLift :
      Signal.lift
          (engine.resolve context.interner site callee
            args.length expr.line) machine =
        .ok target next := by
    rw [Signal.lift_apply, hResolve]
    rfl
  rcases hEnds.of_ok
      (.lift (hEngine.stepwise _ _ _ _ _)) hLift with
    ⟨hEvolves, hNext, hReady⟩
  exact ⟨hNext, hReady, hD.holds_mono hEvolves hReceiver,
    fun arg hArg => hD.holds_mono hEvolves (hArgs arg hArg)⟩

end Discipline

end Scriptlet

------------------------------------------------------------
-- Moments
------------------------------------------------------------

namespace Scriptlet

namespace Discipline

variable {D : Discipline}
variable {context : Context}
variable {level : D.Level}

/-
  The code of a call begins on a valid machine, in a frame,
  on the level that it is entered on.
-/
theorem Lawful.entered
    (hD : D.Lawful context)
    {machine : Machine}
    {line : Line}
    {target : Target}
    {scope : ObjectId}
    {receiver : Value}
    {args : List Value}
    {stack : CallStack}
    {S : Type}
    {code : D.Level → Expr S → Prop}
    {body : List (Expr S)}
    (params : List Name)
    (hValid : D.valid level machine)
    (hReady : D.ready level machine line target)
    (hScope : target.action.scope? = some scope)
    (hReceiver : D.holds machine receiver)
    (hArgs : ∀ arg ∈ args, D.holds machine arg)
    (hEnter :
      ∀ {opened : Machine},
        D.valid level opened →
          D.ready level opened line target →
            opened.stack = machine.stack →
              ∃ inner,
                D.Enters context level inner opened stack ∧
                  ∀ expr ∈ body, code inner expr) :
    ∃ inner,
      D.valid inner
          (Moment.entered context machine scope params
            receiver args stack) ∧
        D.frame
            (Moment.entered context machine scope params
              receiver args stack)
            ⟨machine.heap.objects.size⟩ ∧
          ∀ expr ∈ body, code inner expr := by
  rcases hD.opened params hValid hReady hScope hReceiver
      hArgs with
    ⟨hOpened, hFrame, hStill⟩
  have hRestack := Machine.Evolves.single
    (.restack (machine.opened context.this scope params
      receiver args) stack)
  rcases hEnter hOpened hStill rfl with
    ⟨inner, hEnters, hBody⟩
  exact ⟨inner, hEnters.valid,
    hD.frame_mono hRestack hFrame, hBody⟩

/- Admitted moments lead to admitted moments. -/
theorem Admits.next
    (hD : D.Lawful context)
    {moment later : Moment}
    (hAdmits : D.Admits level moment)
    (hNext : Moment.Next context moment later) :
    ∃ inner, D.Admits inner later := by
  rcases hAdmits with ⟨hValid, hWork⟩
  cases hNext with
  | walk hLeads =>
      rcases (hD.walking level).leads hD hLeads hValid
          hWork.1 hWork.2 with
        ⟨hLater, hFrame, hAsks⟩
      exact ⟨level, hLater, hFrame, hAsks⟩
  | execute hLeads =>
      rcases (hD.executing level).leads hD hLeads hValid
          hWork.1 hWork.2 with
        ⟨hLater, hFrame, hAsks⟩
      exact ⟨level, hLater, hFrame, hAsks⟩
  | walkCall hResolve =>
      exact ⟨level, (hD.walking level).of_resolve hD hValid
        hWork.2 hResolve⟩
  | executeCall hResolve =>
      exact ⟨level, (hD.executing level).of_resolve hD
        hValid hWork.2 hResolve⟩
  | enterWalked hPush =>
      rcases hD.entered _ hValid hWork.1 rfl hWork.2.1
          hWork.2.2 (fun hOpened hStill hStack =>
            hD.enterWalked hOpened hStill rfl
              (by rw [hStack]; exact hPush)) with
        ⟨inner, hInside, hFrame, hBody⟩
      exact ⟨inner, hInside, hFrame, hBody⟩
  | enterLinked hPush =>
      rcases hD.entered _ hValid hWork.1 rfl hWork.2.1
          hWork.2.2 (fun hOpened hStill hStack =>
            hD.enterLinked hOpened hStill rfl
              (by rw [hStack]; exact hPush)) with
        ⟨inner, hInside, hFrame, hBody⟩
      exact ⟨inner, hInside, hFrame, hBody⟩

/- What admitted moments lead to, sooner or later. -/
theorem Admits.reaches
    (hD : D.Lawful context)
    {moment later : Moment}
    (hAdmits : D.Admits level moment)
    (hReaches : Moment.Reaches context moment later) :
    ∃ inner, D.Admits inner later := by
  induction hReaches with
  | refl => exact ⟨level, hAdmits⟩
  | tail _ hNext ih =>
      rcases ih with ⟨inner, hLater⟩
      exact hLater.next hD hNext

end Discipline

end Scriptlet

------------------------------------------------------------
-- Ends of Moments
------------------------------------------------------------

namespace Scriptlet

/- The value that code gives or returns. -/
def resultValue? :
    EStateM.Result Signal Machine Value → Option Value
  | .ok value _ => some value
  | .error (.ret value _) _ => some value
  | .error (.halt _) _ => none

/- The value that a task of walking or executing gives. -/
def Task.value?
    {S : Type}
    (context : Context)
    (engine : Engine S)
    (call : Caller)
    (scope : ObjectId)
    (machine : Machine) :
    Task S → Option Value
  | .eval expr =>
      resultValue?
        (expr.eval context engine call scope machine)
  | .block exprs =>
      resultValue?
        (Expr.evalBlock context engine call scope exprs
          machine)
  | .args _ => none
  | .fields _ _ => none
  | .dispatch _ _ _ _ _ => none

/- The value that the work of a moment gives or returns. -/
def Moment.value?
    (context : Context)
    (moment : Moment) :
    Option Value :=
  match moment.work with
  | .walk scope task =>
      task.value? context .plain
        (.within context moment.budget) scope moment.machine
  | .execute scope task =>
      task.value? context .caching
        (.within context moment.budget) scope moment.machine
  | .call target receiver args line =>
      resultValue?
        (Signal.lift
          (Caller.within context moment.budget target
            receiver args line) moment.machine)

namespace Discipline

variable {D : Discipline}
variable {context : Context}
variable {level : D.Level}
variable {S : Type}
variable {engine : Engine S}
variable {code : Expr S → Prop}
variable {machine : Machine}
variable {scope : ObjectId}

/- Values that code gives or returns hold. -/
theorem Ends.holds_of_value?
    {result : EStateM.Result Signal Machine Value}
    (hEnds : D.Ends level D.holds result)
    {value : Value}
    (hValue : resultValue? result = some value) :
    D.holds (Machine.after result) value := by
  cases hEnds with
  | ok hValid hHolds =>
      cases hValue
      exact hHolds
  | halt hValid hMay => cases hValue
  | ret hValid hHolds hReturns =>
      cases hValue
      exact hHolds

/- How the work of a task ends. -/
theorem Governs.run
    (hD : D.Lawful context)
    (hEngine : D.Governs context level engine code)
    (hValid : D.valid level machine)
    (hFrame : D.frame machine scope)
    (budget : Nat)
    (task : Task S)
    (hAsks : D.Asks code machine task) :
    D.valid level
        (Machine.after
          (task.run context engine (.within context budget)
            scope machine)) ∧
      ∀ value,
        task.value? context engine (.within context budget)
            scope machine = some value →
          D.holds
            (Machine.after
              (task.run context engine
                (.within context budget) scope machine))
            value := by
  have hCall := obeys_within hD budget
  have hSteps := Caller.stepwise_within context budget
  cases task with
  | eval expr =>
      rw [Task.run, Task.after_discard]
      have hEnds := Expr.ends_eval hD hEngine hCall hSteps
        hValid hFrame expr hAsks
      exact ⟨hEnds.valid, fun _ hValue =>
        hEnds.holds_of_value? hValue⟩
  | block exprs =>
      rw [Task.run, Task.after_discard]
      have hEnds := Expr.ends_evalBlock hD hEngine hCall
        hSteps hValid hFrame exprs hAsks
      exact ⟨hEnds.valid, fun _ hValue =>
        hEnds.holds_of_value? hValue⟩
  | args exprs =>
      rw [Task.run, Task.after_discard]
      have hEnds := Expr.ends_evalArgs hD hEngine hCall
        hSteps hValid hFrame exprs hAsks
      exact ⟨hEnds.valid, by simp [Task.value?]⟩
  | fields record fields =>
      have hEnds := Expr.ends_evalFields hD hEngine hCall
        hSteps hValid hFrame hAsks.1 fields hAsks.2
      exact ⟨hEnds.valid, by simp [Task.value?]⟩
  | dispatch site callee receiver args line =>
      rcases hAsks with
        ⟨hReceiver, hArgs, expr, hCode, rfl, hSite⟩
      rw [Task.run, Task.after_discard]
      have hEnds := hEngine.dispatch hCall hD hCode hSite
        hValid hReceiver ⟨rfl, hArgs⟩ callee
      exact ⟨hEnds.valid, by simp [Task.value?]⟩

/- How the work of an admitted moment ends. -/
theorem Admits.last
    (hD : D.Lawful context)
    {moment : Moment}
    (hAdmits : D.Admits level moment) :
    D.valid level (moment.last context) ∧
      ∀ value,
        moment.value? context = some value →
          D.holds (moment.last context) value := by
  rcases moment with ⟨budget, work, machine⟩
  rcases hAdmits with ⟨hValid, hWork⟩
  cases work with
  | walk scope task =>
      exact (hD.walking level).run hD hValid hWork.1 budget
        task hWork.2
  | execute scope task =>
      exact (hD.executing level).run hD hValid hWork.1
        budget task hWork.2
  | call target receiver args line =>
      have hEnds := obeys_within hD budget level target
        receiver args line machine hValid hWork.1 hWork.2.1
        hWork.2.2
      have hLast := Signal.lift_apply
        (Caller.within context budget target receiver args
          line) machine
      have hAfter := congrArg Machine.after hLast
      rw [after_liftResult] at hAfter
      unfold Moment.last
      simp only
      rw [← hAfter]
      exact ⟨hEnds.valid, fun _ hValue =>
        hEnds.holds_of_value? hValue⟩

end Discipline

end Scriptlet
