import Scriptlet.Proofs.Eval.PathDiscipline
import Scriptlet.Proofs.Run.Crossing
import Scriptlet.Proofs.Run.Transparency
import Scriptlet.Proofs.Text.Interner

/-
  Failures tell where they come from.

  When a run fails, the line of the failure and the calls of
  its backtrace describe a way through the script: literals
  that called one another, each from a node in the code of
  the next one, down to a node on the line. What a failure
  says about its origin is settled where it is raised, and
  is not changed on the way out.

  Key definitions include:
    * `Code.label`
    * `Script.bodies`
    * `Failure.Describes`

  Key theorems include:
    * `Script.CallPath.exists_literals`
    * `Session.leaves_of_failed`
    * `Script.result_of_passes`
    * `failures_describe_calls`
-/

------------------------------------------------------------
-- Names of a Fresh Session
------------------------------------------------------------

namespace Scriptlet

theorem Store.survives_extends (base : Interner) :
    Survives fun _ store =>
      base.Extends store.interner where
  intern _ text _ hExtends := hExtends.intern text
  newFunction _ _ _ _ hExtends := hExtends
  define _ _ _ _ _ _ hExtends := hExtends

/-
  Creating an interpreter keeps the names that there were,
  and the name for functions without one reads as such.
-/
theorem Interpreter.names_create
    (base : Interner)
    (settings : Settings)
    (printer : Printer) :
    Store.Ensures (fun store => base.Extends store.interner)
      (create settings printer none)
      fun interpreter store =>
        base.Extends store.interner ∧
          store.interner.lookup interpreter.lambda =
            "lambda" := by
  have hKept := Store.survives_extends base
  have hLambda :
      Store.Ensures
        (fun store => base.Extends store.interner)
        (Store.intern "lambda")
        fun name store =>
          base.Extends store.interner ∧
            store.interner.lookup name = "lambda" :=
    fun store hExtends => ⟨hExtends.intern "lambda",
      hExtends.exact.lookup_intern "lambda"⟩
  unfold create
  refine .bind
    (hKept.newGlobal fun _ hExtends => hExtends)
    fun global => ?_
  refine .bind (hKept.intern global "this") fun this => ?_
  exact .bind hLambda fun lambda _ hNames => hNames

theorem Session.names_fresh
    {interner : Interner}
    (hExact : interner.Exact)
    (settings : Settings)
    (printer : Printer) :
    let session := Session.fresh settings printer interner
    interner.Extends session.store.interner ∧
      session.store.interner.lookup
        session.interpreter.lambda = "lambda" := by
  have hNames :=
    Interpreter.names_create interner settings printer
      (.ofInterner interner) hExact.extends
  unfold Session.fresh
  generalize
    (Interpreter.create settings printer none).run
      (.ofInterner interner) = made at *
  exact hNames

end Scriptlet

------------------------------------------------------------
-- Ways Through a Script
------------------------------------------------------------

namespace Scriptlet

/- The name by which a backtrace calls a literal. -/
def Code.label
    (interner : Interner)
    (code : Code Unit) :
    String :=
  match code.name with
  | some name => interner.lookup name
  | none => "lambda"

/-
  The code of literals that called one another, innermost
  first, with the top level of the script at the end.
-/
def Script.bodies
    (script : Script)
    (literals : List (Code Unit)) :
    List (List (Expr Unit)) :=
  literals.map Code.body ++ [script.body]

/-
  Whether literals of a script are what a failure says about
  its origin: it has a frame for each of them, with its name
  and the line of a call that lies in the code before it,
  and the line of a node that lies in the innermost code.
-/
structure Failure.Describes
    (script : Script)
    (interner : Interner)
    (failure : Failure)
    (literals : List (Code Unit)) : Prop where
  length : literals.length = failure.backtrace.length
  written : ∀ code ∈ literals, script.HasLiteral code
  line :
    ∃ (body : List (Expr Unit)) (node : Expr Unit),
      (script.bodies literals)[0]? = some body ∧
        node.LiesIn body ∧ failure.line = some node.line
  frames :
    ∀ depth frame,
      failure.backtrace[depth]? = some frame →
        ∃ (code : Code Unit) (outer : List (Expr Unit))
          (node : Expr Unit),
          literals[depth]? = some code ∧
            frame.name = code.label interner ∧
              (script.bodies literals)[depth + 1]? =
                  some outer ∧
                node.LiesIn outer ∧ node.isCall = true ∧
                  frame.line = node.line

variable {script : Script}
variable {lambda : Name}

/- The literals that the calls of a path are calls of. -/
theorem Script.CallPath.exists_literals
    {calls : List Activation}
    {body : List (Expr Unit)}
    (hPath : script.CallPath lambda calls body) :
    ∃ literals : List (Code Unit),
      literals.length = calls.length ∧
        (∀ code ∈ literals, script.HasLiteral code) ∧
          (script.bodies literals)[0]? = some body ∧
            ∀ depth call,
              calls[depth]? = some call →
                ∃ (code : Code Unit)
                  (outer : List (Expr Unit))
                  (node : Expr Unit),
                  literals[depth]? = some code ∧
                    call.callee = code.name.getD lambda ∧
                      (script.bodies literals)[depth + 1]? =
                          some outer ∧
                        node.LiesIn outer ∧
                          node.isCall = true ∧
                            call.line = node.line := by
  induction hPath with
  | top =>
      refine ⟨[], rfl, by simp, rfl, ?_⟩
      intro depth call hCall
      simp at hCall
  | @call calls body node code _ hLies hCall hLiteral ih =>
      rcases ih with
        ⟨literals, hLength, hLiterals, hBody, hFrames⟩
      have hBodies :
          script.bodies (code :: literals) =
            code.body :: script.bodies literals := by
        simp [Script.bodies]
      refine ⟨code :: literals, by simp [hLength],
        List.forall_mem_cons.mpr ⟨hLiteral, hLiterals⟩,
        by simp [hBodies], ?_⟩
      intro depth call hFrame
      rw [hBodies, List.getElem?_cons_succ]
      cases depth with
      | zero =>
          have hSame :
              { callee := code.name.getD lambda
                line := node.line } = call := by
            simpa using hFrame
          subst hSame
          exact ⟨code, body, node, rfl, rfl, hBody, hLies,
            hCall, rfl⟩
      | succ depth =>
          rw [List.getElem?_cons_succ] at hFrame ⊢
          exact hFrames depth call hFrame

/- A failure that leaves the top level describes its way. -/
theorem Failure.Leaves.describes
    {interner : Interner}
    {failure : Failure}
    (hLambda : interner.lookup lambda = "lambda")
    (hLeaves :
      failure.Leaves interner (Place.top script lambda)) :
    ∃ literals,
      failure.Describes script interner literals := by
  rcases hLeaves with
    ⟨origin, ⟨line, hLine, node, hLies, hNode⟩, hCalls⟩
  have hTrace :
      failure.backtrace = origin.backtrace interner := by
    rcases hCalls with ⟨_, hTrace⟩ | ⟨hTop, hFresh⟩
    · exact hTrace
    · rw [hFresh, hTop]
      rfl
  rcases origin.path.exists_literals with
    ⟨literals, hLength, hLiterals, hBody, hFrames⟩
  refine ⟨literals, ?_, hLiterals, ?_, ?_⟩
  · rw [hTrace, hLength]
    simp [Place.backtrace]
  · exact ⟨origin.body, node, hBody, hLies,
      by rw [hLine, hNode]⟩
  · intro depth frame hFrame
    rw [hTrace, Place.backtrace, List.getElem?_map] at hFrame
    rcases Option.map_eq_some_iff.mp hFrame with
      ⟨call, hCall, rfl⟩
    rcases hFrames depth call hCall with
      ⟨code, outer, caller, hCode, hCallee, hOuter, hInside,
        hIsCall, hFrom⟩
    refine ⟨code, outer, caller, hCode, ?_, hOuter, hInside,
      hIsCall, hFrom⟩
    simp only [hCallee, Code.label]
    cases code.name with
    | some name => rfl
    | none => exact hLambda

end Scriptlet

------------------------------------------------------------
-- Walks
------------------------------------------------------------

namespace Scriptlet

/- In a fresh session there are only primitives. -/
theorem Session.writtenIn_fresh
    (script : Script)
    (lambda : Name)
    (settings : Settings)
    (printer : Printer)
    (interner : Interner) :
    (Session.fresh settings printer
      interner).store.heap.WrittenIn script lambda := by
  have hStore :=
    Interpreter.gives_create settings printer _
      (Store.pristine_ofInterner interner)
  unfold Session.fresh
  generalize
    (Interpreter.create settings printer none).run
      (.ofInterner interner) = made at *
  intro id function hFunction
  rcases hStore.builtIn id function hFunction with
    ⟨⟨primitive, hAction⟩, hSound⟩
  have hBuiltIn := hSound #[] 0
  unfold Function.Sound at hBuiltIn
  unfold Target.WrittenIn Target.of
  rw [hAction] at hBuiltIn ⊢
  cases primitive with
  | print => trivial
  | operator op => trivial
  | host function => exact hBuiltIn

/-
  Whether a failure complains about a return that lies on
  the top level of a script, if it complains about one.
-/
def Failure.StraysIn
    (script : Script)
    (failure : Failure) : Prop :=
  failure.cause = .strayReturn →
    failure.backtrace = [] ∧
      ∃ (line : Line) (value : Expr Unit),
        failure.line = some line ∧
          (Expr.ret line value).LiesIn script.body

/- A walk that fails lets the failure leave the top level. -/
theorem Session.leaves_of_failed
    {session : Session}
    {job : Job}
    {failure : Failure}
    {last : Machine}
    (hCalls : session.interpreter.stack.calls = [])
    (hHeap :
      session.store.heap.WrittenIn job.script
        session.interpreter.lambda)
    (hFailed :
      session.result job (.plain job.script) =
        .error (.failed failure) last) :
    failure.Leaves job.interner
        (Place.top job.script session.interpreter.lambda) ∧
      failure.StraysIn job.script := by
  let context := session.context job.interner
  let budget := session.interpreter.budget job.hostDepth
  let place := Place.top job.script context.lambda
  let D := Discipline.traced job.script context.lambda
    context.interner
  have hD : D.Lawful context :=
    Discipline.lawful_traced job.script context
  have hValid : D.valid place session.machine :=
    ⟨hCalls, hHeap⟩
  have hEnds :
      D.Ends place D.holds
        (Expr.evalBlock context .plain
          (.within context budget)
          session.interpreter.global job.script.body
          session.machine) :=
    Expr.ends_evalBlock hD (hD.walking place)
      (Discipline.obeys_within hD budget)
      (Caller.stepwise_within context budget) hValid trivial
      job.script.body fun _ hNode => .statement hNode
  have hRun :
      endOf
        (Expr.evalBlock context .plain
          (.within context budget)
          session.interpreter.global job.script.body
          session.machine) = .error (.failed failure) last := by
    rw [← runBody_apply]
    exact hFailed
  generalize
    Expr.evalBlock context .plain (.within context budget)
      session.interpreter.global job.script.body
      session.machine = result at *
  cases hEnds with
  | ok hValid hHolds => cases hRun
  | halt hValid hMay =>
      cases hRun
      exact ⟨hMay.1, fun hStray => absurd hStray hMay.2⟩
  | ret hValid hHolds hReturns =>
      cases hRun
      rcases hReturns with ⟨value, hLies⟩
      refine ⟨Halt.leaves_failedAt job.interner
        ⟨_, hLies, rfl⟩ .strayReturn, fun _ => ?_⟩
      refine ⟨?_, _, value, ?_, hLies⟩
      · simp [Failure.ofCause]
      · simp [Failure.ofCause]

end Scriptlet

------------------------------------------------------------
-- Single Runs
------------------------------------------------------------

namespace Scriptlet

/- What halts the statements of a body is its answer. -/
theorem answerOf_runBody
    {S : Type}
    {context : Context}
    {engine : Engine S}
    {call : Caller}
    {global : ObjectId}
    {body : List (Expr S)}
    {machine : Machine}
    {reason : Halt}
    (hHalt :
      resultHalt?
          (Task.run context engine call global (.block body)
            machine) = some reason) :
    answerOf
        (runBody context engine call global body machine) =
      .error reason := by
  rcases resultHalt?_eq_some_iff.mp hHalt with ⟨last, hRun⟩
  rw [Task.run, Task.discard_eq_error] at hRun
  rw [runBody_apply, hRun]
  rfl

/- A program halts as its first moment does. -/
theorem Program.answer_of_halt
    {program : Program}
    {context : Context}
    {budget : Nat}
    {global : ObjectId}
    {machine : Machine}
    {reason : Halt}
    (hHalt :
      (program.first budget global machine).halt? context =
        some reason) :
    answerOf (program.run context budget global machine) =
      .error reason := by
  cases program with
  | plain script => exact answerOf_runBody hHalt
  | linked script => exact answerOf_runBody hHalt

/- A run ends with what its program answers. -/
theorem Interpreter.run_eq_answer
    (interpreter : Interpreter)
    (hostDepth : Nat)
    (script : Script)
    (store : Store) :
    let prepared := interpreter.prepare script store
    let outcome := interpreter.run hostDepth script store
    outcome.result =
        answerOf
          (prepared.1.run (interpreter.context prepared.2)
            (interpreter.budget hostDepth)
            interpreter.global
            (interpreter.machine prepared.2)) ∧
      outcome.store.interner = store.interner ∧
        (interpreter.context prepared.2).interner =
          store.interner := by
  intro prepared outcome
  have hNames :
      (interpreter.context prepared.2).interner =
        store.interner :=
    interpreter.interner_prepare script store
  refine ⟨?_, ?_, hNames⟩
  · change (interpreter.run hostDepth script store).result = _
    rw [interpreter.run_eq_finish]
    unfold Interpreter.context
    rw [interpreter.interner_prepare]
    rfl
  · change
      (interpreter.run hostDepth script store).store.interner = _
    rw [interpreter.run_eq_finish]
    rfl

/-
  A failure that is raised at some moment of a run is what
  the run fails with, with the calls that were active at
  that moment unless it had calls before.
-/
theorem Interpreter.result_of_reaches
    {interpreter : Interpreter}
    {hostDepth : Nat}
    {script : Script}
    {store : Store}
    {moment : Moment}
    {raised : Failure}
    (hCalls : interpreter.stack.calls = []) :
    let prepared := interpreter.prepare script store
    let context := interpreter.context prepared.2
    let outcome := interpreter.run hostDepth script store
    Moment.Reaches context
        (prepared.1.first (interpreter.budget hostDepth)
          interpreter.global
          (interpreter.machine prepared.2))
        moment →
      moment.halt? context = some (.failed raised) →
        outcome.result =
          .error (.failed (raised.withCalls
            (moment.machine.stack.backtrace
              outcome.store.interner))) := by
  intro prepared context outcome hReaches hRaised
  rcases interpreter.run_eq_answer hostDepth script store
    with ⟨hResult, hStore, hNames⟩
  have hFirst :
      (prepared.1.first (interpreter.budget hostDepth)
          interpreter.global
          (interpreter.machine
            prepared.2)).machine.stack.calls = [] := by
    rw [Program.machine_first]
    exact hCalls
  have hHalt := hReaches.halt_of_calls hFirst hRaised
  rw [hNames, ← hStore] at hHalt
  exact hResult.trans (Program.answer_of_halt hHalt)

namespace Script

variable {script : Script}
variable {settings : Settings}
variable {hostDepth : Nat}
variable {printer : Printer}
variable {interner : Interner}

/- The names of a single run stay those of its session. -/
theorem interner_runFresh :
    (script.runFresh settings hostDepth printer
        (.ofInterner interner)).store.interner =
      (Session.fresh settings printer
        interner).store.interner := by
  rw [runFresh_eq_run]
  generalize Session.fresh settings printer interner =
    session
  exact (session.interpreter.run_eq_answer hostDepth script
    session.store).2.1

/- Failures of a single run keep what they are raised with. -/
theorem result_of_passes
    {moment : Moment}
    {raised : Failure}
    (hPasses :
      script.Passes settings hostDepth printer interner
        moment)
    (hRaised :
      moment.halt?
          (script.freshContext settings printer interner) =
        some (.failed raised)) :
    let outcome :=
      script.runFresh settings hostDepth printer
        (.ofInterner interner)
    outcome.result =
      .error (.failed (raised.withCalls
        (moment.machine.stack.backtrace
          outcome.store.interner))) := by
  have hCalls :
      (Session.fresh settings printer
        interner).interpreter.stack.calls = [] := by
    rw [Session.stack_fresh]
    rfl
  unfold Passes freshContext freshFirst at hPasses
  unfold freshContext at hRaised
  rw [runFresh_eq_run]
  generalize Session.fresh settings printer interner =
    session at *
  exact Interpreter.result_of_reaches hCalls hPasses hRaised

/- A single run that fails says where. -/
theorem leaves_of_runFresh
    {failure : Failure}
    (hFailed :
      (script.runFresh settings hostDepth printer
          (.ofInterner interner)).result =
        .error (.failed failure)) :
    let session := Session.fresh settings printer interner
    failure.Leaves session.store.interner
        (Place.top script session.interpreter.lambda) ∧
      failure.StraysIn script := by
  have hShown :=
    script.shown_runFresh settings settings rfl hostDepth
      printer interner
  have hStack :=
    Session.stack_fresh settings printer interner
  have hWritten lambda :=
    Session.writtenIn_fresh script lambda settings printer
      interner
  have hHalt :
      (script.runFresh settings hostDepth printer
          (.ofInterner interner)).shown.halt =
        some (.failed failure) :=
    Outcome.halt_shown_eq_some_iff.mpr hFailed
  rw [hShown] at hHalt
  intro session
  change
    failure.Leaves
        (Session.fresh settings printer
          interner).store.interner
        (Place.top script
          (Session.fresh settings printer
            interner).interpreter.lambda) ∧
      failure.StraysIn script
  generalize Session.fresh settings printer interner =
    session at *
  rw [Session.outcome_eq] at hHalt
  cases hResult :
      session.result
        { script
          interner := session.store.interner
          hostDepth }
        (.plain script) with
  | ok answer last =>
      rw [hResult] at hHalt
      cases hHalt
  | error reason last =>
      rw [hResult] at hHalt
      have hReason : reason = .failed failure :=
        Option.some.inj hHalt
      subst hReason
      exact Session.leaves_of_failed (by rw [hStack]; rfl)
        (hWritten _) hResult

/- It does so by a way through its script. -/
theorem describes_of_runFresh
    (hExact : interner.Exact)
    {failure : Failure}
    (hFailed :
      (script.runFresh settings hostDepth printer
          (.ofInterner interner)).result =
        .error (.failed failure)) :
    ∃ literals,
      failure.Describes script
        (script.runFresh settings hostDepth printer
          (.ofInterner interner)).store.interner
        literals := by
  rw [interner_runFresh]
  exact (leaves_of_runFresh hFailed).1.describes
    (Session.names_fresh hExact settings printer).2

/- A single run leaves its names as they read. -/
theorem lookup_runFresh
    (hExact : interner.Exact)
    {name : Name}
    (hName : name.index < interner.size) :
    (script.runFresh settings hostDepth printer
        (.ofInterner interner)).store.interner.lookup
          name =
      interner.lookup name := by
  rw [interner_runFresh]
  exact (Session.names_fresh hExact settings
    printer).1.lookup_eq hName

end Script

/-
  A run that fails describes a way through its script, with
  a literal for each frame of the backtrace. Whatever moment
  the failure is raised at, the run fails with the same
  cause and line, and with the same calls; if it had none
  then with those that are active at that moment. Names read
  as they did before the run.
-/
theorem failures_describe_calls
    (texts : List String)
    (script : Script)
    (settings : Settings)
    (hostDepth : Nat)
    (printer : Printer) :
    let interner := (Interner.new.internAll texts).2
    let outcome :=
      script.runFresh settings hostDepth printer
        (.ofInterner interner)
    (∀ failure,
        outcome.result = .error (.failed failure) →
          ∃ literals,
            failure.Describes script outcome.store.interner
              literals) ∧
      (∀ moment raised,
        script.Passes settings hostDepth printer interner
            moment →
          moment.halt?
              (script.freshContext settings printer
                interner) =
              some (.failed raised) →
            ∃ failure,
              outcome.result = .error (.failed failure) ∧
                failure.cause = raised.cause ∧
                  failure.line = raised.line ∧
                    failure.backtrace =
                      if raised.backtrace = [] then
                        moment.machine.stack.backtrace
                          outcome.store.interner
                      else
                        raised.backtrace) ∧
        ∀ name : Name,
          name.index < interner.size →
            outcome.store.interner.lookup name =
              interner.lookup name := by
  refine ⟨?_, ?_, ?_⟩
  · intro failure hFailed
    exact Script.describes_of_runFresh
      (Interner.exact_internAll texts) hFailed
  · intro moment raised hPasses hRaised
    refine ⟨_, Script.result_of_passes hPasses hRaised,
      by simp, by simp, ?_⟩
    unfold Failure.withCalls
    by_cases hFresh : raised.backtrace = []
    · simp [hFresh]
    · simp [hFresh]
  · intro name hName
    exact Script.lookup_runFresh
      (Interner.exact_internAll texts) hName

/-
  A run that fails two calls deep names the function twice,
  as its text reads, with the lines of the two calls.
-/
theorem failures_describe_calls_callAgain :
    let interner := (Interner.new.internAll ["again"]).2
    let outcome :=
      callAgain.runFresh { maxCallDepth := some 2 } 0
        (.buffer "") (.ofInterner interner)
    (∃ failure literals,
        outcome.result = .error (.failed failure) ∧
          failure.line = some 3 ∧
            failure.backtrace =
                [{ name := "again", line := 3 },
                  { name := "again", line := 4 }] ∧
              failure.Describes callAgain
                outcome.store.interner literals) ∧
      outcome.store.interner.lookup ⟨1⟩ =
        interner.lookup ⟨1⟩ := by
  have hDescribed :=
    failures_describe_calls ["again"] callAgain
      { maxCallDepth := some 2 } 0 (.buffer "")
  have hRaised :
      (callAgain.freshFirst { maxCallDepth := some 2 } 0
          (.buffer "")
          (Interner.new.internAll ["again"]).2).halt?
        (callAgain.freshContext { maxCallDepth := some 2 }
          (.buffer "")
          (Interner.new.internAll ["again"]).2) =
        some (.failed
          { cause := .tooDeep 2
            line := some 3
            backtrace :=
              [{ name := "again", line := 3 },
                { name := "again", line := 4 }] }) := by
    decide +kernel
  rcases hDescribed.2.1 _ _ .refl hRaised with
    ⟨failure, hFailed, -, hLine, hTrace⟩
  rcases hDescribed.1 failure hFailed with ⟨literals, hWay⟩
  refine ⟨⟨failure, literals, hFailed, hLine, hTrace,
    hWay⟩, ?_⟩
  exact hDescribed.2.2 ⟨1⟩ (by decide +kernel)

end Scriptlet
