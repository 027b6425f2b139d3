import Scriptlet.Proofs.Eval.DisciplinedCall
import Scriptlet.Proofs.Heap.Layered

/-
  Where a running script is.

  A place is the code that a script is in the middle of, and
  the calls by which it came there. Every call was made by a
  node that lies in the code of the place before it. While a
  script is walked, the call stack holds the calls of the
  place, functions are literals of the script, and a failure
  arises on the line of a node of some place. It is given
  the calls of that place where it first leaves a call, and
  keeps them from then on. Returning is no failure inside of
  a place, whatever else the place does with it.

  Key definitions include:
    * `Script.CallPath`
    * `Place`
    * `Failure.Leaves`
    * `Halt.SparesReturns`
    * `Discipline.traced`

  Key theorems include:
    * `Script.CallPath.hasLiteral`
    * `Discipline.lawful_traced`
-/

------------------------------------------------------------
-- Places
------------------------------------------------------------

namespace Scriptlet

/-
  The calls by which a script comes to code of its own, the
  innermost call first. Literals without a name are called
  `lambda`.
-/
inductive Script.CallPath
    (script : Script)
    (lambda : Name) :
    List Activation → List (Expr Unit) → Prop where
  | top : CallPath script lambda [] script.body
  | call
      {calls : List Activation}
      {body : List (Expr Unit)}
      {node : Expr Unit}
      {code : Code Unit}
      (hPath : CallPath script lambda calls body)
      (hLies : node.LiesIn body)
      (hCall : node.isCall = true)
      (hLiteral : script.HasLiteral code) :
      CallPath script lambda
        ({ callee := code.name.getD lambda
           line := node.line } :: calls)
        code.body

/- Literals in the code of a script are its literals. -/
theorem Script.CallPath.hasLiteral
    {script : Script}
    {lambda : Name}
    {calls : List Activation}
    {body inside : List (Expr Unit)}
    {line writtenAt : Line}
    {name : Option Name}
    {params : List Name}
    (hPath : script.CallPath lambda calls body)
    (hLies :
      Expr.LiesIn
        (.function line name params inside writtenAt)
        body) :
    script.HasLiteral
      { name, params, body := inside, writtenAt } := by
  cases hPath with
  | top => exact .outer hLies
  | call _ _ _ hLiteral => exact .nested hLiteral hLies

/- Code of a script, and how the script came there. -/
structure Place
    (script : Script)
    (lambda : Name) where
  calls : List Activation
  body : List (Expr Unit)
  path : script.CallPath lambda calls body

namespace Place

variable {script : Script}
variable {lambda : Name}

/- The top level of a script. -/
def top (script : Script) (lambda : Name) :
    Place script lambda where
  calls := []
  body := script.body
  path := .top

/- The calls of a place with their names spelled out. -/
def backtrace
    (place : Place script lambda)
    (interner : Interner) :
    Backtrace :=
  place.calls.map fun call =>
    { name := interner.lookup call.callee
      line := call.line }

/- Whether a line is that of a node of a place. -/
def HasLine
    (place : Place script lambda)
    (line : Line) : Prop :=
  ∃ node : Expr Unit,
    node.LiesIn place.body ∧ node.line = line

/- Whether something is called from a line of a place. -/
def Calls
    (place : Place script lambda)
    (line : Line) : Prop :=
  ∃ node : Expr Unit,
    node.LiesIn place.body ∧ node.isCall = true ∧
      node.line = line

theorem Calls.hasLine
    {place : Place script lambda}
    {line : Line}
    (hCalls : place.Calls line) :
    place.HasLine line := by
  rcases hCalls with ⟨node, hLies, _, hLine⟩
  exact ⟨node, hLies, hLine⟩

/- The place that a call of a literal leads to. -/
theorem exists_inner
    {place : Place script lambda}
    {line : Line}
    (hCalls : place.Calls line)
    {code : Code Unit}
    (hLiteral : script.HasLiteral code) :
    ∃ inner : Place script lambda,
      inner.body = code.body ∧
        inner.calls =
          { callee := code.name.getD lambda, line } ::
            place.calls := by
  rcases hCalls with ⟨node, hLies, hCall, rfl⟩
  exact ⟨⟨_, _, .call place.path hLies hCall hLiteral⟩,
    rfl, rfl⟩

end Place

end Scriptlet

------------------------------------------------------------
-- Failures and Functions
------------------------------------------------------------

namespace Scriptlet

variable {script : Script}
variable {lambda : Name}

/-
  Whether a failure may leave a place: it arose in some
  place, the calls of which it has, or it arose in this one
  and has none so far.
-/
def Failure.Leaves
    (interner : Interner)
    (place : Place script lambda)
    (failure : Failure) : Prop :=
  ∃ origin : Place script lambda,
    (∃ line,
      failure.line = some line ∧ origin.HasLine line) ∧
      (origin.calls ≠ [] ∧
          failure.backtrace = origin.backtrace interner ∨
        origin = place ∧ failure.backtrace = [])

/- Whether a halt may leave a place. -/
def Halt.Leaves
    (interner : Interner)
    (place : Place script lambda) :
    Halt → Prop
  | .failed failure => failure.Leaves interner place
  | .exhausted => True

/- A halt that does not complain about a return. -/
def Halt.SparesReturns : Halt → Prop
  | .failed failure => failure.cause ≠ .strayReturn
  | .exhausted => True

theorem Halt.SparesReturns.withCalls
    {reason : Halt}
    (hSpares : reason.SparesReturns)
    (backtrace : Backtrace) :
    (reason.withCalls backtrace).SparesReturns := by
  cases reason with
  | exhausted => trivial
  | failed failure =>
      change (failure.withCalls backtrace).cause ≠ _
      rw [Failure.cause_withCalls]
      exact hSpares

theorem Halt.sparesReturns_failedAt
    {cause : Cause}
    (hOrdinary : cause.Ordinary)
    (line : Line) :
    (Halt.failedAt cause line).SparesReturns := by
  change ((Failure.ofCause cause).locate line).cause ≠ _
  rw [Failure.cause_locate]
  exact hOrdinary.ne_strayReturn

/- A failure on a line of the place has no calls so far. -/
theorem Halt.leaves_failedAt
    (interner : Interner)
    {place : Place script lambda}
    {line : Line}
    (hLine : place.HasLine line)
    (cause : Cause) :
    (Halt.failedAt cause line).Leaves interner place := by
  refine ⟨place, ⟨line, ?_, hLine⟩, .inr ⟨rfl, ?_⟩⟩
  · simp [Failure.ofCause]
  · simp [Failure.ofCause]

/- A failure that has the calls of its place may leave. -/
theorem Failure.leaves_withCalls
    (interner : Interner)
    {place : Place script lambda}
    {line : Line}
    (hLine : place.HasLine line)
    (failure : Failure)
    (hFresh : failure.backtrace = [])
    (hLocated : failure.line = some line) :
    (failure.withCalls
      (place.backtrace interner)).Leaves interner place := by
  refine ⟨place, ⟨line, by simpa using hLocated, hLine⟩, ?_⟩
  have hCalls :
      (failure.withCalls
        (place.backtrace interner)).backtrace =
          place.backtrace interner := by
    simp [Failure.withCalls, hFresh]
  by_cases hNone : place.calls = []
  · refine .inr ⟨rfl, ?_⟩
    rw [hCalls]
    simp [Place.backtrace, hNone]
  · exact .inl ⟨hNone, hCalls⟩

/- A target that a script calls while it is walked. -/
def Target.WrittenIn
    (script : Script)
    (lambda : Name)
    (target : Target) : Prop :=
  match target.action with
  | .primitive (.host _) => False
  | .primitive _ => True
  | .walked code _ =>
      script.HasLiteral code ∧
        target.name = code.name.getD lambda
  | .linked _ _ => False

/- A heap in which functions come from a script. -/
def Heap.WrittenIn
    (script : Script)
    (lambda : Name)
    (heap : Heap) : Prop :=
  ∀ id function,
    heap.function? id = some function →
      (Target.of function).WrittenIn script lambda

/- A halt that leaves a call leaves the place before it. -/
theorem Halt.Leaves.outward
    {interner : Interner}
    {place inner : Place script lambda}
    {reason : Halt}
    (hInner : inner.calls ≠ [])
    (hLeaves : reason.Leaves interner inner) :
    (reason.withCalls (inner.backtrace interner)).Leaves
      interner place := by
  cases reason with
  | exhausted => trivial
  | failed failure =>
      rcases hLeaves with
        ⟨origin, ⟨line, hLine, hNode⟩, hCalls⟩
      refine ⟨origin, ⟨line, by simpa using hLine, hNode⟩,
        .inl ?_⟩
      rcases hCalls with ⟨hSome, hTrace⟩ | ⟨rfl, hFresh⟩
      · have hKept : failure.backtrace ≠ [] := by
          rw [hTrace]
          simpa [Place.backtrace] using hSome
        rw [Failure.backtrace_withCalls_of_ne_nil _ _ hKept]
        exact ⟨hSome, hTrace⟩
      · exact ⟨hInner, by
          simp [Failure.withCalls, hFresh]⟩

end Scriptlet

------------------------------------------------------------
-- The Discipline
------------------------------------------------------------

namespace Scriptlet

namespace Discipline

/-
  A script is walked from place to place, and the call stack
  says where it is.
-/
def traced
    (script : Script)
    (lambda : Name)
    (interner : Interner) :
    Discipline where
  Level := Place script lambda
  valid place machine :=
    machine.stack.calls = place.calls ∧
      machine.heap.WrittenIn script lambda
  frame _ _ := True
  fills _ _ := True
  holds _ _ := True
  ready place _ line target :=
    place.Calls line ∧ target.WrittenIn script lambda
  walks place node := node.LiesIn place.body
  executes _ _ := False
  may place reason :=
    reason.Leaves interner place ∧ reason.SparesReturns
  returns place line :=
    ∃ value : Expr Unit,
      (Expr.ret line value).LiesIn place.body

variable {script : Script}
variable {context : Context}

/- Walking goes from node to node of a place. -/
theorem governs_traced
    (place : Place script context.lambda) :
    (traced script context.lambda context.interner).Governs
      context place .plain
      (fun node => node.LiesIn place.body) where
  stepwise := Engine.stepwise_plain
  parts hLies hPart := .part hLies hPart
  fails hOrdinary hLies :=
    ⟨Halt.leaves_failedAt _ ⟨_, hLies, rfl⟩ _,
      Halt.sparesReturns_failedAt hOrdinary _⟩
  returns hLies := ⟨_, hLies⟩
  write _ hValid _ _ := hValid
  close := by
    intro machine line writtenAt name params body scope
      hLies hValid _
    refine ⟨hValid.1, ?_⟩
    intro id function hFunction
    rcases Heap.eq_or_function?_of_newFunction hFunction
      with rfl | hOld
    · exact ⟨place.path.hasLiteral hLies, rfl⟩
    · exact hValid.2 id function hOld
  resolve := by
    intro machine node site argc callee hLies hSite hValid
    have hCalls : place.Calls node.line :=
      ⟨node, hLies, by simp [Expr.isCall, hSite], rfl⟩
    rw [Signal.lift_apply]
    change Ends _ _ _
      (Signal.liftResult
        (resolve context.interner callee argc node.line
          machine))
    rw [resolve_apply]
    cases hCheck :
        machine.heap.check context.interner callee argc
          node.line with
    | ok target =>
        rcases (Heap.check_eq_ok_iff target).mp hCheck with
          ⟨function, hFunction, _, rfl⟩
        exact .ok hValid
          ⟨hCalls, hValid.2 callee function hFunction⟩
    | error reason =>
        rcases Heap.exists_cause_of_check hCheck with
          ⟨cause, rfl, hOrdinary⟩
        exact .halt hValid
          ⟨Halt.leaves_failedAt _ hCalls.hasLine cause,
            Halt.sparesReturns_failedAt hOrdinary _⟩

/- A script that is walked keeps track of where it is. -/
theorem lawful_traced
    (script : Script)
    (context : Context) :
    (traced script context.lambda context.interner).Lawful
      context := by
  constructor
  case frame_mono => exact fun _ _ => trivial
  case fills_mono => exact fun _ _ => trivial
  case holds_mono => exact fun _ _ => trivial
  case ready_mono => exact fun _ hReady => hReady
  case congr =>
      intro place machine next hValid hHeap _ hStack
      constructor
      · rw [hStack]
        exact hValid.1
      · rw [hHeap]
        exact hValid.2
  case atom => exact fun _ _ _ => trivial
  case lookup => exact fun _ _ _ => trivial
  case own => exact fun _ _ _ => trivial
  case define => exact fun _ hValid _ _ => hValid
  case newRecord =>
      exact fun hValid => ⟨hValid, trivial, trivial⟩
  case newScope => exact fun hValid _ _ => ⟨hValid, trivial⟩
  case walking => exact governs_traced
  case executing =>
      intro place
      constructor
      case stepwise => exact Engine.stepwise_caching
      all_goals
        intros
        contradiction
  case raises =>
      intro place machine line target cause hOrdinary hReady
      exact
        ⟨Halt.leaves_failedAt _ hReady.1.hasLine cause,
          Halt.sparesReturns_failedAt hOrdinary _⟩
  case host =>
      intro place machine line target function receiver args
        inner _ hReady hAction _ _
      have hWritten := hReady.2
      unfold Target.WrittenIn at hWritten
      rw [hAction] at hWritten
      exact hWritten.elim
  case exhausted => exact fun _ => ⟨trivial, trivial⟩
  case full =>
      intro place machine line target cause hValid hReady
        hPush
      have hTrace :
          machine.stack.backtrace context.interner =
            place.backtrace context.interner := by
        unfold CallStack.backtrace Place.backtrace
        rw [hValid.1]
      rw [hTrace]
      constructor
      · exact Failure.leaves_withCalls _ hReady.1.hasLine _
          (by simp [Failure.ofCause])
          (by simp [Failure.ofCause])
      · rcases (CallStack.push_eq_error_iff cause).mp hPush
          with ⟨limit, _, _, rfl⟩
        simp [Halt.SparesReturns, Failure.ofCause]
  case enterWalked =>
      intro place machine line target code scope stack
        hValid hReady hAction hPush
      have hWritten := hReady.2
      unfold Target.WrittenIn at hWritten
      rw [hAction] at hWritten
      rcases place.exists_inner hReady.1 hWritten.1 with
        ⟨inner, hBody, hCalls⟩
      have hInner : inner.calls ≠ [] := by simp [hCalls]
      have hStack := CallStack.eq_of_push hPush
      refine ⟨inner, ⟨⟨?_, hValid.2⟩, ?_, ?_⟩, ?_⟩
      · change stack.calls = inner.calls
        rw [hStack, hCalls, hWritten.2, hValid.1]
      · intro next hNext
        refine ⟨?_, hNext.2⟩
        change next.stack.calls.tail = place.calls
        rw [hNext.1, hCalls]
        rfl
      · intro next reason hNext hLeaves
        have hTrace :
            next.stack.backtrace context.interner =
              inner.backtrace context.interner := by
          unfold CallStack.backtrace Place.backtrace
          rw [hNext.1]
        rw [hTrace]
        exact ⟨hLeaves.1.outward hInner,
          hLeaves.2.withCalls _⟩
      · intro node hNode
        rw [← hBody] at hNode
        exact .statement hNode
  case enterLinked =>
      intro place machine line target code scope stack _
        hReady hAction _
      have hWritten := hReady.2
      unfold Target.WrittenIn at hWritten
      rw [hAction] at hWritten
      exact hWritten.elim

end Discipline

end Scriptlet
