import Scriptlet.Proofs.Eval.ShapeDiscipline
import Scriptlet.Proofs.Run.DepthLimit
import Scriptlet.Proofs.Run.Disciplined
import Scriptlet.Proofs.Run.Session

/-
  The heap is well-formed at every moment.

  A new global frame makes a heap of the right shape, and no
  program can bring it out of shape. So whatever is run on a
  session, one thing after another, frames and records are
  kept apart all the time, and the only frame that a program
  ever holds in its hands is the global one.

  Key definitions include:
    * `Session.InShape`
    * `Work.operands`
    * `Moment.WellFormed`

  Key theorems include:
    * `Session.inShape_fresh`
    * `History.inShape`
    * `Session.InShape.admits_first`
    * `heap_wellFormed`
-/

------------------------------------------------------------
-- Fresh Sessions
------------------------------------------------------------

namespace Scriptlet

namespace Store

theorem survives_shaped :
    Survives fun global store =>
      store.heap.Shaped (fun id => id = global)
        global where
  intern _ _ _ hShaped := hShaped
  newFunction global function hBuiltIn _ hShaped := by
    rcases hBuiltIn.1 with ⟨primitive, hAction⟩
    apply hShaped.newFunction
    intro scope hScope
    rw [hAction] at hScope
    cases hScope
  define global id name value hValue _ hShaped :=
    hShaped.define id name fun object hObject =>
      .inl (hValue object hObject)

/- A frame alone in the heap is the global frame. -/
theorem shaped_newScope :
    Ensures (fun store => store.heap = .empty)
      (onHeap fun heap => heap.newScope none)
      fun global store =>
        store.heap.Shaped (fun id => id = global)
          global := by
  intro store hEmpty
  change Heap.Shaped
    (fun id => id = (store.heap.newScope none).1)
    (store.heap.newScope none).1
    (store.heap.newScope none).2
  rw [hEmpty]
  have hOnly
      {id : ObjectId}
      {object : Object}
      (hObject :
        (Heap.empty.newScope none).2.object? id =
          some object) :
      id = (Heap.empty.newScope none).1 ∧
        object =
          { role := .scope
            parent := none
            bindings := .empty } := by
    unfold Heap.newScope at hObject
    rw [Heap.object?_newObject] at hObject
    split at hObject
    case isTrue hYoungest =>
        exact ⟨congrArg ObjectId.mk hYoungest,
          (Option.some.inj hObject).symm⟩
    case isFalse =>
        simp [Heap.empty, Heap.object?] at hObject
  constructor
  case root =>
      exact ⟨_, Heap.empty.object?_youngest .scope none,
        rfl, rfl⟩
  case records =>
      intro id object hObject hRole
      rw [(hOnly hObject).2]
  case scopes =>
      intro id object hObject _
      exact .inl (hOnly hObject).1
  case functions =>
      intro id function scope hFunction
      simp [Heap.newScope, Heap.newObject, Heap.empty,
        Heap.function?] at hFunction
  case slots =>
      intro id object binding hObject hBinding
      rw [(hOnly hObject).2] at hBinding
      simp [OrderedMap.empty, OrderedMap.toList] at hBinding

end Store

/- So it is with everything bound in it. -/
theorem Interpreter.shaped_create
    (settings : Settings)
    (printer : Printer) :
    Store.Ensures (fun store => store.heap = .empty)
      (create settings printer none)
      fun interpreter store =>
        store.heap.Shaped
          (fun id => id = interpreter.global)
          interpreter.global :=
  Store.survives_shaped.create Store.shaped_newScope
    settings printer

end Scriptlet

------------------------------------------------------------
-- Sessions in Shape
------------------------------------------------------------

namespace Scriptlet

namespace Session

/-
  A session whose heap is in shape between runs. If it is
  quiet then no function assigns a field.
-/
structure InShape
    (quiet : Prop)
    (session : Session) : Prop where
  mirrors : ∃ plain, session.Mirrors plain
  heap :
    session.store.heap.Shaped
      (fun id => id = session.interpreter.global)
      session.interpreter.global
  quiet :
    quiet →
      ∀ id function,
        session.store.heap.function? id = some function →
          function.action.assignsField = false

/- The shape in which the runs of a session are done. -/
def shape
    (session : Session)
    (quiet : Prop) :
    Shape where
  argcs := session.argcs
  global := session.interpreter.global
  exposed id := id = session.interpreter.global
  quiet := quiet
  base := .empty

/- A fresh session is in shape. -/
theorem inShape_fresh
    (quiet : Prop)
    (settings : Settings)
    (printer : Printer)
    (interner : Interner) :
    (fresh settings printer interner).InShape quiet := by
  have hStore :=
    Interpreter.gives_create settings printer _
      (Store.pristine_ofInterner interner)
  have hShaped :=
    Interpreter.shaped_create settings printer
      (.ofInterner interner) rfl
  have hMirrors :
      (fresh settings printer interner).Mirrors
        (fresh settings printer interner) :=
    mirrors_fresh rfl printer interner
  unfold fresh at *
  generalize
    (Interpreter.create settings printer none).run
      (.ofInterner interner) = made at *
  constructor
  case mirrors => exact ⟨_, hMirrors⟩
  case heap => exact hShaped
  case quiet =>
      intro _ id function hFunction
      rcases (hStore.builtIn id function hFunction).1 with
        ⟨primitive, hAction⟩
      rw [hAction]
      rfl

/- What a run leaves behind. -/
theorem heap_next
    (session : Session)
    (job : Job)
    (program : Program) :
    (session.next job program).interpreter.global =
        session.interpreter.global ∧
      (session.next job program).store.heap =
        ((session.first job program).last
          (session.context job.interner)).heap := by
  unfold Session.first Session.next
  rw [Program.last_first, outcome_eq]
  exact ⟨rfl, rfl⟩

variable {quiet : Prop}
variable {session : Session}

namespace InShape

/- A session in shape starts runs on a shaped machine. -/
theorem machine
    (hShape : session.InShape quiet) :
    session.machine.Shaped (session.shape quiet) := by
  rcases hShape.mirrors with ⟨plain, hMirrors⟩
  exact
    { sound := hMirrors.twins.leftSound
      heap := hShape.heap
      quiet := hShape.quiet
      retains := .of_empty _ _ _ }

/- Linking a script does not touch the heap. -/
theorem link
    (hShape : session.InShape quiet)
    (script : Script)
    (room : Nat) :
    (session.link script room).InShape quiet := by
  rcases hShape.mirrors with ⟨plain, hMirrors⟩
  exact
    { mirrors := ⟨plain, hMirrors.link script room⟩
      heap := hShape.heap
      quiet := hShape.quiet }

/- The first moment of a run is one that may be. -/
theorem admits_first
    (hShape : session.InShape quiet)
    {job : Job}
    {program : Program}
    (hOffers : session.Offers job.script program)
    (hQuiet : quiet → job.script.assignsField = false) :
    (Discipline.shaped (session.shape quiet)).Admits ()
      (session.first job program) := by
  rcases hShape.mirrors with ⟨plain, hMirrors⟩
  have hProgram := hMirrors.isOf hOffers
  have hFrame := hShape.heap.isScope_global
  cases program with
  | plain other =>
      have hSame : other = job.script := hProgram
      subst hSame
      exact ⟨hShape.machine, ⟨hFrame, Nat.zero_le _⟩,
        Discipline.proper_body
          (Expr.everyCallAll_of_forall
            (fun _ _ => trivial) _) hQuiet⟩
  | linked other =>
      rcases hProgram with ⟨hErased, hServed⟩
      refine ⟨hShape.machine, ⟨hFrame, Nat.zero_le _⟩,
        Discipline.proper_body hServed ?_⟩
      intro hStill
      rw [← Expr.anyAssignsField_mapSites (fun _ => ()),
        hErased]
      exact hQuiet hStill

/- A run leaves the session in shape. -/
theorem run
    (hShape : session.InShape quiet)
    {job : Job}
    {program : Program}
    (hOffers : session.Offers job.script program)
    (hQuiet : quiet → job.script.assignsField = false) :
    (session.next job program).InShape quiet := by
  have hLast :=
    ((hShape.admits_first hOffers hQuiet).last
      (Discipline.lawful_shaped _
        (session.context job.interner))).1
  rcases session.heap_next job program with ⟨hGlobal, hHeap⟩
  rcases hShape.mirrors with ⟨plain, hMirrors⟩
  constructor
  case mirrors => exact ⟨_, (hMirrors.run hOffers).2⟩
  case heap =>
      rw [hGlobal, hHeap]
      exact hLast.heap
  case quiet =>
      intro hStill id function hFunction
      rw [hHeap] at hFunction
      exact hLast.quiet hStill id function hFunction

end InShape

end Session

/- Whatever happens, a session stays in shape. -/
theorem History.inShape
    {quiet : Prop}
    {session final : Session}
    {jobs : List Job}
    {shown : List Shown}
    (hHistory : History session jobs shown final)
    (hShape : session.InShape quiet)
    (hQuiet :
      quiet →
        ∀ job ∈ jobs, job.script.assignsField = false) :
    final.InShape quiet := by
  induction hHistory with
  | done session => exact hShape
  | link script room _ ih =>
      exact ih (hShape.link script room) hQuiet
  | run job program hOffers _ ih =>
      apply ih
      · exact hShape.run hOffers fun hStill =>
          hQuiet hStill job List.mem_cons_self
      · intro hStill other hOther
        exact hQuiet hStill other
          (List.mem_cons_of_mem _ hOther)

end Scriptlet

------------------------------------------------------------
-- Moments
------------------------------------------------------------

namespace Scriptlet

/- The values that a call is about to be made with. -/
def Task.operands
    {S : Type} :
    Task S → List Value
  | .dispatch _ _ receiver values _ => receiver :: values
  | .eval _ => []
  | .block _ => []
  | .args _ => []
  | .fields _ _ => []

/- The receiver and the arguments of a call. -/
def Work.operands : Work → List Value
  | .walk _ task => task.operands
  | .execute _ task => task.operands
  | .call _ receiver args _ => receiver :: args

/- The frame that code is run in. -/
def Work.frame? : Work → Option ObjectId
  | .walk scope _ => some scope
  | .execute scope _ => some scope
  | .call _ _ _ _ => none

/-
  A moment at which everything is well-formed: the heap, now
  and when the work has ended, the frame, the values that a
  call is made with, and the value that the work gives or
  returns.
-/
structure Moment.WellFormed
    (context : Context)
    (global : ObjectId)
    (moment : Moment) : Prop where
  heap : moment.machine.heap.WellFormed global
  lastHeap :
    (moment.last context).heap.WellFormed global
  frame :
    ∀ scope,
      moment.work.frame? = some scope →
        moment.machine.heap.isScope scope = true
  operands :
    ∀ value ∈ moment.work.operands,
      moment.machine.heap.Admits global value
  value :
    ∀ value,
      moment.value? context = some value →
        (moment.last context).heap.Admits global value

namespace Discipline

variable {shape : Shape}

/- The operands of an admitted task may occur. -/
theorem allows_operands
    {S : Type}
    {code : Expr S → Prop}
    {machine : Machine}
    {task : Task S}
    (hAsks : (shaped shape).Asks code machine task) :
    ∀ value ∈ task.operands,
      machine.heap.Allows shape.exposed value := by
  cases task with
  | dispatch site callee receiver args line =>
      rcases hAsks with ⟨hReceiver, hArgs, _⟩
      intro value hValue
      rcases List.mem_cons.mp hValue with rfl | hValue
      · exact hReceiver
      · exact hArgs value hValue
  | _ => simp [Task.operands]

/-
  An admitted moment is well-formed, if programs are exposed
  to no frame but the global one.
-/
theorem Admits.wellFormed
    {moment : Moment}
    (hAdmits : (shaped shape).Admits () moment)
    (hExposed : shape.exposed = fun id => id = shape.global)
    (context : Context) :
    moment.WellFormed context shape.global := by
  rcases hAdmits.last (lawful_shaped shape context) with
    ⟨hLast, hValue⟩
  rcases shape with ⟨argcs, global, exposed, quiet, base⟩
  rcases moment with ⟨budget, work, machine⟩
  rcases hAdmits with ⟨hMachine, hWork⟩
  simp only at hExposed
  subst hExposed
  constructor
  case heap => exact hMachine.heap.wellFormed
  case lastHeap => exact hLast.heap.wellFormed
  case frame =>
      intro scope hScope
      cases work with
      | walk other task =>
          cases hScope
          exact hWork.1.1
      | execute other task =>
          cases hScope
          exact hWork.1.1
      | call target receiver args line => cases hScope
  case operands =>
      intro value hOperand
      cases work with
      | walk scope task =>
          exact allows_operands hWork.2 value hOperand
      | execute scope task =>
          exact allows_operands hWork.2 value hOperand
      | call target receiver args line =>
          rcases List.mem_cons.mp hOperand with
            rfl | hOperand
          · exact hWork.2.1
          · exact hWork.2.2 value hOperand
  case value => exact hValue

end Discipline

/-
  After any sequence of runs on a fresh session the heap is
  well-formed, and so is every moment of one run more.
-/
theorem heap_wellFormed
    (settings : Settings)
    (printer : Printer)
    (interner : Interner)
    (jobs : List Job)
    (shown : List Shown)
    (final : Session)
    (hHistory :
      History (.fresh settings printer interner) jobs shown
        final) :
    final.store.heap.WellFormed
        final.interpreter.global ∧
      ∀ job program moment,
        final.Offers job.script program →
          Moment.Reaches (final.context job.interner)
              (final.first job program) moment →
            moment.WellFormed (final.context job.interner)
              final.interpreter.global := by
  have hShape : final.InShape False :=
    hHistory.inShape
      (Session.inShape_fresh False settings printer
        interner) False.elim
  refine ⟨hShape.heap.wellFormed, ?_⟩
  intro job program moment hOffers hReaches
  have hLawful :=
    Discipline.lawful_shaped (final.shape False)
      (final.context job.interner)
  rcases (hShape.admits_first hOffers
      False.elim).reaches hLawful hReaches with
    ⟨_, hMoment⟩
  exact hMoment.wellFormed rfl (final.context job.interner)

/-
  Two frames are left by a run that fails two calls deep,
  and the heap is well-formed.
-/
theorem heap_wellFormed_callAgain :
    let session :=
      Session.fresh { maxCallDepth := some 1 } (.buffer "")
        againNames
    let job : Job :=
      { script := callAgain
        interner := session.store.interner
        hostDepth := 0 }
    let final := session.next job (.plain callAgain)
    final.store.heap.objects.size = 3 ∧
      final.store.heap.WellFormed
          final.interpreter.global ∧
        (final.first job (.plain callAgain)).WellFormed
          (final.context job.interner)
          final.interpreter.global := by
  intro session job final
  have hFinal :=
    heap_wellFormed { maxCallDepth := some 1 } (.buffer "")
      againNames [job] _ final
      (.run job (.plain callAgain) rfl (.done final))
  exact ⟨by decide +kernel, hFinal.1,
    hFinal.2 job (.plain callAgain) _ rfl .refl⟩

end Scriptlet
