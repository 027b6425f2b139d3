import Scriptlet.Proofs.Heap.Accumulation
import Scriptlet.Proofs.Run.Crossing
import Scriptlet.Proofs.Run.HeapShape
import Scriptlet.Proofs.Run.Order

/-
  Declarations are for good.

  Bindings only accumulate, in every evaluation and however
  it ends. So once a name was declared in a frame, it is
  visible from there, and from all frames inside of it, for
  as long as the interpreter is used: every declaration of
  it that comes later is refused, and binds nothing.

  Key definitions include:
    * `Moment.Declares`
    * `Moment.RefusesIn`
    * `Session.Visits`
    * `Session.Reserves`

  Key theorems include:
    * `Moment.EndsBefore.evolves_checked`
    * `Moment.Declares.binds`
    * `History.accumulates`
    * `Session.Mirrors.reserves`
    * `declarations_permanent`
-/

------------------------------------------------------------
-- Declarations
------------------------------------------------------------

namespace Scriptlet

/- A declaration is made or refused after its value. -/
theorem Task.run_declaration
    {S : Type}
    {context : Context}
    {engine : Engine S}
    {call : Caller}
    {scope : ObjectId}
    {value : Expr S}
    {result : Value}
    {machine checked : Machine}
    (hValue :
      value.eval context engine call scope machine =
        .ok result checked)
    (name : Name)
    (line : Line) :
    (Task.eval (.assign line true name value)).run context
        engine call scope machine =
      if checked.heap.inScope scope name then
        .error
          (.halt
            (.failedAt
              (.alreadyDeclared
                (context.interner.lookup name))
              line))
          checked
      else
        .ok ()
          { checked with
            heap := checked.heap.define scope name
              result } := by
  rw [Task.run, Expr.eval, RunM.bind_apply,
    RunM.bind_apply, hValue]
  simp only
  rw [EvalM.bindLocal_apply]
  by_cases hVisible :
      checked.heap.inScope scope name = true
  · simp [hVisible]
  · simp [hVisible]
    rfl

namespace Moment

/-
  Work that declares a name in a frame, and the machine that
  the name is looked for on when its value was evaluated.
-/
inductive Declares
    (context : Context)
    (scope : ObjectId)
    (name : Name)
    (line : Line)
    (checked : Machine) :
    Moment → Prop where
  | walk
      {budget : Nat}
      {machine : Machine}
      {value : Expr Unit}
      {result : Value}
      (hValue :
        value.eval context .plain (.within context budget)
          scope machine = .ok result checked) :
      Declares context scope name line checked
        { budget
          work := .walk scope
            (.eval (.assign line true name value))
          machine }
  | execute
      {budget : Nat}
      {machine : Machine}
      {value : Expr SiteId}
      {result : Value}
      (hValue :
        value.eval context .caching (.within context budget)
          scope machine = .ok result checked) :
      Declares context scope name line checked
        { budget
          work := .execute scope
            (.eval (.assign line true name value))
          machine }

namespace Declares

variable {context : Context}
variable {scope : ObjectId}
variable {name : Name}
variable {line : Line}
variable {checked : Machine}
variable {moment : Moment}

/- A visible name is not declared, and nothing is bound. -/
theorem refused
    (hDeclares :
      Declares context scope name line checked moment)
    (hVisible : checked.heap.inScope scope name = true) :
    moment.halt? context =
        some
          (.failedAt
            (.alreadyDeclared
              (context.interner.lookup name))
            line) ∧
      moment.last context = checked := by
  cases hDeclares with
  | walk hValue =>
      simp only [halt?, last,
        Task.run_declaration hValue name line, hVisible,
        if_true]
      exact ⟨rfl, rfl⟩
  | execute hValue =>
      simp only [halt?, last,
        Task.run_declaration hValue name line, hVisible,
        if_true]
      exact ⟨rfl, rfl⟩

/- A declaration that does not fail binds the name. -/
theorem binds
    (hDeclares :
      Declares context scope name line checked moment)
    (hScope : scope.index < checked.heap.objects.size)
    (hMade : moment.halt? context = none) :
    (moment.last context).heap.binds scope name = true := by
  have hHidden :
      checked.heap.inScope scope name = false := by
    apply Bool.eq_false_iff.mpr
    intro hVisible
    rw [(hDeclares.refused hVisible).1] at hMade
    cases hMade
  cases hDeclares with
  | walk hValue =>
      simp only [last,
        Task.run_declaration hValue name line, hHidden,
        Bool.false_eq_true, if_false]
      exact Heap.binds_define hScope name _
  | execute hValue =>
      simp only [last,
        Task.run_declaration hValue name line, hHidden,
        Bool.false_eq_true, if_false]
      exact Heap.binds_define hScope name _

/- What a declaration does first is to find its value. -/
theorem exists_next
    (hDeclares :
      Declares context scope name line checked moment) :
    ∃ value, Next context moment value := by
  cases hDeclares with
  | walk hValue =>
      exact ⟨_, .walk (.assignValue _ _ _ _ _)⟩
  | execute hValue =>
      exact ⟨_, .execute (.assignValue _ _ _ _ _)⟩

/- Nothing happens between the value and the check. -/
theorem last_next
    (hDeclares :
      Declares context scope name line checked moment)
    {value : Moment}
    (hNext : Next context moment value) :
    value.last context = checked := by
  cases hDeclares with
  | walk hValue =>
      cases hNext with
      | walk hLeads =>
          cases hLeads
          simp only [last, Task.run, Task.after_discard,
            hValue]
          rfl
  | execute hValue =>
      cases hNext with
      | execute hLeads =>
          cases hLeads
          simp only [last, Task.run, Task.after_discard,
            hValue]
          rfl

/- The check is on what the declaration has come to. -/
theorem evolves
    (hDeclares :
      Declares context scope name line checked moment) :
    moment.machine.Evolves checked := by
  rcases hDeclares.exists_next with ⟨value, hNext⟩
  rw [← hDeclares.last_next hNext]
  exact (Reaches.evolves (.single hNext)).trans
    (value.evolves_last context)

/- The check is made on a sound machine. -/
theorem sound
    {argcs : Array Nat}
    (hDeclares :
      Declares context scope name line checked moment)
    (hSound : moment.Sound argcs) :
    checked.Sound argcs := by
  rcases hDeclares.exists_next with ⟨value, hNext⟩
  rw [← hDeclares.last_next hNext]
  exact ((hSound.next hNext).sound.last context).sound

/- The frame of a declaration is there. -/
theorem scope_lt
    {argcs : Array Nat}
    (hDeclares :
      Declares context scope name line checked moment)
    (hSound : moment.Sound argcs) :
    scope.index < checked.heap.objects.size := by
  have hGrowth := hDeclares.evolves.objects_le
  rcases hSound with ⟨_, hWork⟩
  cases hDeclares with
  | walk => exact Nat.lt_of_lt_of_le hWork hGrowth
  | execute => exact Nat.lt_of_lt_of_le hWork.1 hGrowth

end Declares

/- What ended before is there when a name is checked. -/
theorem EndsBefore.evolves_checked
    {context : Context}
    {frame : ObjectId}
    {name : Name}
    {line : Line}
    {checked : Machine}
    {early late : Moment}
    (hOrder : EndsBefore context early late)
    (hDeclares :
      late.Declares context frame name line checked) :
    (early.last context).Evolves checked := by
  rcases hOrder with hPrecedes | hInside
  · exact hPrecedes.evolves.trans hDeclares.evolves
  · -- All that a declaration does before its check is to
    -- evaluate its value.
    rcases Relation.TransGen.head'_iff.mp hInside with
      ⟨value, hNext, hReaches⟩
    rw [← hDeclares.last_next hNext]
    exact Reaches.evolves_last hReaches

/-
  Whether work, if it declares a name where a frame is on
  the way outward, is refused when it comes to the check,
  and leaves things as the check has found them.
-/
def RefusesIn
    (context : Context)
    (scope : ObjectId)
    (name : Name)
    (moment : Moment) : Prop :=
  ∀ frame line checked chain,
    moment.Declares context frame name line checked →
      checked.heap.Chain frame chain →
        scope ∈ chain →
          moment.halt? context =
              some
                (.failedAt
                  (.alreadyDeclared
                    (context.interner.lookup name))
                  line) ∧
            moment.last context = checked

/- Names that are bound at the check are not declared. -/
theorem Sound.refusesIn
    {context : Context}
    {argcs : Array Nat}
    {scope : ObjectId}
    {name : Name}
    {moment : Moment}
    (hSound : moment.Sound argcs)
    (hBound :
      ∀ frame line checked,
        moment.Declares context frame name line checked →
          checked.heap.binds scope name = true) :
    moment.RefusesIn context scope name := by
  intro frame line checked chain hDeclares hChain hScope
  apply hDeclares.refused
  rw [(hDeclares.sound hSound).layered.inScope_eq hChain
    name]
  exact List.any_eq_true.mpr
    ⟨scope, hScope, hBound frame line checked hDeclares⟩

end Moment

end Scriptlet

------------------------------------------------------------
-- Sessions
------------------------------------------------------------

namespace Scriptlet

namespace Store

theorem survives_indexed :
    Survives fun _ store => store.heap.Indexed where
  intern _ _ _ hIndexed := hIndexed
  newFunction _ _ _ _ hIndexed := hIndexed
  define _ id name value _ _ hIndexed :=
    hIndexed.define id name value

theorem indexed_newScope :
    Ensures (fun store => store.heap.Indexed)
      (onHeap fun heap => heap.newScope none)
      fun _ store => store.heap.Indexed :=
  fun _ hIndexed => hIndexed.newObject .scope none

end Store

/- A fresh session has bound names where it finds them. -/
theorem Session.indexed_fresh
    (settings : Settings)
    (printer : Printer)
    (interner : Interner) :
    (fresh settings printer interner).store.heap.Indexed := by
  have hIndexed :=
    Store.survives_indexed.create Store.indexed_newScope
      settings printer (.ofInterner interner)
      Heap.indexed_empty
  unfold fresh
  generalize
    (Interpreter.create settings printer none).run
      (.ofInterner interner) = made at *
  exact hIndexed

namespace Session

/- A moment that the run of a job passes through. -/
def Visits
    (session : Session)
    (job : Job)
    (program : Program)
    (moment : Moment) : Prop :=
  Moment.Reaches (session.context job.interner)
    (session.first job program) moment

variable {session : Session}
variable {job : Job}
variable {program : Program}
variable {moment : Moment}

theorem machine_first
    (session : Session)
    (job : Job)
    (program : Program) :
    (session.first job program).machine =
      session.machine :=
  Program.machine_first _ _ _ _

/- A run lets the objects of a session grow. -/
theorem accumulates_next
    (hIndexed : session.store.heap.Indexed)
    (job : Job)
    (program : Program) :
    (session.next job program).store.heap.Indexed ∧
      session.store.heap.Grows
        (session.next job program).store.heap := by
  have hRun :=
    (session.first job program).evolves_last
      (session.context job.interner)
  rw [machine_first] at hRun
  rw [(session.heap_next job program).2]
  exact hRun.accumulates hIndexed

/- The bindings of a run are where it finds them. -/
theorem Visits.indexed
    (hVisits : session.Visits job program moment)
    (hIndexed : session.store.heap.Indexed) :
    moment.machine.heap.Indexed ∧
      (moment.last
        (session.context job.interner)).heap.Indexed := by
  have hStart := Moment.Reaches.evolves hVisits
  rw [machine_first] at hStart
  have hMoment := (hStart.accumulates hIndexed).1
  exact ⟨hMoment,
    ((moment.evolves_last _).accumulates hMoment).1⟩

end Session

/- So does all that is run on it. -/
theorem History.accumulates
    {session final : Session}
    {jobs : List Job}
    {shown : List Shown}
    (hHistory : History session jobs shown final)
    (hIndexed : session.store.heap.Indexed) :
    final.store.heap.Indexed ∧
      session.store.heap.Grows final.store.heap := by
  induction hHistory with
  | done session => exact ⟨hIndexed, .refl _⟩
  | link script room _ ih => exact ih hIndexed
  | run job program _ _ ih =>
      rcases Session.accumulates_next hIndexed job
          program with
        ⟨hNext, hGrows⟩
      rcases ih hNext with ⟨hFinal, hMore⟩
      exact ⟨hFinal, hGrows.trans hMore⟩

end Scriptlet

------------------------------------------------------------
-- Permanence
------------------------------------------------------------

namespace Scriptlet

namespace Session

/-
  Whether a name is taken in a frame once work of a run is
  over: in all work of the run that is over later, and in
  all runs after it. Of two pieces of work of a run one is
  over before the other.
-/
structure Reserves
    (session : Session)
    (job : Job)
    (program : Program)
    (early : Moment)
    (scope : ObjectId)
    (name : Name) : Prop where
  ordered :
    ∀ late,
      session.Visits job program late →
        early = late ∨
          Moment.EndsBefore (session.context job.interner)
              early late ∨
            Moment.EndsBefore
              (session.context job.interner) late early
  sameRun :
    ∀ late,
      session.Visits job program late →
        Moment.EndsBefore (session.context job.interner)
            early late →
          late.RefusesIn (session.context job.interner)
            scope name
  laterRuns :
    ∀ jobs shown final other next late,
      History (session.next job program) jobs shown final →
        final.Offers other.script next →
          final.Visits other next late →
            late.RefusesIn (final.context other.interner)
              scope name

/- A declaration that was made is made for good. -/
theorem Mirrors.reserves
    {session plain : Session}
    (hMirrors : session.Mirrors plain)
    (hIndexed : session.store.heap.Indexed)
    {job : Job}
    {program : Program}
    (hOffers : session.Offers job.script program)
    {early : Moment}
    {scope : ObjectId}
    {name : Name}
    {line : Line}
    {checked : Machine}
    (hEarly : session.Visits job program early)
    (hDeclares :
      early.Declares (session.context job.interner) scope
        name line checked)
    (hMade :
      early.halt? (session.context job.interner) = none) :
    session.Reserves job program early scope name := by
  have hFirst := hMirrors.sound_first hOffers
  have hScope :=
    hDeclares.scope_lt (hFirst.reaches hEarly).sound
  have hBinds := hDeclares.binds hScope hMade
  have hEarlyIndexed := (hEarly.indexed hIndexed).2
  constructor
  case ordered =>
      intro late hLate
      exact Moment.Reaches.ordered hEarly hLate
  case sameRun =>
      intro late hLate hOrder
      apply (hFirst.reaches hLate).sound.refusesIn
      intro frame line checked hDeclared
      exact (hOrder.evolves_checked hDeclared).binds
        hEarlyIndexed hBinds
  case laterRuns =>
      intro jobs shown final other next late hHistory
        hOffered hLate
      rcases hHistory.mirrors (hMirrors.run hOffers).2 with
        ⟨_, hFinal⟩
      have hSound :=
        ((hFinal.sound_first hOffered).reaches hLate).sound
      apply hSound.refusesIn
      intro frame line checked hDeclared
      -- The name stays bound to the end of its run, between
      -- the runs, and from then on to the check.
      have hAfter :=
        (Moment.Reaches.evolves_last hEarly).binds
          hEarlyIndexed hBinds
      rw [← (session.heap_next job program).2] at hAfter
      have hNext :=
        (accumulates_next hIndexed job program).1
      rcases hHistory.accumulates hNext with
        ⟨hFinalIndexed, hGrows⟩
      have hStart :=
        hGrows.binds hNext hFinalIndexed hAfter
      have hSteps := Moment.Reaches.evolves hLate
      rw [machine_first] at hSteps
      exact (hSteps.trans hDeclared.evolves).binds
        hFinalIndexed hStart

end Session

/-
  Bindings only accumulate. Whatever is evaluated in a state
  of a run, and however that ends, every object stays what
  it is and keeps its names in their order. So a declaration
  is permanent: no later one of the same name is made in its
  frame or in a frame inside of that.
-/
theorem declarations_permanent
    {settings : Settings}
    {printer : Printer}
    {interner : Interner}
    {jobs : List Job}
    {shown : List Shown}
    {session : Session}
    (hHistory :
      History (.fresh settings printer interner) jobs shown
        session)
    {job : Job}
    {program : Program}
    (hOffers : session.Offers job.script program) :
    (∀ moment work : Moment,
        session.Visits job program moment →
          work.machine = moment.machine ∨
              work.machine =
                moment.last
                  (session.context job.interner) →
            ∀ names,
              work.machine.heap.Grows
                (work.last names).heap) ∧
      ∀ early scope name line checked,
        session.Visits job program early →
          early.Declares (session.context job.interner)
              scope name line checked →
            early.halt? (session.context job.interner) =
                none →
              session.Reserves job program early scope
                name := by
  have hIndexed :=
    (hHistory.accumulates
      (Session.indexed_fresh settings printer interner)).1
  constructor
  · intro moment work hVisits hState names
    apply ((work.evolves_last names).accumulates _).2
    rcases hState with hState | hState
    · rw [hState]
      exact (hVisits.indexed hIndexed).1
    · rw [hState]
      exact (hVisits.indexed hIndexed).2
  · intro early scope name line checked hEarly hDeclares
      hMade
    rcases hHistory.mirrors
        (Session.mirrors_fresh rfl printer interner) with
      ⟨_, hMirrors⟩
    exact hMirrors.reserves hIndexed hOffers hEarly
      hDeclares hMade

/- A script that declares a name. -/
def declareOne : Script where
  body := [.assign 1 true ⟨1⟩ (.literal 1 (.int 1))]

/- A job that declares a name. -/
def declareOneJob : Job where
  script := declareOne
  interner := againNames
  hostDepth := 0

/- The moment at which a session comes to declare it. -/
def Session.declaring (session : Session) : Moment where
  budget := session.interpreter.budget 0
  work :=
    .walk session.interpreter.global
      (.eval (.assign 1 true ⟨1⟩ (.literal 1 (.int 1))))
  machine := session.machine

theorem Session.visits_declaring (session : Session) :
    session.Visits declareOneJob (.plain declareOne)
      session.declaring :=
  .single (.walk (.blockHead _ _ _))

theorem Session.declares_declaring (session : Session) :
    session.declaring.Declares
      (session.context declareOneJob.interner)
      session.interpreter.global ⟨1⟩ 1 session.machine :=
  .walk (by rw [Expr.eval]; rfl)

/-
  The name is declared in the first run of the script and
  refused in the second, where the frame is the same.
-/
theorem declarations_permanent_twice :
    let session :=
      Session.fresh {} (.buffer "") againNames
    let next :=
      session.next declareOneJob (.plain declareOne)
    session.declaring.halt?
        (session.context declareOneJob.interner) = none ∧
      next.declaring.halt?
          (next.context declareOneJob.interner) =
        some (.failedAt (.alreadyDeclared "again") 1) := by
  have hMade :
      ((Session.fresh {} (.buffer "")
          againNames).declaring.halt?
        ((Session.fresh {} (.buffer "") againNames).context
          declareOneJob.interner)).isNone = true := by
    decide +kernel
  have hPermanent :=
    (declarations_permanent
      (.done (.fresh {} (.buffer "") againNames))
      (show
        (Session.fresh {} (.buffer "") againNames).Offers
          declareOneJob.script (.plain declareOne)
        from rfl)).2
  have hShape :
      (Session.fresh {} (.buffer "")
        againNames).InShape False :=
    Session.inShape_fresh _ _ _ _
  generalize
    Session.fresh {} (.buffer "") againNames = session at *
  have hNone := Option.isNone_iff_eq_none.mp hMade
  have hReserves :=
    hPermanent session.declaring _ _ _ _
      session.visits_declaring session.declares_declaring
      hNone
  have hNext :=
    hShape.run (show
      session.Offers declareOneJob.script
        (.plain declareOne) from rfl) False.elim
  rcases hNext.heap.root with ⟨object, hObject, _, hRoot⟩
  have hGlobal :=
    (session.heap_next declareOneJob (.plain declareOne)).1
  have hRefuses :=
    hReserves.laterRuns [] [] _ declareOneJob
      (.plain declareOne) _ (.done _) rfl
      (Session.visits_declaring _)
  have hAgain :=
    hRefuses _ _ _ _ (Session.declares_declaring _)
      (.root hObject hRoot)
      (List.mem_singleton.mpr hGlobal.symm)
  have hText : againNames.lookup ⟨1⟩ = "again" := by
    decide +kernel
  rw [← hText]
  exact ⟨hNone, hAgain.1⟩

end Scriptlet
