import Scriptlet.Proofs.Run.Session

/-
  Single runs as runs in fresh sessions.

  A single run makes an interpreter, makes a program of the
  script as the strategy says, and starts it. Two such runs
  whose limits and budgets form a regime are related as the
  regime says.

  Key definitions include:
    * `Session.prepared`
    * `Script.Passes`
    * `Regime.Relates`

  Key theorems include:
    * `Script.runFresh_eq_outcome`
    * `Script.sound_passes`
    * `Script.related_runFresh`
-/

------------------------------------------------------------
-- Making a Program
------------------------------------------------------------

namespace Scriptlet

namespace Session

/- The trace is not part of what a session mirrors. -/
theorem Mirrors.traced
    {session plain : Session}
    (hMirrors : session.Mirrors plain)
    (trace : Array Event) :
    Mirrors
      { session with store := { session.store with trace } }
      plain where
  twins :=
    hMirrors.twins.congr
      (hMirrors.twins.leftSound.congr rfl rfl)
      hMirrors.twins.rightSound rfl rfl
      hMirrors.twins.printer
  calls := hMirrors.calls
  stack := hMirrors.stack
  global := hMirrors.global
  this := hMirrors.this
  lambda := hMirrors.lambda
  bound := hMirrors.bound
  programs := hMirrors.programs

/- The session in which a run starts its program. -/
def prepared
    (session : Session)
    (script : Script) :
    Session :=
  let noted :=
    { session with
      store :=
        { session.store with
          trace := session.store.trace.push
            (.running session.interpreter.strategy) } }
  match session.interpreter.strategy with
  | .treeWalk => noted
  | .inlineCache =>
      noted.link script session.interpreter.cacheDepth

/- The program that a run starts. -/
def made
    (session : Session)
    (script : Script) :
    Program :=
  (session.interpreter.prepare script session.store).1

variable (session : Session)
variable (script : Script)

theorem prepared_eq :
    (session.prepared script).interpreter =
        session.interpreter ∧
      (session.prepared script).store =
          (session.interpreter.prepare script
            session.store).2 ∧
        (session.prepared script).Offers script
          (session.made script) := by
  unfold prepared made Interpreter.prepare
  cases session.interpreter.strategy with
  | treeWalk => exact ⟨rfl, rfl, rfl⟩
  | inlineCache => exact ⟨rfl, rfl, List.mem_cons_self⟩

theorem Mirrors.prepared
    {session plain : Session}
    (hMirrors : session.Mirrors plain)
    (script : Script) :
    (session.prepared script).Mirrors plain := by
  unfold Session.prepared
  cases session.interpreter.strategy with
  | treeWalk => exact hMirrors.traced _
  | inlineCache => exact (hMirrors.traced _).link script _

/- The job that a run is. -/
def job
    (hostDepth : Nat) :
    Job where
  script := script
  interner := session.store.interner
  hostDepth := hostDepth

/- A run starts the program that was made for it. -/
theorem run_eq_outcome
    (hostDepth : Nat) :
    session.interpreter.run hostDepth script
        session.store =
      (session.prepared script).outcome
        (session.job script hostDepth)
        (session.made script) := by
  rw [Interpreter.run_eq_start]
  unfold prepared made Interpreter.prepare
  cases session.interpreter.strategy with
  | treeWalk => rfl
  | inlineCache => rfl

end Session

end Scriptlet

------------------------------------------------------------
-- Sessions with Other Limits
------------------------------------------------------------

namespace Scriptlet

namespace Session

/- The session with another limit and no active calls. -/
def withLimit
    (session : Session)
    (limit : Option Nat) :
    Session :=
  { session with
    interpreter :=
      { session.interpreter with stack := .new limit } }

/- The limit is all that a session makes of its setting. -/
theorem fresh_withLimit
    (strategy : Strategy)
    (cacheDepth : Nat)
    (limit : Option Nat)
    (printer : Printer)
    (interner : Interner) :
    fresh { strategy, cacheDepth, maxCallDepth := limit }
        printer interner =
      (fresh { strategy, cacheDepth } printer
        interner).withLimit limit := by
  unfold fresh withLimit
  rw [Interpreter.run_create, Interpreter.run_create]

/- The limit does not matter for what is prepared. -/
theorem prepared_withLimit
    (session : Session)
    (script : Script)
    (limit : Option Nat) :
    (session.withLimit limit).prepared script =
        (session.prepared script).withLimit limit ∧
      (session.withLimit limit).made script =
        session.made script := by
  rcases session with ⟨⟨_, _, _, strategy, _, _, _⟩, _, _⟩
  cases strategy with
  | treeWalk => exact ⟨rfl, rfl⟩
  | inlineCache => exact ⟨rfl, rfl⟩

/- Programs end alike under the limits of a regime. -/
theorem Mirrors.ended_withLimit
    {session plain : Session}
    (hMirrors : session.Mirrors plain)
    {regime : Regime}
    (hRegime : regime.Lawful)
    {script : Script}
    {program : Program}
    (hOffers : session.Offers script program)
    {leftDepth rightDepth : Nat}
    (hFits :
      regime.fits 0 (regime.leftLimit.getD leftDepth)
        (regime.rightLimit.getD rightDepth))
    (interner : Interner) :
    ((Pairing.shared session.argcs).under regime).Ended
      ((session.withLimit regime.leftLimit).result
        { script, interner, hostDepth := leftDepth }
        program)
      ((session.withLimit regime.rightLimit).result
        { script, interner, hostDepth := rightDepth }
        program) := by
  have hSound := hMirrors.twins.leftSound
  have hAgree :
      ((Pairing.shared session.argcs).under regime).Agree []
        (session.withLimit regime.leftLimit).machine
        (session.withLimit regime.rightLimit).machine :=
    { similar :=
        { leftSound := hSound.congr rfl rfl
          rightSound := hSound.congr rfl rfl
          heap := (Pairing.imageHeap_shared _ _).symm
          printer := rfl }
      leftStack := rfl
      rightStack := rfl }
  exact Pairing.ended_shared hRegime
    (hMirrors.isOf hOffers) hFits hAgree hMirrors.bound _

end Session

end Scriptlet

------------------------------------------------------------
-- Single Runs
------------------------------------------------------------

namespace Scriptlet

namespace Script

variable (script : Script)
variable (settings : Settings)
variable (hostDepth : Nat)
variable (printer : Printer)
variable (interner : Interner)

/- A single run is a run on a fresh interpreter. -/
theorem runFresh_eq_run :
    script.runFresh settings hostDepth printer
        (.ofInterner interner) =
      let session := Session.fresh settings printer interner
      session.interpreter.run hostDepth script
        session.store := by
  unfold runFresh Session.fresh
  generalize
    (Interpreter.create settings printer none).run
      (.ofInterner interner) = made
  rfl

/- A single run is a run in a fresh session. -/
theorem runFresh_eq_outcome :
    script.runFresh settings hostDepth printer
        (.ofInterner interner) =
      let session := Session.fresh settings printer interner
      (session.prepared script).outcome
        (session.job script hostDepth)
        (session.made script) := by
  rw [runFresh_eq_run]
  exact Session.run_eq_outcome _ script hostDepth

/- The names of a single run. -/
def freshContext : Context :=
  let session := Session.fresh settings printer interner
  session.interpreter.context
    (session.interpreter.prepare script session.store).2

/- The moment that a single run begins with. -/
def freshFirst : Moment :=
  let session := Session.fresh settings printer interner
  let prepared :=
    session.interpreter.prepare script session.store
  prepared.1.first (session.interpreter.budget hostDepth)
    session.interpreter.global
    (session.interpreter.machine prepared.2)

/- Whether a single run passes through a moment. -/
def Passes (moment : Moment) : Prop :=
  Moment.Reaches
    (script.freshContext settings printer interner)
    (script.freshFirst settings hostDepth printer interner)
    moment

/- A single run passes through sound moments. -/
theorem sound_passes
    {moment : Moment}
    (hPasses :
      script.Passes settings hostDepth printer interner
        moment) :
    ∃ argcs,
      Moment.Succeeds argcs
        (script.freshFirst settings hostDepth printer
          interner)
        moment := by
  have hMirrors :
      (Session.fresh settings printer interner).Mirrors
        (.fresh settings printer interner) :=
    Session.mirrors_fresh rfl printer interner
  generalize hSession :
    Session.fresh settings printer interner = session at *
  rcases session.prepared_eq script with
    ⟨hInterpreter, hStore, hOffers⟩
  have hFirst :=
    @Session.Mirrors.sound_first _ _
      (hMirrors.prepared script)
      (session.job script hostDepth) _ hOffers
  refine ⟨(session.prepared script).argcs, ?_⟩
  refine Moment.Sound.reaches ?_ hPasses
  unfold freshFirst
  rw [hSession]
  unfold Session.first Session.machine at hFirst
  rw [hInterpreter, hStore] at hFirst
  exact hFirst

end Script

/-
  How what two runs in a regime show is related: both show
  the same, or the left one was cut and the right one has
  printed at least as much.
-/
def Regime.Relates
    (regime : Regime)
    (left right : Shown) : Prop :=
  (left = right ∧
      ∀ reason, left.halt = some reason →
        regime.may reason) ∨
    ∃ reason,
      left.halt = some reason ∧ regime.cut reason ∧
        ∃ more,
          right.printer.output =
            left.printer.output ++ more

/- Programs that end alike show related things. -/
theorem Session.related_of_ended
    {argcs : Array Nat}
    {regime : Regime}
    {left right : Session}
    {leftJob rightJob : Job}
    {leftProgram rightProgram : Program}
    (hEnded :
      ((Pairing.shared argcs).under regime).Ended
        (left.result leftJob leftProgram)
        (right.result rightJob rightProgram)) :
    regime.Relates (left.outcome leftJob leftProgram).shown
      (right.outcome rightJob rightProgram).shown := by
  rw [outcome_eq, outcome_eq]
  generalize left.result leftJob leftProgram = leftResult
    at *
  generalize right.result rightJob rightProgram =
    rightResult at *
  cases hEnded with
  | ok hAgree =>
      refine .inl ⟨congrArg (Shown.mk none)
        hAgree.similar.printer.symm, ?_⟩
      intro reason hReason
      cases hReason
  | @error _ _ reason hAgree hMay =>
      refine .inl ⟨congrArg (Shown.mk (some reason))
        hAgree.similar.printer.symm, ?_⟩
      intro other hOther
      cases hOther
      exact hMay
  | @lost _ reason _ hLost =>
      exact .inr ⟨reason, rfl, hLost.1, hLost.2⟩

/- Single runs under the limits of a regime are related. -/
theorem Script.related_runFresh
    {regime : Regime}
    (hRegime : regime.Lawful)
    {left right : Option Nat}
    (hLeft : regime.leftLimit = left)
    (hRight : regime.rightLimit = right)
    {leftDepth rightDepth : Nat}
    (hFits :
      regime.fits 0 (left.getD leftDepth)
        (right.getD rightDepth))
    (script : Script)
    (strategy : Strategy)
    (cacheDepth : Nat)
    (printer : Printer)
    (interner : Interner) :
    regime.Relates
      (script.runFresh
        { strategy, cacheDepth, maxCallDepth := left }
        leftDepth printer (.ofInterner interner)).shown
      (script.runFresh
        { strategy, cacheDepth, maxCallDepth := right }
        rightDepth printer (.ofInterner interner)).shown := by
  have hMirrors :=
    @Session.mirrors_fresh { strategy, cacheDepth } _ rfl
      printer interner
  rw [runFresh_eq_outcome, runFresh_eq_outcome,
    Session.fresh_withLimit strategy cacheDepth left,
    Session.fresh_withLimit strategy cacheDepth right]
  generalize
    Session.fresh { strategy, cacheDepth } printer interner =
      session at *
  rcases session.prepared_withLimit script left with
    ⟨hLeftPrepared, hLeftMade⟩
  rcases session.prepared_withLimit script right with
    ⟨hRightPrepared, hRightMade⟩
  simp only [hLeftPrepared, hLeftMade, hRightPrepared,
    hRightMade]
  subst hLeft hRight
  exact Session.related_of_ended
    ((hMirrors.prepared script).ended_withLimit hRegime
      (session.prepared_eq script).2.2 hFits
      session.store.interner)

end Scriptlet
