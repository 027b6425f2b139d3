import Scriptlet.Proofs.Run.Fresh
import Scriptlet.Proofs.Run.Reachable

/-
  Many runs on one interpreter.

  A session is an interpreter with its store and with the
  scripts that were linked so far. A history runs one job
  after another, each by walking the script or by executing
  something that the script was linked to, however often
  that was executed before. Scripts may be linked at any
  time between runs, with any room at their sites.

  Key definitions include:
    * `Job`
    * `Session`
    * `History`
    * `Session.Mirrors`

  Key theorems include:
    * `Session.mirrors_fresh`
    * `Session.Mirrors.run`
    * `History.mirrors`
-/

------------------------------------------------------------
-- Sessions
------------------------------------------------------------

namespace Scriptlet

/-
  A script to be run, with the names as they are by then and
  the nesting of calls that the host can carry.
-/
structure Job where
  script : Script
  interner : Interner
  hostDepth : Nat

/- What can be seen of a run. -/
structure Shown where
  halt : Option Halt
  printer : Printer

/- What can be seen of an outcome. -/
def Outcome.shown (outcome : Outcome Unit) : Shown where
  halt :=
    match outcome.result with
    | .ok _ => none
    | .error reason => some reason
  printer := outcome.interpreter.printer

namespace Outcome

variable {outcome : Outcome Unit}

/- A run is shown to halt as its result says. -/
theorem halt_shown_eq_none_iff :
    outcome.shown.halt = none ↔
      outcome.result = .ok () := by
  unfold shown
  cases outcome.result <;> simp

theorem halt_shown_eq_some_iff
    {reason : Halt} :
    outcome.shown.halt = some reason ↔
      outcome.result = .error reason := by
  unfold shown
  cases outcome.result <;> simp

end Outcome

/- An interpreter with what was linked on it. -/
structure Session where
  interpreter : Interpreter
  store : Store
  programs : List (Script × LinkedScript)

namespace Session

/- A session on a fresh global frame. -/
def fresh
    (settings : Settings)
    (printer : Printer)
    (interner : Interner) :
    Session :=
  let made :=
    (Interpreter.create settings printer none).run
      (.ofInterner interner)
  { interpreter := made.1
    store := made.2
    programs := [] }

/- Link a script, with room for entries at its sites. -/
def link
    (session : Session)
    (script : Script)
    (room : Nat) :
    Session :=
  let outcome :=
    session.interpreter.perform session.store
      fun _ => Machine.link script room
  match outcome.result with
  | .ok linked =>
      { interpreter := outcome.interpreter
        store := outcome.store
        programs := (script, linked) :: session.programs }
  | .error _ => session

/- Whether a program can be started for a script. -/
def Offers
    (session : Session)
    (script : Script) :
    Program → Prop
  | .plain other => other = script
  | .linked other => (script, other) ∈ session.programs

/- Start a program for a job. -/
def outcome
    (session : Session)
    (job : Job)
    (program : Program) :
    Outcome Unit :=
  session.interpreter.start job.hostDepth program
    { session.store with interner := job.interner }

/- The session after a program was run for a job. -/
def next
    (session : Session)
    (job : Job)
    (program : Program) :
    Session :=
  { session with
    interpreter := (session.outcome job program).interpreter
    store := (session.outcome job program).store }

end Session

namespace Session

/- What a script was just linked to. -/
def lastLinked
    (session : Session)
    (script : Script)
    (room : Nat) :
    Program :=
  .linked ((script.link room).run session.store.sites).1

/- Linking a script offers what it was linked to. -/
theorem offers_link
    (session : Session)
    (script : Script)
    (room : Nat) :
    (session.link script room).Offers script
      (session.lastLinked script room) :=
  List.mem_cons_self

/- A run takes back no offer. -/
theorem Offers.next
    {session : Session}
    {script : Script}
    {program : Program}
    (hOffers : session.Offers script program)
    (job : Job)
    (other : Program) :
    (session.next job other).Offers script program := by
  cases program with
  | plain script => exact hOffers
  | linked script => exact hOffers

end Session

/-
  What a session can show for jobs that are done in order,
  and the session that this leads to.
-/
inductive History :
    Session → List Job → List Shown → Session → Prop where
  | done
      (session : Session) :
      History session [] [] session
  | link
      {session final : Session}
      {jobs : List Job}
      {shown : List Shown}
      (script : Script)
      (room : Nat)
      (hRest :
        History (session.link script room) jobs shown
          final) :
      History session jobs shown final
  | run
      {session final : Session}
      {jobs : List Job}
      {shown : List Shown}
      (job : Job)
      (program : Program)
      (hOffers : session.Offers job.script program)
      (hRest :
        History (session.next job program) jobs shown
          final) :
      History session (job :: jobs)
        ((session.outcome job program).shown :: shown) final

namespace Session

/- What is shown if every script is walked. -/
def walkAll (session : Session) : List Job → List Shown
  | [] => []
  | job :: jobs =>
      (session.outcome job (.plain job.script)).shown ::
        walkAll (session.next job (.plain job.script)) jobs

/- The session after every script was walked. -/
def afterWalks (session : Session) : List Job → Session
  | [] => session
  | job :: jobs =>
      afterWalks (session.next job (.plain job.script)) jobs

end Session

end Scriptlet

------------------------------------------------------------
-- Small Scripts
------------------------------------------------------------

namespace Scriptlet

/- A script that prints a number. -/
def printOne : Script where
  body :=
    [.call 1 () (.var 1 ⟨2⟩) [.literal 1 (.int 1)]]

/- A job that prints a number. -/
def printOneJob : Job where
  script := printOne
  interner := .new
  hostDepth := 1

/- The names of a script with a function. -/
def againNames : Interner :=
  (Interner.new.intern "again").2

/- The body of a function that prints and calls itself. -/
def againBody : List (Expr Unit) :=
  [.call 2 () (.var 2 ⟨3⟩) [.literal 2 (.int 1)],
    .call 3 () (.var 3 ⟨1⟩) []]

/- A script that makes such a function and calls it. -/
def callAgain : Script where
  body :=
    [.function 1 (some ⟨1⟩) [] againBody 1,
      .call 4 () (.var 4 ⟨1⟩) []]

end Scriptlet

------------------------------------------------------------
-- Sessions That Mirror Walks
------------------------------------------------------------

namespace Scriptlet

namespace Session

/- The machine that the next run starts on. -/
def machine (session : Session) : Machine :=
  session.interpreter.machine session.store

/- The names that a job is run with. -/
def context
    (session : Session)
    (interner : Interner) :
    Context where
  interner := interner
  this := session.interpreter.this
  lambda := session.interpreter.lambda

/- What a program gives for a job, with its last machine. -/
def result
    (session : Session)
    (job : Job)
    (program : Program) :
    EStateM.Result Halt Machine Unit :=
  program.run (session.context job.interner)
    (session.interpreter.budget job.hostDepth)
    session.interpreter.global session.machine

/- An outcome is made of what the program gives. -/
theorem outcome_eq
    (session : Session)
    (job : Job)
    (program : Program) :
    session.outcome job program =
      session.interpreter.finish job.interner
        (answerOf (session.result job program))
        (Machine.after (session.result job program)) := by
  unfold outcome
  rw [Interpreter.start_eq_perform, Interpreter.perform_eq]
  rfl

/- How many arguments each site of a session is for. -/
def argcs (session : Session) : Array Nat :=
  session.store.sites.map CallSite.argc

/-
  A session that differs from one in which scripts are only
  walked by the code of its functions and by its sites.
-/
structure Mirrors (session plain : Session) : Prop where
  twins :
    (Pairing.erased session.argcs #[]).Twins session.machine
      plain.machine
  calls : session.interpreter.stack.calls = []
  stack :
    plain.interpreter.stack = session.interpreter.stack
  global :
    plain.interpreter.global = session.interpreter.global
  this : plain.interpreter.this = session.interpreter.this
  lambda :
    plain.interpreter.lambda = session.interpreter.lambda
  bound :
    session.interpreter.global.index <
      session.store.heap.objects.size
  programs :
    ∀ script linked,
      (script, linked) ∈ session.programs →
        Expr.AreLinksOf script.body session.argcs
          linked.body

/- Fresh sessions with the same limit mirror each other. -/
theorem mirrors_fresh
    {settings other : Settings}
    (hLimit : settings.maxCallDepth = other.maxCallDepth)
    (printer : Printer)
    (interner : Interner) :
    (fresh settings printer interner).Mirrors
      (fresh other printer interner) := by
  have hStore :=
    Interpreter.gives_create settings printer _
      (Store.pristine_ofInterner interner)
  have hStack :=
    Interpreter.stack_create settings printer
      (.ofInterner interner)
  unfold fresh
  rw [Interpreter.run_create_eq settings other]
  generalize
    (Interpreter.create settings printer none).run
      (.ofInterner interner) = made at *
  have hArgcs :
      made.2.sites.map CallSite.argc = #[] := by
    rw [hStore.sites, Array.map_empty]
  constructor
  case twins =>
      unfold argcs
      rw [hArgcs]
      exact
        { leftSound := hStore.sound made.1
          rightSound := hStore.sound _
          heap := (hStore.imageHeap _).symm
          printer := rfl }
  case calls =>
      change made.1.stack.calls = []
      rw [hStack]
      rfl
  case stack =>
      change CallStack.new other.maxCallDepth = made.1.stack
      rw [hStack, hLimit]
  case bound => exact hStore.size
  case programs =>
      intro script linked hMem
      cases hMem
  all_goals rfl

namespace Mirrors

variable {session plain : Session}

/- What a session offers are programs of the script. -/
theorem isOf
    (hMirrors : session.Mirrors plain)
    {script : Script}
    {program : Program}
    (hOffers : session.Offers script program) :
    program.IsOf script session.argcs := by
  cases program with
  | plain other => exact hOffers
  | linked other =>
      exact hMirrors.programs script other hOffers

/- Linking changes sites, which a walk does not have. -/
theorem link
    (hMirrors : session.Mirrors plain)
    (script : Script)
    (room : Nat) :
    (session.link script room).Mirrors plain := by
  rcases script.gives_link room session.store.sites with
    ⟨hAppends, hLinks⟩
  have hSound :=
    hMirrors.twins.leftSound.linked hAppends
  constructor
  case twins =>
      exact
        { leftSound := hSound.congr rfl rfl
          rightSound := hMirrors.twins.rightSound
          heap := hMirrors.twins.heap
          printer := hMirrors.twins.printer }
  case calls => exact hMirrors.calls
  case stack => exact hMirrors.stack
  case global => exact hMirrors.global
  case this => exact hMirrors.this
  case lambda => exact hMirrors.lambda
  case bound => exact hMirrors.bound
  case programs =>
      intro other linked hMem
      rcases List.mem_cons.mp hMem with hNew | hOld
      · cases hNew
        exact hLinks
      · exact Expr.lasting_areLinksOf other.body _ _
          linked.body hAppends
          (hMirrors.programs other linked hOld)

/- The machines that both sessions start a run on. -/
theorem agree
    (hMirrors : session.Mirrors plain) :
    ((Pairing.erased session.argcs #[]).under
      (.equal session.interpreter.stack.limit)).Agree []
        session.machine plain.machine := by
  have hStack :
      session.interpreter.stack =
        { calls := []
          limit := session.interpreter.stack.limit } := by
    rw [← hMirrors.calls]
  exact
    { similar := hMirrors.twins
      leftStack := hStack
      rightStack := hMirrors.stack.trans hStack }

/- The machines that both sessions end a run on. -/
theorem finish
    (hMirrors : session.Mirrors plain)
    (interner : Interner)
    (leftResult rightResult : Except Halt Unit)
    {left right : Machine}
    (hEvolves : session.machine.Evolves left)
    (hAgree :
      ((Pairing.erased session.argcs #[]).under
        (.equal session.interpreter.stack.limit)).Agree []
          left right) :
    Mirrors
      { session with
        interpreter :=
          (session.interpreter.finish interner leftResult
            left).interpreter
        store :=
          (session.interpreter.finish interner leftResult
            left).store }
      { plain with
        interpreter :=
          (plain.interpreter.finish interner rightResult
            right).interpreter
        store :=
          (plain.interpreter.finish interner rightResult
            right).store } := by
  have hTwins :
      (Pairing.erased session.argcs #[]).Twins left right :=
    hAgree.similar
  have hArgcs :
      left.sites.map CallSite.argc = session.argcs :=
    hTwins.leftSound.served
  constructor
  case twins =>
      unfold argcs at *
      simp only [Interpreter.finish]
      rw [hArgcs]
      exact hTwins
  case calls =>
      change left.stack.calls = []
      rw [hAgree.leftStack]
  case stack =>
      change right.stack = left.stack
      rw [hAgree.leftStack, hAgree.rightStack]
      rfl
  case global => exact hMirrors.global
  case this => exact hMirrors.this
  case lambda => exact hMirrors.lambda
  case bound =>
      exact Nat.lt_of_lt_of_le hMirrors.bound
        hEvolves.objects_le
  case programs =>
      intro script linked hMem
      have hLinks := hMirrors.programs script linked hMem
      unfold argcs at *
      simp only [Interpreter.finish]
      rw [hArgcs]
      exact hLinks

/- Both sessions give alike results for a job. -/
theorem ended
    (hMirrors : session.Mirrors plain)
    {job : Job}
    {program : Program}
    (hOffers : session.Offers job.script program) :
    ((Pairing.erased session.argcs #[]).under
      (.equal session.interpreter.stack.limit)).Ended
        (session.result job program)
        (plain.result job (.plain job.script)) := by
  have hContext :
      plain.context job.interner =
        session.context job.interner := by
    unfold Session.context
    rw [hMirrors.this, hMirrors.lambda]
  have hBudget :
      session.interpreter.budget job.hostDepth =
        plain.interpreter.budget job.hostDepth := by
    unfold Interpreter.budget
    rw [hMirrors.stack]
  unfold result
  rw [hContext, hMirrors.global]
  exact Pairing.ended_erased
    (Regime.lawful_equal session.interpreter.stack.limit)
    (hMirrors.isOf hOffers) hBudget hMirrors.agree
    hMirrors.bound _

/- A run shows what a walk shows, whatever is started. -/
theorem run
    (hMirrors : session.Mirrors plain)
    {job : Job}
    {program : Program}
    (hOffers : session.Offers job.script program) :
    (session.outcome job program).shown =
        (plain.outcome job (.plain job.script)).shown ∧
      (session.next job program).Mirrors
        (plain.next job (.plain job.script)) := by
  have hSteps :
      session.machine.Evolves
        (Machine.after (session.result job program)) :=
    program.stepwise_run _ _ _ _
  have hEnded := hMirrors.ended hOffers
  unfold next
  rw [outcome_eq, outcome_eq]
  generalize session.result job program = leftResult at *
  generalize
    plain.result job (.plain job.script) = rightResult at *
  cases hEnded with
  | ok hAgree =>
      exact ⟨congrArg (Shown.mk none)
          hAgree.similar.printer.symm,
        hMirrors.finish job.interner _ _ hSteps hAgree⟩
  | @error _ _ reason hAgree _ =>
      exact ⟨congrArg (Shown.mk (some reason))
          hAgree.similar.printer.symm,
        hMirrors.finish job.interner _ _ hSteps hAgree⟩
  | lost hLost => exact hLost.1.elim

end Mirrors

end Session

/- Whatever happens, a session shows what walks show. -/
theorem History.mirrors
    {session plain final : Session}
    {jobs : List Job}
    {shown : List Shown}
    (hHistory : History session jobs shown final)
    (hMirrors : session.Mirrors plain) :
    shown = plain.walkAll jobs ∧
      final.Mirrors (plain.afterWalks jobs) := by
  induction hHistory generalizing plain with
  | done session => exact ⟨rfl, hMirrors⟩
  | link script room _ ih =>
      exact ih (hMirrors.link script room)
  | run job program hOffers _ ih =>
      rcases hMirrors.run hOffers with ⟨hShown, hNext⟩
      rcases ih hNext with ⟨hRest, hFinal⟩
      exact ⟨by rw [hShown, hRest]; rfl, hFinal⟩

namespace Session

/- The moment that the run of a job begins with. -/
def first
    (session : Session)
    (job : Job)
    (program : Program) :
    Moment :=
  program.first (session.interpreter.budget job.hostDepth)
    session.interpreter.global session.machine

/- A session that mirrors walks begins soundly. -/
theorem Mirrors.sound_first
    {session plain : Session}
    (hMirrors : session.Mirrors plain)
    {job : Job}
    {program : Program}
    (hOffers : session.Offers job.script program) :
    (session.first job program).Sound session.argcs :=
  Program.sound_first (hMirrors.isOf hOffers)
    hMirrors.twins.leftSound hMirrors.bound _

end Session

end Scriptlet
