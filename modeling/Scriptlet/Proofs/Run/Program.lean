import Scriptlet.Interpreter.SingleRun
import Scriptlet.Proofs.Cache.Linking
import Scriptlet.Proofs.Eval.Twins

/-
  Programs from start to end.

  A program is a script as it is, or one that was linked. A
  run with a strategy first makes a program of its script,
  and then starts it. Two programs that are started on
  agreeing machines end alike.

  Key definitions include:
    * `Program`
    * `Interpreter.prepare`
    * `Simulation.Ended`
    * `Program.IsOf`

  Key theorems include:
    * `Interpreter.run_eq_start`
    * `Interpreter.run_eq_finish`
    * `Simulation.ended_runBody`
    * `Pairing.ended_erased`
    * `Pairing.ended_shared`
-/

------------------------------------------------------------
-- Programs
------------------------------------------------------------

namespace Scriptlet

/- A script that can be started. -/
inductive Program where
  | plain (script : Script)
  | linked (script : LinkedScript)

/- Run statements outside of every function. -/
def runBody
    {S : Type}
    (context : Context)
    (engine : Engine S)
    (call : Caller)
    (global : ObjectId)
    (body : List (Expr S)) :
    CallM Unit :=
  Signal.collapse do
    let _ ← Expr.evalBlock context engine call global body
    return ()

namespace Program

/- Run a program, given how its calls are run. -/
def runBy
    (program : Program)
    (context : Context)
    (call : Caller)
    (global : ObjectId) :
    CallM Unit :=
  match program with
  | .plain script =>
      runBody context .plain call global script.body
  | .linked script =>
      runBody context .caching call global script.body

/- Run a program with calls nested at most this deep. -/
def run
    (program : Program)
    (context : Context)
    (budget : Nat)
    (global : ObjectId) :
    CallM Unit :=
  program.runBy context (.within context budget) global

end Program

namespace Interpreter

/- Walk a script or execute a linked one. -/
def start
    (interpreter : Interpreter)
    (hostDepth : Nat)
    (program : Program)
    (store : Store) :
    Outcome Unit :=
  match program with
  | .plain script =>
      interpreter.walk hostDepth script store
  | .linked script =>
      interpreter.execute hostDepth script store

/- Starting a program runs it on the interpreter. -/
theorem start_eq_perform
    (interpreter : Interpreter)
    (hostDepth : Nat)
    (program : Program)
    (store : Store) :
    interpreter.start hostDepth program store =
      interpreter.perform store fun context =>
        program.run context (interpreter.budget hostDepth)
          interpreter.global := by
  cases program <;> rfl

end Interpreter

/- How a program ends whose statements gave a result. -/
def endOf :
    EStateM.Result Signal Machine Value →
      EStateM.Result Halt Machine Unit
  | .ok _ machine => .ok () machine
  | .error signal machine => .error signal.outermost machine

theorem after_endOf
    (result : EStateM.Result Signal Machine Value) :
    Machine.after (endOf result) =
      Machine.after result := by
  cases result <;> rfl

/- Outside of functions nothing can be returned to. -/
theorem runBody_apply
    {S : Type}
    (context : Context)
    (engine : Engine S)
    (call : Caller)
    (global : ObjectId)
    (body : List (Expr S))
    (machine : Machine) :
    runBody context engine call global body machine =
      endOf
        (Expr.evalBlock context engine call global body
          machine) := by
  unfold runBody Signal.collapse
  rw [RunM.adaptExcept_apply, RunM.bind_apply]
  cases
    Expr.evalBlock context engine call global body
      machine <;> rfl

/- Running statements takes steps. -/
theorem stepwise_runBody
    {S : Type}
    (context : Context)
    {engine : Engine S}
    (hEngine : engine.Stepwise)
    (budget : Nat)
    (global : ObjectId)
    (body : List (Expr S)) :
    Stepwise
      (runBody context engine (.within context budget)
        global body) := by
  intro machine
  rw [runBody_apply, after_endOf]
  exact Expr.stepwise_evalBlock hEngine
    (Caller.stepwise_within context budget) global body
    machine

theorem Program.stepwise_run
    (program : Program)
    (context : Context)
    (budget : Nat)
    (global : ObjectId) :
    Stepwise (program.run context budget global) := by
  cases program with
  | plain script =>
      exact stepwise_runBody context Engine.stepwise_plain
        budget global script.body
  | linked script =>
      exact stepwise_runBody context Engine.stepwise_caching
        budget global script.body

/- A task leaves its answer and its last machine. -/
theorem Interpreter.perform_eq
    {A : Type}
    (interpreter : Interpreter)
    (store : Store)
    (task : Context → CallM A) :
    interpreter.perform store task =
      interpreter.finish store.interner
        (answerOf
          (task (interpreter.context store)
            (interpreter.machine store)))
        (Machine.after
          (task (interpreter.context store)
            (interpreter.machine store))) := by
  unfold perform
  cases
    task (interpreter.context store)
      (interpreter.machine store) <;> rfl

end Scriptlet

------------------------------------------------------------
-- Runs with a Strategy
------------------------------------------------------------

namespace Scriptlet

/- The store after a script was linked. -/
def Store.linked
    (store : Store)
    (script : Script)
    (room : Nat) :
    Store :=
  { store with
    sites := ((script.link room).run store.sites).2
    trace :=
      (store.trace.push (.linking room)).push
        (.linked
          ((script.link room).run
            store.sites).1.sites.length) }

namespace Interpreter

/- The program that a strategy makes of a script. -/
def prepare
    (interpreter : Interpreter)
    (script : Script)
    (store : Store) :
    Program × Store :=
  let store :=
    { store with
      trace :=
        store.trace.push (.running interpreter.strategy) }
  match interpreter.strategy with
  | .treeWalk => (.plain script, store)
  | .inlineCache =>
      (.linked
          ((script.link interpreter.cacheDepth).run
            store.sites).1,
        store.linked script interpreter.cacheDepth)

/- A run makes a program and starts it. -/
theorem run_eq_start
    (interpreter : Interpreter)
    (hostDepth : Nat)
    (script : Script)
    (store : Store) :
    interpreter.run hostDepth script store =
      interpreter.start hostDepth
        (interpreter.prepare script store).1
        (interpreter.prepare script store).2 := by
  unfold run prepare
  cases hStrategy : interpreter.strategy with
  | treeWalk => rfl
  | inlineCache => rfl

/- Making a program keeps the heap and the names. -/
@[simp] theorem heap_prepare
    (interpreter : Interpreter)
    (script : Script)
    (store : Store) :
    (interpreter.prepare script store).2.heap =
      store.heap := by
  unfold prepare
  cases interpreter.strategy <;> rfl

@[simp] theorem interner_prepare
    (interpreter : Interpreter)
    (script : Script)
    (store : Store) :
    (interpreter.prepare script store).2.interner =
      store.interner := by
  unfold prepare
  cases interpreter.strategy <;> rfl

/- What the program of a run gives, with its last machine. -/
def result
    (interpreter : Interpreter)
    (hostDepth : Nat)
    (script : Script)
    (store : Store) :
    EStateM.Result Halt Machine Unit :=
  let prepared := interpreter.prepare script store
  prepared.1.run (interpreter.context store)
    (interpreter.budget hostDepth) interpreter.global
    (interpreter.machine prepared.2)

/- A run is made of what its program gives. -/
theorem run_eq_finish
    (interpreter : Interpreter)
    (hostDepth : Nat)
    (script : Script)
    (store : Store) :
    interpreter.run hostDepth script store =
      interpreter.finish store.interner
        (answerOf
          (interpreter.result hostDepth script store))
        (Machine.after
          (interpreter.result hostDepth script store)) := by
  rw [run_eq_start, start_eq_perform, perform_eq]
  unfold result context
  rw [interner_prepare]

end Interpreter

end Scriptlet

------------------------------------------------------------
-- Ends Side by Side
------------------------------------------------------------

namespace Scriptlet

namespace Simulation

/-
  How two programs end alike: both finish, or both halt for
  the same reason, or the left one was cut.
-/
inductive Ended
    (P : Simulation) :
    EStateM.Result Halt Machine Unit →
      EStateM.Result Halt Machine Unit → Prop where
  | ok
      {left right : Machine}
      (hAgree : P.Agree [] left right) :
      Ended P (.ok () left) (.ok () right)
  | error
      {left right : Machine}
      {reason : Halt}
      (hAgree : P.Agree [] left right)
      (hMay : P.may reason) :
      Ended P (.error reason left) (.error reason right)
  | lost
      {left : Machine}
      {reason : Halt}
      {result : EStateM.Result Halt Machine Unit}
      (hLost : P.lost reason left (Machine.after result)) :
      Ended P (.error reason left) result

variable {P : Simulation}

/- Results that match end alike outside of functions. -/
theorem Matched.ended
    (hP : P.Lawful)
    {leftResult rightResult :
      EStateM.Result Signal Machine Value}
    (hMatched :
      P.Matched [] P.Same leftResult rightResult) :
    P.Ended (endOf leftResult) (endOf rightResult) := by
  cases hMatched with
  | ok hAgree _ => exact .ok hAgree
  | @error left right signal hAgree hFine =>
      cases signal with
      | halt reason => exact .error hAgree hFine
      | ret value line =>
          exact .error hAgree
            (hP.may_failedAt .strayReturn line (by simp))
  | lost hLost =>
      refine .lost ?_
      rw [after_endOf]
      exact hLost

/- Statements run on agreeing machines end alike. -/
theorem ended_runBody
    (hP : P.Lawful)
    {S T : Type}
    {pair : EnginePair S T}
    (hPair : pair.Lawful P)
    {leftBudget rightBudget : Nat}
    (hFits : P.fits 0 leftBudget rightBudget)
    {left right : Machine}
    (hAgree : P.Agree [] left right)
    {global : ObjectId}
    (hGlobal : P.frame left global)
    {body : List (Expr S)}
    (hServed : Expr.EveryCallAll pair.serves body)
    (context : Context) :
    P.Ended
      (runBody context pair.left
        (.within context leftBudget) global body left)
      (runBody context pair.right
        (.within context rightBudget) global
        (Expr.mapSitesAll pair.mark body) right) := by
  rw [runBody_apply, runBody_apply]
  apply Matched.ended hP
  exact Expr.matched_evalBlock hP hPair
    (callsMatch_within hP leftBudget rightBudget [] hFits)
    (Caller.stepwise_within context leftBudget)
    (Caller.stepwise_within context rightBudget)
    hAgree hGlobal body hServed

end Simulation

end Scriptlet

------------------------------------------------------------
-- Programs of One Script
------------------------------------------------------------

namespace Scriptlet

/- Whether a program is a script, as it is or linked. -/
def Program.IsOf
    (script : Script)
    (argcs : Array Nat) :
    Program → Prop
  | .plain other => other = script
  | .linked other =>
      Expr.AreLinksOf script.body argcs other.body

namespace Pairing

variable {script : Script}
variable {program : Program}
variable {regime : Regime}
variable {leftBudget rightBudget : Nat}
variable {left right : Machine}
variable {global : ObjectId}

/- A script that is walked on both sides ends alike. -/
theorem ended_plain
    {pairing : Pairing}
    (hP : (pairing.under regime).Lawful)
    (hFits : regime.fits 0 leftBudget rightBudget)
    (hAgree : (pairing.under regime).Agree [] left right)
    (hGlobal : global.index < left.heap.objects.size)
    (script : Script)
    (context : Context) :
    (pairing.under regime).Ended
      ((Program.plain script).run context leftBudget global
        left)
      ((Program.plain script).run context rightBudget global
        right) := by
  have hEnded := Simulation.ended_runBody hP hP.walking
    hFits hAgree hGlobal
    (Expr.everyCallAll_of_forall
      (fun _ _ => trivial) script.body) context
  rw [EnginePair.walking, Expr.mapSitesAll_id] at hEnded
  exact hEnded

/- A program ends as the script that it is made of. -/
theorem ended_erased
    {leftArgcs rightArgcs : Array Nat}
    (hRegime : regime.Lawful)
    (hProgram : program.IsOf script leftArgcs)
    (hFits : regime.fits 0 leftBudget rightBudget)
    (hAgree :
      ((erased leftArgcs rightArgcs).under regime).Agree []
        left right)
    (hGlobal : global.index < left.heap.objects.size)
    (context : Context) :
    ((erased leftArgcs rightArgcs).under regime).Ended
      (program.run context leftBudget global left)
      ((Program.plain script).run context rightBudget global
        right) := by
  have hP := lawful_under
    (lawful_erased leftArgcs rightArgcs) hRegime
  cases program with
  | plain other =>
      have hEq : other = script := hProgram
      subst hEq
      exact ended_plain hP hFits hAgree hGlobal other
        context
  | linked other =>
      rcases hProgram with ⟨hErased, hServed⟩
      have hEnded := Simulation.ended_runBody hP
        hP.executing hFits hAgree hGlobal hServed context
      change Simulation.Ended _ _
        (runBody context .plain
          (.within context rightBudget) global
          (Expr.mapSitesAll (fun _ => ()) other.body)
          right) at hEnded
      rw [hErased] at hEnded
      exact hEnded

/- A program ends as it does on a machine like this one. -/
theorem ended_shared
    {argcs : Array Nat}
    (hRegime : regime.Lawful)
    (hProgram : program.IsOf script argcs)
    (hFits : regime.fits 0 leftBudget rightBudget)
    (hAgree :
      ((shared argcs).under regime).Agree [] left right)
    (hGlobal : global.index < left.heap.objects.size)
    (context : Context) :
    ((shared argcs).under regime).Ended
      (program.run context leftBudget global left)
      (program.run context rightBudget global right) := by
  have hP := lawful_under (lawful_shared argcs) hRegime
  cases program with
  | plain other =>
      exact ended_plain hP hFits hAgree hGlobal other
        context
  | linked other =>
      have hEnded := Simulation.ended_runBody hP
        hP.executing hFits hAgree hGlobal hProgram.2 context
      change Simulation.Ended _ _
        (runBody context .caching
          (.within context rightBudget) global
          (Expr.mapSitesAll id other.body) right) at hEnded
      rw [Expr.mapSitesAll_id] at hEnded
      exact hEnded

end Pairing

end Scriptlet
