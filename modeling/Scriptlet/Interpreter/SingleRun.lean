import Scriptlet.Interpreter.Basic

/-
  Running one script from start to finish.

  Each run here makes an interpreter of its own, on a fresh
  global frame. A failed run can be reported to a sink; what
  the sink makes of the report changes nothing about the
  result.

  Key definitions include:
    * `Script.runFresh`
    * `Script.transcript`
    * `Script.runReported`
-/

------------------------------------------------------------
-- Single Runs
------------------------------------------------------------

namespace Scriptlet

/- Run a script on a fresh interpreter. -/
def Script.runFresh
    (script : Script)
    (settings : Settings)
    (hostDepth : Nat)
    (printer : Printer)
    (store : Store) :
    Outcome Unit :=
  let (interpreter, store) :=
    (Interpreter.create settings printer none).run store
  interpreter.run hostDepth script store

/- What a run shows: the printed text, and how it ended. -/
structure Transcript where
  output : String
  halt : Option Halt
deriving DecidableEq, Repr

/- Run a script and keep what it shows. -/
def Script.transcript
    (script : Script)
    (settings : Settings)
    (hostDepth : Nat)
    (store : Store) :
    Transcript :=
  let outcome :=
    script.runFresh settings hostDepth (.buffer "") store
  { output := outcome.interpreter.printer.captured
    halt :=
      match outcome.result with
      | .ok _ => none
      | .error reason => some reason }

end Scriptlet

------------------------------------------------------------
-- Reported Runs
------------------------------------------------------------

namespace Scriptlet

/-
  Write the report of a failure to a sink, on a line of its
  own, and note what became of it.
-/
def Failure.reportTo
    (failure : Failure)
    (diagnostics : Sink)
    (trace : Array Event) :
    Sink × Array Event :=
  let trace := trace.push (.failed failure)
  match diagnostics.write (failure.report ++ "\n") with
  | (diagnostics, none) => (diagnostics, trace)
  | (diagnostics, some reason) =>
      (diagnostics, trace.push (.reportRefused reason))

/- Run a script, and report to a sink if it fails. -/
def Script.runReported
    (script : Script)
    (settings : Settings)
    (hostDepth : Nat)
    (printer : Printer)
    (diagnostics : Sink)
    (store : Store) :
    Outcome Unit × Sink :=
  let outcome :=
    script.runFresh settings hostDepth printer store
  match outcome.result with
  | .error (.failed failure) =>
      let (diagnostics, trace) :=
        failure.reportTo diagnostics outcome.store.trace
      ({ outcome with
         store := { outcome.store with trace } },
        diagnostics)
  | _ => (outcome, diagnostics)

end Scriptlet
