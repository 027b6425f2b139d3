import Scriptlet.Proofs.Run.Fresh
import Scriptlet.Proofs.Run.Surroundings

/-
  Sinks cannot be seen.

  A script runs the same whether its text is kept, handed
  on, refused or dropped. A sink that takes what it is given
  gets the text that a buffer would hold, up to the end of
  the run or to its failure. Where a failure is reported to
  does not matter for the run either, and the report is
  written once, if there is a failure.

  Key definitions include:
    * `Surroundings.printing`
    * `Printer.Mirrors`
    * `Outcome.diagnosis`

  Key theorems include:
    * `Interpreter.run_withPrinter`
    * `Script.runFresh_withPrinter`
    * `sinks_unseen`
-/

------------------------------------------------------------
-- Other Printers
------------------------------------------------------------

namespace Scriptlet

namespace Surroundings

/- Surroundings that differ only in where text goes. -/
def printing
    (printers : Printer → Printer → Prop) :
    Surroundings where
  printers := printers
  uses _ := True
  beyond := #[]

variable {printers : Printer → Printer → Prop}

/- All code names sites in use. -/
theorem covers_printing (body : List (Expr SiteId)) :
    (printing printers).Covers body :=
  Expr.everyCallAll_of_forall (fun _ _ => trivial) body

theorem admits_printing (program : Program) :
    (printing printers).Admits program := by
  cases program with
  | plain script => trivial
  | linked script => exact covers_printing script.body

/- A machine is alike to itself, but for its printer. -/
theorem alike_printing
    {left right : Machine}
    (hHeap : right.heap = left.heap)
    (hSites : right.sites = left.sites)
    (hPrinters : printers left.printer right.printer) :
    (printing printers).Alike left right where
  heap := hHeap
  printer := hPrinters
  sites := hSites.trans Array.append_empty.symm
  used _ _ := .inl rfl
  functions _ _ _ code _ _ := covers_printing code.body
  entries _ _ _ _ _ code _ _ := covers_printing code.body

end Surroundings

/-
  An interpreter gives the same result with another printer,
  and related printers stay related.
-/
theorem Interpreter.run_withPrinter
    {printers : Printer → Printer → Prop}
    (hLasting : (Surroundings.printing printers).Lasting)
    (interpreter : Interpreter)
    (other : Printer)
    (hPrinters : printers interpreter.printer other)
    (hostDepth : Nat)
    (script : Script)
    (store : Store) :
    let left := interpreter.run hostDepth script store
    let right :=
      { interpreter with printer := other }.run hostDepth
        script store
    right.result = left.result ∧
      printers left.interpreter.printer
        right.interpreter.printer := by
  intro left right
  let prepared := interpreter.prepare script store
  let renewed := { interpreter with printer := other }
  have hEnded :=
    Surroundings.ended_run hLasting
      (@Surroundings.alike_printing printers
        (interpreter.machine prepared.2)
        (renewed.machine prepared.2) rfl rfl hPrinters)
      rfl (Surroundings.admits_printing prepared.1)
      (interpreter.context store)
      (interpreter.budget hostDepth) interpreter.global
  have hLeft :=
    interpreter.run_eq_finish hostDepth script store
  have hRight := renewed.run_eq_finish hostDepth script store
  change
    (renewed.run hostDepth script store).result =
        (interpreter.run hostDepth script store).result ∧
      printers
        (interpreter.run hostDepth script
          store).interpreter.printer
        (renewed.run hostDepth script
          store).interpreter.printer
  rw [hLeft, hRight]
  exact ⟨hEnded.answer, hEnded.alike.printer⟩

/- So does a single run. -/
theorem Script.runFresh_withPrinter
    {printers : Printer → Printer → Prop}
    (hLasting : (Surroundings.printing printers).Lasting)
    {printer other : Printer}
    (hPrinters : printers printer other)
    (script : Script)
    (settings : Settings)
    (hostDepth : Nat)
    (store : Store) :
    let left :=
      script.runFresh settings hostDepth printer store
    let right :=
      script.runFresh settings hostDepth other store
    right.result = left.result ∧
      printers left.interpreter.printer
        right.interpreter.printer := by
  have hCreate :
      (Interpreter.create settings other none).run store =
        let made :=
          (Interpreter.create settings printer none).run
            store
        ({ made.1 with printer := other }, made.2) := by
    rw [Interpreter.run_create, Interpreter.run_create]
  have hPrinter :
      ((Interpreter.create settings printer none).run
        store).1.printer = printer := by
    rw [Interpreter.run_create]
  unfold runFresh
  rw [hCreate]
  generalize
    (Interpreter.create settings printer none).run store =
      made at *
  exact made.1.run_withPrinter hLasting other
    (hPrinter ▸ hPrinters) hostDepth script made.2

end Scriptlet

------------------------------------------------------------
-- Sinks
------------------------------------------------------------

namespace Scriptlet

/- Any two printers can be printed to alike. -/
theorem Printer.lasting_any :
    (Surroundings.printing fun _ _ => True).Lasting :=
  fun _ _ => trivial

/-
  A buffer and a sink that takes everything, where the sink
  was given what the buffer holds, after what it had.
-/
def Printer.Mirrors
    (written : String)
    (printer other : Printer) : Prop :=
  ∃ text,
    printer = .buffer text ∧
      other = .writer (.memory (written ++ text))

/- They stay so when both are printed to. -/
theorem Printer.lasting_mirrors (written : String) :
    (Surroundings.printing (Mirrors written)).Lasting := by
  rintro printer other text ⟨held, rfl, rfl⟩
  refine ⟨held ++ text, by simp, ?_⟩
  simp [String.append_assoc]

/- A sink gets what a buffer would hold. -/
theorem Script.printer_runFresh_memory
    (script : Script)
    (settings : Settings)
    (hostDepth : Nat)
    (store : Store)
    (written : String) :
    (script.runFresh settings hostDepth
        (.writer (.memory written))
        store).interpreter.printer =
      .writer (.memory
        (written ++
          (script.runFresh settings hostDepth (.buffer "")
            store).interpreter.printer.captured)) := by
  have hStart :
      Printer.Mirrors written (.buffer "")
        (.writer (.memory written)) :=
    ⟨"", rfl, by simp⟩
  rcases (runFresh_withPrinter
      (Printer.lasting_mirrors written) hStart script
      settings hostDepth store).2 with
    ⟨text, hBuffer, hWriter⟩
  rw [hWriter, hBuffer]
  rfl

/-
  What there is to report about a run: its failure, with a
  newline at the end, or nothing.
-/
def Outcome.diagnosis (outcome : Outcome Unit) : String :=
  match outcome.result with
  | .error (.failed failure) => failure.report ++ "\n"
  | .error .exhausted => ""
  | .ok _ => ""

/- Something is reported exactly if the run failed. -/
theorem Outcome.diagnosis_ne_empty_iff
    (outcome : Outcome Unit) :
    outcome.diagnosis ≠ "" ↔
      ∃ failure, outcome.result = .error (.failed failure) := by
  unfold diagnosis
  cases outcome.result with
  | ok _ => simp
  | error reason => cases reason <;> simp

namespace Sink

/- A sink after it was offered a text, if there is any. -/
def after (sink : Sink) (text : String) : Sink :=
  if text = "" then sink else (sink.write text).1

/- A sink in memory has the text at its end. -/
theorem after_memory (written text : String) :
    (memory written).after text =
      memory (written ++ text) := by
  unfold after
  by_cases hEmpty : text = ""
  · simp [hEmpty]
  · rw [if_neg hEmpty]
    rfl

/- A sink that refuses is left as it was. -/
theorem after_failing (reason text : String) :
    (failing reason).after text = failing reason := by
  unfold after
  by_cases hEmpty : text = ""
  · rw [if_pos hEmpty]
  · simp [hEmpty, write, failing]

end Sink

/- A report is offered to a sink once, as one line. -/
theorem Failure.reportTo_fst
    (failure : Failure)
    (diagnostics : Sink)
    (trace : Array Event) :
    (failure.reportTo diagnostics trace).1 =
      diagnostics.after (failure.report ++ "\n") := by
  have hSome : failure.report ++ "\n" ≠ "" := by simp
  unfold reportTo Sink.after
  rw [if_neg hSome]
  cases hWrite : diagnostics.write (failure.report ++ "\n")
    with
  | mk sink refusal => cases refusal <;> rfl

/- Reporting reaches the sink and the trace only. -/
theorem Script.runReported_eq
    (script : Script)
    (settings : Settings)
    (hostDepth : Nat)
    (printer : Printer)
    (diagnostics : Sink)
    (store : Store) :
    let outcome :=
      script.runFresh settings hostDepth printer store
    let reported :=
      script.runReported settings hostDepth printer
        diagnostics store
    reported.1.result = outcome.result ∧
      reported.1.interpreter = outcome.interpreter ∧
        reported.2 = diagnostics.after outcome.diagnosis := by
  unfold runReported
  generalize
    script.runFresh settings hostDepth printer store =
      outcome
  rcases outcome with ⟨result, interpreter, left⟩
  match result with
  | .error (.failed failure) =>
      exact ⟨rfl, rfl, failure.reportTo_fst diagnostics _⟩
  | .error .exhausted =>
      exact ⟨rfl, rfl, (if_pos rfl).symm⟩
  | .ok _ =>
      exact ⟨rfl, rfl, (if_pos rfl).symm⟩

/-
  Sinks cannot be seen. A run gives the same result with any
  two printers, a sink that takes text gets what a buffer
  holds, and reporting a run leaves its result alone and
  hands the sink its diagnosis, which is empty unless the
  run failed.
-/
theorem sinks_unseen
    (script : Script)
    (settings : Settings)
    (hostDepth : Nat)
    (store : Store)
    (printer other : Printer)
    (written text reason : String) :
    let run printer :=
      script.runFresh settings hostDepth printer store
    let reported diagnostics :=
      script.runReported settings hostDepth printer
        diagnostics store
    (run other).result = (run printer).result ∧
      (run (.writer (.memory written))).interpreter.printer =
        .writer (.memory
          (written ++
            (run (.buffer "")).interpreter.printer.captured)) ∧
      (∀ diagnostics,
        (reported diagnostics).1.result =
            (run printer).result ∧
          (reported diagnostics).1.interpreter =
            (run printer).interpreter) ∧
      (reported (.memory text)).2 =
        .memory (text ++ (run printer).diagnosis) ∧
      (reported (.failing reason)).2 = .failing reason ∧
      ((run printer).diagnosis ≠ "" ↔
        ∃ failure,
          (run printer).result =
            .error (.failed failure)) := by
  dsimp only
  have hReported diagnostics :=
    script.runReported_eq settings hostDepth printer
      diagnostics store
  refine ⟨?_, ?_, ?_, ?_, ?_, ?_⟩
  · exact
      (script.runFresh_withPrinter
        Printer.lasting_any trivial settings hostDepth
        store).1
  · exact
      script.printer_runFresh_memory settings hostDepth
        store written
  · intro diagnostics
    exact
      ⟨(hReported diagnostics).1,
        (hReported diagnostics).2.1⟩
  · exact (hReported (.memory text)).2.2.trans
      (Sink.after_memory text _)
  · exact (hReported (.failing reason)).2.2.trans
      (Sink.after_failing reason _)
  · exact Outcome.diagnosis_ne_empty_iff _

end Scriptlet
