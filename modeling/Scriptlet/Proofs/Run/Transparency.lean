import Scriptlet.Proofs.Run.SingleRun

/-
  Inline caches cannot be seen.

  What a session shows does not depend on whether scripts
  are walked or executed, on how much room their sites have,
  or on what the sites learned in earlier runs. Whether a
  run ends is part of what is shown.

  Key theorems include:
    * `Script.shown_runFresh_congr`
    * `inlineCaches_unseen`
-/

------------------------------------------------------------
-- Single Runs
------------------------------------------------------------

namespace Scriptlet

/- The settings of a session do not reach its store. -/
theorem Session.store_fresh
    (settings other : Settings)
    (printer : Printer)
    (interner : Interner) :
    (Session.fresh other printer interner).store =
      (Session.fresh settings printer interner).store := by
  unfold Session.fresh
  rw [Interpreter.run_create_eq settings other]

/- A transcript is made of what a run shows. -/
def Shown.transcript (shown : Shown) : Transcript where
  output := shown.printer.captured
  halt := shown.halt

namespace Script

/- A single run shows what a walk in a session shows. -/
theorem shown_runFresh
    (settings other : Settings)
    (hLimit : settings.maxCallDepth = other.maxCallDepth)
    (script : Script)
    (hostDepth : Nat)
    (printer : Printer)
    (interner : Interner) :
    (script.runFresh settings hostDepth printer
        (.ofInterner interner)).shown =
      ((Session.fresh other printer interner).outcome
        { script
          interner :=
            (Session.fresh settings printer
              interner).store.interner
          hostDepth }
        (.plain script)).shown := by
  have hMirrors :=
    (Session.mirrors_fresh hLimit printer interner).prepared
      script
  rw [runFresh_eq_outcome]
  exact (hMirrors.run
    (Session.prepared_eq _ script).2.2).1

theorem transcript_eq
    (script : Script)
    (settings : Settings)
    (hostDepth : Nat)
    (store : Store) :
    script.transcript settings hostDepth store =
      (script.runFresh settings hostDepth (.buffer "")
        store).shown.transcript := by
  unfold transcript
  generalize
    script.runFresh settings hostDepth (.buffer "") store =
      outcome
  rfl

/- What a single run shows depends on the limit only. -/
theorem shown_runFresh_congr
    {settings other : Settings}
    (hLimit : settings.maxCallDepth = other.maxCallDepth)
    (script : Script)
    (hostDepth : Nat)
    (printer : Printer)
    (interner : Interner) :
    (script.runFresh settings hostDepth printer
        (.ofInterner interner)).shown =
      (script.runFresh other hostDepth printer
        (.ofInterner interner)).shown := by
  have hOther :=
    shown_runFresh other other rfl script hostDepth printer
      interner
  rw [shown_runFresh settings other hLimit, hOther,
    Session.store_fresh settings other]

end Script

end Scriptlet

------------------------------------------------------------
-- Histories
------------------------------------------------------------

namespace Scriptlet

/-
  Two sessions with the same limit show the same for the
  same jobs, however their scripts are linked, started and
  started again. So do single runs with any two strategies.
-/
theorem inlineCaches_unseen
    (settings other : Settings)
    (hLimit : settings.maxCallDepth = other.maxCallDepth)
    (interner : Interner) :
    (∀ (printer : Printer) (jobs : List Job)
        (shown otherShown : List Shown)
        (final otherFinal : Session),
        History (.fresh settings printer interner) jobs
            shown final →
          History (.fresh other printer interner) jobs
              otherShown otherFinal →
            shown = otherShown) ∧
      ∀ (script : Script) (hostDepth : Nat),
        script.transcript settings hostDepth
            (.ofInterner interner) =
          script.transcript other hostDepth
            (.ofInterner interner) := by
  constructor
  · intro printer jobs shown otherShown final otherFinal
      hHistory hOther
    -- Both sessions mirror walks in the second one.
    have hShown :=
      (hHistory.mirrors
        (Session.mirrors_fresh hLimit printer interner)).1
    have hOtherShown :=
      (hOther.mirrors
        (Session.mirrors_fresh rfl printer interner)).1
    rw [hShown, hOtherShown]
  · intro script hostDepth
    rw [Script.transcript_eq, Script.transcript_eq,
      script.shown_runFresh_congr hLimit hostDepth]

/- Two walks show what a cold and a warm execution show. -/
theorem inlineCaches_unseen_warm :
    let walked := Session.fresh {} (.buffer "") .new
    let caching :=
      Session.fresh { strategy := .inlineCache }
        (.buffer "") .new
    let linked := caching.link printOne 1
    let program := caching.lastLinked printOne 1
    [(walked.outcome printOneJob (.plain printOne)).shown,
        ((walked.next printOneJob (.plain printOne)).outcome
          printOneJob (.plain printOne)).shown] =
      [(linked.outcome printOneJob program).shown,
        ((linked.next printOneJob program).outcome
          printOneJob program).shown] := by
  intro walked caching linked program
  have hOffers : linked.Offers printOne program :=
    caching.offers_link printOne 1
  exact (inlineCaches_unseen {}
    { strategy := .inlineCache } rfl .new).1 (.buffer "")
    [printOneJob, printOneJob] _ _ _ _
    (.run printOneJob (.plain printOne) rfl
      (.run printOneJob (.plain printOne) rfl (.done _)))
    (.link printOne 1
      (.run printOneJob program hOffers
        (.run printOneJob program
          (hOffers.next printOneJob program) (.done _))))

end Scriptlet
