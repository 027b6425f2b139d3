import Scriptlet.Proofs.Run.SingleRun

/-
  Limits of the call depth are conservative.

  Two runs of a script that differ in their limits show the
  same, unless the lower limit is reached. A run that
  reaches its limit has exactly as many active calls as the
  limit says, and what it printed is the beginning of what
  the run with the higher limit prints. Without a limit, no
  run blames the depth of its calls.

  Key definitions include:
    * `Script.shownUnder`
    * `Shown.Overflow`

  Key theorems include:
    * `Script.shownUnder_of_not_overflow`
    * `Script.overflows_of_tooDeep`
    * `depthLimit_conservative`
-/

------------------------------------------------------------
-- Runs Under Two Limits
------------------------------------------------------------

namespace Scriptlet

/- What a single run shows under a limit. -/
def Script.shownUnder
    (script : Script)
    (strategy : Strategy)
    (cacheDepth : Nat)
    (printer : Printer)
    (interner : Interner)
    (limit : Option Nat)
    (hostDepth : Nat) :
    Shown :=
  (script.runFresh
    { strategy, cacheDepth, maxCallDepth := limit }
    hostDepth printer (.ofInterner interner)).shown

namespace Shown

/- Whether a run failed because its calls went too deep. -/
def Overflow (shown : Shown) : Prop :=
  ∃ failure depth,
    shown.halt = some (.failed failure) ∧
      failure.cause = .tooDeep depth

/- Whether a run came to an end on the host. -/
def Finished (shown : Shown) : Prop :=
  shown.halt ≠ some .exhausted

end Shown

namespace Script

variable (script : Script)
variable (strategy : Strategy)
variable (cacheDepth : Nat)
variable (printer : Printer)
variable (interner : Interner)

/- A lower and a higher limit. -/
theorem related_raised
    {low : Nat}
    {high : Option Nat}
    (hHigh : ∀ bound ∈ high, low ≤ bound)
    (lowDepth : Nat)
    {hostDepth : Nat}
    (hRoom : low ≤ high.getD hostDepth) :
    (Regime.raised low high).Relates
      (script.shownUnder strategy cacheDepth printer
        interner (some low) lowDepth)
      (script.shownUnder strategy cacheDepth printer
        interner high hostDepth) := by
  have hFits :
      (Regime.raised low high).fits 0
        ((some low).getD lowDepth)
        (high.getD hostDepth) :=
    ⟨Nat.zero_le _, Nat.le_of_eq (Nat.zero_add _).symm,
      by rw [Nat.zero_add]; exact hRoom⟩
  exact related_runFresh
    (Regime.lawful_raised low high hHigh) rfl rfl hFits
    script strategy cacheDepth printer interner

/- Two hosts, without a limit. -/
theorem related_unlimited
    {lessDepth moreDepth : Nat}
    (hDepth : lessDepth ≤ moreDepth) :
    Regime.unlimited.Relates
      (script.shownUnder strategy cacheDepth printer
        interner none lessDepth)
      (script.shownUnder strategy cacheDepth printer
        interner none moreDepth) :=
  related_runFresh Regime.lawful_unlimited rfl rfl hDepth
    script strategy cacheDepth printer interner

/- A run that ends on a host ends alike on a larger one. -/
theorem shownUnder_none_of_le
    {lessDepth moreDepth : Nat}
    (hDepth : lessDepth ≤ moreDepth)
    (hFinished :
      (script.shownUnder strategy cacheDepth printer
        interner none lessDepth).Finished) :
    script.shownUnder strategy cacheDepth printer interner
        none moreDepth =
      script.shownUnder strategy cacheDepth printer interner
        none lessDepth := by
  rcases script.related_unlimited strategy cacheDepth
      printer interner hDepth with
    ⟨hSame, _⟩ | ⟨reason, hHalt, hCut, _⟩
  · exact hSame.symm
  · have hEq : reason = .exhausted := hCut
    subst hEq
    exact absurd hHalt hFinished

/-
  A run that ends shows what it would show on a host that is
  large enough for a limit below its own.
-/
theorem exists_room
    {low : Nat}
    {high : Option Nat}
    (hHigh : ∀ bound ∈ high, low ≤ bound)
    {hostDepth : Nat}
    (hEnds :
      low ≤ high.getD hostDepth ∨
        (script.shownUnder strategy cacheDepth printer
          interner high hostDepth).Finished) :
    ∃ depth,
      low ≤ high.getD depth ∧
        script.shownUnder strategy cacheDepth printer
            interner high depth =
          script.shownUnder strategy cacheDepth printer
            interner high hostDepth := by
  cases high with
  | some bound =>
      exact ⟨hostDepth, hHigh bound rfl, rfl⟩
  | none =>
      rcases hEnds with hRoom | hFinished
      · exact ⟨hostDepth, hRoom, rfl⟩
      · by_cases hRoom : low ≤ hostDepth
        · exact ⟨hostDepth, hRoom, rfl⟩
        · exact ⟨low, Nat.le_refl _,
            script.shownUnder_none_of_le strategy cacheDepth
              printer interner (by omega) hFinished⟩

end Script

end Scriptlet

------------------------------------------------------------
-- Conservative Limits
------------------------------------------------------------

namespace Scriptlet

/- A run that halts properly does not overflow. -/
theorem Shown.not_overflow_of_proper
    {shown : Shown}
    (hProper :
      ∀ reason, shown.halt = some reason → reason.Proper) :
    ¬shown.Overflow := by
  rintro ⟨failure, depth, hHalt, hCause⟩
  exact hProper _ hHalt depth hCause

namespace Script

variable {script : Script}
variable {strategy : Strategy}
variable {cacheDepth : Nat}
variable {printer : Printer}
variable {interner : Interner}
variable {low : Nat}
variable {high : Option Nat}

/- A run that does not overflow is not cut. -/
theorem shownUnder_of_not_overflow
    (hHigh : ∀ bound ∈ high, low ≤ bound)
    {lowDepth : Nat}
    (hNot :
      ¬(script.shownUnder strategy cacheDepth printer
        interner (some low) lowDepth).Overflow)
    {hostDepth : Nat}
    (hEnds :
      low ≤ high.getD hostDepth ∨
        (script.shownUnder strategy cacheDepth printer
          interner high hostDepth).Finished) :
    script.shownUnder strategy cacheDepth printer interner
        high hostDepth =
      script.shownUnder strategy cacheDepth printer interner
        (some low) lowDepth := by
  rcases script.exists_room strategy cacheDepth printer
      interner hHigh hEnds with
    ⟨depth, hRoom, hShown⟩
  rcases script.related_raised strategy cacheDepth printer
      interner hHigh lowDepth hRoom with
    ⟨hSame, _⟩ | ⟨reason, hHalt, hCut, _⟩
  · exact hShown.symm.trans hSame.symm
  · cases reason with
    | exhausted => exact hCut.elim
    | failed failure =>
        exact absurd ⟨failure, low, hHalt, hCut.1⟩ hNot

/- A run that overflows is cut at its limit. -/
theorem overflows_of_tooDeep
    (hHigh : ∀ bound ∈ high, low ≤ bound)
    {lowDepth : Nat}
    {failure : Failure}
    {depth : Nat}
    (hHalt :
      (script.shownUnder strategy cacheDepth printer
        interner (some low) lowDepth).halt =
          some (.failed failure))
    (hCause : failure.cause = .tooDeep depth)
    {hostDepth : Nat}
    (hRoom : low ≤ high.getD hostDepth) :
    (Halt.failed failure).Overflows low ∧
      ∃ more,
        (script.shownUnder strategy cacheDepth printer
            interner high hostDepth).printer.output =
          (script.shownUnder strategy cacheDepth printer
              interner (some low) lowDepth).printer.output ++
            more := by
  rcases script.related_raised strategy cacheDepth printer
      interner hHigh lowDepth hRoom with
    ⟨_, hMay⟩ | ⟨reason, hOther, hCut, hMore⟩
  · exact absurd ⟨failure, depth, hHalt, hCause⟩
      (Shown.not_overflow_of_proper hMay)
  · have hEq : Halt.failed failure = reason :=
      Option.some.inj (hHalt.symm.trans hOther)
    subst hEq
    exact ⟨hCut, hMore⟩

/- Without a limit nothing is blamed on the depth. -/
theorem not_overflow_none (hostDepth : Nat) :
    ¬(script.shownUnder strategy cacheDepth printer
      interner none hostDepth).Overflow := by
  rcases script.related_unlimited strategy cacheDepth
      printer interner (Nat.le_refl hostDepth) with
    ⟨_, hMay⟩ | ⟨reason, hHalt, hCut, _⟩
  · exact Shown.not_overflow_of_proper hMay
  · have hEq : reason = .exhausted := hCut
    subst hEq
    rintro ⟨failure, depth, hOther, _⟩
    cases hHalt.symm.trans hOther

end Script

/-
  A run that does not reach its limit shows the same under
  every higher limit. One that does has all calls of the
  limit active, and has printed a beginning of what is
  printed under a higher limit, if that run ends. A run
  without a limit does not overflow.
-/
theorem depthLimit_conservative
    (script : Script)
    (strategy : Strategy)
    (cacheDepth : Nat)
    (printer : Printer)
    (interner : Interner)
    (low lowDepth : Nat)
    (high : Option Nat)
    (hHigh : ∀ bound ∈ high, low ≤ bound) :
    let shown :=
      script.shownUnder strategy cacheDepth printer interner
    (¬(shown (some low) lowDepth).Overflow →
        ∀ hostDepth,
          low ≤ high.getD hostDepth ∨
              (shown high hostDepth).Finished →
            shown high hostDepth =
              shown (some low) lowDepth) ∧
      (∀ failure depth,
          (shown (some low) lowDepth).halt =
              some (.failed failure) →
            failure.cause = .tooDeep depth →
              depth = low ∧
                failure.backtrace.length = low ∧
                  ∀ hostDepth,
                    (shown high hostDepth).Finished →
                      ∃ more,
                        (shown high
                            hostDepth).printer.output =
                          (shown (some low)
                              lowDepth).printer.output ++
                            more) ∧
        ∀ hostDepth, ¬(shown none hostDepth).Overflow := by
  intro shown
  refine ⟨?_, ?_, ?_⟩
  · intro hNot hostDepth hEnds
    exact Script.shownUnder_of_not_overflow hHigh hNot hEnds
  · intro failure depth hHalt hCause
    have hRoom : low ≤ high.getD low := by
      cases high with
      | none => exact Nat.le_refl _
      | some bound => exact hHigh bound rfl
    rcases Script.overflows_of_tooDeep hHigh hHalt hCause
        hRoom with
      ⟨⟨hLow, hLength⟩, _⟩
    refine ⟨?_, hLength, ?_⟩
    · rw [hCause] at hLow
      exact Cause.tooDeep.inj hLow
    · intro hostDepth hFinished
      rcases script.exists_room strategy cacheDepth printer
          interner hHigh (.inr hFinished) with
        ⟨room, hRoom, hShown⟩
      have hSame : shown high room = shown high hostDepth :=
        hShown
      rw [← hSame]
      exact (Script.overflows_of_tooDeep hHigh hHalt hCause
        hRoom).2
  · intro hostDepth
    exact Script.not_overflow_none hostDepth

/-
  A script without calls of functions needs no limit, and
  one that calls itself prints more with a higher one.
-/
theorem depthLimit_conservative_callAgain :
    (printOne.shownUnder .treeWalk 3 (.buffer "") .new none
          0 =
        printOne.shownUnder .treeWalk 3 (.buffer "") .new
          (some 0) 0) ∧
      ∃ more,
        (callAgain.shownUnder .inlineCache 3 (.buffer "")
            againNames (some 2) 0).printer.output =
          (callAgain.shownUnder .inlineCache 3 (.buffer "")
              againNames (some 1) 0).printer.output ++
            more := by
  have hHalt :
      (callAgain.shownUnder .inlineCache 3 (.buffer "")
          againNames (some 1) 0).halt =
        some (.failed
          { cause := .tooDeep 1
            line := some 3
            backtrace := [{ name := "again", line := 4 }] }) := by
    decide +kernel
  have hFinished :
      (callAgain.shownUnder .inlineCache 3 (.buffer "")
          againNames (some 2) 0).halt ≠ some .exhausted := by
    decide +kernel
  have hProper :
      (printOne.shownUnder .treeWalk 3 (.buffer "") .new
        (some 0) 0).halt = none := by
    decide +kernel
  constructor
  · apply (depthLimit_conservative printOne .treeWalk 3
      (.buffer "") .new 0 0 none (fun _ h => by cases h)).1
    · rintro ⟨failure, depth, hOverflow, _⟩
      cases hProper.symm.trans hOverflow
    · exact .inl (Nat.zero_le _)
  · exact ((depthLimit_conservative callAgain .inlineCache 3
      (.buffer "") againNames 1 0 (some 2)
      (fun bound h => by cases h; decide)).2.1 _ 1 hHalt
        rfl).2.2 0 hFinished

end Scriptlet
