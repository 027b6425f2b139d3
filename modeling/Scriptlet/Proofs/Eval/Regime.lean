import Scriptlet.Proofs.Eval.Simulation

/-
  Limits and budgets of two runs.

  A regime says which limits the two stacks have, for which
  budgets calls are compared at a depth, how both runs may
  halt together, and how the left one may be cut. It says
  nothing about heaps or code.

  Key definitions include:
    * `Regime`
    * `Regime.Lawful`
    * `Regime.equal`
    * `Regime.ample`
    * `Regime.raised`
    * `Regime.unlimited`
-/

------------------------------------------------------------
-- Regimes
------------------------------------------------------------

namespace Scriptlet

/- The limits and budgets that two runs are given. -/
structure Regime where
  leftLimit : Option Nat
  rightLimit : Option Nat
  fits : Nat → Nat → Nat → Prop
  may : Halt → Prop
  cut : Halt → Prop

/-
  What limits and budgets have to do: below the left limit
  calls fit on both sides, or only the left run is cut.
-/
structure Regime.Lawful (regime : Regime) : Prop where
  may_failedAt :
    ∀ (cause : Cause) (line : Line),
      (∀ depth, cause ≠ .tooDeep depth) →
        regime.may (.failedAt cause line)
  may_withCalls :
    ∀ {reason : Halt} (backtrace : Backtrace),
      regime.may reason →
        regime.may (reason.withCalls backtrace)
  room :
    ∀ {depth leftBudget rightBudget : Nat},
      regime.fits depth leftBudget rightBudget →
        ¬AtLimit regime.leftLimit depth →
          ¬AtLimit regime.rightLimit depth
  nest :
    ∀ {depth leftBudget rightBudget : Nat},
      regime.fits depth leftBudget rightBudget →
        ¬AtLimit regime.leftLimit depth →
          (∃ leftInner rightInner,
              leftBudget = leftInner + 1 ∧
                rightBudget = rightInner + 1 ∧
                  regime.fits (depth + 1) leftInner
                    rightInner) ∨
            (leftBudget = 0 ∧ rightBudget = 0 ∧
                regime.may .exhausted) ∨
              (leftBudget = 0 ∧ regime.cut .exhausted)
  full :
    ∀ {depth leftBudget rightBudget bound : Nat},
      regime.fits depth leftBudget rightBudget →
        regime.leftLimit = some bound → bound ≤ depth →
          (regime.rightLimit = some bound ∧
              ∀ failure : Failure,
                failure.cause = .tooDeep bound →
                  regime.may (.failed failure)) ∨
            ∀ failure : Failure,
              failure.cause = .tooDeep bound →
                failure.backtrace.length = depth →
                  regime.cut (.failed failure)
  cut_withCalls :
    ∀ {reason : Halt} {depth leftBudget rightBudget : Nat}
      (backtrace : Backtrace),
      regime.fits (depth + 1) leftBudget rightBudget →
        regime.cut reason →
          regime.cut (reason.withCalls backtrace)

end Scriptlet

------------------------------------------------------------
-- Halts
------------------------------------------------------------

namespace Scriptlet

namespace Halt

/- A halt for which neither limit nor budget is to blame. -/
def Proper : Halt → Prop
  | .failed failure =>
      ∀ depth, failure.cause ≠ .tooDeep depth
  | .exhausted => False

/- A halt at a limit, with all the calls that fill it. -/
def Overflows (limit : Nat) : Halt → Prop
  | .failed failure =>
      failure.cause = .tooDeep limit ∧
        failure.backtrace.length = limit
  | .exhausted => False

/- Active calls do not change who is to blame. -/
theorem Proper.withCalls
    {reason : Halt}
    (backtrace : Backtrace)
    (hProper : reason.Proper) :
    (reason.withCalls backtrace).Proper := by
  cases reason with
  | exhausted => exact hProper
  | failed failure =>
      intro depth
      simpa using hProper depth

/- A full backtrace stays as it is. -/
theorem Overflows.withCalls
    {reason : Halt}
    {limit : Nat}
    (backtrace : Backtrace)
    (hLimit : 0 < limit)
    (hOverflows : reason.Overflows limit) :
    (reason.withCalls backtrace).Overflows limit := by
  cases reason with
  | exhausted => exact hOverflows
  | failed failure =>
      rcases hOverflows with ⟨hCause, hLength⟩
      have hCalls : failure.backtrace ≠ [] := by
        intro hNil
        rw [hNil] at hLength
        exact Nat.ne_of_lt hLimit hLength
      refine ⟨by simpa using hCause, ?_⟩
      rw [Failure.backtrace_withCalls_of_ne_nil _ _ hCalls]
      exact hLength

theorem proper_failedAt
    {cause : Cause}
    (hCause : ∀ depth, cause ≠ .tooDeep depth)
    (line : Line) :
    (failedAt cause line).Proper := by
  intro depth
  simpa [Failure.ofCause] using hCause depth

end Halt

end Scriptlet

------------------------------------------------------------
-- Four Regimes
------------------------------------------------------------

namespace Scriptlet

theorem lt_of_not_atLimit
    {limit depth : Nat}
    (hRoom : ¬AtLimit (some limit) depth) :
    depth < limit :=
  Nat.lt_of_not_le fun hFull => hRoom ⟨limit, rfl, hFull⟩

namespace Regime

/- The same limit and the same budget on both sides. -/
def equal (limit : Option Nat) : Regime where
  leftLimit := limit
  rightLimit := limit
  fits _ leftBudget rightBudget := leftBudget = rightBudget
  may _ := True
  cut _ := False

/- The same limit, and budgets that reach up to it. -/
def ample (limit : Nat) : Regime where
  leftLimit := some limit
  rightLimit := some limit
  fits depth leftBudget rightBudget :=
    leftBudget = rightBudget ∧ limit ≤ depth + leftBudget
  may reason := reason ≠ .exhausted
  cut _ := False

/- A limit that is higher, if it is there, on the right. -/
def raised (low : Nat) (high : Option Nat) : Regime where
  leftLimit := some low
  rightLimit := high
  fits depth leftBudget rightBudget :=
    depth ≤ low ∧ low ≤ depth + leftBudget ∧
      low ≤ depth + rightBudget
  may := Halt.Proper
  cut := Halt.Overflows low

/- No limits, and a larger budget on the right. -/
def unlimited : Regime where
  leftLimit := none
  rightLimit := none
  fits _ leftBudget rightBudget := leftBudget ≤ rightBudget
  may := Halt.Proper
  cut reason := reason = .exhausted

theorem lawful_equal
    (limit : Option Nat) :
    (equal limit).Lawful where
  may_failedAt _ _ _ := trivial
  may_withCalls _ _ := trivial
  room _ hRoom := hRoom
  nest := by
    intro depth leftBudget rightBudget hFits _
    cases hFits
    cases leftBudget with
    | zero => exact .inr (.inl ⟨rfl, rfl, trivial⟩)
    | succ budget => exact .inl ⟨budget, budget, rfl, rfl, rfl⟩
  full _ hLimit _ := .inl ⟨hLimit, fun _ _ => trivial⟩
  cut_withCalls _ _ hCut := hCut

theorem lawful_ample
    (limit : Nat) :
    (ample limit).Lawful where
  may_failedAt _ _ _ := by simp [ample, Halt.failedAt]
  may_withCalls := by
    intro reason backtrace hMay
    cases reason with
    | exhausted => exact absurd rfl hMay
    | failed failure => exact Halt.noConfusion
  room _ hRoom := hRoom
  nest := by
    rintro depth leftBudget rightBudget ⟨rfl, hAmple⟩ hRoom
    have hBelow := lt_of_not_atLimit hRoom
    -- The budget cannot run out before the limit.
    exact .inl ⟨leftBudget - 1, leftBudget - 1, by omega,
      by omega, rfl, by omega⟩
  full _ hLimit _ :=
    .inl ⟨hLimit, fun _ _ => Halt.noConfusion⟩
  cut_withCalls _ _ hCut := hCut

theorem lawful_raised
    (low : Nat)
    (high : Option Nat)
    (hHigh : ∀ bound ∈ high, low ≤ bound) :
    (raised low high).Lawful where
  may_failedAt _ line hCause :=
    Halt.proper_failedAt hCause line
  may_withCalls := Halt.Proper.withCalls
  room := by
    rintro depth _ _ _ hRoom ⟨bound, hBound, hFull⟩
    have hLow := hHigh bound hBound
    exact hRoom ⟨low, rfl, by omega⟩
  nest := by
    rintro depth leftBudget rightBudget
      ⟨_, hLeft, hRight⟩ hRoom
    have hBelow := lt_of_not_atLimit hRoom
    exact .inl ⟨leftBudget - 1, rightBudget - 1, by omega,
      by omega, by omega, by omega, by omega⟩
  full := by
    rintro depth _ _ bound ⟨hDepth, _, _⟩ hLimit hFull
    have hEq : low = bound := Option.some.inj hLimit
    subst hEq
    refine .inr fun failure hCause hLength => ⟨hCause, ?_⟩
    omega
  cut_withCalls := by
    rintro reason depth _ _ backtrace ⟨hDepth, _, _⟩ hCut
    exact hCut.withCalls backtrace (by omega)

theorem lawful_unlimited :
    unlimited.Lawful where
  may_failedAt _ line hCause :=
    Halt.proper_failedAt hCause line
  may_withCalls := Halt.Proper.withCalls
  room _ hRoom := hRoom
  nest := by
    intro depth leftBudget rightBudget hFits _
    cases leftBudget with
    | zero => exact .inr (.inr ⟨rfl, rfl⟩)
    | succ budget =>
        cases rightBudget with
        | zero => exact absurd hFits (Nat.not_succ_le_zero _)
        | succ larger =>
            exact .inl ⟨budget, larger, rfl, rfl,
              Nat.le_of_succ_le_succ hFits⟩
  full _ hLimit _ := absurd hLimit (by simp [unlimited])
  cut_withCalls := by
    rintro _ _ _ _ backtrace _ rfl
    rfl

end Regime

end Scriptlet
