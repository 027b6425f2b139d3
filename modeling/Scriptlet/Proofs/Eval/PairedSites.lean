import Scriptlet.Proofs.Eval.Twins
import Scriptlet.Proofs.Machine.Effect

/-
  Sites side by side.

  Simulations do not compare the sites of two machines. Any
  relation between sites may be added to a simulation if it
  is kept where callees are resolved through them, since
  nothing else changes a site.

  Key definitions include:
    * `Simulation.withSites`

  Key theorems include:
    * `Simulation.Lawful.withSites`
-/

------------------------------------------------------------
-- What Keeps Sites
------------------------------------------------------------

namespace Scriptlet

/- Checking a callee does not change sites. -/
theorem sites_resolve
    (interner : Interner)
    (callee : FunctionId)
    (argc : Nat)
    (line : Line)
    (machine : Machine) :
    (Machine.after
        (resolve interner callee argc line machine)).sites =
      machine.sites := by
  rw [resolve_apply]
  split <;> rfl

end Scriptlet

------------------------------------------------------------
-- Simulations with Sites
------------------------------------------------------------

namespace Scriptlet

namespace Simulation

/- A simulation that relates the sites as well. -/
def withSites
    (P : Simulation)
    (paired : Array CallSite → Array CallSite → Prop) :
    Simulation :=
  { P with
    similar := fun left right =>
      P.similar left right ∧ paired left.sites right.sites }

variable {P : Simulation}
variable {paired : Array CallSite → Array CallSite → Prop}
variable {A B : Type}
variable {calls : List Activation}

theorem Agree.plain
    {left right : Machine}
    (hAgree : (P.withSites paired).Agree calls left right) :
    P.Agree calls left right where
  similar := hAgree.similar.1
  leftStack := hAgree.leftStack
  rightStack := hAgree.rightStack

/- Results that match, with the sites that they leave. -/
theorem Matched.withSites
    {related : Machine → A → B → Prop}
    {left : EStateM.Result Signal Machine A}
    {right : EStateM.Result Signal Machine B}
    (hMatched : P.Matched calls related left right)
    (hSites :
      paired (Machine.after left).sites
        (Machine.after right).sites) :
    (P.withSites paired).Matched calls related left
      right := by
  cases hMatched with
  | ok hAgree hRelated =>
      exact .ok
        { similar := ⟨hAgree.similar, hSites⟩
          leftStack := hAgree.leftStack
          rightStack := hAgree.rightStack } hRelated
  | error hAgree hFine =>
      exact .error
        { similar := ⟨hAgree.similar, hSites⟩
          leftStack := hAgree.leftStack
          rightStack := hAgree.rightStack } hFine
  | lost hLost => exact .lost hLost

/- Engines that keep the relation when they resolve. -/
theorem lawful_engines
    {S T : Type}
    {pair : EnginePair S T}
    (hPair : pair.Lawful P)
    (hResolve :
      ∀ {left right : Machine} {site : S} {argc : Nat}
        (interner : Interner) (callee : FunctionId)
        (line : Line),
        pair.serves site argc → P.similar left right →
          paired left.sites right.sites →
            paired
              (Machine.after
                (pair.left.resolve interner site callee argc
                  line left)).sites
              (Machine.after
                (pair.right.resolve interner
                  (pair.mark site) callee argc line
                  right)).sites) :
    pair.Lawful (P.withSites paired) where
  leftStepwise := hPair.leftStepwise
  rightStepwise := hPair.rightStepwise
  close := by
    intro left right scope code name hSimilar hFrame hServed
    rcases hPair.close name hSimilar.1 hFrame hServed with
      ⟨hNext, hHolds⟩
    exact ⟨⟨hNext, hSimilar.2⟩, hHolds⟩
  resolve := by
    intro calls left right site callee argc interner line
      hServes hAgree hHolds
    refine (hPair.resolve interner line hServes hAgree.plain
      hHolds).withSites ?_
    rw [Signal.lift_apply, Signal.lift_apply,
      after_liftResult, after_liftResult]
    exact hResolve interner callee line hServes
      hAgree.similar.1 hAgree.similar.2

/- Nothing but resolving through sites changes them. -/
theorem Lawful.withSites
    (hP : P.Lawful)
    (hResolve :
      ∀ {left right : Machine} {site : SiteId} {argc : Nat}
        (interner : Interner) (callee : FunctionId)
        (line : Line),
        P.serves site argc → P.similar left right →
          paired left.sites right.sites →
            paired
              (Machine.after
                (resolveCached interner site callee argc
                  line left)).sites
              (Machine.after
                (P.right.resolve interner (P.mark site)
                  callee argc line right)).sites) :
    (P.withSites paired).Lawful where
  heap hSimilar := hP.heap hSimilar.1
  restack leftStack rightStack hSimilar :=
    ⟨hP.restack leftStack rightStack hSimilar.1, hSimilar.2⟩
  frame_mono := hP.frame_mono
  holds_mono := hP.holds_mono
  literal := hP.literal
  lookup name hSimilar := hP.lookup name hSimilar.1
  own name hSimilar := hP.own name hSimilar.1
  define name hSimilar hId hValue :=
    ⟨hP.define name hSimilar.1 hId hValue, hSimilar.2⟩
  newRecord hSimilar :=
    ⟨⟨(hP.newRecord hSimilar.1).1, hSimilar.2⟩,
      (hP.newRecord hSimilar.1).2⟩
  walking := by
    refine lawful_engines hP.walking ?_
    intro left right site argc interner callee line _ _
      hSites
    change paired
      (Machine.after
        (resolve interner callee argc line left)).sites
      (Machine.after
        (resolve interner callee argc line right)).sites
    rw [sites_resolve, sites_resolve]
    exact hSites
  executing := lawful_engines hP.executing hResolve
  faithful := hP.faithful
  primitive := by
    intro calls left right target primitive receiver args
      context line hAgree hReady hAction hReceiver hArgs
    refine (hP.primitive context line hAgree.plain hReady
      hAction hReceiver hArgs).withSites ?_
    rw [Signal.lift_apply, Signal.lift_apply,
      after_liftResult, after_liftResult,
      Caller.sites_around hAction,
      Caller.sites_around hAction]
    exact hAgree.similar.2
  enter hSimilar hReady hScope :=
    ⟨⟨(hP.enter hSimilar.1 hReady hScope).1, hSimilar.2⟩,
      (hP.enter hSimilar.1 hReady hScope).2⟩
  served := hP.served
  may_failedAt := hP.may_failedAt
  may_withCalls := hP.may_withCalls
  room := hP.room
  nest := by
    intro depth leftBudget rightBudget hFits hRoom
    rcases hP.nest hFits hRoom with
      hDeeper | hBoth | ⟨hLeft, hLost⟩
    · exact .inl hDeeper
    · exact .inr (.inl hBoth)
    · exact .inr (.inr ⟨hLeft, fun left right hSimilar =>
        hLost left right hSimilar.1⟩)
  full := by
    intro depth leftBudget rightBudget bound hFits hLimit
      hFull
    rcases hP.full hFits hLimit hFull with hBoth | hLost
    · exact .inl hBoth
    · exact .inr fun left right failure hSimilar =>
        hLost left right failure hSimilar.1
  lost_mono := hP.lost_mono
  lost_restack := hP.lost_restack
  lost_withCalls := hP.lost_withCalls

end Simulation

end Scriptlet
