import Scriptlet.Proofs.Eval.Regime
import Scriptlet.Proofs.Eval.SimulatedCall
import Scriptlet.Proofs.Machine.Growth
import Scriptlet.Proofs.Machine.Sound
import Scriptlet.Proofs.Value.Operator

/-
  Sound machines side by side.

  Two sound machines are twins if the heap on the right is
  the image of the heap on the left and both have printed
  the same. Twins that are run side by side stay twins, in
  every lawful regime. There are two pairings: code that is
  linked on the left may be walked on the right, or be run
  on both sides through sites of its own.

  Key definitions include:
    * `Pairing`
    * `Pairing.Twins`
    * `Pairing.under`
    * `Pairing.erased`
    * `Pairing.shared`

  Key theorems include:
    * `Pairing.lawful_under`
    * `Pairing.lawful_erased`
    * `Pairing.lawful_shared`
-/

------------------------------------------------------------
-- Pairings
------------------------------------------------------------

namespace Scriptlet

/- A view of linked code, with the sites of both sides. -/
structure Pairing extends View where
  leftArgcs : Array Nat
  rightArgcs : Array Nat

namespace Pairing

/- What the engine on the right owes to linked code. -/
structure Lawful (pairing : Pairing) : Prop where
  stepwise : pairing.right.Stepwise
  faithful : pairing.right.Faithful
  sound :
    ∀ {code : Code SiteId} {scope : ObjectId}
      {objects : Nat} (name : Name),
      scope.index < objects →
        Expr.EveryCallAll (Serves pairing.leftArgcs)
            code.body →
          Function.Sound pairing.rightArgcs objects
            { name
              arity := .fixed code.params.length
              action := pairing.right.close
                (code.mapSites pairing.mark) scope }
  resolve :
    ∀ {machine : Machine} {site : SiteId} {argc : Nat}
      (interner : Interner) (callee : FunctionId)
      (line : Line),
      machine.Sound pairing.rightArgcs →
        Serves pairing.leftArgcs site argc →
          machine.Decides pairing.rightArgcs
            (machine.heap.check interner callee argc line)
            (pairing.right.resolve interner
              (pairing.mark site) callee argc line machine)

/- Sound machines that differ in their linked code only. -/
structure Twins
    (pairing : Pairing)
    (left right : Machine) : Prop where
  leftSound : left.Sound pairing.leftArgcs
  rightSound : right.Sound pairing.rightArgcs
  heap : right.heap = pairing.imageHeap left.heap
  printer : right.printer = left.printer

/- Twins that are run in a regime. -/
def under
    (pairing : Pairing)
    (regime : Regime) :
    Simulation where
  toView := pairing.toView
  leftLimit := regime.leftLimit
  rightLimit := regime.rightLimit
  similar := pairing.Twins
  frame machine scope :=
    scope.index < machine.heap.objects.size
  holds _ _ := True
  ready machine argc target :=
    target.Ready pairing.leftArgcs
      machine.heap.objects.size argc
  serves := Serves pairing.leftArgcs
  fits := regime.fits
  may := regime.may
  lost reason left right :=
    regime.cut reason ∧ left.Extends right

end Pairing

end Scriptlet

------------------------------------------------------------
-- Changes on Both Sides
------------------------------------------------------------

namespace Scriptlet

namespace Pairing

namespace Twins

variable {pairing : Pairing}
variable {left right : Machine}

/- Stacks, sites and traces are not compared. -/
theorem congr
    {leftNext rightNext : Machine}
    (hTwins : pairing.Twins left right)
    (hLeft : leftNext.Sound pairing.leftArgcs)
    (hRight : rightNext.Sound pairing.rightArgcs)
    (hLeftHeap : leftNext.heap = left.heap)
    (hRightHeap : rightNext.heap = right.heap)
    (hPrinter : rightNext.printer = leftNext.printer) :
    pairing.Twins leftNext rightNext where
  leftSound := hLeft
  rightSound := hRight
  heap := by rw [hLeftHeap, hRightHeap, hTwins.heap]
  printer := hPrinter

/- As many objects are on both sides. -/
theorem size_objects
    (hTwins : pairing.Twins left right) :
    right.heap.objects.size = left.heap.objects.size := by
  rw [hTwins.heap]
  rfl

/- Binding a name on both sides. -/
theorem define
    (hTwins : pairing.Twins left right)
    (id : ObjectId)
    (name : Name)
    (value : Value) :
    pairing.Twins
      { left with heap := left.heap.define id name value }
      { right with
        heap := right.heap.define id name value } where
  leftSound := hTwins.leftSound.define id name value
  rightSound := hTwins.rightSound.define id name value
  heap := by
    rw [hTwins.heap]
    exact Heap.define_mapFunctions _ _ id name value
  printer := hTwins.printer

/- Adding an object on both sides. -/
theorem newObject
    (hTwins : pairing.Twins left right)
    (role : Role)
    {parent : Option ObjectId}
    (hParent :
      ∀ id ∈ parent, id.index < left.heap.objects.size) :
    pairing.Twins
      { left with
        heap := (left.heap.newObject role parent).2 }
      { right with
        heap := (right.heap.newObject role parent).2 } where
  leftSound := hTwins.leftSound.newObject role hParent
  rightSound := hTwins.rightSound.newObject role
    (by rw [hTwins.size_objects]; exact hParent)
  heap := by
    rw [hTwins.heap]
    exact Heap.newObject_mapFunctions _ _ role parent
  printer := hTwins.printer

/- Adding a function on the left and its image. -/
theorem newFunction
    (hTwins : pairing.Twins left right)
    {function : Function}
    (hLeft :
      function.Sound pairing.leftArgcs
        left.heap.objects.size)
    (hRight :
      (pairing.imageFunction function).Sound
        pairing.rightArgcs left.heap.objects.size) :
    pairing.Twins
      { left with
        heap := (left.heap.newFunction function).2 }
      { right with
        heap := (right.heap.newFunction
          (pairing.imageFunction function)).2 } where
  leftSound := hTwins.leftSound.newFunction hLeft
  rightSound := hTwins.rightSound.newFunction
    (by rw [hTwins.size_objects]; exact hRight)
  heap := by
    rw [hTwins.heap]
    exact Heap.newFunction_mapFunctions _ _ function
  printer := hTwins.printer

end Twins

/- A callee is checked on the image as on the heap. -/
theorem check_imageHeap
    (pairing : Pairing)
    (heap : Heap)
    (interner : Interner)
    (callee : FunctionId)
    (argc : Nat)
    (line : Line) :
    (pairing.imageHeap heap).check interner callee argc
        line =
      (heap.check interner callee argc line).map
        pairing.imageTarget := by
  unfold Heap.check
  rw [View.printed_imageHeap]
  unfold View.imageHeap
  rw [Heap.function?_mapFunctions]
  cases heap.function? callee with
  | none => rfl
  | some function =>
      have hArity :
          (pairing.imageFunction function).arity =
            function.arity :=
        rfl
      simp only [Option.map_some, hArity]
      cases function.arity with
      | variadic => rfl
      | fixed expected =>
          simp only
          split
          · rfl
          · rfl

end Pairing

end Scriptlet

------------------------------------------------------------
-- Resolution and Primitives on Both Sides
------------------------------------------------------------

namespace Scriptlet

namespace Pairing

variable {pairing : Pairing}
variable {regime : Regime}
variable {calls : List Activation}
variable {left right : Machine}
variable {interner : Interner}
variable {callee : FunctionId}
variable {argc : Nat}
variable {line : Line}

/- Two resolutions that decide as the check does match. -/
theorem matched_of_decides
    (hRegime : regime.Lawful)
    (hAgree : (pairing.under regime).Agree calls left right)
    {leftResult rightResult :
      EStateM.Result Halt Machine Target}
    (hLeft :
      left.Decides pairing.leftArgcs
        (left.heap.check interner callee argc line)
        leftResult)
    (hRight :
      right.Decides pairing.rightArgcs
        (right.heap.check interner callee argc line)
        rightResult) :
    (pairing.under regime).Matched calls
      ((pairing.under regime).Resolved argc)
      (Signal.liftResult leftResult)
      (Signal.liftResult rightResult) := by
  rcases hLeft with
    ⟨leftNext, hLeftSound, hLeftHeap, hLeftStack,
      hLeftPrinter, rfl⟩
  rcases hRight with
    ⟨rightNext, hRightSound, hRightHeap, hRightStack,
      hRightPrinter, rfl⟩
  have hTwins : pairing.Twins left right := hAgree.similar
  have hNext :
      (pairing.under regime).Agree calls leftNext
        rightNext :=
    .of_similar
      (hTwins.congr hLeftSound hRightSound hLeftHeap
        hRightHeap
        (by rw [hRightPrinter, hLeftPrinter,
          hTwins.printer]))
      hAgree hLeftStack hRightStack
  rw [hTwins.heap, check_imageHeap]
  cases hCheck :
      left.heap.check interner callee argc line with
  | error reason =>
      rcases Heap.exists_cause_of_check hCheck with
        ⟨cause, rfl, hCause⟩
      exact .error hNext
        (hRegime.may_failedAt cause line hCause.ne_tooDeep)
  | ok target =>
      have hReady := hTwins.leftSound.ready_of_check hCheck
      rw [← hLeftHeap] at hReady
      exact .ok hNext ⟨rfl, hReady⟩

/- Lines are printed on both sides alike. -/
theorem agree_printLine
    (hAgree : (pairing.under regime).Agree calls left right)
    (interner : Interner)
    (args : List Value) :
    ∃ leftNext rightNext,
      Primitive.printLine interner args left =
          .ok .undefined leftNext ∧
        Primitive.printLine interner args right =
            .ok .undefined rightNext ∧
          (pairing.under regime).Agree calls leftNext
            rightNext := by
  have hTwins : pairing.Twins left right := hAgree.similar
  have hPrinted :
      right.heap.printed interner =
        left.heap.printed interner := by
    funext value
    rw [hTwins.heap]
    exact pairing.printed_imageHeap left.heap interner value
  refine ⟨_, _, Primitive.printLine_apply interner args left,
    Primitive.printLine_apply interner args right, ?_⟩
  rw [hPrinted]
  refine .of_similar ?_ hAgree rfl rfl
  exact hTwins.congr (hTwins.leftSound.congr rfl rfl)
    (hTwins.rightSound.congr rfl rfl) rfl rfl
    (by simp only [Machine.wrote, hTwins.printer])

/- Primitives that are ready match. -/
theorem matched_primitive
    (hRegime : regime.Lawful)
    {target : Target}
    {primitive : Primitive}
    {args : List Value}
    (hAgree : (pairing.under regime).Agree calls left right)
    (hReady :
      target.Ready pairing.leftArgcs
        left.heap.objects.size args.length)
    (hAction : target.action = .primitive primitive)
    (context : Context)
    (receiver : Value)
    (line : Line) :
    (pairing.under regime).Matched calls
      (pairing.under regime).Same
      (Signal.lift
        (Caller.around context none target receiver args
          line)
        left)
      (Signal.lift
        (Caller.around context none target receiver args
          line)
        right) := by
  unfold Target.Ready at hReady
  unfold Caller.around
  rw [hAction] at hReady ⊢
  simp only [Signal.lift_apply, RunM.adaptExcept_apply]
  cases primitive with
  | host function => exact hReady.elim
  | print =>
      rcases agree_printLine hAgree context.interner
          args with
        ⟨leftNext, rightNext, hLeft, hRight, hNext⟩
      simp only [Primitive.call, hLeft, hRight]
      exact .ok hNext ⟨rfl, trivial⟩
  | operator op =>
      simp only [Primitive.call]
      cases hApply : op.apply args with
      | ok value => exact .ok hAgree ⟨rfl, trivial⟩
      | error cause =>
          exact .error hAgree
            (hRegime.may_failedAt cause line
              (Operator.ordinary_of_apply hApply).ne_tooDeep)

end Pairing

end Scriptlet

------------------------------------------------------------
-- Twins Stay Twins
------------------------------------------------------------

namespace Scriptlet

namespace Pairing

variable {pairing : Pairing}
variable {regime : Regime}

/- Walking the same code on both sides. -/
theorem lawful_walking
    (hRegime : regime.Lawful) :
    EnginePair.walking.Lawful (pairing.under regime) where
  leftStepwise := Engine.stepwise_plain
  rightStepwise := Engine.stepwise_plain
  close := by
    intro left right scope code name hTwins hScope _
    have hSound argcs :
        Function.Sound argcs left.heap.objects.size
          { name
            arity := .fixed code.params.length
            action := .walked code scope } :=
      ⟨rfl, hScope⟩
    unfold EnginePair.walking
    rw [Code.mapSites_id]
    exact ⟨Twins.newFunction hTwins (hSound _) (hSound _),
      trivial⟩
  resolve := by
    intro calls left right site callee argc interner line _
      hAgree _
    rw [Signal.lift_apply, Signal.lift_apply]
    exact matched_of_decides hRegime hAgree
      (hAgree.similar.leftSound.resolve interner callee argc
        line)
      (hAgree.similar.rightSound.resolve interner callee argc
        line)

/- Executing linked code and its image. -/
theorem lawful_executing
    (hPairing : pairing.Lawful)
    (hRegime : regime.Lawful) :
    (pairing.under regime).executing.Lawful
      (pairing.under regime) where
  leftStepwise := Engine.stepwise_caching
  rightStepwise := hPairing.stepwise
  close := by
    intro left right scope code name hTwins hScope hServed
    exact ⟨Twins.newFunction hTwins ⟨rfl, hScope, hServed⟩
      (hPairing.sound name hScope hServed), trivial⟩
  resolve := by
    intro calls left right site callee argc interner line
      hServes hAgree _
    rw [Signal.lift_apply, Signal.lift_apply]
    exact matched_of_decides hRegime hAgree
      (hAgree.similar.leftSound.resolveCached hServes
        interner callee line)
      (hPairing.resolve interner callee line
        hAgree.similar.rightSound hServes)

/- Frames are opened under scopes that exist. -/
theorem Twins.enter
    {left right : Machine}
    {argc : Nat}
    {target : Target}
    {scope : ObjectId}
    (hTwins : pairing.Twins left right)
    (hReady :
      target.Ready pairing.leftArgcs
        left.heap.objects.size argc)
    (hScope : target.action.scope? = some scope) :
    pairing.Twins
      { left with
        heap := (left.heap.newScope (some scope)).2 }
      { right with
        heap := (right.heap.newScope (some scope)).2 } := by
  apply hTwins.newObject .scope
  intro id hId
  cases hId
  unfold Target.Ready at hReady
  split at hReady
  case h_4 hAction =>
      rw [hAction] at hScope
      cases hScope
      exact hReady.2
  case h_5 hAction =>
      rw [hAction] at hScope
      cases hScope
      exact hReady.2.1
  all_goals
    rename_i hAction
    rw [hAction] at hScope
    cases hScope

/- Every lawful pairing in every lawful regime. -/
theorem lawful_under
    (hPairing : pairing.Lawful)
    (hRegime : regime.Lawful) :
    (pairing.under regime).Lawful where
  heap := Twins.heap
  restack := by
    intro left right leftStack rightStack hTwins
    exact Twins.congr hTwins
      (hTwins.leftSound.congr rfl rfl)
      (hTwins.rightSound.congr rfl rfl) rfl rfl
      hTwins.printer
  frame_mono := by
    intro before after scope hEvolves hScope
    exact Nat.lt_of_lt_of_le hScope hEvolves.objects_le
  holds_mono _ _ := trivial
  literal _ _ := trivial
  lookup _ _ _ := trivial
  own _ _ _ := trivial
  define name hTwins _ _ := Twins.define hTwins _ name _
  newRecord := by
    intro left right hTwins
    exact ⟨Twins.newObject hTwins .record (by simp), trivial⟩
  walking := lawful_walking hRegime
  executing := lawful_executing hPairing hRegime
  faithful := hPairing.faithful
  primitive := by
    intro calls left right target primitive receiver args
      context line hAgree hReady hAction _ _
    exact matched_primitive hRegime hAgree hReady hAction
      context receiver line
  enter := by
    intro left right argc target scope hTwins hReady hScope
    refine ⟨Twins.enter hTwins hReady hScope, ?_⟩
    simp [under, Heap.newScope]
  served := by
    intro left argc target code scope hReady hAction
    change Target.Ready _ _ _ _ at hReady
    unfold Target.Ready at hReady
    rw [hAction] at hReady
    exact hReady.2.2
  may_failedAt := hRegime.may_failedAt
  may_withCalls := hRegime.may_withCalls
  room := hRegime.room
  nest := by
    intro depth leftBudget rightBudget hFits hRoom
    rcases hRegime.nest hFits hRoom with
      hDeeper | hBoth | ⟨hLeft, hCut⟩
    · exact .inl hDeeper
    · exact .inr (.inl hBoth)
    · refine .inr (.inr ⟨hLeft, fun left right hTwins => ?_⟩)
      exact ⟨hCut, "", by simp [hTwins.printer]⟩
  full := by
    intro depth leftBudget rightBudget bound hFits hLimit
      hFull
    rcases hRegime.full hFits hLimit hFull with hBoth | hCut
    · exact .inl hBoth
    · refine .inr fun left right failure hTwins hCause
        hLength => ?_
      exact ⟨hCut failure hCause hLength, "",
        by simp [hTwins.printer]⟩
  lost_mono := by
    rintro reason left right later ⟨hCut, hExtends⟩ hEvolves
    exact ⟨hCut, hExtends.trans hEvolves.extends⟩
  lost_restack _ hLost := hLost
  lost_withCalls := by
    rintro reason left right depth leftBudget rightBudget
      backtrace hFits ⟨hCut, hExtends⟩
    exact ⟨hRegime.cut_withCalls backtrace hFits hCut,
      hExtends⟩

end Pairing

end Scriptlet

------------------------------------------------------------
-- Two Pairings
------------------------------------------------------------

namespace Scriptlet

namespace Pairing

/- Code that is linked on the left is walked on the right. -/
def erased (leftArgcs rightArgcs : Array Nat) : Pairing where
  Mark := Unit
  mark _ := ()
  right := .plain
  leftArgcs := leftArgcs
  rightArgcs := rightArgcs

/- Linked code is the same code on both sides. -/
def shared (argcs : Array Nat) : Pairing where
  Mark := SiteId
  mark := id
  right := .caching
  leftArgcs := argcs
  rightArgcs := argcs

theorem lawful_erased
    (leftArgcs rightArgcs : Array Nat) :
    (erased leftArgcs rightArgcs).Lawful where
  stepwise := Engine.stepwise_plain
  faithful _ _ _ _ _ _ _ _ := rfl
  sound _ hScope _ := ⟨rfl, hScope⟩
  resolve interner callee line hSound _ :=
    hSound.resolve interner callee _ line

theorem lawful_shared
    (argcs : Array Nat) :
    (shared argcs).Lawful where
  stepwise := Engine.stepwise_caching
  faithful _ _ _ _ _ _ _ _ := rfl
  sound := by
    intro code scope objects name hScope hServed
    change Function.Sound argcs objects
      { name
        arity := .fixed code.params.length
        action := .linked (code.mapSites id) scope }
    rw [Code.mapSites_id]
    exact ⟨rfl, hScope, hServed⟩
  resolve interner callee line hSound hServes :=
    hSound.resolveCached hServes interner callee line

/- Shared code is its own image. -/
theorem imageAction_shared
    (argcs : Array Nat)
    (action : Action) :
    (shared argcs).image action = action := by
  cases action with
  | primitive primitive => rfl
  | walked code scope => rfl
  | linked code scope =>
      change Action.linked (code.mapSites id) scope = _
      rw [Code.mapSites_id]

/- So are heaps. -/
theorem imageHeap_shared
    (argcs : Array Nat)
    (heap : Heap) :
    (shared argcs).imageHeap heap = heap := by
  apply Heap.mapFunctions_eq_self
  intro id function _
  unfold View.imageFunction
  rw [imageAction_shared]

end Pairing

end Scriptlet
