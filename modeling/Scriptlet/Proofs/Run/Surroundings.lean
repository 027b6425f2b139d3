import Scriptlet.Proofs.Machine.Effect
import Scriptlet.Proofs.Run.Program

/-
  What programs do not see.

  A program does not see where its text goes, what is noted
  about its run, or call sites that none of its code names.
  Machines that differ in nothing else, and have the same
  heap, are in the same state for every program: what is run
  on both gives the same on both, and leaves them like that.
  It does not matter in which state they are to begin with.

  Key definitions include:
    * `Surroundings`
    * `Surroundings.Alike`
    * `Surroundings.around`

  Key theorems include:
    * `Surroundings.Alike.dispatched`
    * `Surroundings.lawful_around`
    * `Surroundings.ended_run`
-/

------------------------------------------------------------
-- Surroundings
------------------------------------------------------------

namespace Scriptlet

/-
  What two machines may differ in.

    * `printers` relates what becomes of printed text.
    * `uses` says which sites the code on them may name.
    * `beyond` are the sites that only the right one has.
-/
structure Surroundings where
  printers : Printer → Printer → Prop
  uses : SiteId → Prop
  beyond : Array CallSite

namespace Surroundings

variable (ground : Surroundings)

/- Related printers stay related when both are printed to. -/
def Lasting : Prop :=
  ∀ {printer other : Printer} (text : String),
    ground.printers printer other →
      ground.printers (printer.write text).1
        (other.write text).1

/- Code that names no site but those in use. -/
def Covers (body : List (Expr SiteId)) : Prop :=
  Expr.EveryCallAll (fun site _ => ground.uses site) body

/- An action that runs no code but such. -/
def Runs (action : Action) : Prop :=
  ∀ code scope,
    action = .linked code scope → ground.Covers code.body

/-
  Machines that differ in their surroundings only. Where the
  right one has more sites, those in use are on both.
-/
structure Alike (left right : Machine) : Prop where
  heap : right.heap = left.heap
  printer : ground.printers left.printer right.printer
  sites : right.sites = left.sites ++ ground.beyond
  used :
    ∀ id : SiteId,
      ground.uses id →
        ground.beyond = #[] ∨ id.index < left.sites.size
  functions :
    ∀ id function,
      left.heap.function? id = some function →
        ground.Runs function.action
  entries :
    ∀ (id : Nat) (site : CallSite),
      left.sites[id]? = some site →
        ∀ entry ∈ site.state.entries,
          ground.Runs entry.target.action

/- Machines that are alike, with the same limit. -/
def around (limit : Option Nat) : Simulation where
  toView := (Pairing.shared #[]).toView
  leftLimit := limit
  rightLimit := limit
  similar := ground.Alike
  frame _ _ := True
  holds _ _ := True
  ready _ _ target := ground.Runs target.action
  serves site _ := ground.uses site
  fits := (Regime.equal limit).fits
  may _ := True
  lost _ _ _ := False

end Surroundings

end Scriptlet

------------------------------------------------------------
-- Changes in the Same Surroundings
------------------------------------------------------------

namespace Scriptlet

namespace Surroundings

variable {ground : Surroundings}
variable {left right : Machine}

/- Printing the same texts keeps printers related. -/
theorem Lasting.writeAll
    (hLasting : ground.Lasting)
    {printer other : Printer}
    (hPrinters : ground.printers printer other)
    (texts : List String) :
    ground.printers (printer.writeAll texts)
      (other.writeAll texts) := by
  induction texts generalizing printer other with
  | nil => exact hPrinters
  | cons text texts ih => exact ih (hLasting text hPrinters)

/- An action without sites runs in all surroundings. -/
theorem runs_of_not_linked
    {action : Action}
    (hAction : ∀ code scope, action ≠ .linked code scope) :
    ground.Runs action :=
  fun code scope hLinked =>
    absurd hLinked (hAction code scope)

namespace Alike

/- Only heaps, sites and printers are compared. -/
theorem congr
    {leftNext rightNext : Machine}
    (hAlike : ground.Alike left right)
    (hLeftHeap : leftNext.heap = left.heap)
    (hLeftSites : leftNext.sites = left.sites)
    (hRightHeap : rightNext.heap = right.heap)
    (hRightSites : rightNext.sites = right.sites)
    (hPrinter :
      ground.printers leftNext.printer rightNext.printer) :
    ground.Alike leftNext rightNext where
  heap := by rw [hRightHeap, hLeftHeap, hAlike.heap]
  printer := hPrinter
  sites := by rw [hRightSites, hLeftSites, hAlike.sites]
  used := by rw [hLeftSites]; exact hAlike.used
  functions := by rw [hLeftHeap]; exact hAlike.functions
  entries := by rw [hLeftSites]; exact hAlike.entries

/- The same change of both heaps. -/
theorem withHeap
    {heap : Heap}
    (hAlike : ground.Alike left right)
    (hFunctions :
      ∀ id function,
        heap.function? id = some function →
          left.heap.function? id = some function ∨
            ground.Runs function.action) :
    ground.Alike { left with heap }
      { right with heap } where
  heap := rfl
  printer := hAlike.printer
  sites := hAlike.sites
  used := hAlike.used
  functions := by
    intro id function hFunction
    rcases hFunctions id function hFunction with hOld | hNew
    · exact hAlike.functions id function hOld
    · exact hNew
  entries := hAlike.entries

/- A change that adds no function. -/
theorem onHeap
    (hAlike : ground.Alike left right)
    (change : Heap → Heap)
    (hFunctions :
      (change left.heap).functions = left.heap.functions) :
    ground.Alike
      { left with heap := change left.heap }
      { right with heap := change right.heap } := by
  rw [hAlike.heap]
  apply hAlike.withHeap
  intro id function hFunction
  unfold Heap.function? at *
  rw [hFunctions] at hFunction
  exact .inl hFunction

/- Sites in use are the same on both sides. -/
theorem getElem?_sites
    (hAlike : ground.Alike left right)
    {id : SiteId}
    (hUses : ground.uses id) :
    right.sites[id.index]? = left.sites[id.index]? := by
  rw [hAlike.sites]
  rcases hAlike.used id hUses with hNone | hBound
  · rw [hNone, Array.append_empty]
  · exact Array.getElem?_append_left hBound

/- So they know the same callees. -/
theorem known?_eq
    (hAlike : ground.Alike left right)
    {id : SiteId}
    (hUses : ground.uses id)
    (callee : FunctionId) :
    right.known? id callee = left.known? id callee := by
  unfold Machine.known?
  rw [hAlike.getElem?_sites hUses]

/- What a site knows may run. -/
theorem runs_of_known
    (hAlike : ground.Alike left right)
    {id : SiteId}
    {callee : FunctionId}
    {target : Target}
    (hKnown : left.known? id callee = some target) :
    ground.Runs target.action := by
  rcases Option.bind_eq_some_iff.mp hKnown with
    ⟨site, hSite, hFind⟩
  rcases CacheState.exists_entry_of_find? hFind with
    ⟨entry, hEntry, _, rfl⟩
  exact hAlike.entries id.index site hSite entry hEntry

/- So may what the check gives. -/
theorem runs_of_target
    (hAlike : ground.Alike left right)
    {callee : FunctionId}
    {argc : Nat}
    {target : Target}
    (hTarget : left.heap.target? callee argc = some target) :
    ground.Runs target.action := by
  rcases Option.bind_eq_some_iff.mp hTarget with
    ⟨function, hFunction, hAccepts⟩
  split at hAccepts
  · cases hAccepts
    exact hAlike.functions callee function hFunction
  · cases hAccepts

end Alike

end Surroundings

/- What a site knows after a dispatch, it knew or learned. -/
theorem CallSite.mem_entries_dispatch
    {site : CallSite}
    {attempt : Attempt}
    {entry : Entry}
    (hEntry :
      entry ∈ (site.dispatch attempt).2.state.entries) :
    entry ∈ site.state.entries ∨
      attempt.verdict = some entry.target := by
  unfold dispatch at hEntry
  split at hEntry
  case h_1 target _ hVerdict =>
      have hNew := (CacheState.entries_extend_sublist
        (site.ask attempt.callee).2.state _ _).subset hEntry
      rw [state_ask] at hNew
      rcases List.mem_cons.mp hNew with rfl | hOld
      · exact .inr hVerdict
      · exact .inl hOld
  case h_2 =>
      rw [state_ask] at hEntry
      exact .inl hEntry

namespace Surroundings

variable {ground : Surroundings}
variable {left right : Machine}

/- A dispatch at a site in use is the same on both sides. -/
theorem Alike.dispatched
    (hAlike : ground.Alike left right)
    {id : SiteId}
    (hUses : ground.uses id)
    {attempt : Attempt}
    (hVerdict :
      ∀ target,
        attempt.verdict = some target →
          ground.Runs target.action) :
    ground.Alike (left.dispatched id attempt)
      (right.dispatched id attempt) where
  heap := by simp [hAlike.heap]
  printer := by simpa using hAlike.printer
  sites := by
    apply Array.ext_getElem?
    intro index
    rw [Machine.getElem?_sites_dispatched,
      Array.getElem?_append,
      Machine.getElem?_sites_dispatched,
      Machine.size_sites_dispatched]
    by_cases hIndex : index = id.index
    · subst hIndex
      rw [if_pos rfl, if_pos rfl,
        hAlike.getElem?_sites hUses]
      split
      · rfl
      case isFalse hBound =>
          rcases hAlike.used id hUses with hNone | hLess
          · simp [hNone, Nat.le_of_not_lt hBound]
          · exact absurd hLess hBound
    · rw [if_neg hIndex, if_neg hIndex, hAlike.sites,
        Array.getElem?_append]
  used := by
    rw [Machine.size_sites_dispatched]
    exact hAlike.used
  functions := by
    rw [Machine.heap_dispatched]
    exact hAlike.functions
  entries := by
    intro index site hSite entry hEntry
    rw [Machine.getElem?_sites_dispatched] at hSite
    split at hSite
    case isFalse =>
        exact hAlike.entries index site hSite entry hEntry
    case isTrue =>
        rcases Option.map_eq_some_iff.mp hSite with
          ⟨old, hOld, rfl⟩
        rcases CallSite.mem_entries_dispatch hEntry with
          hKept | hLearned
        · exact hAlike.entries index old hOld entry hKept
        · exact hVerdict entry.target hLearned

end Surroundings

end Scriptlet

------------------------------------------------------------
-- Programs in the Same Surroundings
------------------------------------------------------------

namespace Scriptlet

namespace Surroundings

variable {ground : Surroundings}
variable {limit : Option Nat}
variable {calls : List Activation}
variable {left right : Machine}

/- A target that may run stands for itself. -/
theorem resolved
    {target : Target}
    (hRuns : ground.Runs target.action)
    (argc : Nat)
    (machine : Machine) :
    (ground.around limit).Resolved argc machine target
      target := by
  refine ⟨?_, hRuns⟩
  rcases target with ⟨name, action⟩
  exact congrArg (Target.mk name)
    (Pairing.imageAction_shared #[] action).symm

/- The same function is added to both heaps. -/
theorem Alike.newFunction
    (hAlike : ground.Alike left right)
    {function : Function}
    (hRuns : ground.Runs function.action) :
    ground.Alike
      { left with
        heap := (left.heap.newFunction function).2 }
      { right with
        heap := (right.heap.newFunction function).2 } := by
  rw [hAlike.heap]
  apply hAlike.withHeap
  intro id other hOther
  rcases Heap.eq_or_function?_of_newFunction hOther with
    rfl | hOld
  · exact .inr hRuns
  · exact .inl hOld

/- Walking is the same on both sides. -/
theorem lawful_walking :
    EnginePair.walking.Lawful (ground.around limit) where
  leftStepwise := Engine.stepwise_plain
  rightStepwise := Engine.stepwise_plain
  close := by
    intro left right scope code name hAlike _ _
    unfold EnginePair.walking
    rw [Code.mapSites_id]
    exact ⟨Alike.newFunction hAlike
      (runs_of_not_linked (by simp [Engine.plain])), trivial⟩
  resolve := by
    intro calls left right site callee argc interner line _
      hAgree _
    have hAlike : ground.Alike left right := hAgree.similar
    change Simulation.Matched _ _ _
      (Signal.lift (resolve interner callee argc line) left)
      (Signal.lift (resolve interner callee argc line)
        right)
    rw [Signal.lift_apply, Signal.lift_apply, resolve_apply,
      resolve_apply, hAlike.heap]
    cases hCheck :
        left.heap.check interner callee argc line with
    | error reason => exact .error hAgree trivial
    | ok target =>
        rcases (Heap.check_eq_ok_iff target).mp hCheck with
          ⟨function, hFunction, _, rfl⟩
        exact .ok hAgree
          (resolved
            (hAlike.functions callee function hFunction) _ _)

/- So is executing code whose sites are in use. -/
theorem lawful_executing :
    (ground.around limit).executing.Lawful
      (ground.around limit) where
  leftStepwise := Engine.stepwise_caching
  rightStepwise := Engine.stepwise_caching
  close := by
    intro left right scope code name hAlike _ hCovers
    change ground.Alike _
        { right with
          heap := (right.heap.newFunction
            { name
              arity := .fixed code.params.length
              action :=
                .linked (code.mapSites id) scope }).2 } ∧
      True
    rw [Code.mapSites_id]
    refine ⟨Alike.newFunction hAlike ?_, trivial⟩
    rintro other frame hAction
    cases hAction
    exact hCovers
  resolve := by
    intro calls left right site callee argc interner line
      hUses hAgree _
    have hAlike : ground.Alike left right := hAgree.similar
    have hVerdict target
        (hTarget :
          left.heap.target? callee argc = some target) :=
      hAlike.runs_of_target hTarget
    let attempt : Attempt :=
      { callee, verdict := left.heap.target? callee argc }
    have hNext :
        (ground.around limit).Agree calls
          (left.dispatched site attempt)
          (right.dispatched site attempt) :=
      .of_similar (hAlike.dispatched hUses hVerdict) hAgree
        (by simp) (by simp)
    change Simulation.Matched _ _ _
      (Signal.lift
        (resolveCached interner site callee argc line) left)
      (Signal.lift
        (resolveCached interner site callee argc line)
        right)
    rw [Signal.lift_apply, Signal.lift_apply,
      resolveCached_dispatched, resolveCached_dispatched,
      hAlike.heap, hAlike.known?_eq hUses]
    cases hKnown : left.known? site callee with
    | some target =>
        exact .ok hNext
          (resolved (hAlike.runs_of_known hKnown) _ _)
    | none =>
        have hOption := left.heap.toOption_check interner
          callee argc line
        simp only
        cases hCheck :
            left.heap.check interner callee argc line with
        | error reason => exact .error hNext trivial
        | ok target =>
            rw [hCheck] at hOption
            exact .ok hNext
              (resolved (hVerdict target hOption.symm) _ _)

/- An effect leaves machines alike. -/
theorem Alike.shows
    (hAlike : ground.Alike left right)
    (hLasting : ground.Lasting)
    {E : Type}
    {effect : Effect E}
    {run : RunM E Value}
    (hEffect : effect.Describes left.heap run)
    {leftResult rightResult :
      EStateM.Result E Machine Value}
    (hLeft : effect.Shows left leftResult)
    (hRight : effect.Shows right rightResult) :
    ground.Alike (Machine.after leftResult)
      (Machine.after rightResult) := by
  have hPrinters :
      ground.printers (Machine.after leftResult).printer
        (Machine.after rightResult).printer := by
    rw [hLeft.printer, hRight.printer]
    exact hLasting.writeAll hAlike.printer effect.texts
  have hChanged :
      ground.Alike { left with heap := effect.heap }
        { right with heap := effect.heap } := by
    apply hAlike.withHeap
    intro id function hFunction
    rcases hEffect.functions id function hFunction with
      hOld | ⟨host, hHost⟩
    · exact .inl hOld
    · exact .inr (runs_of_not_linked (by simp [hHost]))
  exact hChanged.congr hLeft.heap hLeft.sites hRight.heap
    hRight.sites hPrinters

/- Primitives do the same on both sides. -/
theorem matched_primitive
    (hLasting : ground.Lasting)
    {target : Target}
    {primitive : Primitive}
    (hAgree :
      (ground.around limit).Agree calls left right)
    (hAction : target.action = .primitive primitive)
    (context : Context)
    (receiver : Value)
    (args : List Value)
    (line : Line) :
    (ground.around limit).Matched calls
      (ground.around limit).Same
      (Signal.lift
        (Caller.around context none target receiver args
          line)
        left)
      (Signal.lift
        (Caller.around context none target receiver args
          line)
        right) := by
  have hAlike : ground.Alike left right := hAgree.similar
  rcases Caller.exists_effect hAction context none receiver
      args line left.heap with
    ⟨effect, hEffect⟩
  have hLeft := hEffect.shows left rfl
  have hRight := hEffect.shows right hAlike.heap
  rw [Signal.lift_apply, Signal.lift_apply]
  generalize
    Caller.around context none target receiver args line
      left = leftResult at *
  generalize
    Caller.around context none target receiver args line
      right = rightResult at *
  have hNext :
      (ground.around limit).Agree calls
        (Machine.after leftResult)
        (Machine.after rightResult) :=
    .of_similar (hAlike.shows hLasting hEffect hLeft hRight)
      hAgree hLeft.stack hRight.stack
  have hAnswer := hRight.answer.trans hLeft.answer.symm
  cases leftResult with
  | ok value leftNext =>
      cases rightResult with
      | ok other rightNext =>
          cases hAnswer
          exact .ok hNext ⟨rfl, trivial⟩
      | error reason rightNext => cases hAnswer
  | error reason leftNext =>
      cases rightResult with
      | ok value rightNext => cases hAnswer
      | error other rightNext =>
          cases hAnswer
          exact .error hNext trivial

/- Machines that are alike stay alike. -/
theorem lawful_around
    (hLasting : ground.Lasting)
    (limit : Option Nat) :
    (ground.around limit).Lawful where
  heap := by
    intro left right hAlike
    exact (Alike.heap hAlike).trans
      (Pairing.imageHeap_shared #[] left.heap).symm
  restack := by
    intro left right leftStack rightStack hSimilar
    have hAlike : ground.Alike left right := hSimilar
    exact hAlike.congr rfl rfl rfl rfl hAlike.printer
  frame_mono _ _ := trivial
  holds_mono _ _ := trivial
  literal _ _ := trivial
  lookup _ _ _ := trivial
  own _ _ _ := trivial
  define name hAlike _ _ :=
    Alike.onHeap hAlike
      (fun heap => heap.define _ name _) rfl
  newRecord hAlike :=
    ⟨Alike.onHeap hAlike (fun heap => heap.newRecord.2) rfl,
      trivial⟩
  walking := lawful_walking
  executing := lawful_executing
  faithful _ _ _ _ _ _ _ _ := rfl
  primitive := by
    intro calls left right target primitive receiver args
      context line hAgree _ hAction _ _
    exact matched_primitive hLasting hAgree hAction context
      receiver args line
  enter := by
    intro left right argc target scope hAlike _ _
    exact ⟨Alike.onHeap hAlike
      (fun heap => (heap.newScope (some scope)).2) rfl,
      trivial⟩
  served := by
    intro left argc target code scope hRuns hAction
    exact hRuns code scope hAction
  may_failedAt _ _ _ := trivial
  may_withCalls _ _ := trivial
  room := (Regime.lawful_equal limit).room
  nest := by
    intro depth leftBudget rightBudget hFits hRoom
    rcases (Regime.lawful_equal limit).nest hFits hRoom with
      hDeeper | ⟨hLeft, hRight, _⟩ | ⟨_, hCut⟩
    · exact .inl hDeeper
    · exact .inr (.inl ⟨hLeft, hRight, trivial⟩)
    · exact hCut.elim
  full _ hLimit _ := .inl ⟨hLimit, fun _ _ => trivial⟩
  lost_mono hLost _ := hLost
  lost_restack _ hLost := hLost
  lost_withCalls _ _ hLost := hLost

end Surroundings

end Scriptlet

------------------------------------------------------------
-- Whole Programs
------------------------------------------------------------

namespace Scriptlet

namespace Surroundings

variable (ground : Surroundings)

/- A program that names no site but those in use. -/
def Admits : Program → Prop
  | .plain _ => True
  | .linked script => ground.Covers script.body

/-
  Two ends with the same answer, on alike machines whose
  calls are the ones from before.
-/
structure Ended
    (stack : CallStack)
    (left right : EStateM.Result Halt Machine Unit) :
    Prop where
  answer : answerOf right = answerOf left
  alike :
    ground.Alike (Machine.after left) (Machine.after right)
  leftStack : (Machine.after left).stack = stack
  rightStack : (Machine.after right).stack = stack

variable {ground : Surroundings}
variable {left right : Machine}

/- Statements end the same on alike machines. -/
theorem ended_runBody
    (hLasting : ground.Lasting)
    (hAlike : ground.Alike left right)
    (hStack : right.stack = left.stack)
    {S : Type}
    {engine : Engine S}
    {serves : S → Nat → Prop}
    (hPair :
      EnginePair.Lawful
        { left := engine, right := engine, mark := id, serves }
        (ground.around left.stack.limit))
    {body : List (Expr S)}
    (hServed : Expr.EveryCallAll serves body)
    (context : Context)
    (budget : Nat)
    (global : ObjectId) :
    ground.Ended left.stack
      (runBody context engine (.within context budget)
        global body left)
      (runBody context engine (.within context budget)
        global body right) := by
  let P := ground.around left.stack.limit
  have hP : P.Lawful := lawful_around hLasting _
  have hAgree : P.Agree left.stack.calls left right :=
    { similar := hAlike
      leftStack := rfl
      rightStack := hStack }
  have hMatched :
      P.Matched left.stack.calls P.Same
        (Expr.evalBlock context engine
          (.within context budget) global body left)
        (Expr.evalBlock context engine
          (.within context budget) global
          (Expr.mapSitesAll id body) right) :=
    Expr.matched_evalBlock hP hPair
      (Simulation.callsMatch_within hP budget budget
        left.stack.calls rfl)
      (Caller.stepwise_within context budget)
      (Caller.stepwise_within context budget) hAgree
      trivial body hServed
  rw [Expr.mapSitesAll_id] at hMatched
  rw [runBody_apply, runBody_apply]
  generalize
    Expr.evalBlock context engine (.within context budget)
      global body left = leftResult at *
  generalize
    Expr.evalBlock context engine (.within context budget)
      global body right = rightResult at *
  cases hMatched with
  | ok hNext _ =>
      exact ⟨rfl, hNext.similar, hNext.leftStack,
        hNext.rightStack⟩
  | error hNext _ =>
      exact ⟨rfl, hNext.similar, hNext.leftStack,
        hNext.rightStack⟩
  | lost hLost => exact hLost.elim

/- So do programs, however they are run. -/
theorem ended_run
    (hLasting : ground.Lasting)
    (hAlike : ground.Alike left right)
    (hStack : right.stack = left.stack)
    {program : Program}
    (hProgram : ground.Admits program)
    (context : Context)
    (budget : Nat)
    (global : ObjectId) :
    ground.Ended left.stack
      (program.run context budget global left)
      (program.run context budget global right) := by
  cases program with
  | plain script =>
      exact ended_runBody hLasting hAlike hStack
        lawful_walking
        (Expr.everyCallAll_of_forall
          (fun _ _ => trivial) script.body)
        context budget global
  | linked script =>
      exact ended_runBody hLasting hAlike hStack
        lawful_executing hProgram context budget global

end Surroundings

end Scriptlet
