import Scriptlet.Proofs.Heap.Renaming
import Scriptlet.Proofs.Machine.Apply

/-
  Runs with other names.

  A likeness says how two runs may differ: the names of the
  one are translated into those of the other, and what is
  printed goes to related printers. Machines are alike if
  their heaps and their stacks are renamed. Sites and events
  are not looked at, since the code that is run is walked.
  Two computations track each other if they end alike from
  machines that are alike.

  Key definitions include:
    * `CallStack.rename`
    * `Likeness`
    * `Likeness.Alike`
    * `Likeness.Tracks`
    * `Likeness.CallsTrack`

  Key theorems include:
    * `Likeness.Tracks.bind`
    * `Likeness.Tracks.bindLocal`
    * `Likeness.Tracks.makeFunction`
    * `Likeness.Tracks.resolve`
-/

------------------------------------------------------------
-- Stacks and Targets
------------------------------------------------------------

namespace Scriptlet

/- The same calls, with other names for the callees. -/
def CallStack.rename
    (map : Name → Name)
    (stack : CallStack) :
    CallStack :=
  { stack with
    calls := stack.calls.map fun call =>
      { call with callee := map call.callee } }

namespace CallStack

theorem pop_rename
    (map : Name → Name)
    (stack : CallStack) :
    (stack.rename map).pop = stack.pop.rename map := by
  simp [rename, pop, List.map_tail]

/- A call fits one stack exactly if it fits the other. -/
theorem push_rename
    (map : Name → Name)
    (stack : CallStack)
    (callee : Name)
    (line : Line) :
    (stack.rename map).push
        { callee := map callee, line } =
      (stack.push { callee, line }).map (rename map) := by
  unfold push depth
  cases hLimit : stack.limit with
  | none =>
      simp only [rename, hLimit, List.map_cons, Except.map]
  | some limit =>
      simp only [rename, hLimit, List.length_map]
      split
      · rfl
      · simp only [List.map_cons, Except.map, rename]

/- Active calls are reported by the texts of names. -/
theorem backtrace_rename
    {base interner : Interner}
    (translation : Translation base interner)
    (stack : CallStack) :
    (stack.rename translation.rename).backtrace interner =
      stack.backtrace base := by
  simp only [rename, backtrace, List.map_map,
    Function.comp_def, translation.lookup]

end CallStack

/- The same target, with other names. -/
structure Target.Renamed
    (rename : Name → Name)
    (left right : Target) : Prop where
  name : right.name = rename left.name
  action : left.action.Renamed rename right.action

end Scriptlet

------------------------------------------------------------
-- Likeness
------------------------------------------------------------

namespace Scriptlet

/-
  How the names and the printers of two runs are related. A
  relation of printers has to survive that the same text is
  written to both.
-/
structure Likeness
    (left right : Context)
    extends
      Translation left.interner right.interner where
  this : right.this = rename left.this
  lambda : right.lambda = rename left.lambda
  printers : Printer → Printer → Prop
  write :
    ∀ {printer other : Printer} (text : String),
      printers printer other →
        printers (printer.write text).1
          (other.write text).1

namespace Likeness

variable {left right : Context}
variable (like : Likeness left right)

/- Machines that differ in their names and printers. -/
structure Alike (machine other : Machine) : Prop where
  heap : machine.heap.Renamed like.rename other.heap
  stack : other.stack = machine.stack.rename like.rename
  printer : like.printers machine.printer other.printer

/- Results with related answers, or for the same reason. -/
inductive Ended
    {E A B : Type}
    (related : A → B → Prop) :
    EStateM.Result E Machine A →
      EStateM.Result E Machine B → Prop where
  | ok
      {machine other : Machine}
      {answer : A}
      {otherAnswer : B}
      (hAlike : like.Alike machine other)
      (hRelated : related answer otherAnswer) :
      Ended related (.ok answer machine)
        (.ok otherAnswer other)
  | error
      {machine other : Machine}
      {reason : E}
      (hAlike : like.Alike machine other) :
      Ended related (.error reason machine)
        (.error reason other)

/- Computations that end alike on machines that are alike. -/
def Tracks
    {E A B : Type}
    (related : A → B → Prop)
    (first : RunM E A)
    (second : RunM E B) : Prop :=
  ∀ machine other,
    like.Alike machine other →
      like.Ended related (first machine) (second other)

/- Callers that run renamed targets alike. -/
def CallsTrack (call otherCall : Caller) : Prop :=
  ∀ target other receiver args line,
    target.Renamed like.rename other →
      like.Tracks Eq (call target receiver args line)
        (otherCall other receiver args line)

end Likeness

end Scriptlet

------------------------------------------------------------
-- Sequences and Single Steps
------------------------------------------------------------

namespace Scriptlet

namespace Likeness

variable {left right : Context}
variable {like : Likeness left right}
variable {E F A B C D : Type}
variable {related : A → B → Prop}
variable {further : C → D → Prop}

namespace Tracks

theorem pure
    {answer : A}
    {other : B}
    (hRelated : related answer other) :
    like.Tracks related (pure answer : RunM E A)
      (pure other) :=
  fun _ _ hAlike => .ok hAlike hRelated

theorem throw (reason : E) :
    like.Tracks related (throw reason : RunM E A)
      (throw reason) :=
  fun _ _ hAlike => .error hAlike

theorem bind
    {first : RunM E A}
    {second : RunM E B}
    {firstRest : A → RunM E C}
    {secondRest : B → RunM E D}
    (hFirst : like.Tracks related first second)
    (hRest :
      ∀ answer other,
        related answer other →
          like.Tracks further (firstRest answer)
            (secondRest other)) :
    like.Tracks further (first >>= firstRest)
      (second >>= secondRest) := by
  intro machine other hAlike
  have hEnded := hFirst machine other hAlike
  rw [RunM.bind_apply, RunM.bind_apply]
  generalize first machine = result at hEnded
  generalize second other = otherResult at hEnded
  cases hEnded with
  | ok hNext hRelated =>
      exact hRest _ _ hRelated _ _ hNext
  | error hNext => exact .error hNext

/- Sequences whose first parts give the same answer. -/
theorem bind_eq
    {first second : RunM E A}
    {firstRest : A → RunM E C}
    {secondRest : A → RunM E D}
    (hFirst : like.Tracks Eq first second)
    (hRest :
      ∀ answer,
        like.Tracks further (firstRest answer)
          (secondRest answer)) :
    like.Tracks further (first >>= firstRest)
      (second >>= secondRest) := by
  refine hFirst.bind fun answer other hSame => ?_
  subst hSame
  exact hRest answer

/- Halting for another reason goes unnoticed on both. -/
theorem adaptExcept
    {first : RunM E A}
    {second : RunM E B}
    (adapt : E → F)
    (hTracks : like.Tracks related first second) :
    like.Tracks related
      (EStateM.adaptExcept adapt first)
      (EStateM.adaptExcept adapt second) := by
  intro machine other hAlike
  have hEnded := hTracks machine other hAlike
  rw [RunM.adaptExcept_apply, RunM.adaptExcept_apply]
  generalize first machine = result at hEnded
  generalize second other = otherResult at hEnded
  cases hEnded with
  | ok hNext hRelated => exact .ok hNext hRelated
  | error hNext => exact .error hNext

theorem askHeap
    {question : Heap → A}
    {otherQuestion : Heap → B}
    (hAnswer :
      ∀ heap other,
        heap.Renamed like.rename other →
          related (question heap) (otherQuestion other)) :
    like.Tracks related
      (Machine.askHeap question : RunM E A)
      (Machine.askHeap otherQuestion) :=
  fun _ _ hAlike => .ok hAlike (hAnswer _ _ hAlike.heap)

theorem onHeap
    {change : Heap → A × Heap}
    {otherChange : Heap → B × Heap}
    (hChange :
      ∀ heap other,
        heap.Renamed like.rename other →
          (change heap).2.Renamed like.rename
              (otherChange other).2 ∧
            related (change heap).1
              (otherChange other).1) :
    like.Tracks related
      (Machine.onHeap change : RunM E A)
      (Machine.onHeap otherChange) := by
  intro machine other hAlike
  rcases hChange _ _ hAlike.heap with ⟨hHeap, hRelated⟩
  exact .ok ⟨hHeap, hAlike.stack, hAlike.printer⟩ hRelated

theorem define
    (id : ObjectId)
    (name : Name)
    (value : Value) :
    like.Tracks Eq
      (Machine.define id name value : RunM E Unit)
      (Machine.define id (like.rename name) value) :=
  .onHeap fun _ _ hHeap =>
    ⟨hHeap.define like.injective id name value, rfl⟩

theorem printed (value : Value) :
    like.Tracks Eq
      (Machine.printed left.interner value : RunM E String)
      (Machine.printed right.interner value) :=
  .askHeap fun _ _ hHeap =>
    (hHeap.printed_eq like.toTranslation value).symm

theorem note (event other : Event) :
    like.Tracks Eq (Machine.note event : RunM E Unit)
      (Machine.note other) :=
  fun _ _ hAlike =>
    .ok ⟨hAlike.heap, hAlike.stack, hAlike.printer⟩ rfl

theorem print (text : String) :
    like.Tracks Eq (Machine.print text : RunM E Unit)
      (Machine.print text) := by
  intro machine other hAlike
  rw [Machine.print_apply, Machine.print_apply]
  exact .ok
    ⟨hAlike.heap, hAlike.stack,
      like.write text hAlike.printer⟩ rfl

end Tracks

end Likeness

end Scriptlet

------------------------------------------------------------
-- Checks and Bindings
------------------------------------------------------------

namespace Scriptlet

namespace Likeness

namespace Tracks

variable {left right : Context}
variable {like : Likeness left right}

theorem expectFunction
    (value : Value)
    (line : Line) :
    like.Tracks Eq
      (EvalM.expectFunction left.interner value line)
      (EvalM.expectFunction right.interner value line) := by
  cases value with
  | function id => exact .pure rfl
  | _ =>
      refine (Tracks.printed _).bind_eq fun text => ?_
      exact .throw _

theorem expectObject
    (value : Value)
    (line : Line) :
    like.Tracks Eq
      (EvalM.expectObject left.interner value line)
      (EvalM.expectObject right.interner value line) := by
  cases value with
  | object id => exact .pure rfl
  | _ =>
      refine (Tracks.printed _).bind_eq fun text => ?_
      exact .throw _

theorem own?
    (object : ObjectId)
    (name : Name) :
    like.Tracks Eq
      (Machine.askHeap fun heap =>
        heap.own? object name : EvalM (Option Value))
      (Machine.askHeap fun heap =>
        heap.own? object (like.rename name)) :=
  .askHeap fun _ _ hHeap => (hHeap.own?_eq object name).symm

theorem bindLocal
    (scope : ObjectId)
    (declares : Bool)
    (name : Name)
    (value : Value)
    (line : Line) :
    like.Tracks Eq
      (EvalM.bindLocal left.interner scope declares name
        value line)
      (EvalM.bindLocal right.interner scope declares
        (like.rename name) value line) := by
  have hVisible :
      like.Tracks Eq
        (Machine.askHeap fun heap =>
          heap.inScope scope name : EvalM Bool)
        (Machine.askHeap fun heap =>
          heap.inScope scope (like.rename name)) :=
    .askHeap fun _ _ hHeap =>
      (hHeap.inScope_eq scope name).symm
  refine hVisible.bind_eq fun visible => ?_
  split
  · rw [like.lookup]
    exact .throw _
  · refine (Tracks.define scope name value).bind_eq
      fun _ => ?_
    exact .pure rfl

/- A literal becomes the same function, but for its names. -/
theorem makeFunction
    (scope : ObjectId)
    (code : Code Unit) :
    like.Tracks Eq
      (EvalM.makeFunction left .plain scope code)
      (EvalM.makeFunction right .plain scope
        (code.rename like.rename)) := by
  rcases code with ⟨name, params, body, writtenAt⟩
  have hName :
      (name.map like.rename).getD right.lambda =
        like.rename (name.getD left.lambda) := by
    rw [like.lambda]
    cases name <;> rfl
  have hMade :
      like.Tracks Eq
        (Machine.onHeap fun heap => heap.newFunction
          { name := name.getD left.lambda
            arity := .fixed params.length
            action := .walked
              { name, params, body, writtenAt } scope } :
          EvalM FunctionId)
        (Machine.onHeap fun heap => heap.newFunction
          { name :=
              (name.map like.rename).getD right.lambda
            arity :=
              .fixed (params.map like.rename).length
            action := .walked
              (Code.rename like.rename
                { name, params, body, writtenAt })
              scope }) := by
    refine .onHeap fun heap other hHeap => ?_
    refine ⟨hHeap.newFunction ⟨hName, ?_, ?_⟩, ?_⟩
    · simp only [List.length_map]
    · exact .walked _ scope
    · exact congrArg FunctionId.mk hHeap.sizeFunctions.symm
  refine hMade.bind_eq fun id => ?_
  cases name with
  | none => exact .pure rfl
  | some name =>
      refine (Tracks.define scope name _).bind_eq
        fun _ => ?_
      exact .pure rfl

/- Resolving a callee gives targets with other names. -/
theorem resolve
    (callee : FunctionId)
    (argc : Nat)
    (line : Line) :
    like.Tracks (Target.Renamed like.rename)
      (Scriptlet.resolve left.interner callee argc line)
      (Scriptlet.resolve right.interner callee argc
        line) := by
  intro machine other hAlike
  have hFunction := hAlike.heap.functions callee
  rw [resolve_apply, resolve_apply]
  unfold Heap.check
  rw [hAlike.heap.printed_eq like.toTranslation]
  generalize machine.heap.function? callee = leftFunction
    at hFunction
  generalize other.heap.function? callee = rightFunction
    at hFunction
  cases hFunction with
  | none => exact .error hAlike
  | @some function renamed hFunction =>
      have hTarget :
          (Target.of function).Renamed like.rename
            (.of renamed) :=
        ⟨hFunction.name, hFunction.action⟩
      simp only [hFunction.arity, hFunction.name,
        like.lookup]
      cases function.arity with
      | variadic => exact .ok hAlike hTarget
      | fixed expected =>
          by_cases hCount : expected = argc
          · simp only [hCount, if_true]
            exact .ok hAlike hTarget
          · simp only [hCount, if_false]
            exact .error hAlike

end Tracks

end Likeness

end Scriptlet
