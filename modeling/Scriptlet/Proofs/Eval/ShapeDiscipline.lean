import Scriptlet.Proofs.Eval.DisciplinedCall
import Scriptlet.Proofs.Heap.Shape
import Scriptlet.Proofs.Machine.Sound

/-
  Programs keep the shape of the heap.

  While a program runs, the heap stays in shape, and what
  existed at some point in the past is retained: frames are
  never bound anew from then on, those excepted that the
  program is exposed to, and if fields are not assigned then
  no object is changed at all. A program can do no harm to
  other frames, because it binds variables only in frames
  that it made since, and because these other frames are no
  values that it could write to.

  Key definitions include:
    * `Heap.Retains`
    * `Shape`
    * `Machine.Shaped`
    * `Discipline.shaped`

  Key theorems include:
    * `Discipline.lawful_shaped`
-/

------------------------------------------------------------
-- Retained Objects
------------------------------------------------------------

namespace Scriptlet

/-
  A heap that still has what another one had: all frames but
  the exposed ones, and all objects if it is quiet.
-/
structure Heap.Retains
    (exposed : ObjectId → Prop)
    (quiet : Prop)
    (base heap : Heap) : Prop where
  size : base.objects.size ≤ heap.objects.size
  frames :
    ∀ id object,
      base.object? id = some object →
        object.role = .scope → ¬ exposed id →
          heap.object? id = some object
  objects :
    quiet →
      ∀ id object,
        base.object? id = some object →
          heap.object? id = some object

namespace Heap.Retains

variable {exposed : ObjectId → Prop}
variable {quiet : Prop}
variable {base heap : Heap}

theorem refl
    (exposed : ObjectId → Prop)
    (quiet : Prop)
    (heap : Heap) :
    heap.Retains exposed quiet heap :=
  ⟨Nat.le_refl _, fun _ _ hObject _ _ => hObject,
    fun _ _ _ hObject => hObject⟩

/- There is nothing to retain of the empty heap. -/
theorem of_empty
    (exposed : ObjectId → Prop)
    (quiet : Prop)
    (heap : Heap) :
    empty.Retains exposed quiet heap := by
  have hNone (id : ObjectId) : empty.object? id = none := by
    simp [empty, object?]
  constructor
  · exact Nat.zero_le _
  · intro id object hObject
    rw [hNone] at hObject
    cases hObject
  · intro _ id object hObject
    rw [hNone] at hObject
    cases hObject

/- An object that is changed is none that is retained. -/
theorem define
    (hRetains : base.Retains exposed quiet heap)
    {id : ObjectId}
    (hFrames :
      ∀ object,
        base.object? id = some object →
          object.role = .scope → exposed id)
    (hObjects : quiet → base.object? id = none)
    (name : Name)
    (value : Value) :
    base.Retains exposed quiet
      (heap.define id name value) := by
  have hOther
      {other : ObjectId}
      {object : Object}
      (hNe : other ≠ id)
      (hObject : heap.object? other = some object) :
      (heap.define id name value).object? other =
        some object := by
    have hIndex : id.index ≠ other.index := by
      intro hSame
      exact hNe (congrArg ObjectId.mk hSame.symm)
    rw [object?_define, if_neg hIndex]
    exact hObject
  constructor
  · rw [size_objects_define]
    exact hRetains.size
  · intro other object hObject hRole hHidden
    refine hOther ?_
      (hRetains.frames other object hObject hRole hHidden)
    rintro rfl
    exact hHidden (hFrames object hObject hRole)
  · intro hQuiet other object hObject
    refine hOther ?_
      (hRetains.objects hQuiet other object hObject)
    rintro rfl
    rw [hObjects hQuiet] at hObject
    cases hObject

/- A younger object is none that is retained. -/
theorem define_young
    (hRetains : base.Retains exposed quiet heap)
    {id : ObjectId}
    (hYoung : base.objects.size ≤ id.index)
    (name : Name)
    (value : Value) :
    base.Retains exposed quiet
      (heap.define id name value) := by
  have hNone : base.object? id = none :=
    Array.getElem?_eq_none hYoung
  apply hRetains.define
  · intro object hObject
    rw [hNone] at hObject
    cases hObject
  · exact fun _ => hNone

/- Nor is a new one. -/
theorem newObject
    (hRetains : base.Retains exposed quiet heap)
    (role : Role)
    (parent : Option ObjectId) :
    base.Retains exposed quiet
      (heap.newObject role parent).2 := by
  have hKept
      {id : ObjectId}
      {object : Object}
      (hObject : heap.object? id = some object) :
      (heap.newObject role parent).2.object? id =
        some object := by
    have hBound := (Array.getElem?_eq_some_iff.mp hObject).1
    rw [object?_newObject, if_neg (Nat.ne_of_lt hBound)]
    exact hObject
  constructor
  · rw [size_objects_newObject]
    exact Nat.le_succ_of_le hRetains.size
  · intro id object hObject hRole hHidden
    exact hKept
      (hRetains.frames id object hObject hRole hHidden)
  · intro hQuiet id object hObject
    exact hKept (hRetains.objects hQuiet id object hObject)

end Heap.Retains

end Scriptlet

------------------------------------------------------------
-- Shaped Machines
------------------------------------------------------------

namespace Scriptlet

/- Whether a field is assigned in the code of an action. -/
def Action.assignsField : Action → Bool
  | .primitive _ => false
  | .walked code _ => Expr.anyAssignsField code.body
  | .linked code _ => Expr.anyAssignsField code.body

/-
  What machines have in common during a run: how many
  arguments the sites are for, the global frame, the objects
  that programs are exposed to besides records, whether the
  code is known to assign no fields, and what is retained.
-/
structure Shape where
  argcs : Array Nat
  global : ObjectId
  exposed : ObjectId → Prop
  quiet : Prop
  base : Heap

/- What programs keep of a machine. -/
structure Machine.Shaped
    (shape : Shape)
    (machine : Machine) : Prop where
  sound : machine.Sound shape.argcs
  heap : machine.heap.Shaped shape.exposed shape.global
  quiet :
    shape.quiet →
      ∀ id function,
        machine.heap.function? id = some function →
          function.action.assignsField = false
  retains :
    shape.base.Retains shape.exposed shape.quiet
      machine.heap

/- A target that may be called on a machine. -/
structure Target.Shaped
    (shape : Shape)
    (machine : Machine)
    (target : Target) : Prop where
  builtIn :
    ∀ host, target.action ≠ .primitive (.host host)
  scope :
    ∀ scope,
      target.action.scope? = some scope →
        machine.heap.isScope scope = true
  served :
    ∀ code scope,
      target.action = .linked code scope →
        Expr.EveryCallAll (Serves shape.argcs) code.body
  quiet :
    shape.quiet → target.action.assignsField = false

namespace Machine.Shaped

variable {shape : Shape}
variable {machine next : Machine}

/- A sound machine with the same heap. -/
theorem of_sound
    (hShaped : machine.Shaped shape)
    (hSound : next.Sound shape.argcs)
    (hHeap : next.heap = machine.heap) :
    next.Shaped shape := by
  refine ⟨hSound, ?_, ?_, ?_⟩
  · rw [hHeap]
    exact hShaped.heap
  · rw [hHeap]
    exact hShaped.quiet
  · rw [hHeap]
    exact hShaped.retains

/- Heap and sites are what matters. -/
theorem congr
    (hShaped : machine.Shaped shape)
    (hHeap : next.heap = machine.heap)
    (hSites : next.sites = machine.sites) :
    next.Shaped shape :=
  hShaped.of_sound (hShaped.sound.congr hHeap hSites) hHeap

/- A function of the heap may be called. -/
theorem target
    (hShaped : machine.Shaped shape)
    {id : FunctionId}
    {function : Function}
    (hFunction :
      machine.heap.function? id = some function) :
    (Target.of function).Shaped shape machine := by
  have hSound :=
    hShaped.sound.functions id function hFunction
  unfold Function.Sound at hSound
  constructor
  · intro host hAction
    have hHost : function.action = .primitive (.host host) :=
      hAction
    rw [hHost] at hSound
    exact hSound
  · intro scope hScope
    exact hShaped.heap.functions id function scope hFunction
      hScope
  · intro code scope hAction
    have hLinked : function.action = .linked code scope :=
      hAction
    rw [hLinked] at hSound
    exact hSound.2.2
  · intro hQuiet
    exact hShaped.quiet hQuiet id function hFunction

/- Binding a name in an object that is not retained. -/
theorem define
    (hShaped : machine.Shaped shape)
    {id : ObjectId}
    {value : Value}
    (name : Name)
    (hValue : machine.heap.Allows shape.exposed value)
    (hRetains :
      shape.base.Retains shape.exposed shape.quiet
        (machine.heap.define id name value)) :
    Shaped shape
      { machine with
        heap := machine.heap.define id name value } where
  sound := hShaped.sound.define id name value
  heap := hShaped.heap.define id name hValue
  quiet := hShaped.quiet
  retains := hRetains

/- Adding a record, or a frame under a frame. -/
theorem newObject
    (hShaped : machine.Shaped shape)
    (role : Role)
    {parent : Option ObjectId}
    (hParent :
      match role with
      | .record => parent = none
      | .scope =>
          ∃ scope,
            parent = some scope ∧
              machine.heap.isScope scope = true) :
    Shaped shape
      { machine with
        heap := (machine.heap.newObject role parent).2 } := by
  have hBound :
      ∀ id ∈ parent,
        id.index < machine.heap.objects.size := by
    cases role with
    | record => simp [hParent]
    | scope =>
        rcases hParent with ⟨scope, rfl, hScope⟩
        simpa using Heap.lt_of_isScope hScope
  exact
    { sound := hShaped.sound.newObject role hBound
      heap := hShaped.heap.newObject role hParent
      quiet := hShaped.quiet
      retains := hShaped.retains.newObject role parent }

/- Adding a function that runs in a frame. -/
theorem newFunction
    (hShaped : machine.Shaped shape)
    {function : Function}
    (hSound :
      function.Sound shape.argcs
        machine.heap.objects.size)
    (hScope :
      ∀ scope,
        function.action.scope? = some scope →
          machine.heap.isScope scope = true)
    (hQuiet :
      shape.quiet → function.action.assignsField = false) :
    Shaped shape
      { machine with
        heap := (machine.heap.newFunction function).2 } where
  sound := hShaped.sound.newFunction hSound
  heap := hShaped.heap.newFunction hScope
  quiet := by
    intro hStill id other hOther
    rcases Heap.eq_or_function?_of_newFunction hOther with
      rfl | hOld
    · exact hQuiet hStill
    · exact hShaped.quiet hStill id other hOld
  retains :=
    ⟨hShaped.retains.size, hShaped.retains.frames,
      hShaped.retains.objects⟩

end Machine.Shaped

end Scriptlet

------------------------------------------------------------
-- The Discipline
------------------------------------------------------------

namespace Scriptlet

namespace Discipline

/- Calls have sites that serve them, and code is quiet. -/
structure Proper
    {S : Type}
    (serves : S → Nat → Prop)
    (quiet : Prop)
    (expr : Expr S) : Prop where
  served : expr.EveryCall serves
  quiet : quiet → expr.assignsField = false

/-
  The heap stays in shape. Variables are bound in frames,
  and fields in records, that are younger than what is to be
  retained.
-/
def shaped (shape : Shape) : Discipline where
  Level := Unit
  valid _ machine := machine.Shaped shape
  frame machine id :=
    machine.heap.isScope id = true ∧
      shape.base.objects.size ≤ id.index
  fills machine id :=
    machine.heap.isRecord id = true ∧
      shape.base.objects.size ≤ id.index
  holds machine value :=
    machine.heap.Allows shape.exposed value
  ready _ machine _ target := target.Shaped shape machine
  walks _ := Proper (fun _ _ => True) shape.quiet
  executes _ := Proper (Serves shape.argcs) shape.quiet
  may _ _ := True
  returns _ _ := True

variable {shape : Shape}
variable {context : Context}

/- A body is proper if all of it is. -/
theorem proper_body
    {S : Type}
    {serves : S → Nat → Prop}
    {body : List (Expr S)}
    {quiet : Prop}
    (hServed : Expr.EveryCallAll serves body)
    (hQuiet : quiet → Expr.anyAssignsField body = false) :
    ∀ expr ∈ body, Proper serves quiet expr := by
  intro expr hExpr
  constructor
  · exact (Expr.everyCallAll_iff body).mp hServed expr hExpr
  · intro hStill
    have hNone := hQuiet hStill
    rw [Expr.anyAssignsField_eq, List.any_eq_false] at hNone
    simpa using hNone expr hExpr

/- What an engine decides about a callee may be called. -/
theorem ends_decided
    {machine : Machine}
    (hShaped : machine.Shaped shape)
    {callee : FunctionId}
    {argc : Nat}
    {line : Line}
    {result : EStateM.Result Halt Machine Target}
    (hDecides :
      machine.Decides shape.argcs
        (machine.heap.check context.interner callee argc
          line)
        result) :
    (shaped shape).Ends ()
      (fun next target => target.Shaped shape next)
      (Signal.liftResult result) := by
  rcases hDecides with
    ⟨next, hSound, hHeap, _, _, hResult⟩
  have hNext := hShaped.of_sound hSound hHeap
  rw [hResult]
  cases hCheck :
      machine.heap.check context.interner callee argc
        line with
  | error reason => exact .halt hNext trivial
  | ok target =>
      rcases (Heap.check_eq_ok_iff target).mp hCheck with
        ⟨function, hFunction, _, rfl⟩
      rw [← hHeap] at hFunction
      exact .ok hNext (hNext.target hFunction)

/-
  Engines that make functions which run in their scope, and
  that decide about callees as the check does.
-/
theorem governs_shaped
    {S : Type}
    {engine : Engine S}
    {serves : S → Nat → Prop}
    (hSteps : engine.Stepwise)
    (hClose :
      ∀ code scope,
        (engine.close code scope).scope? = some scope ∧
          (engine.close code scope).assignsField =
            Expr.anyAssignsField code.body)
    (hSound :
      ∀ name code scope objects,
        scope.index < objects →
          Expr.EveryCallAll serves code.body →
            Function.Sound shape.argcs objects
              { name
                arity := .fixed code.params.length
                action := engine.close code scope })
    (hDecides :
      ∀ {machine : Machine} {site : S} {argc : Nat}
        (callee : FunctionId) (line : Line),
        machine.Sound shape.argcs → serves site argc →
          machine.Decides shape.argcs
            (machine.heap.check context.interner callee argc
              line)
            (engine.resolve context.interner site callee
              argc line machine)) :
    (shaped shape).Governs context () engine
      (Proper serves shape.quiet) where
  stepwise := hSteps
  parts := by
    intro expr part hExpr hPart
    refine ⟨hExpr.served.parts hPart, fun hQuiet => ?_⟩
    cases hAssigns : part.assignsField with
    | false => rfl
    | true =>
        have hWhole := Expr.assignsField_of_mem_parts hPart
          hAssigns
        rw [hExpr.quiet hQuiet] at hWhole
        cases hWhole
  fails _ _ := trivial
  returns _ := trivial
  write := by
    intro machine line receiver value name id result hExpr
      hShaped hObject hResult
    refine hShaped.define name hResult ?_
    apply hShaped.retains.define
    · -- A record that is written to was no frame before.
      intro object hOld hRole
      by_cases hExposed : shape.exposed id
      · exact hExposed
      · rcases hObject id rfl with hSame | hRecord
        · exact hSame
        · have hStill := hShaped.retains.frames id object
            hOld hRole hExposed
          rw [Heap.isRecord_eq_false_of_isScope
            (Heap.isScope_iff.mpr ⟨object, hStill, hRole⟩)]
            at hRecord
          cases hRecord
    · intro hQuiet
      cases hExpr.quiet hQuiet
  close := by
    intro machine line writtenAt name params body scope
      hExpr hShaped hFrame
    have hMade := hClose
      { name, params, body, writtenAt } scope
    refine hShaped.newFunction ?_ ?_ ?_
    · exact hSound _
        { name, params, body, writtenAt } scope _
        (Heap.lt_of_isScope hFrame.1) hExpr.served
    · intro other hOther
      rw [hMade.1] at hOther
      cases hOther
      exact hFrame.1
    · intro hQuiet
      exact hMade.2.trans (hExpr.quiet hQuiet)
  resolve := by
    intro machine expr site argc callee hExpr hSite hShaped
    rw [Signal.lift_apply]
    exact ends_decided hShaped
      (hDecides callee expr.line hShaped.sound
        (hExpr.served.site hSite))

/- The code of a call is entered on the same level. -/
theorem enters_shaped
    {machine : Machine}
    (hShaped : machine.Shaped shape)
    (stack : CallStack) :
    (shaped shape).Enters context () () machine stack :=
  ⟨hShaped.congr rfl rfl, fun hNext => hNext.congr rfl rfl,
    fun _ _ => trivial⟩

/- Programs keep the shape of the heap. -/
theorem lawful_shaped
    (shape : Shape)
    (context : Context) :
    (shaped shape).Lawful context := by
  constructor
  case frame_mono =>
      intro before after scope hEvolves hFrame
      exact ⟨hEvolves.keeps.isScope hFrame.1, hFrame.2⟩
  case fills_mono =>
      intro before after record hEvolves hFills
      exact ⟨hEvolves.keeps.isRecord hFills.1, hFills.2⟩
  case holds_mono =>
      intro before after value hEvolves hHolds
      exact hEvolves.keeps.allows hHolds
  case ready_mono =>
      intro level before after line target hEvolves hReady
      refine ⟨hReady.builtIn, ?_, hReady.served,
        hReady.quiet⟩
      intro scope hScope
      exact hEvolves.keeps.isScope
        (hReady.scope scope hScope)
  case congr =>
      intro level machine next hShaped hHeap hSites _
      exact hShaped.congr hHeap hSites
  case atom =>
      intro machine value hAtom id hId
      rw [hAtom] at hId
      cases hId
  case lookup =>
      intro level machine scope name hShaped _
      exact hShaped.heap.allows_lookup scope name
  case own =>
      intro level machine id name hShaped _
      exact hShaped.heap.allows_own id name
  case define =>
      intro level machine id value name hShaped hYoung
        hValue
      refine hShaped.define name hValue ?_
      rcases hYoung with hFrame | hFills
      · exact hShaped.retains.define_young hFrame.2 name
          value
      · exact hShaped.retains.define_young hFills.2 name
          value
  case newRecord =>
      intro level machine hShaped
      have hRecord :
          machine.heap.newRecord.2.isRecord
            ⟨machine.heap.objects.size⟩ = true :=
        Heap.isRecord_iff.mpr
          ⟨_, machine.heap.object?_youngest .record none,
            rfl⟩
      refine ⟨hShaped.newObject .record rfl,
        ⟨hRecord, hShaped.retains.size⟩, ?_⟩
      intro id hId
      cases hId
      exact .inr hRecord
  case newScope =>
      intro level machine line target scope hShaped hReady
        hScope
      have hFrame :
          (machine.heap.newScope (some scope)).2.isScope
            ⟨machine.heap.objects.size⟩ = true :=
        Heap.isScope_iff.mpr
          ⟨_, machine.heap.object?_youngest .scope _, rfl⟩
      exact ⟨hShaped.newObject .scope
        ⟨scope, rfl, hReady.scope scope hScope⟩, hFrame,
        hShaped.retains.size⟩
  case walking =>
      intro level
      exact governs_shaped Engine.stepwise_plain
        (fun _ _ => ⟨rfl, rfl⟩)
        (fun _ _ _ _ hScope _ => ⟨rfl, hScope⟩)
        (fun callee line hSound _ =>
          hSound.resolve _ callee _ line)
  case executing =>
      intro level
      exact governs_shaped Engine.stepwise_caching
        (fun _ _ => ⟨rfl, rfl⟩)
        (fun _ _ _ _ hScope hServed =>
          ⟨rfl, hScope, hServed⟩)
        (fun callee line hSound hServes =>
          hSound.resolveCached hServes _ callee line)
  case raises => exact fun _ _ => trivial
  case host =>
      intro level machine line target function receiver args
        inner _ hReady hAction _ _
      exact absurd hAction (hReady.builtIn function)
  case exhausted => exact fun _ => trivial
  case full => exact fun _ _ _ => trivial
  case enterWalked =>
      intro level machine line target code scope stack
        hShaped hReady hAction _
      refine ⟨(), enters_shaped hShaped stack,
        proper_body
          (Expr.everyCallAll_of_forall
            (fun _ _ => trivial) code.body) ?_⟩
      intro hQuiet
      have hNone := hReady.quiet hQuiet
      rw [hAction] at hNone
      exact hNone
  case enterLinked =>
      intro level machine line target code scope stack
        hShaped hReady hAction _
      refine ⟨(), enters_shaped hShaped stack,
        proper_body (hReady.served code scope hAction) ?_⟩
      intro hQuiet
      have hNone := hReady.quiet hQuiet
      rw [hAction] at hNone
      exact hNone

end Discipline

end Scriptlet
