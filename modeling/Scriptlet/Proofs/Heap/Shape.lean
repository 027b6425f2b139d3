import Scriptlet.Proofs.Eval.Simulation
import Scriptlet.Proofs.Heap.Layered

/-
  The shape of a heap.

  Frames and records are objects of one kind, and functions
  and values point to either. In a heap of the right shape
  they are nevertheless kept apart: a record has no parent,
  the frames are chained up to the global one, functions run
  in frames, and of all frames only the global one is ever a
  value.

  Key definitions include:
    * `Heap.isScope`
    * `Heap.Allows`
    * `Heap.Admits`
    * `Heap.Shaped`
    * `Heap.WellFormed`

  Key theorems include:
    * `Machine.Evolves.keeps`
    * `Heap.Shaped.define`
    * `Heap.Shaped.newObject`
    * `Heap.Shaped.newFunction`
    * `Heap.Shaped.wellFormed`
-/

------------------------------------------------------------
-- Bindings
------------------------------------------------------------

namespace Scriptlet

namespace OrderedMap

variable {K V : Type} [Ord K]
variable {map : OrderedMap K V}

/- What a key is bound to is one of the bindings. -/
theorem exists_mem_of_get?
    {key : K}
    {value : V}
    (hGet : map.get? key = some value) :
    ∃ other, (other, value) ∈ map.toList := by
  rcases Option.bind_eq_some_iff.mp hGet with
    ⟨position, _, hSlot⟩
  rcases Option.map_eq_some_iff.mp hSlot with
    ⟨binding, hBinding, rfl⟩
  have hMem := Array.mem_of_getElem? hBinding
  exact ⟨binding.1, Array.mem_toList_iff.mpr hMem⟩

/- Binding a key adds no other binding. -/
theorem mem_of_mem_set
    {key : K}
    {value : V}
    {binding : K × V}
    (hMem : binding ∈ (map.set key value).toList) :
    binding ∈ map.toList ∨ binding = (key, value) := by
  unfold set at hMem
  simp only [toList] at *
  split at hMem
  · have hSlot := Array.mem_toList_iff.mp hMem
    rcases Array.mem_or_eq_of_mem_setIfInBounds hSlot with
      hOld | hNew
    · exact .inl (Array.mem_toList_iff.mpr hOld)
    · exact .inr hNew
  · have hSlot := Array.mem_toList_iff.mp hMem
    rcases Array.mem_push.mp hSlot with hOld | hNew
    · exact .inl (Array.mem_toList_iff.mpr hOld)
    · exact .inr hNew

end OrderedMap

end Scriptlet

------------------------------------------------------------
-- What Objects Are
------------------------------------------------------------

namespace Scriptlet

namespace Heap

/- Whether an object is a scope frame. -/
def isScope
    (heap : Heap)
    (id : ObjectId) :
    Bool :=
  match heap.object? id with
  | some object => object.role == .scope
  | none => false

/-
  Whether a value may occur where programs are exposed to
  certain objects: if it is an object then a record, or one
  of these.
-/
def Allows
    (heap : Heap)
    (exposed : ObjectId → Prop)
    (value : Value) : Prop :=
  ∀ id,
    value.object? = some id →
      exposed id ∨ heap.isRecord id = true

/-
  Whether a value may occur in a program: if it is an object
  then a record, or the global frame.
-/
def Admits
    (heap : Heap)
    (global : ObjectId)
    (value : Value) : Prop :=
  heap.Allows (fun id => id = global) value

/- A heap in which every object is what it was before. -/
def Keeps (before after : Heap) : Prop :=
  ∀ id object,
    before.object? id = some object →
      ∃ bindings,
        after.object? id = some { object with bindings }

theorem isScope_iff
    {heap : Heap}
    {id : ObjectId} :
    heap.isScope id = true ↔
      ∃ object,
        heap.object? id = some object ∧
          object.role = .scope := by
  unfold isScope
  cases heap.object? id with
  | none => simp
  | some object => simp

theorem isRecord_iff
    {heap : Heap}
    {id : ObjectId} :
    heap.isRecord id = true ↔
      ∃ object,
        heap.object? id = some object ∧
          object.role = .record := by
  unfold isRecord
  cases heap.object? id with
  | none => simp
  | some object => simp

/- No object is both. -/
theorem isRecord_eq_false_of_isScope
    {heap : Heap}
    {id : ObjectId}
    (hScope : heap.isScope id = true) :
    heap.isRecord id = false := by
  rcases isScope_iff.mp hScope with ⟨object, hObject, hRole⟩
  simp [isRecord, hObject, hRole]

/- There is an object where there is a frame. -/
theorem lt_of_isScope
    {heap : Heap}
    {id : ObjectId}
    (hScope : heap.isScope id = true) :
    id.index < heap.objects.size := by
  rcases isScope_iff.mp hScope with ⟨object, hObject, _⟩
  exact (Array.getElem?_eq_some_iff.mp hObject).1

namespace Keeps

variable {first second third : Heap}

theorem refl (heap : Heap) : heap.Keeps heap := by
  intro id object hObject
  exact ⟨object.bindings, hObject⟩

theorem trans
    (hFirst : first.Keeps second)
    (hSecond : second.Keeps third) :
    first.Keeps third := by
  intro id object hObject
  rcases hFirst id object hObject with ⟨bindings, hNext⟩
  rcases hSecond id _ hNext with ⟨others, hLast⟩
  exact ⟨others, hLast⟩

/- A frame stays a frame. -/
theorem isScope
    (hKeeps : first.Keeps second)
    {id : ObjectId}
    (hScope : first.isScope id = true) :
    second.isScope id = true := by
  rcases isScope_iff.mp hScope with ⟨object, hObject, hRole⟩
  rcases hKeeps id object hObject with ⟨bindings, hNext⟩
  exact isScope_iff.mpr ⟨_, hNext, hRole⟩

/- A record stays a record. -/
theorem isRecord
    (hKeeps : first.Keeps second)
    {id : ObjectId}
    (hRecord : first.isRecord id = true) :
    second.isRecord id = true := by
  rcases isRecord_iff.mp hRecord with
    ⟨object, hObject, hRole⟩
  rcases hKeeps id object hObject with ⟨bindings, hNext⟩
  exact isRecord_iff.mpr ⟨_, hNext, hRole⟩

/- A value that may occur may occur later on. -/
theorem allows
    (hKeeps : first.Keeps second)
    {exposed : ObjectId → Prop}
    {value : Value}
    (hAllows : first.Allows exposed value) :
    second.Allows exposed value := by
  intro id hId
  rcases hAllows id hId with hExposed | hRecord
  · exact .inl hExposed
  · exact .inr (hKeeps.isRecord hRecord)

end Keeps

variable (heap : Heap)

/- Binding a name changes no object but its bindings. -/
theorem keeps_define
    (id : ObjectId)
    (name : Name)
    (value : Value) :
    heap.Keeps (heap.define id name value) := by
  intro other object hObject
  rw [object?_define]
  by_cases hSame : id.index = other.index
  · rw [if_pos hSame, hObject]
    exact ⟨_, rfl⟩
  · rw [if_neg hSame]
    exact ⟨object.bindings, hObject⟩

/- A new object takes the place of no other. -/
theorem keeps_newObject
    (role : Role)
    (parent : Option ObjectId) :
    heap.Keeps (heap.newObject role parent).2 := by
  intro other object hObject
  have hBound := (Array.getElem?_eq_some_iff.mp hObject).1
  rw [object?_newObject, if_neg (Nat.ne_of_lt hBound)]
  exact ⟨object.bindings, hObject⟩

/- The youngest object is what it was made as. -/
theorem object?_youngest
    (role : Role)
    (parent : Option ObjectId) :
    (heap.newObject role parent).2.object?
        ⟨heap.objects.size⟩ =
      some { role, parent, bindings := .empty } := by
  rw [object?_newObject, if_pos rfl]

end Heap

namespace Machine

variable {before after : Machine}

/- Objects keep their role and their parent. -/
theorem Step.keeps
    (hStep : before.Step after) :
    before.heap.Keeps after.heap := by
  cases hStep with
  | define id name value =>
      exact before.heap.keeps_define id name value
  | newObject role parent =>
      exact before.heap.keeps_newObject role parent
  | newFunction function => exact .refl before.heap
  | dispatch id callee argc =>
      rw [heap_dispatched]
      exact .refl before.heap
  | note event hEvent => exact .refl before.heap
  | write text => exact .refl before.heap
  | restack stack => exact .refl before.heap

theorem Evolves.keeps
    (hEvolves : before.Evolves after) :
    before.heap.Keeps after.heap :=
  hEvolves.lift
    (fun first second => first.heap.Keeps second.heap)
    (fun machine => .refl machine.heap)
    (fun _ _ _ => .trans)
    (fun _ _ => Step.keeps)

end Machine

end Scriptlet

------------------------------------------------------------
-- Shaped Heaps
------------------------------------------------------------

namespace Scriptlet

namespace Heap

/-
  What every heap keeps while programs run on it. A frame
  other than the global one has a parent that is older, so
  that following parents comes to an end. Bindings lead to
  no frame that programs are not exposed to.
-/
structure Shaped
    (exposed : ObjectId → Prop)
    (global : ObjectId)
    (heap : Heap) : Prop where
  root :
    ∃ object,
      heap.object? global = some object ∧
        object.role = .scope ∧ object.parent = none
  records :
    ∀ id object,
      heap.object? id = some object →
        object.role = .record → object.parent = none
  scopes :
    ∀ id object,
      heap.object? id = some object →
        object.role = .scope →
          id = global ∨
            ∃ parent,
              object.parent = some parent ∧
                parent.index < id.index ∧
                  heap.isScope parent = true
  functions :
    ∀ id function scope,
      heap.function? id = some function →
        function.action.scope? = some scope →
          heap.isScope scope = true
  slots :
    ∀ id object binding,
      heap.object? id = some object →
        binding ∈ object.bindings.toList →
          heap.Allows exposed binding.2

namespace Shaped

variable {exposed : ObjectId → Prop}
variable {global : ObjectId}
variable {heap : Heap}

/- The global frame is a frame. -/
theorem isScope_global
    (hShaped : heap.Shaped exposed global) :
    heap.isScope global = true := by
  rcases hShaped.root with ⟨object, hObject, hRole, _⟩
  exact isScope_iff.mpr ⟨object, hObject, hRole⟩

/- A name is bound to a value that may occur. -/
theorem define
    (hShaped : heap.Shaped exposed global)
    (id : ObjectId)
    (name : Name)
    {value : Value}
    (hValue : heap.Allows exposed value) :
    (heap.define id name value).Shaped exposed global := by
  have hKeeps := heap.keeps_define id name value
  -- Every object was there before, with its role and its
  -- parent, and has at most the new binding on top.
  have hOld
      {other : ObjectId}
      {object : Object}
      (hObject :
        (heap.define id name value).object? other =
          some object) :
      ∃ old,
        heap.object? other = some old ∧
          object.role = old.role ∧
            object.parent = old.parent ∧
              ∀ binding ∈ object.bindings.toList,
                binding ∈ old.bindings.toList ∨
                  binding = (name, value) := by
    rw [object?_define] at hObject
    split at hObject
    · rcases Option.map_eq_some_iff.mp hObject with
        ⟨old, hOld, rfl⟩
      exact ⟨old, hOld, rfl, rfl, fun _ hMem =>
        OrderedMap.mem_of_mem_set hMem⟩
    · exact ⟨object, hObject, rfl, rfl, fun _ => .inl⟩
  constructor
  case root =>
      rcases hShaped.root with
        ⟨object, hObject, hRole, hParent⟩
      rcases hKeeps global object hObject with
        ⟨bindings, hNext⟩
      exact ⟨_, hNext, hRole, hParent⟩
  case records =>
      intro other object hObject hRole
      rcases hOld hObject with
        ⟨old, hOther, hSame, hParent, _⟩
      rw [hParent]
      exact hShaped.records other old hOther
        (hSame.symm.trans hRole)
  case scopes =>
      intro other object hObject hRole
      rcases hOld hObject with
        ⟨old, hOther, hSame, hParent, _⟩
      rw [hParent]
      rcases hShaped.scopes other old hOther
          (hSame.symm.trans hRole) with
        hGlobal | ⟨parent, hLink, hOlder, hScope⟩
      · exact .inl hGlobal
      · exact .inr ⟨parent, hLink, hOlder,
          hKeeps.isScope hScope⟩
  case functions =>
      intro other function scope hFunction hScope
      exact hKeeps.isScope
        (hShaped.functions other function scope hFunction
          hScope)
  case slots =>
      intro other object binding hObject hBinding
      rcases hOld hObject with ⟨old, hOther, _, _, hSlots⟩
      rcases hSlots binding hBinding with hMem | rfl
      · exact hKeeps.allows
          (hShaped.slots other old binding hOther hMem)
      · exact hKeeps.allows hValue

/- A record without a parent, or a frame under a frame. -/
theorem newObject
    (hShaped : heap.Shaped exposed global)
    (role : Role)
    {parent : Option ObjectId}
    (hParent :
      match role with
      | .record => parent = none
      | .scope =>
          ∃ scope,
            parent = some scope ∧
              heap.isScope scope = true) :
    (heap.newObject role parent).2.Shaped exposed global := by
  have hKeeps := heap.keeps_newObject role parent
  have hCases
      {id : ObjectId}
      {object : Object}
      (hObject :
        (heap.newObject role parent).2.object? id =
          some object) :
      heap.object? id = some object ∨
        id.index = heap.objects.size ∧
          object = { role, parent, bindings := .empty } := by
    rw [object?_newObject] at hObject
    split at hObject
    case isTrue hYoungest =>
        exact .inr ⟨hYoungest,
          (Option.some.inj hObject).symm⟩
    case isFalse => exact .inl hObject
  constructor
  case root =>
      rcases hShaped.root with
        ⟨object, hObject, hRole, hNone⟩
      rcases hKeeps global object hObject with
        ⟨bindings, hNext⟩
      exact ⟨_, hNext, hRole, hNone⟩
  case records =>
      intro id object hObject hRole
      rcases hCases hObject with hOld | ⟨_, rfl⟩
      · exact hShaped.records id object hOld hRole
      · cases hRole
        exact hParent
  case scopes =>
      intro id object hObject hRole
      rcases hCases hObject with hOld | ⟨hYoungest, rfl⟩
      · rcases hShaped.scopes id object hOld hRole with
          hGlobal | ⟨link, hLink, hOlder, hScope⟩
        · exact .inl hGlobal
        · exact .inr ⟨link, hLink, hOlder,
            hKeeps.isScope hScope⟩
      · cases hRole
        rcases hParent with ⟨scope, hLink, hScope⟩
        refine .inr ⟨scope, hLink, ?_,
          hKeeps.isScope hScope⟩
        rw [hYoungest]
        exact lt_of_isScope hScope
  case functions =>
      intro id function scope hFunction hScope
      exact hKeeps.isScope
        (hShaped.functions id function scope hFunction
          hScope)
  case slots =>
      intro id object binding hObject hBinding
      rcases hCases hObject with hOld | ⟨_, rfl⟩
      · exact hKeeps.allows
          (hShaped.slots id object binding hOld hBinding)
      · simp [OrderedMap.empty, OrderedMap.toList]
          at hBinding

/- A function that runs in a frame, if in any object. -/
theorem newFunction
    (hShaped : heap.Shaped exposed global)
    {function : Function}
    (hScope :
      ∀ scope,
        function.action.scope? = some scope →
          heap.isScope scope = true) :
    (heap.newFunction function).2.Shaped exposed global where
  root := hShaped.root
  records := hShaped.records
  scopes := hShaped.scopes
  functions := by
    intro id other scope hOther hRuns
    rcases eq_or_function?_of_newFunction hOther with
      rfl | hOld
    · exact hScope scope hRuns
    · exact hShaped.functions id other scope hOld hRuns
  slots := hShaped.slots

/- What an object itself binds may occur. -/
theorem allows_own
    (hShaped : heap.Shaped exposed global)
    (id : ObjectId)
    (name : Name) :
    heap.Allows exposed
      ((heap.own? id name).getD .undefined) := by
  unfold own?
  cases hObject : heap.object? id with
  | none => simp [Allows, Value.object?]
  | some object =>
      rw [Option.bind_some]
      cases hGet : object.bindings.get? name with
      | none => simp [Allows, Value.object?]
      | some value =>
          rcases OrderedMap.exists_mem_of_get? hGet with
            ⟨other, hMem⟩
          exact hShaped.slots id object _ hObject hMem

/- What a name resolves to may occur. -/
theorem allows_lookup
    (hShaped : heap.Shaped exposed global)
    (id : ObjectId)
    (name : Name) :
    heap.Allows exposed (heap.lookup id name) := by
  fun_induction heap.lookup id name with
  | case1 id hObject => simp [Allows, Value.object?]
  | case2 id object hObject value hGet =>
      rcases OrderedMap.exists_mem_of_get? hGet with
        ⟨other, hMem⟩
      exact hShaped.slots id object _ hObject hMem
  | case3 id object hObject hGet hParent =>
      simp [Allows, Value.object?]
  | case4 id object hObject hGet parent hParent hOlder ih =>
      exact ih
  | case5 id object hObject hGet parent hParent hOlder =>
      simp [Allows, Value.object?]

end Shaped

end Heap

end Scriptlet

------------------------------------------------------------
-- Well-Formed Heaps
------------------------------------------------------------

namespace Scriptlet

namespace Heap

/-
  A heap in which records stand alone, frames are chained up
  to the global one, functions run in such frames, and no
  binding leads to a frame but the global one.
-/
structure WellFormed
    (global : ObjectId)
    (heap : Heap) : Prop where
  records :
    ∀ id,
      heap.isRecord id = true → heap.parent? id = none
  scopes :
    ∀ id,
      heap.isScope id = true →
        ∃ chain,
          heap.Chain id chain ∧ chain.Nodup ∧
            chain.getLast? = some global ∧
              ∀ frame ∈ chain, heap.isScope frame = true
  functions :
    ∀ id function scope,
      heap.function? id = some function →
        function.action.scope? = some scope →
          heap.isScope scope = true
  slots :
    ∀ id binding,
      binding ∈ heap.fields id →
        heap.Admits global binding.2

namespace Shaped

variable {exposed : ObjectId → Prop}
variable {global : ObjectId}
variable {heap : Heap}

/-
  The way outward from a frame leads through older and older
  frames to the global one.
-/
theorem exists_chain
    (hShaped : heap.Shaped exposed global)
    (id : ObjectId)
    (hId : heap.isScope id = true) :
    ∃ chain,
      heap.Chain id chain ∧
        chain.Pairwise (fun inner outer =>
          outer.index < inner.index) ∧
          (∀ frame ∈ chain, frame.index ≤ id.index) ∧
            chain.getLast? = some global ∧
              ∀ frame ∈ chain, heap.isScope frame = true := by
  rcases id with ⟨index⟩
  induction index using Nat.strongRecOn with
  | ind index ih =>
      rcases isScope_iff.mp hId with
        ⟨object, hObject, hRole⟩
      rcases hShaped.scopes _ _ hObject hRole with
        hGlobal | ⟨parent, hParent, hOlder, hScope⟩
      · rcases hShaped.root with ⟨root, hRoot, _, hNone⟩
        rw [hGlobal] at hId ⊢
        exact ⟨[global], .root hRoot hNone, by simp,
          by simp, rfl, by simpa using hId⟩
      · rcases ih parent.index hOlder hScope with
          ⟨chain, hChain, hSorted, hBound, hLast, hAll⟩
        have hBelow :
            ∀ frame ∈ chain, frame.index < index :=
          fun frame hFrame =>
            Nat.lt_of_le_of_lt (hBound frame hFrame) hOlder
        refine ⟨⟨index⟩ :: chain,
          .link hObject hParent hChain,
          List.pairwise_cons.mpr ⟨hBelow, hSorted⟩, ?_, ?_,
          ?_⟩
        · intro frame hFrame
          rcases List.mem_cons.mp hFrame with rfl | hFrame
          · exact Nat.le_refl _
          · exact Nat.le_of_lt (hBelow frame hFrame)
        · rw [List.getLast?_cons, hLast]
          rfl
        · intro frame hFrame
          rcases List.mem_cons.mp hFrame with rfl | hFrame
          · exact hId
          · exact hAll frame hFrame

/-
  A heap of the right shape is well-formed, if programs are
  exposed to no frame but the global one.
-/
theorem wellFormed
    (hShaped : heap.Shaped (fun id => id = global) global) :
    heap.WellFormed global := by
  constructor
  case records =>
      intro id hRecord
      rcases isRecord_iff.mp hRecord with
        ⟨object, hObject, hRole⟩
      rw [parent?, hObject]
      exact hShaped.records id object hObject hRole
  case scopes =>
      intro id hScope
      rcases hShaped.exists_chain id hScope with
        ⟨chain, hChain, hSorted, _, hLast, hAll⟩
      have hDistinct : chain.Nodup := by
        apply hSorted.imp
        rintro inner _ hOlder rfl
        exact Nat.lt_irrefl _ hOlder
      exact ⟨chain, hChain, hDistinct, hLast, hAll⟩
  case functions => exact hShaped.functions
  case slots =>
      intro id binding hBinding
      unfold fields at hBinding
      cases hObject : heap.object? id with
      | none => simp [hObject] at hBinding
      | some object =>
          rw [hObject] at hBinding
          exact hShaped.slots id object binding hObject
            hBinding

end Shaped

end Heap

end Scriptlet
