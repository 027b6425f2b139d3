import Scriptlet.Proofs.Heap.Registration
import Scriptlet.Proofs.Heap.Resolution
import Scriptlet.Proofs.Machine.Apply

/-
  Names in the frame of a call.

  A call opens a frame under the scope that its code was
  written in, and binds the receiver there, and then the
  parameters. A parameter may be named like another one or
  like the receiver: then it takes over the binding, which
  stays where it is, so that the last one wins. Any other
  name is looked for in the scope around the frame, which
  the call leaves as it was.

  Key definitions include:
    * `Heap.Extends`
    * `Heap.withFrame`
    * `Heap.Opened`

  Key theorems include:
    * `lookup_reverse_of_last`
    * `Heap.Extends.lookup_eq`
    * `Heap.Extends.inScope_eq`
    * `Heap.lookup_withFrame`
    * `Heap.inScope_withFrame`
    * `Heap.opened_withFrame`
    * `frames_bind_names`
-/

------------------------------------------------------------
-- The Last Write
------------------------------------------------------------

namespace Scriptlet

section LastWrite

variable {K V : Type} [BEq K]

/- The first write counts if no other one does. -/
theorem lookup_reverse_cons
    (key : K)
    (value : V)
    (writes : List (K × V))
    (other : K) :
    ((key, value) :: writes).reverse.lookup other =
      (writes.reverse.lookup other).or
        (if other == key then some value else none) := by
  rw [List.reverse_cons, List.lookup_append,
    List.lookup_cons]
  cases other == key <;> rfl

variable [LawfulBEq K]

/- A key that is not written later on has its value. -/
theorem lookup_reverse_of_last
    {writes : List (K × V)}
    {position : Nat}
    {key : K}
    {value : V}
    (hWrite : writes[position]? = some (key, value))
    (hLast :
      ∀ later,
        position < later →
          (writes.map Prod.fst)[later]? ≠ some key) :
    writes.reverse.lookup key = some value := by
  rcases List.getElem?_eq_some_iff.mp hWrite with
    ⟨hBound, hEntry⟩
  have hSplit :
      writes =
        writes.take position ++
          (key, value) :: writes.drop (position + 1) := by
    rw [← hEntry, List.getElem_cons_drop,
      List.take_append_drop]
  refine List.lookup_eq_some_iff.mpr
    ⟨(writes.drop (position + 1)).reverse,
      (writes.take position).reverse, ?_, ?_⟩
  · rw [congrArg List.reverse hSplit]
    simp
  · intro write hMem
    rcases List.mem_iff_getElem?.mp
        (List.mem_reverse.mp hMem) with
      ⟨offset, hOffset⟩
    rw [List.getElem?_drop] at hOffset
    have hOther := hLast (position + 1 + offset) (by omega)
    rw [List.getElem?_map, hOffset] at hOther
    rw [bne_iff_ne]
    rintro rfl
    exact hOther rfl

variable {keys : List K}
variable {key : K}

/- A key gets the argument at its last place. -/
theorem lookup_reverse_zip_of_last
    {values : List V}
    (hLength : values.length = keys.length)
    {position : Nat}
    (hKey : keys[position]? = some key)
    (hLast :
      ∀ later,
        position < later → keys[later]? ≠ some key) :
    (keys.zip values).reverse.lookup key =
      values[position]? := by
  have hPlace : position < values.length := by
    rw [hLength]
    exact (List.getElem?_eq_some_iff.mp hKey).1
  have hKeys : (keys.zip values).map Prod.fst = keys :=
    List.map_fst_zip (Nat.le_of_eq hLength.symm)
  have hValue := List.getElem?_eq_getElem hPlace
  rw [hValue]
  apply lookup_reverse_of_last
  · exact List.getElem?_zip_eq_some.mpr ⟨hKey, hValue⟩
  · rwa [hKeys]

/- A key that has no place gets none. -/
theorem lookup_reverse_zip_of_not_mem
    (hFree : key ∉ keys)
    (values : List V) :
    (keys.zip values).reverse.lookup key = none := by
  apply List.lookup_eq_none_iff.mpr
  intro write hMem
  have hKey :=
    (List.of_mem_zip (List.mem_reverse.mp hMem)).1
  rw [bne_iff_ne]
  rintro rfl
  exact hFree hKey

end LastWrite

end Scriptlet

------------------------------------------------------------
-- Older Objects
------------------------------------------------------------

namespace Scriptlet

namespace Heap

/- A heap, and one in which all its objects are the same. -/
def Extends (before after : Heap) : Prop :=
  ∀ id object,
    before.object? id = some object →
      after.object? id = some object

namespace Extends

variable {before after : Heap}

theorem object?_eq
    (hExtends : before.Extends after)
    {id : ObjectId}
    (hId : id.index < before.objects.size) :
    after.object? id = before.object? id := by
  have hObject :
      before.object? id = some before.objects[id.index] :=
    Array.getElem?_eq_getElem hId
  rw [hExtends id _ hObject, hObject]

/- A name resolves without a look at younger objects. -/
theorem lookup_eq
    (hExtends : before.Extends after)
    {id : ObjectId}
    (hId : id.index < before.objects.size)
    (name : Name) :
    after.lookup id name = before.lookup id name := by
  rw [lookup, lookup, hExtends.object?_eq hId]
  cases before.object? id with
  | none => rfl
  | some object =>
      simp only
      cases object.bindings.get? name with
      | some value => rfl
      | none =>
          cases object.parent with
          | none => rfl
          | some parent =>
              simp only
              split
              case isTrue hOlder =>
                  exact hExtends.lookup_eq
                    (Nat.lt_trans hOlder hId) name
              case isFalse => rfl
termination_by id.index

/- Whether it is visible depends on none of them. -/
theorem inScope_eq
    (hExtends : before.Extends after)
    {id : ObjectId}
    (hId : id.index < before.objects.size)
    (name : Name) :
    after.inScope id name = before.inScope id name := by
  rw [inScope, inScope, hExtends.object?_eq hId]
  cases before.object? id with
  | none => rfl
  | some object =>
      simp only
      cases object.parent with
      | none => rfl
      | some parent =>
          simp only
          split
          case isTrue hOlder =>
              rw [hExtends.inScope_eq
                (Nat.lt_trans hOlder hId) name]
          case isFalse => rfl
termination_by id.index

end Extends

end Heap

end Scriptlet

------------------------------------------------------------
-- A Frame and the Scope Around It
------------------------------------------------------------

namespace Scriptlet

namespace Heap

/- A heap with a frame in which names have been bound. -/
def withFrame
    (heap : Heap)
    (scope : ObjectId)
    (writes : List (Name × Value)) :
    Heap :=
  (heap.newScope (some scope)).2.defineAll
    (heap.newScope (some scope)).1 writes

theorem Consistent.defineAll
    {heap : Heap}
    (hConsistent : heap.Consistent)
    (id : ObjectId)
    (writes : List (Name × Value)) :
    (heap.defineAll id writes).Consistent := by
  induction writes generalizing heap with
  | nil => exact hConsistent
  | cons write writes ih =>
      exact ih (hConsistent.define id write.1 write.2)

theorem Consistent.withFrame
    {heap : Heap}
    (hConsistent : heap.Consistent)
    {scope : ObjectId}
    (hScope : scope.index < heap.objects.size)
    (writes : List (Name × Value)) :
    (heap.withFrame scope writes).Consistent := by
  have hParent :
      ∀ id ∈ some scope, id.index < heap.objects.size := by
    rintro id ⟨⟩
    exact hScope
  exact (hConsistent.newObject .scope hParent).defineAll _
    writes

variable (heap : Heap)
variable (scope : ObjectId)
variable (writes : List (Name × Value))

/- The frame is the youngest object. -/
theorem object?_frame :
    (heap.withFrame scope writes).object?
        ⟨heap.objects.size⟩ =
      some
        { role := .scope
          parent := some scope
          bindings := OrderedMap.empty.setAll writes } :=
  heap.object?_newObject_defineAll .scope (some scope)
    writes

/- No other object is touched. -/
theorem extends_withFrame :
    heap.Extends (heap.withFrame scope writes) := by
  intro id object hObject
  have hOlder := (Array.getElem?_eq_some_iff.mp hObject).1
  have hOther :
      ¬ (heap.newScope (some scope)).1.index = id.index :=
    Nat.ne_of_gt hOlder
  unfold withFrame
  rw [object?_defineAll, if_neg hOther]
  unfold newScope
  rw [object?_newObject, if_neg (Nat.ne_of_lt hOlder),
    hObject]

/- The names of the frame, as they first came. -/
theorem keys_withFrame :
    ((heap.withFrame scope writes).fields
        ⟨heap.objects.size⟩).map Prod.fst =
      (writes.map Prod.fst).eraseDups := by
  unfold fields
  rw [object?_frame]
  exact OrderedMap.keys_setAll writes

variable {scope}

/-
  The last value that was bound to a name in the frame hides
  what the scope around it has for the name.
-/
theorem lookup_withFrame
    (hScope : scope.index < heap.objects.size)
    (name : Name) :
    (heap.withFrame scope writes).lookup
        ⟨heap.objects.size⟩ name =
      (writes.reverse.lookup name).getD
        (heap.lookup scope name) := by
  rw [lookup, object?_frame]
  simp only [OrderedMap.get?_setAll, hScope, if_true]
  rw [(heap.extends_withFrame scope writes).lookup_eq
    hScope]
  cases writes.reverse.lookup name <;> rfl

/- A name is visible if it is bound in one or the other. -/
theorem inScope_withFrame
    (hScope : scope.index < heap.objects.size)
    (name : Name) :
    (heap.withFrame scope writes).inScope
        ⟨heap.objects.size⟩ name =
      ((writes.reverse.lookup name).isSome ||
        heap.inScope scope name) := by
  have hIndexed :=
    OrderedMap.indexed_setAll (K := Name) (V := Value)
      writes
  rw [inScope, object?_frame]
  simp only [hIndexed.contains_eq_isSome_get?,
    OrderedMap.get?_setAll, hScope, if_true]
  rw [(heap.extends_withFrame scope writes).inScope_eq
    hScope]

variable {heap}
variable {writes}
variable {name : Name}

theorem resolves_in_frame
    (hScope : scope.index < heap.objects.size)
    {value : Value}
    (hName : writes.reverse.lookup name = some value) :
    (heap.withFrame scope writes).lookup
          ⟨heap.objects.size⟩ name = value ∧
      (heap.withFrame scope writes).inScope
          ⟨heap.objects.size⟩ name = true := by
  rw [heap.lookup_withFrame writes hScope,
    heap.inScope_withFrame writes hScope, hName]
  exact ⟨rfl, rfl⟩

theorem resolves_around_frame
    (hScope : scope.index < heap.objects.size)
    (hName : writes.reverse.lookup name = none) :
    (heap.withFrame scope writes).lookup
          ⟨heap.objects.size⟩ name =
        heap.lookup scope name ∧
      (heap.withFrame scope writes).inScope
          ⟨heap.objects.size⟩ name =
        heap.inScope scope name := by
  rw [heap.lookup_withFrame writes hScope,
    heap.inScope_withFrame writes hScope, hName]
  exact ⟨rfl, rfl⟩

end Heap

end Scriptlet

------------------------------------------------------------
-- Opened Frames
------------------------------------------------------------

namespace Scriptlet

namespace Heap

/-
  What a call makes of a heap by opening its frame. The
  frame is new, and the scope that the code was written in
  is around it. In the frame a parameter means the argument
  at its last place, the receiver is found unless a
  parameter is named like it, and any other name means what
  it means in that scope. The frame binds the receiver
  first, then the other parameters as they first come. All
  objects from before are as they were, and so is what names
  mean in them.
-/
structure Opened
    (before : Heap)
    (this : Name)
    (scope : ObjectId)
    (params : List Name)
    (receiver : Value)
    (args : List Value)
    (frame : ObjectId)
    (after : Heap) : Prop where
  fresh : before.object? frame = none
  made :
    ∃ bindings,
      after.object? frame =
        some
          { role := .scope
            parent := some scope
            bindings }
  parameters :
    ∀ (position : Nat) name,
      params[position]? = some name →
        (∀ later,
            position < later → params[later]? ≠ some name) →
          args[position]? = some (after.lookup frame name) ∧
            after.inScope frame name = true
  self :
    this ∉ params →
      after.lookup frame this = receiver ∧
        after.inScope frame this = true
  others :
    ∀ name,
      name ≠ this →
        name ∉ params →
          after.lookup frame name =
              before.lookup scope name ∧
            after.inScope frame name =
              before.inScope scope name
  names :
    (after.fields frame).map Prod.fst =
      this :: (params.filter (· != this)).eraseDups
  kept : before.Extends after
  older :
    ∀ id name,
      id.index < before.objects.size →
        after.lookup id name = before.lookup id name ∧
          after.inScope id name = before.inScope id name
  consistent : before.Consistent → after.Consistent

variable (heap : Heap)
variable {scope : ObjectId}
variable {params : List Name}
variable {args : List Value}

theorem opened_withFrame
    (hScope : scope.index < heap.objects.size)
    (hLength : args.length = params.length)
    (this : Name)
    (receiver : Value) :
    heap.Opened this scope params receiver args
      ⟨heap.objects.size⟩
      (heap.withFrame scope
        ((this, receiver) :: params.zip args)) := by
  have hExtends :=
    heap.extends_withFrame scope
      ((this, receiver) :: params.zip args)
  constructor
  case fresh => exact Array.getElem?_eq_none (Nat.le_refl _)
  case made => exact ⟨_, heap.object?_frame scope _⟩
  case parameters =>
      intro position name hName hLast
      have hArg :=
        lookup_reverse_zip_of_last hLength hName hLast
      have hPlace : position < args.length := by
        rw [hLength]
        exact (List.getElem?_eq_some_iff.mp hName).1
      rw [List.getElem?_eq_getElem hPlace] at hArg ⊢
      have hWritten :
          ((this, receiver) :: params.zip
              args).reverse.lookup name =
            some args[position] := by
        rw [lookup_reverse_cons, hArg, Option.some_or]
      rcases resolves_in_frame hScope hWritten with
        ⟨hValue, hVisible⟩
      exact ⟨congrArg some hValue.symm, hVisible⟩
  case self =>
      intro hFree
      apply resolves_in_frame hScope
      rw [lookup_reverse_cons,
        lookup_reverse_zip_of_not_mem hFree, BEq.rfl,
        if_pos rfl, Option.none_or]
  case others =>
      intro name hThis hFree
      apply resolves_around_frame hScope
      rw [lookup_reverse_cons,
        lookup_reverse_zip_of_not_mem hFree,
        beq_false_of_ne hThis]
      rfl
  case names =>
      rw [keys_withFrame, List.map_cons,
        List.map_fst_zip (Nat.le_of_eq hLength.symm),
        List.eraseDups_cons]
      rfl
  case kept => exact hExtends
  case older =>
      intro id name hId
      exact ⟨hExtends.lookup_eq hId name,
        hExtends.inScope_eq hId name⟩
  case consistent =>
      intro hConsistent
      exact hConsistent.withFrame hScope _

end Heap

/-
  A call with as many arguments as parameters always gets
  its frame, under any scope of the heap and whatever the
  names of the parameters are. Names in the frame mean what
  they should, and nothing but the heap changes.
-/
theorem frames_bind_names
    (this : Name)
    (scope : ObjectId)
    (params : List Name)
    (receiver : Value)
    (args : List Value)
    (machine : Machine)
    (hScope : scope.index < machine.heap.objects.size)
    (hLength : args.length = params.length) :
    ∃ frame heap,
      openFrame this scope params receiver args machine =
          .ok frame { machine with heap } ∧
        machine.heap.Opened this scope params receiver args
          frame heap :=
  ⟨_, _, openFrame_apply this scope params receiver args
      machine,
    machine.heap.opened_withFrame hScope hLength this
      receiver⟩

/-
  A parameter that occurs twice and hides a name of the
  scope around, and between its two places one that is named
  like the receiver.
-/
theorem frames_bind_names_repeated :
    let before :=
      (Heap.shadowing ⟨5⟩).define ⟨0⟩ ⟨6⟩ (.int 2)
    let machine : Machine :=
      { heap := before
        sites := #[]
        trace := #[]
        stack := .new none
        printer := .buffer "" }
    let params : List Name := [⟨5⟩, ⟨3⟩, ⟨5⟩]
    let args : List Value := [.int 7, .int 8, .int 9]
    before.Consistent ∧
      ∃ frame heap,
        openFrame ⟨3⟩ ⟨1⟩ params .undefined args machine =
            .ok frame { machine with heap } ∧
          before.Opened ⟨3⟩ ⟨1⟩ params .undefined args frame
              heap ∧
            heap.Consistent ∧
              heap.lookup frame ⟨5⟩ = .int 9 ∧
                heap.lookup frame ⟨3⟩ = .int 8 ∧
                  heap.lookup frame ⟨6⟩ = .int 2 ∧
                    (heap.fields frame).map Prod.fst =
                      [⟨3⟩, ⟨5⟩] := by
  intro before machine params args
  have hConsistent : before.Consistent :=
    (Heap.consistent_shadowing ⟨5⟩).define ⟨0⟩ ⟨6⟩ _
  rcases frames_bind_names ⟨3⟩ ⟨1⟩ params .undefined args
      machine (by decide +kernel) rfl with
    ⟨frame, heap, hOpen, hOpened⟩
  have hAbsent
      {name : Name}
      {later : Nat}
      (hBeyond : 3 ≤ later) :
      params[later]? ≠ some name := by
    rw [List.getElem?_eq_none hBeyond]
    nofun
  have hTwice := hOpened.parameters 2 ⟨5⟩ rfl
    fun _ hLater => hAbsent hLater
  have hBetween := hOpened.parameters 1 ⟨3⟩ rfl (by
    intro later hLater
    rcases Nat.eq_or_lt_of_le hLater with rfl | hBeyond
    · decide
    · exact hAbsent hBeyond)
  have hAround := hOpened.others ⟨6⟩ (by decide) (by decide)
  have hOuter : before.lookup ⟨1⟩ ⟨6⟩ = .int 2 := by
    decide +kernel
  exact ⟨hConsistent, frame, heap, hOpen, hOpened,
    hOpened.consistent hConsistent,
    (Option.some.inj hTwice.1).symm,
    (Option.some.inj hBetween.1).symm,
    hAround.1.trans hOuter, hOpened.names⟩

end Scriptlet
