import Scriptlet.Proofs.Data.InsertionOrder
import Scriptlet.Proofs.Heap.Accumulation

/-
  Where names are found.

  In a consistent heap a name resolves in the nearest frame
  on the way outward that binds it, even if it is bound to
  undefined there, and a name is visible if there is such a
  frame. Binding a name in a frame changes what it resolves
  to wherever that frame is then the nearest one to bind it,
  and changes nothing else.

  Key definitions include:
    * `Heap.Consistent`
    * `Heap.Holds`
    * `Heap.Nearest`
    * `Heap.Resolves`
    * `Heap.Rebinds`

  Key theorems include:
    * `Heap.Consistent.define`
    * `Heap.Consistent.lookup_of_nearest`
    * `Heap.Consistent.inScope_iff`
    * `Heap.Consistent.own?_define`
    * `Heap.Consistent.nearest_of_define`
    * `Heap.Consistent.resolves`
    * `Heap.Consistent.rebinds`
    * `names_resolve`
-/

------------------------------------------------------------
-- Consistent Heaps
------------------------------------------------------------

namespace Scriptlet

namespace Heap

/-
  A heap in which every parent is older than its frame, and
  bindings stand where their index says.
-/
structure Consistent (heap : Heap) : Prop where
  layered : heap.Layered
  indexed : heap.Indexed

/- Whether a name is among the bindings of an object. -/
def Holds
    (heap : Heap)
    (id : ObjectId)
    (name : Name) : Prop :=
  name ∈ (heap.fields id).map Prod.fst

instance
    (heap : Heap)
    (id : ObjectId)
    (name : Name) :
    Decidable (heap.Holds id name) := by
  unfold Holds
  infer_instance

/-
  Whether a frame is the first one on the way outward from
  an object that holds a name.
-/
def Nearest
    (heap : Heap)
    (id : ObjectId)
    (name : Name)
    (frame : ObjectId) : Prop :=
  ∃ inner outer,
    heap.Chain id (inner ++ frame :: outer) ∧
      heap.Holds frame name ∧
        ∀ other ∈ inner, ¬ heap.Holds other name

theorem Nearest.holds
    {heap : Heap}
    {id frame : ObjectId}
    {name : Name}
    (hNearest : heap.Nearest id name frame) :
    heap.Holds frame name := by
  rcases hNearest with ⟨_, _, _, hHolds, _⟩
  exact hHolds

theorem consistent_empty : empty.Consistent where
  layered := layered_empty
  indexed := indexed_empty

namespace Consistent

variable {heap : Heap}

theorem define
    (hConsistent : heap.Consistent)
    (id : ObjectId)
    (name : Name)
    (value : Value) :
    (heap.define id name value).Consistent where
  layered := hConsistent.layered.define id name value
  indexed := hConsistent.indexed.define id name value

theorem newObject
    (hConsistent : heap.Consistent)
    (role : Role)
    {parent : Option ObjectId}
    (hParent :
      ∀ id ∈ parent, id.index < heap.objects.size) :
    (heap.newObject role parent).2.Consistent where
  layered := hConsistent.layered.newObject role hParent
  indexed := hConsistent.indexed.newObject role parent

/- What an object binds a name to is one of its bindings. -/
theorem own?_eq_some_iff
    (hConsistent : heap.Consistent)
    {id : ObjectId}
    {name : Name}
    {value : Value} :
    heap.own? id name = some value ↔
      (name, value) ∈ heap.fields id := by
  unfold own? fields
  cases hObject : heap.object? id with
  | none => simp
  | some object =>
      exact (hConsistent.indexed id object
        hObject).get?_eq_some_iff

/- An object holds the names that it binds to something. -/
theorem holds_iff
    (hConsistent : heap.Consistent)
    {id : ObjectId}
    {name : Name} :
    heap.Holds id name ↔
      ∃ value, heap.own? id name = some value := by
  unfold Holds
  simp [hConsistent.own?_eq_some_iff]

theorem own?_eq_none
    (hConsistent : heap.Consistent)
    {id : ObjectId}
    {name : Name}
    (hFree : ¬ heap.Holds id name) :
    heap.own? id name = none := by
  rw [hConsistent.holds_iff, not_exists] at hFree
  exact Option.eq_none_iff_forall_ne_some.mpr hFree

theorem binds_iff_holds
    (hConsistent : heap.Consistent)
    {id : ObjectId}
    {name : Name} :
    heap.binds id name = true ↔ heap.Holds id name := by
  rw [hConsistent.holds_iff, ← Option.isSome_iff_exists]
  unfold binds own?
  cases hObject : heap.object? id with
  | none => rfl
  | some object =>
      rw [Option.any_some, Option.bind_some,
        (hConsistent.indexed id object
          hObject).contains_eq_isSome_get?]

end Consistent

end Heap

end Scriptlet

------------------------------------------------------------
-- Resolution
------------------------------------------------------------

namespace Scriptlet

namespace Heap

/- If a frame on the way holds a name, one is nearest. -/
theorem Chain.exists_nearest
    {heap : Heap}
    {id frame : ObjectId}
    {chain : List ObjectId}
    {name : Name}
    (hChain : heap.Chain id chain)
    (hFrame : frame ∈ chain)
    (hHolds : heap.Holds frame name) :
    ∃ nearest, heap.Nearest id name nearest := by
  have hSome :
      (chain.find? fun other =>
        heap.Holds other name).isSome = true :=
    List.find?_isSome.mpr
      ⟨frame, hFrame, decide_eq_true hHolds⟩
  rcases Option.isSome_iff_exists.mp hSome with
    ⟨nearest, hFind⟩
  rcases List.find?_eq_some_iff_append.mp hFind with
    ⟨hNearest, inner, outer, hSplit, hInner⟩
  rw [hSplit] at hChain
  refine ⟨nearest, inner, outer, hChain,
    of_decide_eq_true hNearest, ?_⟩
  intro other hOther
  simpa using hInner other hOther

namespace Consistent

variable {heap : Heap}

/- A name resolves to what the nearest frame has for it. -/
theorem lookup_of_nearest
    (hConsistent : heap.Consistent)
    {id frame : ObjectId}
    {name : Name}
    {value : Value}
    (hNearest : heap.Nearest id name frame)
    (hValue : (name, value) ∈ heap.fields frame) :
    heap.lookup id name = value := by
  rcases hNearest with ⟨inner, outer, hChain, _, hInner⟩
  have hFree :
      (inner.findSome? fun other =>
        heap.own? other name) = none := by
    apply List.findSome?_eq_none_iff.mpr
    intro other hOther
    exact hConsistent.own?_eq_none (hInner other hOther)
  rw [hConsistent.layered.lookup_eq hChain,
    List.findSome?_append, hFree, List.findSome?_cons,
    hConsistent.own?_eq_some_iff.mpr hValue]
  rfl

/- A name that no frame holds is undefined. -/
theorem lookup_of_unheld
    (hConsistent : heap.Consistent)
    {id : ObjectId}
    {name : Name}
    (hNone : ∀ frame, ¬ heap.Nearest id name frame) :
    heap.lookup id name = .undefined := by
  by_cases hId : id.index < heap.objects.size
  · rcases hConsistent.layered.exists_chain id hId with
      ⟨chain, hChain⟩
    have hFree :
        (chain.findSome? fun other =>
          heap.own? other name) = none := by
      apply List.findSome?_eq_none_iff.mpr
      intro other hOther
      apply hConsistent.own?_eq_none
      intro hHolds
      rcases hChain.exists_nearest hOther hHolds with
        ⟨nearest, hNearest⟩
      exact hNone nearest hNearest
    rw [hConsistent.layered.lookup_eq hChain, hFree]
    rfl
  · have hObject : heap.object? id = none :=
      Array.getElem?_eq_none (Nat.le_of_not_lt hId)
    rw [lookup, hObject]

/- A name is visible if a frame on the way holds it. -/
theorem inScope_iff
    (hConsistent : heap.Consistent)
    {id : ObjectId}
    {name : Name} :
    heap.inScope id name = true ↔
      ∃ chain frame,
        heap.Chain id chain ∧ frame ∈ chain ∧
          heap.Holds frame name := by
  have hChain
      {chain : List ObjectId}
      (hChain : heap.Chain id chain) :
      heap.inScope id name = true ↔
        ∃ frame ∈ chain, heap.Holds frame name := by
    rw [hConsistent.layered.inScope_eq hChain,
      List.any_eq_true]
    simp only [hConsistent.binds_iff_holds]
  constructor
  · intro hVisible
    have hId : id.index < heap.objects.size := by
      by_contra hOutside
      have hObject : heap.object? id = none :=
        Array.getElem?_eq_none (Nat.le_of_not_lt hOutside)
      rw [inScope, hObject] at hVisible
      cases hVisible
    rcases hConsistent.layered.exists_chain id hId with
      ⟨chain, hWay⟩
    rcases (hChain hWay).mp hVisible with
      ⟨frame, hFrame, hHolds⟩
    exact ⟨chain, frame, hWay, hFrame, hHolds⟩
  · rintro ⟨chain, frame, hWay, hFrame, hHolds⟩
    exact (hChain hWay).mpr ⟨frame, hFrame, hHolds⟩

/- That is, if some frame is the nearest to hold it. -/
theorem inScope_iff_nearest
    (hConsistent : heap.Consistent)
    {id : ObjectId}
    {name : Name} :
    heap.inScope id name = true ↔
      ∃ frame, heap.Nearest id name frame := by
  rw [hConsistent.inScope_iff]
  constructor
  · rintro ⟨chain, frame, hChain, hFrame, hHolds⟩
    exact hChain.exists_nearest hFrame hHolds
  · rintro ⟨frame, inner, outer, hChain, hHolds, _⟩
    exact ⟨_, frame, hChain, by simp, hHolds⟩

end Consistent

end Heap

end Scriptlet

------------------------------------------------------------
-- Binding a Name
------------------------------------------------------------

namespace Scriptlet

namespace Heap

/- Ways outward depend on nothing but links to parents. -/
theorem Chain.congr
    {first second : Heap}
    {id : ObjectId}
    {chain : List ObjectId}
    (hLinks :
      ∀ other,
        (first.object? other).map Object.parent =
          (second.object? other).map Object.parent)
    (hChain : first.Chain id chain) :
    second.Chain id chain := by
  induction hChain with
  | @root id object hObject hRoot =>
      have hLink := hLinks id
      rw [hObject] at hLink
      rcases Option.map_eq_some_iff.mp hLink.symm with
        ⟨later, hLater, hSame⟩
      exact .root hLater (hSame.trans hRoot)
  | @link id parent object chain hObject hParent _ ih =>
      have hLink := hLinks id
      rw [hObject] at hLink
      rcases Option.map_eq_some_iff.mp hLink.symm with
        ⟨later, hLater, hSame⟩
      exact .link hLater (hSame.trans hParent) ih

/- So binding a name leaves them as they are. -/
theorem chain_define_iff
    {heap : Heap}
    {id : ObjectId}
    {name : Name}
    {value : Value}
    {frame : ObjectId}
    {chain : List ObjectId} :
    (heap.define id name value).Chain frame chain ↔
      heap.Chain frame chain := by
  have hLinks
      (other : ObjectId) :
      ((heap.define id name value).object? other).map
          Object.parent =
        (heap.object? other).map Object.parent := by
    rw [object?_define]
    split
    · exact Option.map_map ..
    · rfl
  exact ⟨.congr hLinks, .congr fun other =>
    (hLinks other).symm⟩

namespace Consistent

variable {heap : Heap}
variable {id : ObjectId}

/- Only the name that is bound in the object is affected. -/
theorem own?_define
    (hConsistent : heap.Consistent)
    (hId : id.index < heap.objects.size)
    (name : Name)
    (value : Value)
    (frame : ObjectId)
    (other : Name) :
    (heap.define id name value).own? frame other =
      if frame = id ∧ other = name then
        some value
      else
        heap.own? frame other := by
  unfold own?
  rw [object?_define]
  by_cases hSame : frame = id
  · subst hSame
    have hObject :
        heap.object? frame =
          some heap.objects[frame.index] :=
      Array.getElem?_eq_getElem hId
    rw [if_pos rfl, hObject, Option.map_some,
      Option.bind_some, Option.bind_some,
      (hConsistent.indexed frame _ hObject).get?_set]
    simp [eq_comm]
  · have hIndex : ¬ id.index = frame.index := by
      intro hIndex
      cases id
      cases frame
      exact hSame (congrArg ObjectId.mk hIndex.symm)
    rw [if_neg hIndex, if_neg fun hBoth => hSame hBoth.1]

/- An object holds what it held, and what was bound. -/
theorem holds_define_iff
    (hConsistent : heap.Consistent)
    (hId : id.index < heap.objects.size)
    {name other : Name}
    {value : Value}
    {frame : ObjectId} :
    (heap.define id name value).Holds frame other ↔
      frame = id ∧ other = name ∨
        heap.Holds frame other := by
  rw [(hConsistent.define id name value).holds_iff,
    hConsistent.holds_iff]
  simp only [hConsistent.own?_define hId]
  by_cases hBound : frame = id ∧ other = name
  · simp [hBound]
  · simp [hBound]

/-
  A frame that is now the nearest to hold a name was so
  before, unless it has just been given the name.
-/
theorem nearest_of_define
    (hConsistent : heap.Consistent)
    (hId : id.index < heap.objects.size)
    {name other : Name}
    {value : Value}
    {frame nearest : ObjectId}
    (hOld : ¬ (nearest = id ∧ other = name))
    (hNearest :
      (heap.define id name value).Nearest frame other
        nearest) :
    heap.Nearest frame other nearest := by
  rcases hNearest with
    ⟨inner, outer, hChain, hHolds, hInner⟩
  have hHeld :=
    (hConsistent.holds_define_iff hId).mp hHolds
  refine ⟨inner, outer, chain_define_iff.mp hChain,
    hHeld.resolve_left hOld, ?_⟩
  intro skipped hSkipped hHolds
  exact hInner skipped hSkipped
    ((hConsistent.holds_define_iff hId).mpr (.inr hHolds))

/- A name that was found is still found. -/
theorem exists_nearest_define
    (hConsistent : heap.Consistent)
    (hId : id.index < heap.objects.size)
    (name : Name)
    (value : Value)
    {frame nearest : ObjectId}
    {other : Name}
    (hNearest : heap.Nearest frame other nearest) :
    ∃ later,
      (heap.define id name value).Nearest frame other
        later := by
  rcases hNearest with ⟨inner, outer, hChain, hHolds, _⟩
  exact (chain_define_iff.mpr hChain).exists_nearest
    (by simp)
    ((hConsistent.holds_define_iff hId).mpr (.inr hHolds))

variable {name other : Name}
variable {value : Value}
variable {frame : ObjectId}

/- Elsewhere names resolve as they did. -/
theorem lookup_define_of_not_nearest
    (hConsistent : heap.Consistent)
    (hId : id.index < heap.objects.size)
    (hElsewhere :
      ¬ (other = name ∧
        (heap.define id name value).Nearest frame name
          id)) :
    (heap.define id name value).lookup frame other =
      heap.lookup frame other := by
  have hAfter := hConsistent.define id name value
  by_cases hFound :
      ∃ nearest,
        (heap.define id name value).Nearest frame other
          nearest
  · -- The frame in which the name is found now is the one in
    -- which it was found, with the value that it had there.
    rcases hFound with ⟨nearest, hNearest⟩
    have hOld : ¬ (nearest = id ∧ other = name) := by
      rintro ⟨rfl, rfl⟩
      exact hElsewhere ⟨rfl, hNearest⟩
    rcases hAfter.holds_iff.mp hNearest.holds with
      ⟨found, hOwn⟩
    have hBefore := hOwn
    rw [hConsistent.own?_define hId, if_neg hOld]
      at hBefore
    rw [hAfter.lookup_of_nearest hNearest
        (hAfter.own?_eq_some_iff.mp hOwn),
      hConsistent.lookup_of_nearest
        (hConsistent.nearest_of_define hId hOld hNearest)
        (hConsistent.own?_eq_some_iff.mp hBefore)]
  · rw [hAfter.lookup_of_unheld (not_exists.mp hFound)]
    symm
    apply hConsistent.lookup_of_unheld
    intro nearest hNearest
    exact hFound
      (hConsistent.exists_nearest_define hId name value
        hNearest)

/- Elsewhere the same names are visible. -/
theorem inScope_define_of_not_nearest
    (hConsistent : heap.Consistent)
    (hId : id.index < heap.objects.size)
    (hElsewhere :
      ¬ (other = name ∧
        (heap.define id name value).Nearest frame name
          id)) :
    (heap.define id name value).inScope frame other =
      heap.inScope frame other := by
  rw [Bool.eq_iff_iff, hConsistent.inScope_iff_nearest,
    (hConsistent.define id name value).inScope_iff_nearest]
  constructor
  · rintro ⟨nearest, hNearest⟩
    refine ⟨nearest,
      hConsistent.nearest_of_define hId ?_ hNearest⟩
    rintro ⟨rfl, rfl⟩
    exact hElsewhere ⟨rfl, hNearest⟩
  · rintro ⟨nearest, hNearest⟩
    exact hConsistent.exists_nearest_define hId name value
      hNearest

end Consistent

end Heap

end Scriptlet

------------------------------------------------------------
-- The Laws of Names
------------------------------------------------------------

namespace Scriptlet

namespace Heap

/-
  What names mean in an object. The object itself binds what
  is listed among its bindings. A name resolves to what the
  nearest frame on the way outward has for it, and to
  undefined if no frame there holds it. It is visible if a
  frame there holds it.
-/
structure Resolves
    (heap : Heap)
    (id : ObjectId) : Prop where
  way :
    id.index < heap.objects.size →
      ∃ chain, heap.Chain id chain
  own :
    ∀ name value,
      heap.own? id name = some value ↔
        (name, value) ∈ heap.fields id
  nearest :
    ∀ name frame value,
      heap.Nearest id name frame →
        (name, value) ∈ heap.fields frame →
          heap.lookup id name = value
  unheld :
    ∀ name,
      (∀ frame, ¬ heap.Nearest id name frame) →
        heap.lookup id name = .undefined
  visible :
    ∀ name,
      heap.inScope id name = true ↔
        ∃ chain frame,
          heap.Chain id chain ∧ frame ∈ chain ∧
            heap.Holds frame name

/-
  What binding a name in an object changes. The name takes
  the value wherever the object is now the nearest to hold
  it. Everything else resolves as it did, is visible where
  it was, and is bound to what it was.
-/
structure Rebinds
    (before : Heap)
    (id : ObjectId)
    (name : Name)
    (value : Value)
    (after : Heap) : Prop where
  ways :
    ∀ frame chain,
      after.Chain frame chain ↔ before.Chain frame chain
  there :
    ∀ frame,
      after.Nearest frame name id →
        after.lookup frame name = value ∧
          after.inScope frame name = true
  elsewhere :
    ∀ frame other,
      ¬ (other = name ∧ after.Nearest frame name id) →
        after.lookup frame other =
            before.lookup frame other ∧
          after.inScope frame other =
            before.inScope frame other
  own :
    ∀ frame other,
      after.own? frame other =
        if frame = id ∧ other = name then
          some value
        else
          before.own? frame other

namespace Consistent

variable {heap : Heap}

theorem resolves
    (hConsistent : heap.Consistent)
    (id : ObjectId) :
    heap.Resolves id where
  way := hConsistent.layered.exists_chain id
  own _ _ := hConsistent.own?_eq_some_iff
  nearest _ _ _ hNearest hValue :=
    hConsistent.lookup_of_nearest hNearest hValue
  unheld _ hNone := hConsistent.lookup_of_unheld hNone
  visible _ := hConsistent.inScope_iff

theorem rebinds
    (hConsistent : heap.Consistent)
    {id : ObjectId}
    (hId : id.index < heap.objects.size)
    (name : Name)
    (value : Value) :
    heap.Rebinds id name value
      (heap.define id name value) := by
  have hAfter := hConsistent.define id name value
  have hOwn := hConsistent.own?_define hId name value
  constructor
  case ways =>
      intro frame chain
      exact chain_define_iff
  case there =>
      intro frame hNearest
      have hBound := hOwn id name
      rw [if_pos ⟨rfl, rfl⟩] at hBound
      exact ⟨hAfter.lookup_of_nearest hNearest
          (hAfter.own?_eq_some_iff.mp hBound),
        hAfter.inScope_iff_nearest.mpr ⟨id, hNearest⟩⟩
  case elsewhere =>
      intro frame other hElsewhere
      exact ⟨hConsistent.lookup_define_of_not_nearest hId
          hElsewhere,
        hConsistent.inScope_define_of_not_nearest hId
          hElsewhere⟩
  case own => exact hOwn

end Consistent

end Heap

/-
  In every consistent heap names resolve in the nearest
  frame that binds them, and binding a name anywhere changes
  just what it has to.
-/
theorem names_resolve
    (heap : Heap)
    (hConsistent : heap.Consistent) :
    (∀ id, heap.Resolves id) ∧
      ∀ id name value,
        id.index < heap.objects.size →
          heap.Rebinds id name value
            (heap.define id name value) := by
  refine ⟨hConsistent.resolves, ?_⟩
  intro id name value hId
  exact hConsistent.rebinds hId name value

/-
  A heap with a frame around two others, one of which binds
  a name to undefined.
-/
def Heap.shadowing (name : Name) : Heap :=
  let outer := (empty.newScope none).2
  let inner := (outer.newScope (some ⟨0⟩)).2
  let beside := (inner.newScope (some ⟨0⟩)).2
  (beside.define ⟨0⟩ name (.int 1)).define ⟨1⟩ name
    .undefined

theorem Heap.consistent_shadowing (name : Name) :
    (shadowing name).Consistent := by
  have hOuter : (empty.newScope none).2.Consistent :=
    consistent_empty.newObject .scope nofun
  have hParent
      {heap : Heap}
      (hSize : 0 < heap.objects.size) :
      ∀ id ∈ some (ObjectId.mk 0),
        id.index < heap.objects.size := by
    intro id hId
    cases hId
    exact hSize
  have hInner := hOuter.newObject .scope
    (hParent Nat.one_pos)
  have hBeside := hInner.newObject .scope
    (hParent Nat.two_pos)
  exact (hBeside.define ⟨0⟩ name _).define ⟨1⟩ name _

/-
  The inner frame that binds a name to undefined hides the
  outer one, before and after the outer one binds the name
  anew. The frame beside it sees the new value.
-/
theorem names_resolve_shadowing :
    let heap := Heap.shadowing ⟨5⟩
    let after := heap.define ⟨0⟩ ⟨5⟩ (.int 7)
    heap.Consistent ∧ heap.Resolves ⟨1⟩ ∧
      heap.inScope ⟨1⟩ ⟨5⟩ = true ∧
        heap.lookup ⟨1⟩ ⟨5⟩ = .undefined ∧
          heap.Rebinds ⟨0⟩ ⟨5⟩ (.int 7) after ∧
            after.lookup ⟨1⟩ ⟨5⟩ = .undefined ∧
              after.lookup ⟨2⟩ ⟨5⟩ = .int 7 := by
  intro heap after
  have hConsistent := Heap.consistent_shadowing ⟨5⟩
  have hNames := names_resolve heap hConsistent
  exact ⟨hConsistent, hNames.1 ⟨1⟩, by decide +kernel,
    by decide +kernel,
    hNames.2 ⟨0⟩ ⟨5⟩ (.int 7) (by decide +kernel),
    by decide +kernel, by decide +kernel⟩

end Scriptlet
