import Std.Data.TreeMap.Lemmas
import Scriptlet.Data.OrderedMap

/-
  Keys of ordered maps.

  In a map that was made by binding keys, the index says of
  each key at which position it stands. Then binding a key
  that is bound changes no key, and binding another one adds
  it behind all others. So the keys of a map are the first
  keys of every map that comes of it.

  Key definitions include:
    * `OrderedMap.Indexed`

  Key theorems include:
    * `OrderedMap.Indexed.set`
    * `OrderedMap.Indexed.contains_iff`
    * `OrderedMap.Indexed.keys_set_of_contains`
    * `OrderedMap.keys_set_of_not_contains`
    * `OrderedMap.Indexed.keys_prefix_set`
-/

------------------------------------------------------------
-- Bound Keys
------------------------------------------------------------

namespace Scriptlet

namespace OrderedMap

variable {K V : Type} [Ord K]
/- A key is bound if it has a position. -/
theorem contains_eq_isSome
    [Std.TransOrd K]
    (map : OrderedMap K V)
    (key : K) :
    map.contains key = (map.index.get? key).isSome := by
  unfold contains
  rw [Std.TreeMap.contains_eq_isSome_getElem?,
    Std.TreeMap.get?_eq_getElem?]

/- The index after a key was bound. -/
theorem index_set
    [Std.TransOrd K]
    {map : OrderedMap K V}
    {key : K}
    (value : V) :
    (map.set key value).index =
      if map.contains key = true then
        map.index
      else
        map.index.insert key map.slots.size := by
  unfold set
  rw [contains_eq_isSome]
  cases map.index.get? key <;> rfl

/- Binding a key binds it and no other one. -/
theorem contains_set
    [Std.TransOrd K]
    [Std.LawfulEqOrd K]
    (map : OrderedMap K V)
    (key other : K)
    (value : V) :
    (map.set key value).contains other = true ↔
      key = other ∨ map.contains other = true := by
  unfold contains
  rw [index_set]
  by_cases hBound : map.contains key = true
  · rw [if_pos hBound]
    constructor
    · exact .inr
    · rintro (rfl | hOther)
      · exact hBound
      · exact hOther
  · rw [if_neg hBound, Std.TreeMap.contains_insert,
      Bool.or_eq_true, beq_iff_eq,
      Std.LawfulEqCmp.compare_eq_iff_eq]

end OrderedMap

end Scriptlet

------------------------------------------------------------
-- Positions
------------------------------------------------------------

namespace Scriptlet

namespace OrderedMap

variable {K V : Type} [Ord K]

/- Where a key stands after a new one was added. -/
theorem getElem?_concat_eq_some_iff
    {A : Type}
    {keys : List A}
    {key other : A}
    {position : Nat} :
    (keys ++ [key])[position]? = some other ↔
      keys[position]? = some other ∨
        position = keys.length ∧ key = other := by
  rw [List.getElem?_append]
  by_cases hBefore : position < keys.length
  · rw [if_pos hBefore]
    constructor
    · exact .inl
    · rintro (hOld | ⟨hLast, _⟩)
      · exact hOld
      · omega
  · have hNone : keys[position]? = none :=
      List.getElem?_eq_none (Nat.le_of_not_lt hBefore)
    rw [if_neg hBefore, hNone, List.getElem?_singleton]
    have hPlace :
        position - keys.length = 0 ↔
          position = keys.length := by
      omega
    simp [hPlace]

/- A map whose index says where each key stands. -/
def Indexed (map : OrderedMap K V) : Prop :=
  ∀ key position,
    map.index.get? key = some position ↔
      map.keys[position]? = some key

/- The map without bindings is indexed. -/
theorem indexed_empty :
    (empty : OrderedMap K V).Indexed := by
  intro key position
  constructor
  · intro hIndex
    cases hIndex
  · intro hKey
    cases hKey

variable {map : OrderedMap K V}

/- A key that was not bound goes to the end. -/
theorem keys_set_of_not_contains
    [Std.TransOrd K]
    {key : K}
    (hUnbound : map.contains key = false)
    (value : V) :
    (map.set key value).keys = map.keys ++ [key] := by
  rw [contains_eq_isSome, Option.isSome_eq_false_iff,
    Option.isNone_iff_eq_none] at hUnbound
  unfold set
  rw [hUnbound]
  simp [keys, toList]

namespace Indexed

/- The bound keys are those that stand somewhere. -/
theorem contains_iff
    [Std.TransOrd K]
    (hIndexed : map.Indexed)
    (key : K) :
    map.contains key = true ↔ key ∈ map.keys := by
  rw [contains_eq_isSome, Option.isSome_iff_exists,
    List.mem_iff_getElem?]
  exact exists_congr fun position => hIndexed key position

/- A key that is bound stays where it is. -/
theorem keys_set_of_contains
    [Std.TransOrd K]
    (hIndexed : map.Indexed)
    {key : K}
    (hBound : map.contains key = true)
    (value : V) :
    (map.set key value).keys = map.keys := by
  rw [contains_eq_isSome] at hBound
  rcases Option.isSome_iff_exists.mp hBound with
    ⟨position, hIndex⟩
  rcases List.getElem?_eq_some_iff.mp
      ((hIndexed key position).mp hIndex) with
    ⟨hPosition, hSame⟩
  have hSet :
      (map.set key value).keys =
        map.keys.set position key := by
    unfold OrderedMap.set
    rw [hIndex]
    simp [keys, toList, List.map_set]
  rw [hSet, ← hSame, List.set_getElem_self]

/- So the keys from before come first. -/
theorem keys_prefix_set
    [Std.TransOrd K]
    (hIndexed : map.Indexed)
    (key : K)
    (value : V) :
    map.keys <+: (map.set key value).keys := by
  cases hBound : map.contains key with
  | true =>
      have hSame := hIndexed.keys_set_of_contains hBound
      exact ⟨[], by rw [List.append_nil, hSame]⟩
  | false =>
      rw [keys_set_of_not_contains hBound]
      exact List.prefix_append _ _

/- Binding a key keeps a map indexed. -/
theorem set
    [Std.TransOrd K]
    [Std.LawfulEqOrd K]
    (hIndexed : map.Indexed)
    (key : K)
    (value : V) :
    (map.set key value).Indexed := by
  intro other position
  rw [index_set]
  cases hBound : map.contains key with
  | true =>
      rw [if_pos rfl, hIndexed.keys_set_of_contains hBound]
      exact hIndexed other position
  | false =>
      have hNew : map.keys[position]? ≠ some key := by
        intro hKey
        have hMem := List.mem_of_getElem? hKey
        rw [(hIndexed.contains_iff key).mpr hMem] at hBound
        cases hBound
      have hSize : map.slots.size = map.keys.length := by
        simp [keys, toList]
      have hCompare :
          compare key other = .eq ↔ key = other :=
        Std.LawfulEqCmp.compare_eq_iff_eq
      rw [if_neg Bool.false_ne_true,
        keys_set_of_not_contains hBound,
        getElem?_concat_eq_some_iff, ← hIndexed other,
        Std.TreeMap.get?_eq_getElem?,
        Std.TreeMap.get?_eq_getElem?,
        Std.TreeMap.getElem?_insert, hSize]
      by_cases hSame : key = other
      · have hOld :
            ¬ map.index[other]? = some position := by
          rw [← Std.TreeMap.get?_eq_getElem?, hIndexed,
            ← hSame]
          exact hNew
        rw [if_pos (hCompare.mpr hSame)]
        simp [hSame, hOld, eq_comm]
      · rw [if_neg (mt hCompare.mp hSame)]
        simp [hSame]

end Indexed

end OrderedMap

end Scriptlet
