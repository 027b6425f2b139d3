import Mathlib.Data.List.Induction
import Scriptlet.Proofs.Data.OrderedMap

/-
  Values of ordered maps.

  In a map whose index is right, what a key is bound to is
  what stands beside it among the bindings, and binding a
  key changes what is found under that key only. So a map
  that was made by binding one key after another holds the
  keys in the order in which they first came, each with the
  value that came last.

  Key definitions include:
    * `OrderedMap.setAll`

  Key theorems include:
    * `eraseDups_concat_of_not_mem`
    * `OrderedMap.Indexed.index_eq_some_iff`
    * `OrderedMap.Indexed.get?_eq_some_iff`
    * `OrderedMap.Indexed.get?_set`
    * `OrderedMap.keys_setAll`
    * `OrderedMap.get?_setAll`
-/

------------------------------------------------------------
-- First Occurrences
------------------------------------------------------------

namespace Scriptlet

variable {A : Type} [BEq A] [LawfulBEq A]
variable {items : List A}
variable {item : A}

/- What was there before adds nothing to a list. -/
theorem eraseDups_concat_of_mem
    (hMem : item ∈ items) :
    (items ++ [item]).eraseDups = items.eraseDups := by
  rw [List.eraseDups_append]
  simp [List.removeAll, hMem]

/- What is new comes last. -/
theorem eraseDups_concat_of_not_mem
    (hNew : item ∉ items) :
    (items ++ [item]).eraseDups =
      items.eraseDups ++ [item] := by
  rw [List.eraseDups_append]
  simp [List.removeAll, hNew, List.eraseDups_cons]

end Scriptlet

------------------------------------------------------------
-- Values
------------------------------------------------------------

namespace Scriptlet

namespace OrderedMap

variable {K V : Type} [Ord K]
variable {map : OrderedMap K V}

/- Each slot shows the key that stands there. -/
theorem getElem?_keys (position : Nat) :
    map.keys[position]? =
      map.slots[position]?.map Prod.fst := by
  simp [keys, toList]

/- The slots after a key was bound. -/
theorem slots_set
    (key : K)
    (value : V) :
    (map.set key value).slots =
      match map.index.get? key with
      | some position =>
          map.slots.setIfInBounds position (key, value)
      | none => map.slots.push (key, value) := by
  unfold set
  cases map.index.get? key <;> rfl

namespace Indexed

/- The index points to the slots that hold the key. -/
theorem index_eq_some_iff
    (hIndexed : map.Indexed)
    {key : K}
    {position : Nat} :
    map.index.get? key = some position ↔
      ∃ value, map.slots[position]? = some (key, value) := by
  rw [hIndexed key position, getElem?_keys,
    Option.map_eq_some_iff]
  constructor
  · rintro ⟨⟨_, value⟩, hSlot, rfl⟩
    exact ⟨value, hSlot⟩
  · rintro ⟨value, hSlot⟩
    exact ⟨(key, value), hSlot, rfl⟩

/- No key stands in two places. -/
theorem nodup_keys
    (hIndexed : map.Indexed) :
    map.keys.Nodup := by
  apply List.pairwise_iff_getElem.mpr
  intro first second hFirst hSecond hBefore hSame
  have hIndex :=
    (hIndexed _ first).mpr (List.getElem?_eq_getElem hFirst)
  rw [hSame] at hIndex
  rw [(hIndexed _ second).mpr
    (List.getElem?_eq_getElem hSecond)] at hIndex
  exact Nat.ne_of_gt hBefore (Option.some.inj hIndex)

/- What a key is bound to stands beside it. -/
theorem get?_eq_some_iff
    (hIndexed : map.Indexed)
    {key : K}
    {value : V} :
    map.get? key = some value ↔
      (key, value) ∈ map.toList := by
  unfold get? toList
  rw [Array.mem_toList_iff, Array.mem_iff_getElem?]
  simp only [Option.bind_eq_some_iff,
    hIndexed.index_eq_some_iff]
  constructor
  · rintro ⟨position, ⟨other, hSlot⟩, hValue⟩
    rw [hSlot] at hValue
    cases hValue
    exact ⟨position, hSlot⟩
  · rintro ⟨position, hSlot⟩
    exact ⟨position, ⟨value, hSlot⟩, by simp [hSlot]⟩

/- A key is bound if it is bound to something. -/
theorem contains_eq_isSome_get?
    [Std.TransOrd K]
    (hIndexed : map.Indexed)
    (key : K) :
    map.contains key = (map.get? key).isSome := by
  rw [contains_eq_isSome]
  unfold get?
  cases hIndex : map.index.get? key with
  | none => rfl
  | some position =>
      rcases hIndexed.index_eq_some_iff.mp hIndex with
        ⟨value, hSlot⟩
      rw [Option.bind_some, hSlot]
      rfl

variable [Std.TransOrd K] [DecidableEq K]

/- A bound key takes the new value where it stands. -/
theorem get?_set_of_bound
    (hIndexed : map.Indexed)
    {key : K}
    {position : Nat}
    (hIndex : map.index.get? key = some position)
    (other : K)
    (value : V) :
    (map.set key value).get? other =
      if key = other then
        some value
      else
        map.get? other := by
  have hBound : map.contains key = true := by
    rw [contains_eq_isSome, hIndex]
    rfl
  rcases hIndexed.index_eq_some_iff.mp hIndex with
    ⟨old, hSlot⟩
  have hRange := (Array.getElem?_eq_some_iff.mp hSlot).1
  unfold get?
  rw [index_set, if_pos hBound, slots_set, hIndex]
  by_cases hSame : key = other
  · rw [if_pos hSame, ← hSame, hIndex, Option.bind_some,
      Array.getElem?_setIfInBounds_self_of_lt hRange]
    rfl
  · rw [if_neg hSame]
    apply Option.bind_congr
    intro place hPlace
    -- Two keys do not share a slot.
    have hApart : position ≠ place := by
      rintro rfl
      rcases hIndexed.index_eq_some_iff.mp hPlace with
        ⟨found, hFound⟩
      rw [hSlot] at hFound
      cases hFound
      exact hSame rfl
    rw [Array.getElem?_setIfInBounds_ne hApart]

/- A new key is found at the end. -/
theorem get?_set_of_unbound
    [Std.LawfulEqOrd K]
    (hIndexed : map.Indexed)
    {key : K}
    (hIndex : map.index.get? key = none)
    (other : K)
    (value : V) :
    (map.set key value).get? other =
      if key = other then
        some value
      else
        map.get? other := by
  have hUnbound : ¬ map.contains key = true := by
    rw [contains_eq_isSome, hIndex]
    exact Bool.false_ne_true
  have hCompare :
      compare key other = .eq ↔ key = other :=
    Std.LawfulEqCmp.compare_eq_iff_eq
  unfold get?
  rw [index_set, if_neg hUnbound, slots_set, hIndex,
    Std.TreeMap.get?_eq_getElem?,
    Std.TreeMap.getElem?_insert]
  by_cases hSame : key = other
  · rw [if_pos (hCompare.mpr hSame), if_pos hSame,
      Option.bind_some, Array.getElem?_push_size]
    rfl
  · rw [if_neg (mt hCompare.mp hSame), if_neg hSame,
      ← Std.TreeMap.get?_eq_getElem?]
    apply Option.bind_congr
    intro place hPlace
    rcases hIndexed.index_eq_some_iff.mp hPlace with
      ⟨found, hFound⟩
    have hRange := (Array.getElem?_eq_some_iff.mp hFound).1
    rw [Array.getElem?_push, if_neg (Nat.ne_of_lt hRange)]

/- Binding a key leaves what the others are bound to. -/
theorem get?_set
    [Std.LawfulEqOrd K]
    (hIndexed : map.Indexed)
    (key other : K)
    (value : V) :
    (map.set key value).get? other =
      if key = other then
        some value
      else
        map.get? other := by
  cases hIndex : map.index.get? key with
  | some position =>
      exact hIndexed.get?_set_of_bound hIndex other value
  | none =>
      exact hIndexed.get?_set_of_unbound hIndex other value

end Indexed

end OrderedMap

end Scriptlet

------------------------------------------------------------
-- Sequences of Bindings
------------------------------------------------------------

namespace Scriptlet

namespace OrderedMap

variable {K V : Type} [Ord K]

/- Bind keys, from left to right. -/
def setAll
    (map : OrderedMap K V) :
    List (K × V) → OrderedMap K V
  | [] => map
  | (key, value) :: writes =>
      (map.set key value).setAll writes

/- The last one of several bindings is made last. -/
theorem setAll_concat
    (map : OrderedMap K V)
    (writes : List (K × V))
    (key : K)
    (value : V) :
    map.setAll (writes ++ [(key, value)]) =
      (map.setAll writes).set key value := by
  induction writes generalizing map with
  | nil => rfl
  | cons write writes ih => exact ih _

variable [Std.TransOrd K] [Std.LawfulEqOrd K]

/- A map that was made by binding keys is indexed. -/
theorem Indexed.setAll
    {map : OrderedMap K V}
    (hIndexed : map.Indexed)
    (writes : List (K × V)) :
    (map.setAll writes).Indexed := by
  induction writes generalizing map with
  | nil => exact hIndexed
  | cons write writes ih =>
      exact ih (hIndexed.set write.1 write.2)

theorem indexed_setAll (writes : List (K × V)) :
    ((empty : OrderedMap K V).setAll writes).Indexed :=
  indexed_empty.setAll writes

variable [DecidableEq K]

/- The keys stand in the order in which they first came. -/
theorem keys_setAll (writes : List (K × V)) :
    ((empty : OrderedMap K V).setAll writes).keys =
      (writes.map Prod.fst).eraseDups := by
  -- From the right: whether a key is new depends on the
  -- bindings before it.
  induction writes using List.reverseRecOn with
  | nil => rfl
  | append_singleton writes write ih =>
      have hIndexed := indexed_setAll writes
      have hKnown := hIndexed.contains_iff write.1
      rw [ih, List.mem_eraseDups] at hKnown
      rw [setAll_concat, List.map_append, List.map_singleton]
      by_cases hMem : write.1 ∈ writes.map Prod.fst
      · rw [eraseDups_concat_of_mem hMem, ← ih]
        exact hIndexed.keys_set_of_contains
          (hKnown.mpr hMem) write.2
      · rw [eraseDups_concat_of_not_mem hMem, ← ih]
        exact keys_set_of_not_contains
          (Bool.eq_false_iff.mpr (mt hKnown.mp hMem))
          write.2

/- Each key has the value that came last. -/
theorem get?_setAll
    (writes : List (K × V))
    (key : K) :
    ((empty : OrderedMap K V).setAll writes).get? key =
      writes.reverse.lookup key := by
  induction writes using List.reverseRecOn with
  | nil => rfl
  | append_singleton writes write ih =>
      rw [setAll_concat, (indexed_setAll writes).get?_set,
        ih, List.reverse_append, List.reverse_singleton,
        List.singleton_append, List.lookup_cons]
      by_cases hSame : write.1 = key
      · simp [hSame]
      · have hOther : (key == write.1) = false :=
          beq_false_of_ne (Ne.symm hSame)
        rw [if_neg hSame, hOther]

end OrderedMap

end Scriptlet
