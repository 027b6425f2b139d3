import Std.Data.TreeMap

/-
  Finite maps that remember the order of first insertion.

  The bindings stand in an array, oldest key first, and an
  index gives each key's position there. Writing to a key
  that is already bound keeps its position.

  Key definitions include:
    * `OrderedMap`
    * `OrderedMap.get?`
    * `OrderedMap.set`
    * `OrderedMap.toList`
-/

------------------------------------------------------------
-- Ordered Maps
------------------------------------------------------------

namespace Scriptlet

/-
  Bindings in order of first insertion, with the position of
  every key.
-/
structure OrderedMap
    (K V : Type)
    [Ord K] where
  slots : Array (K × V)
  index : Std.TreeMap K Nat

namespace OrderedMap

variable {K V : Type} [Ord K]

/- The map without bindings. -/
def empty : OrderedMap K V where
  slots := #[]
  index := Std.TreeMap.empty

instance : Inhabited (OrderedMap K V) :=
  ⟨empty⟩

/- The value bound to a key. -/
def get?
    (map : OrderedMap K V)
    (key : K) :
    Option V :=
  (map.index.get? key).bind fun position =>
    map.slots[position]?.map Prod.snd

/- Whether a key is bound. -/
def contains
    (map : OrderedMap K V)
    (key : K) :
    Bool :=
  map.index.contains key

/-
  Bind a key. A bound key keeps its position and takes the
  new value; any other key goes to the end.
-/
def set
    (map : OrderedMap K V)
    (key : K)
    (value : V) :
    OrderedMap K V :=
  match map.index.get? key with
  | some position =>
      { map with
        slots :=
          map.slots.setIfInBounds position (key, value) }
  | none =>
      { slots := map.slots.push (key, value)
        index := map.index.insert key map.slots.size }

/- The number of bound keys. -/
def size (map : OrderedMap K V) : Nat :=
  map.slots.size

/- Whether nothing is bound. -/
def isEmpty (map : OrderedMap K V) : Bool :=
  map.slots.isEmpty

/- The bindings, oldest key first. -/
def toList (map : OrderedMap K V) : List (K × V) :=
  map.slots.toList

/- The bound keys, oldest first. -/
def keys (map : OrderedMap K V) : List K :=
  map.toList.map Prod.fst

end OrderedMap

end Scriptlet
