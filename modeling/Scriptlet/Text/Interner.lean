import Std.Data.TreeMap

/-
  Interned names.

  An interner numbers the strings it has seen, from zero, in
  the order in which it first saw them. A name is such a
  number, so that two names handed out by one interner are
  equal exactly when their strings are. The empty string is
  always number zero.

  Key definitions include:
    * `Name`
    * `Interner`
    * `Interner.lookup`
    * `Interner.intern`
    * `Interner.internBounded`

  Key theorems include:
    * `Name.compare_eq`
-/

------------------------------------------------------------
-- Names
------------------------------------------------------------

namespace Scriptlet

/- The number of a string in an interner's table. -/
structure Name where
  index : Nat
deriving DecidableEq, Repr, Inhabited

namespace Name

/- Names are ordered by when their strings were first seen. -/
instance : Ord Name where
  compare left right := compare left.index right.index

/- The name of the empty string in every interner. -/
def empty : Name :=
  ⟨0⟩

/- Names compare as their numbers do. -/
theorem compare_eq
    (left right : Name) :
    compare left right =
      compare left.index right.index := by
  rfl

/- The order of names is total and transitive. -/
instance : Std.TransOrd Name where
  eq_swap := by
    intro left right
    simp only [compare_eq]
    exact Std.OrientedOrd.eq_swap
  isLE_trans := by
    intro left middle right hLeft hRight
    simp only [compare_eq] at hLeft hRight ⊢
    exact Std.TransOrd.isLE_trans hLeft hRight

/- No two names share a place in the order. -/
instance : Std.LawfulEqOrd Name where
  compare_self := by
    intro name
    exact Std.ReflOrd.compare_self
  eq_of_compare := by
    intro left right hEqual
    simp only [compare_eq] at hEqual
    have hIndex : left.index = right.index :=
      Std.LawfulEqOrd.eq_of_compare hEqual
    cases left
    cases right
    simp_all

end Name

end Scriptlet

------------------------------------------------------------
-- The Table
------------------------------------------------------------

namespace Scriptlet

/-
  A string table, kept twice: `strings` reads a name, and
  `names` finds the name of a string.
-/
structure Interner where
  strings : Array String
  names : Std.TreeMap String Name

/- A table with no room for one more string. -/
structure TableFull where
  count : Nat
deriving DecidableEq, Repr

/- The most strings that 32-bit names can tell apart. -/
def Interner.capacity : Nat :=
  4294967296

/-
  How a full table is reported, with the greatest number
  that a name can have.
-/
def TableFull.message
    (full : TableFull) :
    String :=
  "interner exceeded capacity: " ++ toString full.count
    ++ " strings, max is "
    ++ toString (Interner.capacity - 1)

namespace Interner

/- The table that holds only the empty string. -/
def new : Interner where
  strings := #[""]
  names := Std.TreeMap.empty.insert "" Name.empty

/- The name of a string that was seen before. -/
def find?
    (interner : Interner)
    (text : String) :
    Option Name :=
  interner.names.get? text

/- How many strings the table holds. -/
def size (interner : Interner) : Nat :=
  interner.strings.size

/- A table is empty when it holds only the empty string. -/
def isEmpty (interner : Interner) : Bool :=
  interner.size ≤ 1

/-
  The string of a name. A name that this table never handed
  out reads as the empty string.
-/
def lookup
    (interner : Interner)
    (name : Name) :
    String :=
  interner.strings[name.index]?.getD ""

/- Put a string at the end of the table. -/
def push
    (interner : Interner)
    (text : String) :
    Name × Interner :=
  let name : Name := ⟨interner.strings.size⟩
  (name,
    { strings := interner.strings.push text
      names := interner.names.insert text name })

/-
  The name of a string, which is added if it is new. This
  goes on beyond `capacity`, where names of 32 bits do not:
  a program that has a new string for a full table stops
  there. Up to then it gives what `internBounded` gives.
-/
def intern
    (interner : Interner)
    (text : String) :
    Name × Interner :=
  match interner.find? text with
  | some name => (name, interner)
  | none => interner.push text

/-
  Intern a string if there is room. A full table still
  answers for the strings it holds, and refuses a new one
  without changing.
-/
def internBounded
    (interner : Interner)
    (text : String) :
    Except TableFull Name × Interner :=
  match interner.find? text with
  | some name => (.ok name, interner)
  | none =>
      if interner.size < capacity then
        let (name, interner) := interner.push text
        (.ok name, interner)
      else
        (.error { count := interner.size }, interner)

/- Intern several strings, from left to right. -/
def internAll
    (interner : Interner) :
    List String → List Name × Interner
  | [] => ([], interner)
  | text :: texts =>
      let (name, interner) := interner.intern text
      let (names, interner) := interner.internAll texts
      (name :: names, interner)

end Interner

end Scriptlet
