import Scriptlet.Heap.Basic

/-
  How values are printed.

  A record shows its fields, but only one level of them: a
  record inside a record is abbreviated, so that printing
  ends also where objects refer to each other in a circle.

  Key definitions include:
    * `Heap.printed`
    * `Heap.printedField`
-/

------------------------------------------------------------
-- Printed Values
------------------------------------------------------------

namespace Scriptlet

namespace Heap

/- The printed form of a value that is not a record. -/
def printedAtom
    (heap : Heap)
    (interner : Interner) :
    Value → String
  | .undefined => "undefined"
  | .int value => toString value.toInt
  | .bool true => "true"
  | .bool false => "false"
  | .str value => value
  | .object _ => "[scope]"
  | .function id =>
      match heap.function? id with
      | some function =>
          "function " ++ interner.lookup function.name
      | none => "function "

/- The printed form of a value inside a record. -/
def printedField
    (heap : Heap)
    (interner : Interner)
    (value : Value) :
    String :=
  match value with
  | .object id =>
      if heap.isRecord id then
        "\x7b...\x7d"
      else
        heap.printedAtom interner value
  | _ => heap.printedAtom interner value

/- The printed form of a value. -/
def printed
    (heap : Heap)
    (interner : Interner)
    (value : Value) :
    String :=
  match value with
  | .object id =>
      if heap.isRecord id then
        let fields := (heap.fields id).map
          fun (name, field) =>
            interner.lookup name ++ ": "
              ++ heap.printedField interner field
        "\x7b" ++ String.intercalate ", " fields ++ "\x7d"
      else
        heap.printedAtom interner value
  | _ => heap.printedAtom interner value

end Heap

end Scriptlet
