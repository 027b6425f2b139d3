import Scriptlet.Syntax.Expr

/-
  Values of running programs.

  Objects and functions live in a heap and appear in values
  by their number there, so that equality of values is
  equality of contents for undefined, integers, booleans and
  strings, and identity for objects and functions.

  Key definitions include:
    * `Value`
    * `Value.typeName`
    * `Value.isTruthy`
    * `Value.compare?`
-/

------------------------------------------------------------
-- Values
------------------------------------------------------------

namespace Scriptlet

/- The number of an object in a heap. -/
structure ObjectId where
  index : Nat
deriving DecidableEq, Repr, Inhabited

/- The number of a function in a heap. -/
structure FunctionId where
  index : Nat
deriving DecidableEq, Repr, Inhabited

/- A dynamically typed value. -/
inductive Value where
  | undefined
  | int (value : Int32)
  | bool (value : Bool)
  | str (value : String)
  | object (id : ObjectId)
  | function (id : FunctionId)
deriving DecidableEq, Repr, Inhabited

namespace Value

/- The value of a constant. -/
def ofLiteral : Literal → Value
  | .undefined => .undefined
  | .int value => .int value
  | .bool value => .bool value
  | .str value => .str value

/- The answer of a comparison: one for yes, zero for no. -/
def ofFlag
    (flag : Bool) :
    Value :=
  .int (if flag then 1 else 0)

/- The name of a value's type, as error messages give it. -/
def typeName : Value → String
  | .undefined => "undefined"
  | .int _ => "int"
  | .bool _ => "bool"
  | .str _ => "string"
  | .object _ => "object"
  | .function _ => "function"

/- The integer zero is the only value that is false. -/
def isTruthy : Value → Bool
  | .int value => value != 0
  | _ => true

/- The object that a value refers to. -/
def object? : Value → Option ObjectId
  | .object id => some id
  | _ => none

/- The function that a value refers to. -/
def function? : Value → Option FunctionId
  | .function id => some id
  | _ => none

/-
  The order of two values. Two integers, two strings and two
  booleans are ordered, strings by code points; no other two
  values are.
-/
def compare? : Value → Value → Option Ordering
  | .int left, .int right =>
      some (compare left.toInt right.toInt)
  | .str left, .str right => some (compare left right)
  | .bool left, .bool right => some (compare left right)
  | _, _ => none

end Value

end Scriptlet
