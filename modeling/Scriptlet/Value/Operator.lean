import Scriptlet.Fault.Failure
import Scriptlet.Value.Basic

/-
  Arithmetic and comparison.

  An operator takes exactly two operands. Arithmetic is on
  32-bit integers: sums, differences, products and quotients
  wrap, a quotient is truncated toward zero, and a remainder
  has the sign of the dividend. Comparisons answer one or
  zero.

  Key definitions include:
    * `Operator`
    * `Operator.symbol`
    * `Operator.all`
    * `Operator.apply`
-/

------------------------------------------------------------
-- Operators
------------------------------------------------------------

namespace Scriptlet

/- The operators that every program can use. -/
inductive Operator where
  | add
  | sub
  | mul
  | div
  | rem
  | eq
  | ne
  | lt
  | le
  | gt
  | ge
deriving DecidableEq, Repr

namespace Operator

/- How an operator is written. -/
def symbol : Operator → String
  | .add => "+"
  | .sub => "-"
  | .mul => "*"
  | .div => "/"
  | .rem => "%"
  | .eq => "=="
  | .ne => "!="
  | .lt => "<"
  | .le => "<="
  | .gt => ">"
  | .ge => ">="

/- The operators in the order in which they are bound. -/
def all : List Operator :=
  [.add, .sub, .mul, .div, .rem, .eq, .ne,
    .lt, .le, .gt, .ge]

end Operator

end Scriptlet

------------------------------------------------------------
-- Operands
------------------------------------------------------------

namespace Scriptlet

namespace Operator

/- The two operands of an operator. -/
def operands
    (op : Operator) :
    List Value → Except Cause (Value × Value)
  | [left, right] => .ok (left, right)
  | args =>
      .error (.wrongArgumentCount op.symbol 2 args.length)

/-
  Two integer operands. The leftmost operand that is not an
  integer is the one that is reported.
-/
def intOperands
    (op : Operator)
    (args : List Value) :
    Except Cause (Int32 × Int32) :=
  match op.operands args with
  | .error cause => .error cause
  | .ok (.int left, .int right) => .ok (left, right)
  | .ok (.int _, other) =>
      .error (.wrongOperand op.symbol "int" other.typeName)
  | .ok (other, _) =>
      .error (.wrongOperand op.symbol "int" other.typeName)

/-
  The order of two operands. When they have none, the type
  of the left one is what was expected of the right one.
-/
def ordering
    (op : Operator)
    (args : List Value) :
    Except Cause Ordering :=
  match op.operands args with
  | .error cause => .error cause
  | .ok (left, right) =>
      match left.compare? right with
      | some order => .ok order
      | none =>
          .error
            (.wrongOperand op.symbol
              left.typeName right.typeName)

end Operator

end Scriptlet

------------------------------------------------------------
-- Application
------------------------------------------------------------

namespace Scriptlet

namespace Operator

/- A total integer operation on two integer operands. -/
def arithmetic
    (op : Operator)
    (compute : Int32 → Int32 → Int32)
    (args : List Value) :
    Except Cause Value := do
  let (left, right) ← op.intOperands args
  return .int (compute left right)

/- An integer operation that needs a nonzero divisor. -/
def division
    (op : Operator)
    (compute : Int32 → Int32 → Int32)
    (args : List Value) :
    Except Cause Value := do
  let (left, right) ← op.intOperands args
  if right = 0 then
    throw .divisionByZero
  else
    return .int (compute left right)

/- A question about the equality of two operands. -/
def equality
    (op : Operator)
    (test : Value → Value → Bool)
    (args : List Value) :
    Except Cause Value := do
  let (left, right) ← op.operands args
  return .ofFlag (test left right)

/- A question about the order of two operands. -/
def comparison
    (op : Operator)
    (test : Ordering → Bool)
    (args : List Value) :
    Except Cause Value := do
  let order ← op.ordering args
  return .ofFlag (test order)

/- What an operator makes of its arguments. -/
def apply
    (op : Operator)
    (args : List Value) :
    Except Cause Value :=
  match op with
  | .add => op.arithmetic (· + ·) args
  | .sub => op.arithmetic (· - ·) args
  | .mul => op.arithmetic (· * ·) args
  | .div => op.division (· / ·) args
  | .rem => op.division (· % ·) args
  | .eq => op.equality (· == ·) args
  | .ne => op.equality (· != ·) args
  | .lt => op.comparison Ordering.isLT args
  | .le => op.comparison Ordering.isLE args
  | .gt => op.comparison Ordering.isGT args
  | .ge => op.comparison Ordering.isGE args

end Operator

end Scriptlet
