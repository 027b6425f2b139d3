import Mathlib.Data.Int.ModEq
import Scriptlet.Value.Operator

/-
  Arithmetic on 32-bit integers.

  Arithmetic operators take two integers, complain about the
  first thing that is wrong with their operands, and compute
  exactly up to a multiple of two to the power of 32. What a
  division loses is the remainder, even where the quotient
  does not fit.

  Key definitions include:
    * `Operator.nonInteger?`
    * `Operator.Calculates`
    * `Operator.Exact`

  Key theorems include:
    * `Operator.Calculates.apply_cases`
    * `Operator.Calculates.exact`
    * `Int32.modEq_iff_eq`
    * `Int32.div_mul_add_mod`
    * `Operator.undo_division`
    * `arithmetic_exact`
-/

------------------------------------------------------------
-- Operands
------------------------------------------------------------

namespace Scriptlet

namespace Operator

/- The first operand that is not an integer. -/
def nonInteger? : List Value → Option Value
  | [] => none
  | .int _ :: args => nonInteger? args
  | other :: _ => some other

/-
  Operands are too few or too many, or one of them is not an
  integer, or they are two integers.
-/
theorem intOperands_cases
    (op : Operator)
    (args : List Value) :
    (args.length ≠ 2 ∧
        op.intOperands args =
          .error
            (.wrongArgumentCount op.symbol 2
              args.length)) ∨
      (∃ other,
        args.length = 2 ∧ nonInteger? args = some other ∧
          op.intOperands args =
            .error
              (.wrongOperand op.symbol "int"
                other.typeName)) ∨
        ∃ left right,
          args = [.int left, .int right] ∧
            op.intOperands args = .ok (left, right) := by
  match args with
  | [] => exact .inl ⟨nofun, rfl⟩
  | [_] => exact .inl ⟨nofun, rfl⟩
  | _ :: _ :: _ :: _ => exact .inl ⟨nofun, rfl⟩
  | [left, right] =>
      refine .inr ?_
      cases left with
      | int left =>
          cases right with
          | int right => exact .inr ⟨left, right, rfl, rfl⟩
          | _ => exact .inl ⟨_, rfl, rfl, rfl⟩
      | _ => exact .inl ⟨_, rfl, rfl, rfl⟩

end Operator

end Scriptlet

------------------------------------------------------------
-- Calculations
------------------------------------------------------------

namespace Scriptlet

namespace Operator

/-
  What is made of two integers: a division by zero is not
  carried out, and everything else is computed.
-/
def calculate
    (divides : Bool)
    (compute : Int32 → Int32 → Int32)
    (left right : Int32) :
    Except Cause Value :=
  if divides = true ∧ right = 0 then
    .error .divisionByZero
  else
    .ok (.int (compute left right))

theorem calculate_eq_error_iff
    {divides : Bool}
    {compute : Int32 → Int32 → Int32}
    {left right : Int32}
    {cause : Cause} :
    calculate divides compute left right = .error cause ↔
      divides = true ∧ right = 0 ∧
        cause = .divisionByZero := by
  rw [calculate]
  split
  case isTrue hZero =>
    constructor
    · intro hError
      injection hError with hCause
      exact ⟨hZero.1, hZero.2, hCause.symm⟩
    · rintro ⟨-, -, rfl⟩
      rfl
  case isFalse hZero =>
    constructor
    · intro hError
      cases hError
    · rintro ⟨hDivides, hRight, -⟩
      exact absurd ⟨hDivides, hRight⟩ hZero

/- An operator that computes with two integers. -/
def Calculates
    (op : Operator)
    (divides : Bool)
    (compute : Int32 → Int32 → Int32) : Prop :=
  ∀ args,
    op.apply args =
      op.intOperands args >>= fun operands =>
        calculate divides compute operands.1 operands.2

section Calculates

variable
  {op : Operator}
  {divides : Bool}
  {compute : Int32 → Int32 → Int32}

theorem calculates_of_arithmetic
    (hApply : op.apply = op.arithmetic compute) :
    op.Calculates false compute := by
  intro args
  rw [hApply]
  simp only [calculate, Bool.false_eq_true, false_and,
    if_false]
  rfl

theorem calculates_of_division
    (hApply : op.apply = op.division compute) :
    op.Calculates true compute := by
  intro args
  rw [hApply]
  simp only [calculate, true_and]
  rfl

theorem Calculates.apply_ints
    (hCalculates : op.Calculates divides compute)
    (left right : Int32) :
    op.apply [.int left, .int right] =
      calculate divides compute left right :=
  hCalculates _

theorem Calculates.apply_ints_of_divisible
    (hCalculates : op.Calculates divides compute)
    {left right : Int32}
    (hRight : divides = true → right ≠ 0) :
    op.apply [.int left, .int right] =
      .ok (.int (compute left right)) := by
  rw [hCalculates.apply_ints, calculate, if_neg]
  rintro ⟨hDivides, hZero⟩
  exact hRight hDivides hZero

/- How a calculation can end. -/
theorem Calculates.apply_cases
    (hCalculates : op.Calculates divides compute)
    (args : List Value) :
    (args.length ≠ 2 ∧
        op.apply args =
          .error
            (.wrongArgumentCount op.symbol 2
              args.length)) ∨
      (∃ other,
        args.length = 2 ∧ nonInteger? args = some other ∧
          op.apply args =
            .error
              (.wrongOperand op.symbol "int"
                other.typeName)) ∨
        ∃ left right,
          args = [.int left, .int right] ∧
            op.apply args =
              calculate divides compute left right := by
  rw [hCalculates args]
  rcases op.intOperands_cases args with
    ⟨hLength, hOperands⟩ |
      ⟨other, hLength, hOther, hOperands⟩ |
      ⟨left, right, hArgs, hOperands⟩
  · rw [hOperands]
    exact .inl ⟨hLength, rfl⟩
  · rw [hOperands]
    exact .inr (.inl ⟨other, hLength, hOther, rfl⟩)
  · rw [hOperands]
    exact .inr (.inr ⟨left, right, hArgs, rfl⟩)

end Calculates

end Operator

end Scriptlet

------------------------------------------------------------
-- Residues
------------------------------------------------------------

namespace Scriptlet

namespace Int32

/- There is one 32-bit integer for each residue. -/
theorem modEq_iff_eq
    {result : Int32}
    {exact : Int}
    (hResult : result.toInt = exact.bmod (2 ^ 32))
    (other : Int32) :
    other.toInt ≡ exact [ZMOD 2 ^ 32] ↔ other = result := by
  rw [← Int32.toInt_inj, hResult]
  constructor
  · intro hSame
    have hOther : other.toInt.bmod (2 ^ 32) = other.toInt :=
      other.toInt_bmod
    rw [← hOther, ← Int.emod_bmod, ← Int.emod_bmod exact]
    exact congrArg (Int.bmod · (2 ^ 32)) hSame
  · intro hSame
    rw [hSame]
    exact Int.bmod_emod

/-
  Quotient and remainder give back the dividend, also where
  the quotient wraps.
-/
theorem div_mul_add_mod (left right : Int32) :
    left / right * right + left % right = left := by
  -- Wrapping the parts does not matter when the whole is
  -- wrapped, which leaves the identity of exact division.
  apply Int32.toInt_inj.mp
  rw [Int32.toInt_add, Int32.toInt_mul, Int32.toInt_div,
    Int32.toInt_mod, Int.bmod_mul_bmod, Int.bmod_add_bmod,
    Int.tdiv_mul_add_tmod]
  exact left.toInt_bmod

/- A remainder is smaller than the divisor. -/
theorem natAbs_mod_lt
    (left : Int32)
    {right : Int32}
    (hRight : right ≠ 0) :
    (left % right).toInt.natAbs < right.toInt.natAbs := by
  have hZero : right.toInt ≠ 0 := by
    intro hZero
    exact hRight (Int32.toInt_inj.mp hZero)
  rw [Int32.toInt_mod, Int.natAbs_tmod]
  exact Nat.mod_lt _ (Int.natAbs_pos.mpr hZero)

/- A remainder fits, so that nothing of it wraps. -/
theorem toInt_mod_eq_bmod (left right : Int32) :
    (left % right).toInt =
      (left.toInt.tmod right.toInt).bmod (2 ^ 32) := by
  rw [← Int32.toInt_mod]
  exact (left % right).toInt_bmod.symm

end Int32

end Scriptlet

------------------------------------------------------------
-- Failures
------------------------------------------------------------

namespace Scriptlet

namespace Operator

section Failures

variable
  {op : Operator}
  {divides : Bool}
  {compute : Int32 → Int32 → Int32}

/- Only the number of operands is looked at first. -/
theorem Calculates.wrongArgumentCount_iff
    (hCalculates : op.Calculates divides compute)
    (args : List Value)
    (name : String)
    (expected given : Nat) :
    op.apply args =
        .error (.wrongArgumentCount name expected given) ↔
      args.length ≠ 2 ∧ name = op.symbol ∧
        expected = 2 ∧ given = args.length := by
  rcases hCalculates.apply_cases args with
    ⟨hLength, hApply⟩ | ⟨other, hLength, -, hApply⟩ |
      ⟨left, right, rfl, hApply⟩
  · rw [hApply]
    simp [hLength, eq_comm]
  · rw [hApply]
    simp [hLength]
  · rw [hApply, calculate_eq_error_iff]
    simp

/- Of two operands, the left one is looked at first. -/
theorem Calculates.wrongOperand_iff
    (hCalculates : op.Calculates divides compute)
    (args : List Value)
    (symbol expected got : String) :
    op.apply args =
        .error (.wrongOperand symbol expected got) ↔
      args.length = 2 ∧ symbol = op.symbol ∧
        expected = "int" ∧
        ∃ other,
          nonInteger? args = some other ∧
            got = other.typeName := by
  rcases hCalculates.apply_cases args with
    ⟨hLength, hApply⟩ | ⟨other, hLength, hOther, hApply⟩ |
      ⟨left, right, rfl, hApply⟩
  · rw [hApply]
    simp [hLength]
  · rw [hApply]
    simp [hLength, hOther, eq_comm]
  · rw [hApply, calculate_eq_error_iff]
    simp [nonInteger?]

/- The divisor is looked at when both are integers. -/
theorem Calculates.divisionByZero_iff
    (hCalculates : op.Calculates divides compute)
    (args : List Value) :
    op.apply args = .error .divisionByZero ↔
      divides = true ∧
        ∃ left, args = [.int left, .int 0] := by
  rcases hCalculates.apply_cases args with
    ⟨hLength, hApply⟩ | ⟨other, -, hOther, hApply⟩ |
      ⟨left, right, rfl, hApply⟩
  · rw [hApply]
    constructor
    · intro hError
      cases hError
    · rintro ⟨-, left, rfl⟩
      exact absurd rfl hLength
  · rw [hApply]
    constructor
    · intro hError
      cases hError
    · rintro ⟨-, left, rfl⟩
      cases hOther
  · rw [hApply, calculate_eq_error_iff]
    simp

end Failures

end Operator

end Scriptlet

------------------------------------------------------------
-- Exactness
------------------------------------------------------------

namespace Scriptlet

namespace Operator

/-
  Every way in which an operator on integers can end. A
  division fails where the divisor is zero, and a result is
  the only 32-bit integer with the residue of the exact one.
-/
structure Exact
    (op : Operator)
    (divides : Bool)
    (exact : Int → Int → Int) : Prop where
  count :
    ∀ args name expected given,
      op.apply args =
          .error (.wrongArgumentCount name expected given) ↔
        args.length ≠ 2 ∧ name = op.symbol ∧
          expected = 2 ∧ given = args.length
  operand :
    ∀ args symbol expected got,
      op.apply args =
          .error (.wrongOperand symbol expected got) ↔
        args.length = 2 ∧ symbol = op.symbol ∧
          expected = "int" ∧
          ∃ other,
            nonInteger? args = some other ∧
              got = other.typeName
  zero :
    ∀ args,
      op.apply args = .error .divisionByZero ↔
        divides = true ∧
          ∃ left, args = [.int left, .int 0]
  result :
    ∀ left right : Int32,
      (divides = true → right ≠ 0) →
        ∃ result,
          op.apply [.int left, .int right] =
              .ok (.int result) ∧
            ∀ other : Int32,
              other.toInt ≡
                  exact left.toInt right.toInt
                  [ZMOD 2 ^ 32] ↔
                other = result

/-
  A calculation is exact when its results wrap the exact
  ones.
-/
theorem Calculates.exact
    {op : Operator}
    {divides : Bool}
    {compute : Int32 → Int32 → Int32}
    {exact : Int → Int → Int}
    (hCalculates : op.Calculates divides compute)
    (hCompute :
      ∀ left right,
        (compute left right).toInt =
          (exact left.toInt right.toInt).bmod (2 ^ 32)) :
    op.Exact divides exact where
  count := hCalculates.wrongArgumentCount_iff
  operand := hCalculates.wrongOperand_iff
  zero := hCalculates.divisionByZero_iff
  result left right hRight :=
    ⟨compute left right,
      hCalculates.apply_ints_of_divisible hRight,
      Int32.modEq_iff_eq (hCompute left right)⟩

end Operator

end Scriptlet

------------------------------------------------------------
-- The Arithmetic Contract
------------------------------------------------------------

namespace Scriptlet

namespace Operator

theorem calculates_add : add.Calculates false (· + ·) :=
  calculates_of_arithmetic rfl

theorem calculates_sub : sub.Calculates false (· - ·) :=
  calculates_of_arithmetic rfl

theorem calculates_mul : mul.Calculates false (· * ·) :=
  calculates_of_arithmetic rfl

theorem calculates_div : div.Calculates true (· / ·) :=
  calculates_of_division rfl

theorem calculates_rem : rem.Calculates true (· % ·) :=
  calculates_of_division rfl

/-
  A quotient, multiplied by the divisor and added to the
  remainder, is the dividend again.
-/
theorem undo_division
    (left : Int32)
    {right : Int32}
    (hRight : right ≠ 0) :
    ∃ quotient remainder product : Int32,
      div.apply [.int left, .int right] =
          .ok (.int quotient) ∧
        rem.apply [.int left, .int right] =
          .ok (.int remainder) ∧
        mul.apply [.int quotient, .int right] =
          .ok (.int product) ∧
        add.apply [.int product, .int remainder] =
          .ok (.int left) ∧
        remainder.toInt.natAbs < right.toInt.natAbs := by
  refine
    ⟨left / right, left % right, left / right * right,
      ?_, ?_, ?_, ?_, ?_⟩
  · exact
      calculates_div.apply_ints_of_divisible fun _ => hRight
  · exact
      calculates_rem.apply_ints_of_divisible fun _ => hRight
  · exact calculates_mul.apply_ints_of_divisible nofun
  · rw [calculates_add.apply_ints_of_divisible nofun,
      Int32.div_mul_add_mod]
  · exact Int32.natAbs_mod_lt left hRight

end Operator

/-
  Arithmetic fails for the first thing that is wrong with
  the operands and is exact up to wrapping otherwise. The
  one quotient that does not fit wraps, with no remainder,
  and division can be undone for every divisor but zero.
-/
theorem arithmetic_exact :
    Operator.add.Exact false (· + ·) ∧
      Operator.sub.Exact false (· - ·) ∧
      Operator.mul.Exact false (· * ·) ∧
      Operator.div.Exact true Int.tdiv ∧
      Operator.rem.Exact true Int.tmod ∧
      Operator.div.apply
          [.int Int32.minValue, .int (-1)] =
        .ok (.int Int32.minValue) ∧
      Operator.rem.apply
          [.int Int32.minValue, .int (-1)] =
        .ok (.int 0) ∧
      ∀ left right : Int32,
        right ≠ 0 →
          ∃ quotient remainder product : Int32,
            Operator.div.apply [.int left, .int right] =
                .ok (.int quotient) ∧
              Operator.rem.apply [.int left, .int right] =
                .ok (.int remainder) ∧
              Operator.mul.apply
                  [.int quotient, .int right] =
                .ok (.int product) ∧
              Operator.add.apply
                  [.int product, .int remainder] =
                .ok (.int left) ∧
              remainder.toInt.natAbs <
                right.toInt.natAbs := by
  refine ⟨?_, ?_, ?_, ?_, ?_, by decide, by decide, ?_⟩
  · exact Operator.calculates_add.exact Int32.toInt_add
  · exact Operator.calculates_sub.exact Int32.toInt_sub
  · exact Operator.calculates_mul.exact Int32.toInt_mul
  · exact Operator.calculates_div.exact Int32.toInt_div
  · exact
      Operator.calculates_rem.exact Int32.toInt_mod_eq_bmod
  · intro left right hRight
    exact Operator.undo_division left hRight

/- A quotient and a remainder below zero. -/
theorem arithmetic_exact_negative :
    (2 : Int32) ≠ 0 ∧
      Operator.div.apply [.int (-7), .int 2] =
        .ok (.int (-3)) ∧
      Operator.rem.apply [.int (-7), .int 2] =
        .ok (.int (-1)) ∧
      ∃ quotient remainder product : Int32,
        Operator.div.apply [.int (-7), .int 2] =
            .ok (.int quotient) ∧
          Operator.rem.apply [.int (-7), .int 2] =
            .ok (.int remainder) ∧
          Operator.mul.apply [.int quotient, .int 2] =
            .ok (.int product) ∧
          Operator.add.apply
              [.int product, .int remainder] =
            .ok (.int (-7)) ∧
          remainder.toInt.natAbs <
            (2 : Int32).toInt.natAbs := by
  obtain ⟨-, -, -, -, -, -, -, hUndo⟩ := arithmetic_exact
  exact
    ⟨by decide, by decide, by decide,
      hUndo (-7) 2 (by decide)⟩

end Scriptlet
