import Scriptlet.Proofs.Value.Arithmetic
import Scriptlet.Proofs.Value.Comparison

/-
  Complaints about operands.

  An operator that complains about an operand names itself,
  the type of the operand and a type that it wanted instead.
  Arithmetic wants an integer where none is. A question of
  order wants the type of the left operand on the right, and
  so it wants what it was given if both have one type that
  is not ordered.

  Key theorems include:
    * `Operator.family`
    * `Operator.nonInteger?_eq_some`
    * `Operator.Calculates.complaint`
    * `Operator.Asks.complaint`
    * `complaints_name_types`
    * `order_wants_what_it_got`
-/

------------------------------------------------------------
-- Families of Operators
------------------------------------------------------------

namespace Scriptlet

namespace Operator

/- Operators calculate, test for equality or ask for order. -/
theorem family (op : Operator) :
    ((∃ divides compute, op.Calculates divides compute) ∧
        op ∉ [lt, le, gt, ge]) ∨
      (∃ test, op.Tests test) ∨
        op ∈ [lt, le, gt, ge] := by
  cases op with
  | add => exact .inl ⟨⟨_, _, calculates_add⟩, by decide⟩
  | sub => exact .inl ⟨⟨_, _, calculates_sub⟩, by decide⟩
  | mul => exact .inl ⟨⟨_, _, calculates_mul⟩, by decide⟩
  | div => exact .inl ⟨⟨_, _, calculates_div⟩, by decide⟩
  | rem => exact .inl ⟨⟨_, _, calculates_rem⟩, by decide⟩
  | eq => exact .inr (.inl ⟨_, tests_eq⟩)
  | ne => exact .inr (.inl ⟨_, tests_ne⟩)
  | lt => exact .inr (.inr (by decide))
  | le => exact .inr (.inr (by decide))
  | gt => exact .inr (.inr (by decide))
  | ge => exact .inr (.inr (by decide))

end Operator

end Scriptlet

------------------------------------------------------------
-- Complaints
------------------------------------------------------------

namespace Scriptlet

namespace Operator

variable {op : Operator} {left right : Value}
variable {symbol expected got : String}

theorem nonInteger?_eq_some
    {args : List Value}
    {other : Value}
    (hOther : nonInteger? args = some other) :
    other ∈ args ∧ other.typeName ≠ "int" := by
  induction args with
  | nil => cases hOther
  | cons arg args ih =>
      cases arg with
      | int value =>
          rcases ih hOther with ⟨hMem, hType⟩
          exact ⟨List.mem_cons_of_mem _ hMem, hType⟩
      | _ =>
          cases hOther
          exact ⟨List.mem_cons_self, by simp [Value.typeName]⟩

/- Arithmetic wants an integer instead of an operand. -/
theorem Calculates.complaint
    {divides : Bool}
    {compute : Int32 → Int32 → Int32}
    (hCalculates : op.Calculates divides compute)
    (hFails :
      op.apply [left, right] =
        .error (.wrongOperand symbol expected got)) :
    symbol = op.symbol ∧ expected = "int" ∧
      ∃ operand ∈ [left, right],
        got = operand.typeName ∧
          operand.typeName ≠ "int" := by
  rcases (hCalculates.wrongOperand_iff _ _ _ _).mp hFails
    with ⟨-, hSymbol, hExpected, other, hOther, hGot⟩
  rcases nonInteger?_eq_some hOther with ⟨hMem, hType⟩
  exact ⟨hSymbol, hExpected, other, hMem, hGot, hType⟩

/- A question of order wants the left type on the right. -/
theorem Asks.complaint
    {test : Ordering → Bool}
    (hAsks : op.Asks test)
    (hFails :
      op.apply [left, right] =
        .error (.wrongOperand symbol expected got)) :
    symbol = op.symbol ∧ expected = left.typeName ∧
      got = right.typeName := by
  by_cases hComparable : left.Comparable right
  · rcases hComparable.exists_compare? with ⟨order, hOrder⟩
    rw [hAsks.apply_of_compare? hOrder] at hFails
    cases hFails
  · rw [hAsks.apply_of_not_comparable hComparable] at hFails
    cases hFails
    exact ⟨rfl, rfl, rfl⟩

/- A test for equality does not complain of operands. -/
theorem Tests.ne_error
    {test : Value → Value → Bool}
    (hTests : op.Tests test)
    (cause : Cause) :
    op.apply [left, right] ≠ .error cause := by
  rw [hTests]
  nofun

end Operator

/-
  A complaint names the operator and the type of an operand.
  What it says was wanted is another type, except for
  questions about the order of two operands of one type that
  is not ordered: there it is the type that was given.
-/
theorem complaints_name_types
    (op : Operator)
    (left right : Value) :
    (∀ symbol expected got,
      op.apply [left, right] =
          .error (.wrongOperand symbol expected got) →
        symbol = op.symbol ∧
          (∃ operand ∈ [left, right],
            got = operand.typeName) ∧
          (∃ wanted : Value, expected = wanted.typeName) ∧
          (expected = got ↔
            op ∈ [Operator.lt, .le, .gt, .ge] ∧
              left.typeName = right.typeName)) ∧
      (op ∈ [Operator.lt, .le, .gt, .ge] →
        ¬ left.Comparable right →
          left.typeName = right.typeName →
            op.apply [left, right] =
              .error
                (.wrongOperand op.symbol left.typeName
                  left.typeName)) := by
  refine ⟨?_, ?_⟩
  · intro symbol expected got hFails
    rcases op.family with
      ⟨⟨_, _, hCalculates⟩, hOther⟩ | ⟨_, hTests⟩ | hOrder
    · rcases hCalculates.complaint hFails with
        ⟨hSymbol, rfl, operand, hMem, rfl, hType⟩
      refine
        ⟨hSymbol, ⟨operand, hMem, rfl⟩, ⟨.int 0, rfl⟩, ?_⟩
      constructor
      · intro hSame
        exact absurd hSame.symm hType
      · rintro ⟨hOrder, -⟩
        exact absurd hOrder hOther
    · exact absurd hFails (hTests.ne_error _)
    · rcases Operator.exists_asks hOrder with ⟨_, hAsks⟩
      rcases hAsks.complaint hFails with
        ⟨hSymbol, rfl, rfl⟩
      exact
        ⟨hSymbol, ⟨right, by simp, rfl⟩, ⟨left, rfl⟩,
          fun hSame => ⟨hOrder, hSame⟩, And.right⟩
  · intro hOrder hComparable hType
    rcases Operator.exists_asks hOrder with ⟨_, hAsks⟩
    rw [hAsks.apply_of_not_comparable hComparable, hType]

/- A sum with a string, and an order of two objects. -/
theorem complaints_name_types_mixed :
    Operator.add.apply [.int 1, .str "1"] =
        .error (.wrongOperand "+" "int" "string") ∧
      "int" ≠ "string" ∧
      ¬ (Value.object ⟨0⟩).Comparable (.object ⟨1⟩) ∧
      Operator.ge.apply [.object ⟨0⟩, .object ⟨1⟩] =
        .error (.wrongOperand ">=" "object" "object") := by
  have hFails :
      Operator.add.apply [.int 1, .str "1"] =
        .error (.wrongOperand "+" "int" "string") := rfl
  have hUnordered :
      ¬ (Value.object ⟨0⟩).Comparable (.object ⟨1⟩) := nofun
  rcases (complaints_name_types .add (.int 1) (.str "1")).1
      _ _ _ hFails with
    ⟨-, -, -, hSame⟩
  refine ⟨hFails, ?_, hUnordered, ?_⟩
  · intro hWanted
    exact absurd (hSame.mp hWanted).1 (by decide)
  · exact
      (complaints_name_types .ge (.object ⟨0⟩)
        (.object ⟨1⟩)).2 (by decide) hUnordered rfl

/-
  Asked whether nothing is less than nothing, an operator
  says that it wants the very type that it was given.
-/
theorem order_wants_what_it_got :
    ¬ ∀ (op : Operator) (left right : Value)
        (symbol expected got : String),
      op.apply [left, right] =
          .error (.wrongOperand symbol expected got) →
        expected ≠ got := by
  intro hTruthful
  have hFails :
      Operator.lt.apply [.undefined, .undefined] =
        .error
          (.wrongOperand "<" "undefined" "undefined") := rfl
  exact hTruthful _ _ _ _ _ _ hFails rfl

end Scriptlet
