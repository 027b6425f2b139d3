import Scriptlet.Proofs.Text.ByteOrder
import Scriptlet.Value.Operator

/-
  Equality and order of values.

  Any two values are equal or not. Two integers, two strings
  or two booleans also stand in an order, which agrees with
  equality; all other values stand in none, and questions
  about it fail. Strings are in the order of their bytes.

  Key definitions include:
    * `Value.Comparable`
    * `Operator.Affirms`
    * `Operator.Denies`
    * `Operator.Asks`
    * `Operator.Relaxes`
    * `Operator.Chains`
    * `Operator.Arranges`
    * `Operator.Equates`

  Key theorems include:
    * `Value.compare?_eq_none_iff`
    * `Value.Comparable.compare?_eq_iff`
    * `Value.compare?_swap`
    * `Value.compare?_lt_trans`
    * `Operator.Asks.affirms_iff`
    * `Operator.Asks.apply_of_not_comparable`
    * `comparisons_coherent`
-/

------------------------------------------------------------
-- The Order of Values
------------------------------------------------------------

namespace Scriptlet

namespace Value

/- Two values of a type that is ordered. -/
inductive Comparable : Value → Value → Prop where
  | ints (left right : Int32) :
      Comparable (.int left) (.int right)
  | strings (left right : String) :
      Comparable (.str left) (.str right)
  | bools (left right : Bool) :
      Comparable (.bool left) (.bool right)

variable {left middle right : Value}

theorem Comparable.exists_compare?
    (hComparable : left.Comparable right) :
    ∃ order, left.compare? right = some order := by
  cases hComparable with
  | ints left right => exact ⟨_, rfl⟩
  | strings left right => exact ⟨_, rfl⟩
  | bools left right => exact ⟨_, rfl⟩

theorem comparable_of_compare?
    {order : Ordering}
    (hOrder : left.compare? right = some order) :
    left.Comparable right := by
  unfold compare? at hOrder
  split at hOrder
  case h_1 left right => exact .ints left right
  case h_2 left right => exact .strings left right
  case h_3 left right => exact .bools left right
  case h_4 => cases hOrder

/- Other values do not compare. -/
theorem compare?_eq_none_iff :
    left.compare? right = none ↔
      ¬ left.Comparable right := by
  constructor
  · intro hNone hComparable
    rcases hComparable.exists_compare? with ⟨order, hOrder⟩
    rw [hNone] at hOrder
    cases hOrder
  · intro hOther
    cases hOrder : left.compare? right with
    | none => rfl
    | some order =>
        exact absurd (comparable_of_compare? hOrder) hOther

/- Those that compare as equal are the same. -/
theorem Comparable.compare?_eq_iff
    (hComparable : left.Comparable right) :
    left.compare? right = some .eq ↔ left = right := by
  cases hComparable with
  | ints left right =>
      rw [compare?, Option.some_inj, Std.compare_eq_iff_eq,
        Int32.toInt_inj, Value.int.injEq]
  | strings left right =>
      rw [compare?, Option.some_inj, Std.compare_eq_iff_eq,
        Value.str.injEq]
  | bools left right =>
      rw [compare?, Option.some_inj, Std.compare_eq_iff_eq,
        Value.bool.injEq]

theorem compare?_swap (left right : Value) :
    right.compare? left =
      (left.compare? right).map Ordering.swap := by
  by_cases hComparable : left.Comparable right
  · cases hComparable with
    | ints left right =>
        exact congrArg some Std.OrientedOrd.eq_swap
    | strings left right =>
        exact congrArg some Std.OrientedOrd.eq_swap
    | bools left right =>
        exact congrArg some Std.OrientedOrd.eq_swap
  · have hReverse : ¬ right.Comparable left := by
      rintro (_ | _ | _)
      · exact hComparable (.ints _ _)
      · exact hComparable (.strings _ _)
      · exact hComparable (.bools _ _)
    rw [compare?_eq_none_iff.mpr hComparable,
      compare?_eq_none_iff.mpr hReverse]
    rfl

theorem compare?_lt_trans
    (hLeft : left.compare? middle = some .lt)
    (hRight : middle.compare? right = some .lt) :
    left.compare? right = some .lt := by
  cases comparable_of_compare? hLeft with
  | ints left middle =>
      cases comparable_of_compare? hRight with
      | ints middle right =>
          exact congrArg some (Std.TransCmp.lt_trans
            (Option.some.inj hLeft) (Option.some.inj hRight))
  | strings left middle =>
      cases comparable_of_compare? hRight with
      | strings middle right =>
          exact congrArg some (Std.TransCmp.lt_trans
            (Option.some.inj hLeft) (Option.some.inj hRight))
  | bools left middle =>
      cases comparable_of_compare? hRight with
      | bools middle right =>
          exact congrArg some (Std.TransCmp.lt_trans
            (Option.some.inj hLeft) (Option.some.inj hRight))

end Value

end Scriptlet

------------------------------------------------------------
-- Questions
------------------------------------------------------------

namespace Scriptlet

namespace Operator

/- An operator answers that it is so. -/
def Affirms
    (op : Operator)
    (left right : Value) : Prop :=
  op.apply [left, right] = .ok (.int 1)

/- An operator answers that it is not so. -/
def Denies
    (op : Operator)
    (left right : Value) : Prop :=
  op.apply [left, right] = .ok (.int 0)

/- An operator that asks about the order of two values. -/
def Asks
    (op : Operator)
    (test : Ordering → Bool) : Prop :=
  op.apply = op.comparison test

/- An operator that asks something about any two values. -/
def Tests
    (op : Operator)
    (test : Value → Value → Bool) : Prop :=
  op.apply = op.equality test

theorem ok_ofFlag_eq_one_iff (flag : Bool) :
    (Except.ok (.ofFlag flag) : Except Cause Value) =
        .ok (.int 1) ↔
      flag = true := by
  rw [Except.ok.injEq]
  cases flag <;> decide

theorem ok_ofFlag_eq_zero_iff (flag : Bool) :
    (Except.ok (.ofFlag flag) : Except Cause Value) =
        .ok (.int 0) ↔
      flag = false := by
  rw [Except.ok.injEq]
  cases flag <;> decide

variable {op : Operator} {left right : Value}

section Tests

variable {test : Value → Value → Bool}

theorem Tests.affirms_iff
    (hTests : op.Tests test) :
    op.Affirms left right ↔ test left right = true := by
  unfold Affirms
  rw [hTests]
  exact ok_ofFlag_eq_one_iff _

theorem Tests.denies_iff
    (hTests : op.Tests test) :
    op.Denies left right ↔ test left right = false := by
  unfold Denies
  rw [hTests]
  exact ok_ofFlag_eq_zero_iff _

end Tests

section Asks

variable {test : Ordering → Bool}

theorem Asks.apply_of_compare?
    (hAsks : op.Asks test)
    {order : Ordering}
    (hOrder : left.compare? right = some order) :
    op.apply [left, right] =
      .ok (.ofFlag (test order)) := by
  rw [hAsks, comparison, ordering, operands]
  simp only [hOrder]
  rfl

/- Without an order there is no answer. -/
theorem Asks.apply_of_not_comparable
    (hAsks : op.Asks test)
    (hOther : ¬ left.Comparable right) :
    op.apply [left, right] =
      .error
        (.wrongOperand op.symbol left.typeName
          right.typeName) := by
  rw [hAsks, comparison, ordering, operands]
  simp only [Value.compare?_eq_none_iff.mpr hOther]
  rfl

theorem Asks.affirms_iff
    (hAsks : op.Asks test) :
    op.Affirms left right ↔
      ∃ order,
        left.compare? right = some order ∧
          test order = true := by
  unfold Affirms
  by_cases hComparable : left.Comparable right
  · rcases hComparable.exists_compare? with ⟨order, hOrder⟩
    rw [hAsks.apply_of_compare? hOrder,
      ok_ofFlag_eq_one_iff]
    simp [hOrder]
  · rw [hAsks.apply_of_not_comparable hComparable]
    simp [Value.compare?_eq_none_iff.mpr hComparable]

/- Questions about an order are answered by yes or no. -/
theorem Asks.denies_iff
    (hAsks : op.Asks test)
    (hComparable : left.Comparable right) :
    op.Denies left right ↔ ¬ op.Affirms left right := by
  unfold Affirms Denies
  rcases hComparable.exists_compare? with ⟨order, hOrder⟩
  rw [hAsks.apply_of_compare? hOrder, ok_ofFlag_eq_one_iff,
    ok_ofFlag_eq_zero_iff, Bool.not_eq_true]

end Asks

theorem tests_eq : eq.Tests (· == ·) := rfl

theorem tests_ne : ne.Tests (· != ·) := rfl

theorem asks_lt : lt.Asks Ordering.isLT := rfl

theorem asks_le : le.Asks Ordering.isLE := rfl

theorem asks_gt : gt.Asks Ordering.isGT := rfl

theorem asks_ge : ge.Asks Ordering.isGE := rfl

theorem exists_asks
    (hOp : op ∈ [lt, le, gt, ge]) :
    ∃ test, op.Asks test := by
  simp only [List.mem_cons, List.not_mem_nil,
    or_false] at hOp
  rcases hOp with rfl | rfl | rfl | rfl
  · exact ⟨_, asks_lt⟩
  · exact ⟨_, asks_le⟩
  · exact ⟨_, asks_gt⟩
  · exact ⟨_, asks_ge⟩

theorem affirms_eq_iff :
    eq.Affirms left right ↔ left = right := by
  rw [tests_eq.affirms_iff, beq_iff_eq]

theorem denies_eq_iff :
    eq.Denies left right ↔ left ≠ right := by
  rw [tests_eq.denies_iff, beq_eq_false_iff_ne]

theorem affirms_ne_iff :
    ne.Affirms left right ↔ left ≠ right := by
  rw [tests_ne.affirms_iff, bne_iff_ne]

theorem denies_ne_iff :
    ne.Denies left right ↔ left = right := by
  rw [tests_ne.denies_iff, bne_eq_false_iff_eq]

theorem affirms_lt_iff :
    lt.Affirms left right ↔
      left.compare? right = some .lt := by
  rw [asks_lt.affirms_iff]
  simp [Ordering.isLT_iff_eq_lt]

theorem affirms_gt_iff :
    gt.Affirms left right ↔
      left.compare? right = some .gt := by
  rw [asks_gt.affirms_iff]
  simp [Ordering.isGT_iff_eq_gt]

theorem affirms_gt_iff_swap :
    gt.Affirms left right ↔ lt.Affirms right left := by
  rw [affirms_gt_iff, affirms_lt_iff,
    Value.compare?_swap left right]
  cases left.compare? right with
  | none => decide
  | some order => cases order <;> decide

end Operator

end Scriptlet

------------------------------------------------------------
-- Order and Equality
------------------------------------------------------------

namespace Scriptlet

namespace Operator

/- A question that equal values of an order satisfy too. -/
def Relaxes (weak strict : Operator) : Prop :=
  ∀ left right,
    weak.Affirms left right ↔
      strict.Affirms left right ∨
        left.Comparable right ∧ left = right

theorem Asks.relaxes
    {weak strict : Operator}
    {weakTest strictTest : Ordering → Bool}
    (hWeak : weak.Asks weakTest)
    (hStrict : strict.Asks strictTest)
    (hTests :
      ∀ order,
        weakTest order = true ↔
          strictTest order = true ∨ order = .eq) :
    weak.Relaxes strict := by
  intro left right
  rw [hWeak.affirms_iff, hStrict.affirms_iff]
  by_cases hComparable : left.Comparable right
  · rw [← hComparable.compare?_eq_iff]
    rcases hComparable.exists_compare? with ⟨order, hOrder⟩
    simp [hOrder, hTests, hComparable]
  · simp [Value.compare?_eq_none_iff.mpr hComparable,
      hComparable]

theorem relaxes_le : le.Relaxes lt :=
  asks_le.relaxes asks_lt fun order => by
    cases order <;> decide

theorem relaxes_ge : ge.Relaxes gt :=
  asks_ge.relaxes asks_gt fun order => by
    cases order <;> decide

/- An operator whose answers can be chained. -/
def Chains (op : Operator) : Prop :=
  ∀ left middle right,
    op.Affirms left middle → op.Affirms middle right →
      op.Affirms left right

theorem chains_lt : lt.Chains := by
  intro left middle right hLeft hRight
  rw [affirms_lt_iff] at hLeft hRight ⊢
  exact Value.compare?_lt_trans hLeft hRight

theorem chains_gt : gt.Chains := by
  intro left middle right hLeft hRight
  rw [affirms_gt_iff_swap] at hLeft hRight ⊢
  exact chains_lt right middle left hRight hLeft

theorem Relaxes.chains
    {weak strict : Operator}
    (hRelaxes : weak.Relaxes strict)
    (hStrict : strict.Chains) :
    weak.Chains := by
  intro left middle right hLeft hRight
  rcases (hRelaxes left middle).mp hLeft with
    hLess | ⟨-, rfl⟩
  · rcases (hRelaxes middle right).mp hRight with
      hNext | ⟨-, rfl⟩
    · exact (hRelaxes left right).mpr
        (.inl (hStrict left middle right hLess hNext))
    · exact hLeft
  · exact hRight

/-
  What is answered about the order of two values that have
  one: a single thing out of three, and what follows from
  it.
-/
structure Arranges (left right : Value) : Prop where
  one :
    lt.Affirms left right ∧ eq.Denies left right ∧
        gt.Denies left right ∨
      lt.Denies left right ∧ eq.Affirms left right ∧
        gt.Denies left right ∨
      lt.Denies left right ∧ eq.Denies left right ∧
        gt.Affirms left right
  atMost :
    le.Affirms left right ↔
      lt.Affirms left right ∨ eq.Affirms left right
  atLeast :
    ge.Affirms left right ↔
      gt.Affirms left right ∨ eq.Affirms left right
  otherwise :
    ∀ op ∈ [lt, le, gt, ge],
      op.Denies left right ↔ ¬ op.Affirms left right

theorem arranges_of_comparable
    {left right : Value}
    (hComparable : left.Comparable right) :
    Arranges left right := by
  have hEqual := hComparable.compare?_eq_iff
  constructor
  case one =>
      rw [asks_lt.denies_iff hComparable,
        asks_gt.denies_iff hComparable, affirms_lt_iff,
        affirms_gt_iff, affirms_eq_iff, denies_eq_iff,
        ← hEqual, ne_eq, ← hEqual]
      rcases hComparable.exists_compare? with
        ⟨order, hOrder⟩
      rw [hOrder]
      cases order <;> decide
  case atMost =>
      rw [relaxes_le, affirms_eq_iff]
      simp [hComparable]
  case atLeast =>
      rw [relaxes_ge, affirms_eq_iff]
      simp [hComparable]
  case otherwise =>
      intro op hOp
      rcases exists_asks hOp with ⟨test, hAsks⟩
      exact hAsks.denies_iff hComparable

end Operator

end Scriptlet

------------------------------------------------------------
-- The Comparison Contract
------------------------------------------------------------

namespace Scriptlet

namespace Operator

/-
  Two operators of which one tells which values are equal,
  and the other the opposite. Values without identity are
  equal by what they are, objects and functions by which
  they are, and values of two types never.
-/
structure Equates (same differs : Operator) : Prop where
  equivalence : Equivalence same.Affirms
  undefined : same.Affirms .undefined .undefined
  ints :
    ∀ left right,
      same.Affirms (.int left) (.int right) ↔ left = right
  bools :
    ∀ left right,
      same.Affirms (.bool left) (.bool right) ↔ left = right
  strings :
    ∀ left right,
      same.Affirms (.str left) (.str right) ↔ left = right
  objects :
    ∀ left right,
      same.Affirms (.object left) (.object right) ↔
        left = right
  functions :
    ∀ left right,
      same.Affirms (.function left) (.function right) ↔
        left = right
  types :
    ∀ left right,
      same.Affirms left right →
        left.typeName = right.typeName
  otherwise :
    ∀ left right,
      same.Denies left right ↔ ¬ same.Affirms left right
  opposite :
    ∀ left right,
      (differs.Affirms left right ↔
          same.Denies left right) ∧
        (differs.Denies left right ↔
          same.Affirms left right)

theorem equates_eq_ne : eq.Equates ne where
  equivalence := by
    refine ⟨fun _ => affirms_eq_iff.mpr rfl, ?_, ?_⟩
    · intro left right hSame
      exact affirms_eq_iff.mpr (affirms_eq_iff.mp hSame).symm
    · intro left middle right hLeft hRight
      exact affirms_eq_iff.mpr
        ((affirms_eq_iff.mp hLeft).trans
          (affirms_eq_iff.mp hRight))
  undefined := affirms_eq_iff.mpr rfl
  ints left right := by
    rw [affirms_eq_iff, Value.int.injEq]
  bools left right := by
    rw [affirms_eq_iff, Value.bool.injEq]
  strings left right := by
    rw [affirms_eq_iff, Value.str.injEq]
  objects left right := by
    rw [affirms_eq_iff, Value.object.injEq]
  functions left right := by
    rw [affirms_eq_iff, Value.function.injEq]
  types left right hSame := by
    rw [affirms_eq_iff.mp hSame]
  otherwise left right := by
    rw [affirms_eq_iff, denies_eq_iff]
  opposite left right := by
    rw [affirms_eq_iff, denies_eq_iff, affirms_ne_iff,
      denies_ne_iff]
    exact ⟨Iff.rfl, Iff.rfl⟩

theorem affirms_lt_ints (left right : Int32) :
    lt.Affirms (.int left) (.int right) ↔
      left.toInt < right.toInt := by
  rw [affirms_lt_iff, Value.compare?, Option.some_inj,
    Int.compare_eq_lt]

theorem affirms_lt_bools (left right : Bool) :
    lt.Affirms (.bool left) (.bool right) ↔
      left = false ∧ right = true := by
  rw [affirms_lt_iff]
  cases left <;> cases right <;> decide

theorem affirms_lt_strings (left right : String) :
    lt.Affirms (.str left) (.str right) ↔
      left < right := by
  rw [affirms_lt_iff, Value.compare?, Option.some_inj]
  exact compareOfLessAndEq_eq_lt

end Operator

/-
  Equality and order of values belong together. Equality is
  an equivalence. Of two integers, two strings or two
  booleans one is less, or they are equal, or it is greater,
  and these answers can be chained: integers are in the
  order of numbers, false comes before true, and strings are
  in the order of their bytes or, which is the same, of
  their code points. No other two values have an order.
-/
theorem comparisons_coherent :
    Operator.eq.Equates .ne ∧
      (∀ left right : Value,
        left.Comparable right →
          Operator.Arranges left right) ∧
      Operator.lt.Chains ∧ Operator.le.Chains ∧
      Operator.gt.Chains ∧ Operator.ge.Chains ∧
      (∀ left right : Int32,
        Operator.lt.Affirms (.int left) (.int right) ↔
          left.toInt < right.toInt) ∧
      (∀ left right : Bool,
        Operator.lt.Affirms (.bool left) (.bool right) ↔
          left = false ∧ right = true) ∧
      (∀ left right : String,
        (Operator.lt.Affirms (.str left) (.str right) ↔
            List.Lex (· < ·) (Utf8.bytes left)
              (Utf8.bytes right)) ∧
          (Operator.lt.Affirms (.str left) (.str right) ↔
            List.Lex (· < ·) (Utf8.codePoints left)
              (Utf8.codePoints right))) ∧
      ∀ left right : Value,
        ¬ left.Comparable right →
          ∀ op ∈ [Operator.lt, .le, .gt, .ge],
            ∃ expected got,
              op.apply [left, right] =
                .error
                  (.wrongOperand op.symbol expected got) := by
  refine
    ⟨Operator.equates_eq_ne,
      fun _ _ => Operator.arranges_of_comparable,
      Operator.chains_lt,
      Operator.relaxes_le.chains Operator.chains_lt,
      Operator.chains_gt,
      Operator.relaxes_ge.chains Operator.chains_gt,
      Operator.affirms_lt_ints, Operator.affirms_lt_bools,
      ?_, ?_⟩
  · intro left right
    rw [Operator.affirms_lt_strings]
    exact ⟨Utf8.lt_iff_bytes_lt left right,
      Utf8.lt_iff_codePoints_lt left right⟩
  · intro left right hOther op hOp
    rcases Operator.exists_asks hOp with ⟨test, hAsks⟩
    exact ⟨_, _, hAsks.apply_of_not_comparable hOther⟩

/- A string of two bytes comes after one of one byte. -/
theorem comparisons_coherent_strings :
    (Value.str "z").Comparable (.str "é") ∧
      Operator.Arranges (.str "z") (.str "é") ∧
      Operator.lt.Affirms (.str "z") (.str "é") ∧
      ¬ Value.undefined.Comparable .undefined ∧
      ∃ expected got,
        Operator.lt.apply [.undefined, .undefined] =
          .error (.wrongOperand "<" expected got) := by
  rcases comparisons_coherent with
    ⟨-, hArranges, -, -, -, -, -, -, hStrings, hOther⟩
  have hComparable :
      (Value.str "z").Comparable (.str "é") :=
    .strings "z" "é"
  have hUnordered :
      ¬ Value.undefined.Comparable .undefined := nofun
  exact
    ⟨hComparable, hArranges _ _ hComparable,
      (hStrings "z" "é").2.mpr (by decide), hUnordered,
      hOther _ _ hUnordered .lt (by decide)⟩

end Scriptlet
