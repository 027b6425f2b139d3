import Scriptlet.Value.Operator

/-
  What operators answer, and how they fail.

  Operators answer with integers, and complain about their
  operands. How deep calls are and what is returned from
  where is none of their business.

  Key definitions include:
    * `Cause.Ordinary`

  Key theorems include:
    * `Operator.ordinary_of_apply`
    * `Operator.eq_int_of_apply`
-/

------------------------------------------------------------
-- Operands
------------------------------------------------------------

namespace Scriptlet

/-
  A cause that blames neither the depth of calls nor a
  return outside of functions.
-/
def Cause.Ordinary (cause : Cause) : Prop :=
  cause.family ≠ .resource ∧ cause.family ≠ .internal

theorem Cause.Ordinary.ne_tooDeep
    {cause : Cause}
    (hOrdinary : cause.Ordinary)
    (depth : Nat) :
    cause ≠ .tooDeep depth := by
  rintro rfl
  exact hOrdinary.1 rfl

theorem Cause.Ordinary.ne_strayReturn
    {cause : Cause}
    (hOrdinary : cause.Ordinary) :
    cause ≠ .strayReturn := by
  rintro rfl
  exact hOrdinary.2 rfl

namespace Operator

/- An outcome that fails for ordinary causes only. -/
def FailsOrdinarily
    {A : Type}
    (outcome : Except Cause A) : Prop :=
  ∀ cause, outcome = .error cause → cause.Ordinary

variable {A B : Type}

theorem failsOrdinarily_pure (answer : A) :
    FailsOrdinarily (pure answer) := by
  intro cause hError
  cases hError

/- Blame arises in the first part or in the rest. -/
theorem FailsOrdinarily.bind
    {outcome : Except Cause A}
    {rest : A → Except Cause B}
    (hOutcome : FailsOrdinarily outcome)
    (hRest : ∀ answer, FailsOrdinarily (rest answer)) :
    FailsOrdinarily (outcome >>= rest) := by
  intro cause hError
  cases outcome with
  | ok answer => exact hRest answer cause hError
  | error first =>
      cases hError
      exact hOutcome cause rfl

theorem failsOrdinarily_operands
    (op : Operator)
    (args : List Value) :
    FailsOrdinarily (op.operands args) := by
  intro cause hError
  unfold operands at hError
  split at hError
  · cases hError
  · cases hError
    exact ⟨nofun, nofun⟩

theorem failsOrdinarily_intOperands
    (op : Operator)
    (args : List Value) :
    FailsOrdinarily (op.intOperands args) := by
  intro cause hError
  unfold intOperands at hError
  split at hError
  case h_1 first hFirst =>
      cases hError
      exact op.failsOrdinarily_operands args cause hFirst
  case h_2 => cases hError
  all_goals
    cases hError
    exact ⟨nofun, nofun⟩

theorem failsOrdinarily_ordering
    (op : Operator)
    (args : List Value) :
    FailsOrdinarily (op.ordering args) := by
  intro cause hError
  unfold ordering at hError
  split at hError
  case h_1 first hFirst =>
      cases hError
      exact op.failsOrdinarily_operands args cause hFirst
  case h_2 =>
      split at hError
      · cases hError
      · cases hError
        exact ⟨nofun, nofun⟩

end Operator

end Scriptlet

------------------------------------------------------------
-- Application
------------------------------------------------------------

namespace Scriptlet

namespace Operator

variable (op : Operator)
variable (args : List Value)

theorem failsOrdinarily_arithmetic
    (compute : Int32 → Int32 → Int32) :
    FailsOrdinarily (op.arithmetic compute args) :=
  (op.failsOrdinarily_intOperands args).bind
    fun _ => failsOrdinarily_pure _

theorem failsOrdinarily_division
    (compute : Int32 → Int32 → Int32) :
    FailsOrdinarily (op.division compute args) := by
  apply (op.failsOrdinarily_intOperands args).bind
  intro operands
  simp only
  split
  · intro cause hError
    cases hError
    exact ⟨nofun, nofun⟩
  · exact failsOrdinarily_pure _

theorem failsOrdinarily_equality
    (test : Value → Value → Bool) :
    FailsOrdinarily (op.equality test args) :=
  (op.failsOrdinarily_operands args).bind
    fun _ => failsOrdinarily_pure _

theorem failsOrdinarily_comparison
    (test : Ordering → Bool) :
    FailsOrdinarily (op.comparison test args) :=
  (op.failsOrdinarily_ordering args).bind
    fun _ => failsOrdinarily_pure _

/- Operators fail for what their operands are. -/
theorem ordinary_of_apply
    {op : Operator}
    {args : List Value}
    {cause : Cause}
    (hApply : op.apply args = .error cause) :
    cause.Ordinary := by
  refine (?_ : FailsOrdinarily (op.apply args)) cause hApply
  cases op with
  | add => exact failsOrdinarily_arithmetic _ _ _
  | sub => exact failsOrdinarily_arithmetic _ _ _
  | mul => exact failsOrdinarily_arithmetic _ _ _
  | div => exact failsOrdinarily_division _ _ _
  | rem => exact failsOrdinarily_division _ _ _
  | eq => exact failsOrdinarily_equality _ _ _
  | ne => exact failsOrdinarily_equality _ _ _
  | lt => exact failsOrdinarily_comparison _ _ _
  | le => exact failsOrdinarily_comparison _ _ _
  | gt => exact failsOrdinarily_comparison _ _ _
  | ge => exact failsOrdinarily_comparison _ _ _

end Operator

end Scriptlet

------------------------------------------------------------
-- Answers
------------------------------------------------------------

namespace Scriptlet

namespace Operator

/- An outcome that is an integer if it is a value. -/
def Counts (outcome : Except Cause Value) : Prop :=
  ∀ value, outcome = .ok value → ∃ count, value = .int count

/- Only the rest of a computation answers. -/
theorem Counts.bind
    {A : Type}
    (outcome : Except Cause A)
    {rest : A → Except Cause Value}
    (hRest : ∀ answer, Counts (rest answer)) :
    Counts (outcome >>= rest) := by
  intro value hValue
  cases outcome with
  | ok answer => exact hRest answer value hValue
  | error cause => cases hValue

theorem counts_pure (count : Int32) :
    Counts (pure (.int count)) := by
  intro value hValue
  cases hValue
  exact ⟨count, rfl⟩

variable (op : Operator)
variable (args : List Value)

theorem counts_arithmetic
    (compute : Int32 → Int32 → Int32) :
    Counts (op.arithmetic compute args) :=
  .bind (op.intOperands args) fun _ => counts_pure _

theorem counts_division
    (compute : Int32 → Int32 → Int32) :
    Counts (op.division compute args) := by
  apply Counts.bind (op.intOperands args)
  intro operands
  simp only
  split
  · intro value hValue
    cases hValue
  · exact counts_pure _

theorem counts_equality
    (test : Value → Value → Bool) :
    Counts (op.equality test args) :=
  .bind (op.operands args) fun _ => counts_pure _

theorem counts_comparison
    (test : Ordering → Bool) :
    Counts (op.comparison test args) :=
  .bind (op.ordering args) fun _ => counts_pure _

/- Every operator answers with an integer. -/
theorem eq_int_of_apply
    {op : Operator}
    {args : List Value}
    {value : Value}
    (hApply : op.apply args = .ok value) :
    ∃ count, value = .int count := by
  have hCounts : Counts (op.apply args) := by
    cases op with
    | add => exact counts_arithmetic _ _ _
    | sub => exact counts_arithmetic _ _ _
    | mul => exact counts_arithmetic _ _ _
    | div => exact counts_division _ _ _
    | rem => exact counts_division _ _ _
    | eq => exact counts_equality _ _ _
    | ne => exact counts_equality _ _ _
    | lt => exact counts_comparison _ _ _
    | le => exact counts_comparison _ _ _
    | gt => exact counts_comparison _ _ _
    | ge => exact counts_comparison _ _ _
  exact hCounts value hApply

end Operator

end Scriptlet
