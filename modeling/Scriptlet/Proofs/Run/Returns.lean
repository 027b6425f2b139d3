import Scriptlet.Proofs.Run.Backtrace

/-
  Returns stay inside of functions.

  A return can be written anywhere, also in the middle of a
  call, a record or a condition, and it is the innermost
  active call that it ends. Only a return that was written
  outside of all function literals has no call to end, and
  the run fails there. So a script without such returns
  never ends with an internal error, wherever its functions
  are passed to and called from.

  Key definitions include:
    * `Expr.returnLines`
    * `Script.returnLines`

  Key theorems include:
    * `Expr.LiesIn.returnLines_subset`
    * `Script.mem_returnLines_iff`
    * `returns_contained`
-/

------------------------------------------------------------
-- Returns Outside of Literals
------------------------------------------------------------

namespace Scriptlet

namespace Expr

variable {S : Type}

mutual

/-
  The lines of the returns in an expression that are outside
  of its function literals.
-/
def returnLines : Expr S → List Line
  | .block _ body => returnLinesAll body
  | .literal _ _ => []
  | .var _ _ => []
  | .assign _ _ _ value => value.returnLines
  | .function _ _ _ _ _ => []
  | .call _ _ callee args =>
      callee.returnLines ++ returnLinesAll args
  | .ret line value => line :: value.returnLines
  | .branch _ test thenBody elseBody =>
      test.returnLines ++
        (returnLinesAll thenBody ++ returnLinesAll elseBody)
  | .record _ fields => returnLinesFields fields
  | .getField _ receiver _ => receiver.returnLines
  | .setField _ receiver _ value =>
      receiver.returnLines ++ value.returnLines
  | .method _ _ receiver _ args =>
      receiver.returnLines ++ returnLinesAll args

/- The lines of the returns in expressions. -/
def returnLinesAll : List (Expr S) → List Line
  | [] => []
  | expr :: exprs =>
      expr.returnLines ++ returnLinesAll exprs

/- The lines of the returns in record fields. -/
def returnLinesFields : List (Name × Expr S) → List Line
  | [] => []
  | (_, expr) :: fields =>
      expr.returnLines ++ returnLinesFields fields

end

/- A list has the returns of its members. -/
theorem returnLinesAll_eq (exprs : List (Expr S)) :
    returnLinesAll exprs = exprs.flatMap returnLines := by
  induction exprs with
  | nil => rfl
  | cons expr exprs ih =>
      rw [returnLinesAll, ih, List.flatMap_cons]

theorem returnLinesFields_eq
    (fields : List (Name × Expr S)) :
    returnLinesFields fields =
      (fields.map Prod.snd).flatMap returnLines := by
  induction fields with
  | nil => rfl
  | cons field fields ih =>
      rw [returnLinesFields, ih, List.map_cons,
        List.flatMap_cons]

/- A node has the returns of its parts. -/
theorem returnLines_eq (expr : Expr S) :
    expr.returnLines =
      (match expr with
        | .ret line _ => [line]
        | _ => []) ++ expr.parts.flatMap returnLines := by
  cases expr <;>
    simp [returnLines, parts, returnLinesAll_eq,
      returnLinesFields_eq]

/- What lies in code has its returns there. -/
theorem LiesIn.returnLines_subset
    {expr : Expr S}
    {body : List (Expr S)}
    (hLies : expr.LiesIn body) :
    expr.returnLines ⊆ returnLinesAll body := by
  rw [returnLinesAll_eq]
  induction hLies with
  | statement hStatement =>
      intro line hLine
      exact List.mem_flatMap.mpr ⟨_, hStatement, hLine⟩
  | @part outer expr body _ hPart ih =>
      intro line hLine
      apply ih
      rw [returnLines_eq outer]
      exact List.mem_append_right _
        (List.mem_flatMap.mpr ⟨expr, hPart, hLine⟩)

theorem sizeOf_lt_of_mem_parts
    {expr part : Expr S}
    (hPart : part ∈ expr.parts) :
    sizeOf part < sizeOf expr := by
  cases expr with
  | block line body =>
      have hSize : sizeOf part < sizeOf body :=
        List.sizeOf_lt_of_mem hPart
      rw [block.sizeOf_spec]
      omega
  | record line fields =>
      rcases List.mem_map.mp hPart with
        ⟨⟨name, value⟩, hField, hValue⟩
      have hSame : value = part := hValue
      have hSize := List.sizeOf_lt_of_mem hField
      rw [Prod.mk.sizeOf_spec, hSame] at hSize
      rw [record.sizeOf_spec]
      omega
  | branch line test thenBody elseBody =>
      rw [branch.sizeOf_spec]
      rcases List.mem_cons.mp hPart with rfl | hBody
      · omega
      · rcases List.mem_append.mp hBody with hThen | hElse
        · have hSize := List.sizeOf_lt_of_mem hThen
          omega
        · have hSize := List.sizeOf_lt_of_mem hElse
          omega
  | call line site callee args =>
      rw [call.sizeOf_spec]
      rcases List.mem_cons.mp hPart with rfl | hArg
      · omega
      · have hSize := List.sizeOf_lt_of_mem hArg
        omega
  | method line site receiver name args =>
      rw [method.sizeOf_spec]
      rcases List.mem_cons.mp hPart with rfl | hArg
      · omega
      · have hSize := List.sizeOf_lt_of_mem hArg
        omega
  | setField line receiver name value =>
      rw [setField.sizeOf_spec]
      rcases List.mem_cons.mp hPart with rfl | hValue
      · omega
      · rw [List.mem_singleton.mp hValue]
        omega
  | assign line declares name value =>
      rw [List.mem_singleton.mp hPart, assign.sizeOf_spec]
      omega
  | ret line value =>
      rw [List.mem_singleton.mp hPart, ret.sizeOf_spec]
      omega
  | getField line receiver name =>
      rw [List.mem_singleton.mp hPart, getField.sizeOf_spec]
      omega
  | literal line value => cases hPart
  | var line name => cases hPart
  | function line name params body writtenAt => cases hPart

/- The returns that are counted lie in the code. -/
theorem exists_liesIn_of_mem_returnLines
    {line : Line}
    {body : List (Expr S)}
    (expr : Expr S)
    (hLine : line ∈ expr.returnLines)
    (hLies : expr.LiesIn body) :
    ∃ value, (Expr.ret line value).LiesIn body := by
  rw [returnLines_eq] at hLine
  rcases List.mem_append.mp hLine with hOwn | hPart
  · cases expr with
    | ret own value =>
        have hSame : line = own := List.mem_singleton.mp hOwn
        rw [hSame]
        exact ⟨value, hLies⟩
    | _ => cases hOwn
  · rcases List.mem_flatMap.mp hPart with
      ⟨part, hMem, hInside⟩
    exact exists_liesIn_of_mem_returnLines part hInside
      (.part hLies hMem)
termination_by sizeOf expr
decreasing_by exact sizeOf_lt_of_mem_parts hMem

end Expr

/- The lines of a script's returns outside of literals. -/
def Script.returnLines (script : Script) : List Line :=
  Expr.returnLinesAll script.body

/- They are those of the returns that lie in its code. -/
theorem Script.mem_returnLines_iff
    (script : Script)
    (line : Line) :
    line ∈ script.returnLines ↔
      ∃ value, (Expr.ret line value).LiesIn script.body := by
  constructor
  · intro hLine
    unfold returnLines at hLine
    rw [Expr.returnLinesAll_eq] at hLine
    rcases List.mem_flatMap.mp hLine with
      ⟨expr, hStatement, hInside⟩
    exact expr.exists_liesIn_of_mem_returnLines hInside
      (.statement hStatement)
  · rintro ⟨value, hLies⟩
    apply hLies.returnLines_subset
    rw [Expr.returnLines]
    exact List.mem_cons_self

end Scriptlet

------------------------------------------------------------
-- Runs
------------------------------------------------------------

namespace Scriptlet

/- Internal errors are about returns. -/
theorem Cause.eq_strayReturn_of_family
    {cause : Cause}
    (hFamily : cause.family = .internal) :
    cause = .strayReturn := by
  cases cause with
  | strayReturn => rfl
  | _ => cases hFamily

/-
  Returns are contained. A run that fails over a return has
  no active call then, and fails on the line of a return
  that was written outside of all function literals. A
  script without such returns never ends with an internal
  error.
-/
theorem returns_contained
    (script : Script)
    (settings : Settings)
    (hostDepth : Nat)
    (printer : Printer)
    (interner : Interner) :
    let result :=
      (script.runFresh settings hostDepth printer
        (.ofInterner interner)).result
    (∀ failure,
        result = .error (.failed failure) →
          failure.cause = .strayReturn →
            failure.backtrace = [] ∧
              ∃ line ∈ script.returnLines,
                failure.line = some line) ∧
      (script.returnLines = [] →
        ∀ failure,
          result = .error (.failed failure) →
            failure.family ≠ .internal) := by
  intro result
  have hLine
      (failure : Failure)
      (hFailed : result = .error (.failed failure))
      (hStray : failure.cause = .strayReturn) :
      failure.backtrace = [] ∧
        ∃ line ∈ script.returnLines,
          failure.line = some line := by
    rcases (Script.leaves_of_runFresh hFailed).2 hStray with
      ⟨hTrace, line, value, hLine, hLies⟩
    exact ⟨hTrace, line,
      (script.mem_returnLines_iff line).mpr ⟨value, hLies⟩,
      hLine⟩
  refine ⟨hLine, ?_⟩
  intro hNone failure hFailed hInternal
  have hStray := Cause.eq_strayReturn_of_family hInternal
  rcases hLine failure hFailed hStray with
    ⟨_, line, hMem, _⟩
  rw [hNone] at hMem
  cases hMem

/-
  A script with a function that returns from the middle of a
  call, in a record field, and a call of what it returns.
-/
def returnInside : Script where
  body :=
    [.function 1 (some ⟨1⟩) []
        [.call 2 () (.var 2 ⟨3⟩)
          [.record 2
            [(⟨1⟩, .ret 2 (.literal 2 (.int 1)))]]]
        1,
      .call 3 () (.call 3 () (.var 3 ⟨1⟩) []) []]

/- A script that returns while it evaluates an argument. -/
def returnOutside : Script where
  body :=
    [.call 1 () (.var 1 ⟨3⟩)
      [.ret 2 (.literal 2 (.int 1))]]

/-
  The first script fails, since it calls what its function
  has returned, but not with an internal error. The second
  one fails on the line of its return.
-/
theorem returns_contained_inside :
    let result (script : Script) :=
      (script.runFresh { strategy := .inlineCache } 2
        (.buffer "") (.ofInterner againNames)).result
    (∃ failure,
        result returnInside = .error (.failed failure) ∧
          failure.line = some 3 ∧
            failure.family ≠ .internal) ∧
      ∃ failure,
        result returnOutside = .error (.failed failure) ∧
          failure.cause = .strayReturn ∧
            failure.backtrace = [] ∧
              ∃ line ∈ returnOutside.returnLines,
                failure.line = some line := by
  have hInside :
      (returnInside.runFresh { strategy := .inlineCache } 2
          (.buffer "") (.ofInterner againNames)).result =
        .error (.failed
          { cause := .notAFunction "1"
            line := some 3
            backtrace := [] }) :=
    Outcome.halt_shown_eq_some_iff.mp (by decide +kernel)
  have hOutside :
      (returnOutside.runFresh { strategy := .inlineCache } 2
          (.buffer "") (.ofInterner againNames)).result =
        .error (.failed
          { cause := .strayReturn
            line := some 2
            backtrace := [] }) :=
    Outcome.halt_shown_eq_some_iff.mp (by decide +kernel)
  have hFirst :=
    (returns_contained returnInside
      { strategy := .inlineCache } 2 (.buffer "")
      againNames).2 (by decide) _ hInside
  have hSecond :=
    (returns_contained returnOutside
      { strategy := .inlineCache } 2 (.buffer "")
      againNames).1 _ hOutside rfl
  exact
    ⟨⟨_, hInside, rfl, hFirst⟩,
      ⟨_, hOutside, rfl, hSecond⟩⟩

end Scriptlet
