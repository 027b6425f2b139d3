import Scriptlet.Proofs.Eval.Likeness

/-
  Evaluation under other names.

  A program and the same program under other names take the
  same steps. They give the same value, return the same
  value or halt for the same reason, whatever the texts of
  the names are, as long as both sides read the same texts.

  Key theorems include:
    * `Expr.tracks_eval`
    * `Primitive.tracks_call`
    * `tracks_activate`
    * `Caller.tracks_within`
-/

------------------------------------------------------------
-- Expressions
------------------------------------------------------------

namespace Scriptlet

namespace Expr

open Likeness

variable {left right : Context}
variable {like : Likeness left right}
variable {call otherCall : Caller}

/- Checking a callee, evaluating arguments, and calling. -/
theorem tracks_invoke
    (hCall : like.CallsTrack call otherCall)
    (callee receiver : Value)
    {args otherArgs : EvalM (List Value)}
    (hArgs : like.Tracks Eq args otherArgs)
    (line : Line) :
    like.Tracks Eq
      (do
        let callee ← EvalM.expectFunction left.interner
          callee line
        let args ← args
        Signal.lift do
          let target ← resolve left.interner callee
            args.length line
          call target receiver args line)
      (do
        let callee ← EvalM.expectFunction right.interner
          callee line
        let args ← otherArgs
        Signal.lift do
          let target ← resolve right.interner callee
            args.length line
          otherCall target receiver args line) := by
  refine (Tracks.expectFunction callee line).bind_eq
    fun callee => ?_
  refine hArgs.bind_eq fun args => ?_
  refine .adaptExcept Signal.halt ?_
  refine (Tracks.resolve callee args.length line).bind ?_
  intro target other hTarget
  exact hCall target other receiver args line hTarget

mutual

/- Renamed expressions are evaluated alike. -/
theorem tracks_eval
    (hCall : like.CallsTrack call otherCall)
    (scope : ObjectId)
    (expr : Expr Unit) :
    like.Tracks Eq
      (expr.eval left .plain call scope)
      ((expr.rename like.rename).eval right .plain otherCall
        scope) := by
  cases expr with
  | block line body =>
      rw [rename, eval, eval]
      exact tracks_evalBlock hCall scope body
  | literal line value =>
      rw [rename, eval, eval]
      exact .pure rfl
  | var line name =>
      rw [rename, eval, eval]
      exact .askHeap fun _ _ hHeap =>
        (hHeap.lookup_eq scope name).symm
  | assign line declares name value =>
      rw [rename, eval, eval]
      refine (tracks_eval hCall scope value).bind_eq
        fun value => ?_
      exact .bindLocal scope declares name value line
  | function line name params body writtenAt =>
      rw [rename, eval, eval]
      exact .makeFunction scope
        { name, params, body, writtenAt }
  | call line site callee args =>
      rw [rename, eval, eval]
      refine (tracks_eval hCall scope callee).bind_eq
        fun callee => ?_
      exact tracks_invoke hCall callee .undefined
        (tracks_evalArgs hCall scope args) line
  | ret line value =>
      rw [rename, eval, eval]
      refine (tracks_eval hCall scope value).bind_eq
        fun value => ?_
      exact .throw _
  | branch line test thenBody elseBody =>
      rw [rename, eval, eval]
      refine (tracks_eval hCall scope test).bind_eq
        fun test => ?_
      split
      · exact tracks_evalBlock hCall scope thenBody
      · exact tracks_evalBlock hCall scope elseBody
  | record line fields =>
      rw [rename, eval, eval]
      have hNew :
          like.Tracks Eq
            (Machine.onHeap Heap.newRecord : EvalM ObjectId)
            (Machine.onHeap Heap.newRecord) :=
        .onHeap fun _ _ hHeap =>
          ⟨hHeap.newObject .record none,
            congrArg ObjectId.mk hHeap.sizeObjects.symm⟩
      refine hNew.bind_eq fun record => ?_
      refine (tracks_evalFields hCall scope record
        fields).bind_eq fun _ => ?_
      exact .pure rfl
  | getField line receiver name =>
      rw [rename, eval, eval]
      refine (tracks_eval hCall scope receiver).bind_eq
        fun receiver => ?_
      refine (Tracks.expectObject receiver line).bind_eq
        fun object => ?_
      refine (Tracks.own? object name).bind_eq
        fun field => ?_
      exact .pure rfl
  | setField line receiver name value =>
      rw [rename, eval, eval]
      refine (tracks_eval hCall scope receiver).bind_eq
        fun receiver => ?_
      refine (Tracks.expectObject receiver line).bind_eq
        fun object => ?_
      refine (tracks_eval hCall scope value).bind_eq
        fun value => ?_
      refine (Tracks.define object name value).bind_eq
        fun _ => ?_
      exact .pure rfl
  | method line site receiver name args =>
      rw [rename, eval, eval]
      refine (tracks_eval hCall scope receiver).bind_eq
        fun receiver => ?_
      refine (Tracks.expectObject receiver line).bind_eq
        fun object => ?_
      refine (Tracks.own? object name).bind_eq
        fun field => ?_
      exact tracks_invoke hCall (field.getD .undefined)
        (.object object) (tracks_evalArgs hCall scope args)
        line

theorem tracks_evalBlock
    (hCall : like.CallsTrack call otherCall)
    (scope : ObjectId)
    (exprs : List (Expr Unit)) :
    like.Tracks Eq
      (evalBlock left .plain call scope exprs)
      (evalBlock right .plain otherCall scope
        (renameAll like.rename exprs)) := by
  cases exprs with
  | nil =>
      rw [renameAll, evalBlock, evalBlock]
      exact .pure rfl
  | cons expr exprs =>
      rw [renameAll, evalBlock, evalBlock]
      refine (tracks_eval hCall scope expr).bind_eq
        fun _ => ?_
      exact tracks_evalBlock hCall scope exprs

theorem tracks_evalArgs
    (hCall : like.CallsTrack call otherCall)
    (scope : ObjectId)
    (exprs : List (Expr Unit)) :
    like.Tracks Eq
      (evalArgs left .plain call scope exprs)
      (evalArgs right .plain otherCall scope
        (renameAll like.rename exprs)) := by
  cases exprs with
  | nil =>
      rw [renameAll, evalArgs, evalArgs]
      exact .pure rfl
  | cons expr exprs =>
      rw [renameAll, evalArgs, evalArgs]
      refine (tracks_eval hCall scope expr).bind_eq
        fun value => ?_
      refine (tracks_evalArgs hCall scope exprs).bind_eq
        fun values => ?_
      exact .pure rfl

theorem tracks_evalFields
    (hCall : like.CallsTrack call otherCall)
    (scope record : ObjectId)
    (fields : List (Name × Expr Unit)) :
    like.Tracks Eq
      (evalFields left .plain call scope record fields)
      (evalFields right .plain otherCall scope record
        (renameFields like.rename fields)) := by
  cases fields with
  | nil =>
      rw [renameFields, evalFields, evalFields]
      exact .pure rfl
  | cons field fields =>
      rcases field with ⟨name, expr⟩
      rw [renameFields, evalFields, evalFields]
      refine (tracks_eval hCall scope expr).bind_eq
        fun value => ?_
      refine (Tracks.define record name value).bind_eq
        fun _ => ?_
      exact tracks_evalFields hCall scope record fields

end

end Expr

end Scriptlet

------------------------------------------------------------
-- Primitives
------------------------------------------------------------

namespace Scriptlet

open Likeness

variable {left right : Context}
variable {like : Likeness left right}

theorem Primitive.tracks_printLine
    (args : List Value) :
    like.Tracks Eq (printLine left.interner args)
      (printLine right.interner args) := by
  have hTexts :
      like.Tracks Eq
        (Machine.askHeap fun heap =>
          args.map (heap.printed left.interner) :
          RunM Failure (List String))
        (Machine.askHeap fun heap =>
          args.map (heap.printed right.interner)) :=
    .askHeap fun _ _ hHeap =>
      List.map_congr_left fun value _ =>
        (hHeap.printed_eq like.toTranslation value).symm
  refine hTexts.bind_eq fun texts => ?_
  refine (Tracks.note _ _).bind_eq fun _ => ?_
  refine (Tracks.print _).bind_eq fun _ => ?_
  exact .pure rfl

theorem Primitive.tracks_call
    {primitive : Primitive}
    (hBuiltIn : primitive.isHost = false)
    (receiver : Value)
    (args : List Value) :
    like.Tracks Eq
      (primitive.call left.interner receiver args)
      (primitive.call right.interner receiver args) := by
  cases primitive with
  | print => exact tracks_printLine args
  | operator op =>
      unfold call
      simp only
      cases op.apply args with
      | ok value => exact .pure rfl
      | error cause => exact .throw _
  | host function => cases hBuiltIn

end Scriptlet

------------------------------------------------------------
-- Calls
------------------------------------------------------------

namespace Scriptlet

open Likeness

variable {left right : Context}
variable {like : Likeness left right}

/- A frame is opened with the same values in it. -/
theorem tracks_openFrame
    (scope : ObjectId)
    (params : List Name)
    (receiver : Value)
    (args : List Value) :
    like.Tracks Eq
      (openFrame left.this scope params receiver args)
      (openFrame right.this scope
        (params.map like.rename) receiver args) := by
  have hBindings :
      (right.this, receiver) ::
          (params.map like.rename).zip args =
        ((left.this, receiver) :: params.zip args).map
          (Prod.map like.rename id) := by
    rw [like.this, List.zip_map_left]
    rfl
  unfold openFrame
  rw [hBindings]
  refine .onHeap fun heap other hHeap => ?_
  have hFrame := hHeap.newObject .scope (some scope)
  have hId :
      (other.newScope (some scope)).1 =
        (heap.newScope (some scope)).1 :=
    congrArg ObjectId.mk hHeap.sizeObjects
  simp only [hId]
  exact ⟨hFrame.defineAll like.injective _ _, trivial⟩

/- Both stacks end the same call. -/
theorem Likeness.Alike.pop
    {machine other : Machine}
    (hAlike : like.Alike machine other) :
    like.Alike
      { machine with stack := machine.stack.pop }
      { other with stack := other.stack.pop } where
  heap := hAlike.heap
  stack := by rw [hAlike.stack, CallStack.pop_rename]
  printer := hAlike.printer

/- Machines that are alike report the same active calls. -/
theorem Likeness.Alike.backtrace
    {machine other : Machine}
    (hAlike : like.Alike machine other) :
    other.stack.backtrace right.interner =
      machine.stack.backtrace left.interner := by
  rw [hAlike.stack]
  exact CallStack.backtrace_rename like.toTranslation _

/- Bodies that ended alike leave their calls alike. -/
theorem Likeness.Ended.leaveCall
    {result other : EStateM.Result Signal Machine Value}
    (hEnded : like.Ended Eq result other) :
    like.Ended Eq
      (Scriptlet.leaveCall left.interner result)
      (Scriptlet.leaveCall right.interner other) := by
  cases hEnded with
  | ok hAlike hSame =>
      subst hSame
      exact .ok hAlike.pop rfl
  | @error machine otherMachine signal hAlike =>
      cases signal with
      | ret value line => exact .ok hAlike.pop rfl
      | halt reason =>
          simp only [Scriptlet.leaveCall, hAlike.backtrace]
          exact .error hAlike.pop

/- A body is run between a push and a pop on both stacks. -/
theorem tracks_activate
    (callee : Name)
    (line : Line)
    {body otherBody : EvalM Value}
    (hBody : like.Tracks Eq body otherBody) :
    like.Tracks Eq
      (activate left.interner callee line body)
      (activate right.interner (like.rename callee) line
        otherBody) := by
  intro machine other hAlike
  rw [activate_apply, activate_apply, hAlike.backtrace,
    hAlike.stack, CallStack.push_rename]
  cases machine.stack.push { callee, line } with
  | error cause => exact .error hAlike
  | ok stack =>
      have hPushed :
          like.Alike { machine with stack }
            { other with
              stack := stack.rename like.rename } :=
        ⟨hAlike.heap, rfl, hAlike.printer⟩
      exact (hBody _ _ hPushed).leaveCall

namespace Caller

/- Calls of renamed targets run alike if inner calls do. -/
theorem tracks_around
    {inner otherInner : Option Caller}
    (hInner :
      Option.Rel like.CallsTrack inner otherInner) :
    like.CallsTrack (around left inner)
      (around right otherInner) := by
  rintro ⟨name, action⟩ ⟨_, otherAction⟩ receiver args line
    ⟨rfl, hAction⟩
  cases hAction with
  | primitive hBuiltIn =>
      exact .adaptExcept _
        (Primitive.tracks_call hBuiltIn receiver args)
  | walked code scope =>
      refine (tracks_openFrame scope code.params receiver
        args).bind_eq fun frame => ?_
      refine tracks_activate name line ?_
      cases hInner with
      | none => exact .throw _
      | some hCall =>
          exact Expr.tracks_evalBlock hCall frame code.body

/- Calls within the same budget run alike. -/
theorem tracks_within
    (budget : Nat) :
    like.CallsTrack (within left budget)
      (within right budget) := by
  induction budget with
  | zero => exact tracks_around .none
  | succ budget ih => exact tracks_around (.some ih)

end Caller

end Scriptlet
