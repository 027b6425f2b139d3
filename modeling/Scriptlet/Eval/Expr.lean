import Scriptlet.Eval.Engine

/-
  Evaluation of expressions.

  Evaluation is the same for both engines, and is given two
  things from outside: the engine, and how to run a resolved
  call. Every frame is an object of the heap; blocks do not
  make one.

  Key definitions include:
    * `Caller`
    * `Expr.eval`
    * `Expr.evalBlock`
-/

------------------------------------------------------------
-- Checks and Bindings
------------------------------------------------------------

namespace Scriptlet

/- How a resolved call runs. -/
abbrev Caller :=
  Target → Value → List Value → Line → CallM Value

namespace EvalM

/- Fail on a line. -/
def fail
    {A : Type}
    (cause : Cause)
    (line : Line) :
    EvalM A :=
  throw (.halt (.failedAt cause line))

/- The function that a value must be. -/
def expectFunction
    (interner : Interner)
    (value : Value)
    (line : Line) :
    EvalM FunctionId := do
  match value with
  | .function id => return id
  | _ =>
      let text ← Machine.printed interner value
      fail (.notAFunction text) line

/- The object that a value must be. -/
def expectObject
    (interner : Interner)
    (value : Value)
    (line : Line) :
    EvalM ObjectId := do
  match value with
  | .object id => return id
  | _ =>
      let text ← Machine.printed interner value
      fail (.notAnObject text) line

/-
  Bind a variable in the current frame. A declaration is
  refused if the name is visible already, in this frame or
  in one around it.
-/
def bindLocal
    (interner : Interner)
    (scope : ObjectId)
    (declares : Bool)
    (name : Name)
    (value : Value)
    (line : Line) :
    EvalM Value := do
  let visible ← Machine.askHeap fun heap =>
    heap.inScope scope name
  if declares && visible then
    fail (.alreadyDeclared (interner.lookup name)) line
  else
    Machine.define scope name value
    return value

/-
  Make a function of a literal. A literal with a name is
  also bound under it in the frame where it is evaluated.
-/
def makeFunction
    {S : Type}
    (context : Context)
    (engine : Engine S)
    (scope : ObjectId)
    (code : Code S) :
    EvalM Value := do
  let id ← Machine.onHeap fun heap =>
    heap.newFunction
      { name := code.name.getD context.lambda
        arity := .fixed code.params.length
        action := engine.close code scope }
  match code.name with
  | some name => Machine.define scope name (.function id)
  | none => pure ()
  return .function id

end EvalM

end Scriptlet

------------------------------------------------------------
-- Evaluation
------------------------------------------------------------

namespace Scriptlet

namespace Expr

variable {S : Type}

mutual

/-
  Evaluate an expression in a frame. Parts are evaluated
  from left to right, and a callee or a receiver is checked
  before anything to its right is evaluated.
-/
def eval
    (context : Context)
    (engine : Engine S)
    (call : Caller)
    (scope : ObjectId) :
    Expr S → EvalM Value
  | .block _ body =>
      evalBlock context engine call scope body
  | .literal _ value => return .ofLiteral value
  | .var _ name =>
      Machine.askHeap fun heap => heap.lookup scope name
  | .assign line declares name value => do
      let value ← value.eval context engine call scope
      EvalM.bindLocal context.interner scope declares
        name value line
  | .function _ name params body writtenAt =>
      EvalM.makeFunction context engine scope
        { name, params, body, writtenAt }
  | .call line site callee args => do
      let callee ← callee.eval context engine call scope
      let callee ← EvalM.expectFunction context.interner
        callee line
      let args ← evalArgs context engine call scope args
      Signal.lift do
        let target ← engine.resolve context.interner site
          callee args.length line
        call target .undefined args line
  | .ret line value => do
      let value ← value.eval context engine call scope
      throw (.ret value line)
  | .branch _ test thenBody elseBody => do
      let test ← test.eval context engine call scope
      if test.isTruthy then
        evalBlock context engine call scope thenBody
      else
        evalBlock context engine call scope elseBody
  | .record _ fields => do
      let record ← Machine.onHeap Heap.newRecord
      evalFields context engine call scope record fields
      return .object record
  | .getField line receiver name => do
      let receiver ← receiver.eval context engine call scope
      let object ← EvalM.expectObject context.interner
        receiver line
      let field ← Machine.askHeap fun heap =>
        heap.own? object name
      return field.getD .undefined
  | .setField line receiver name value => do
      let receiver ← receiver.eval context engine call scope
      let object ← EvalM.expectObject context.interner
        receiver line
      let value ← value.eval context engine call scope
      Machine.define object name value
      return value
  | .method line site receiver name args => do
      let receiver ← receiver.eval context engine call scope
      let object ← EvalM.expectObject context.interner
        receiver line
      let field ← Machine.askHeap fun heap =>
        heap.own? object name
      let callee ← EvalM.expectFunction context.interner
        (field.getD .undefined) line
      let args ← evalArgs context engine call scope args
      Signal.lift do
        let target ← engine.resolve context.interner site
          callee args.length line
        call target (.object object) args line

/- Run statements in order. A block gives no value. -/
def evalBlock
    (context : Context)
    (engine : Engine S)
    (call : Caller)
    (scope : ObjectId) :
    List (Expr S) → EvalM Value
  | [] => return .undefined
  | expr :: exprs => do
      let _ ← expr.eval context engine call scope
      evalBlock context engine call scope exprs

/- Evaluate arguments from left to right. -/
def evalArgs
    (context : Context)
    (engine : Engine S)
    (call : Caller)
    (scope : ObjectId) :
    List (Expr S) → EvalM (List Value)
  | [] => return []
  | expr :: exprs => do
      let value ← expr.eval context engine call scope
      let values ← evalArgs context engine call scope exprs
      return value :: values

/- Evaluate and bind record fields from left to right. -/
def evalFields
    (context : Context)
    (engine : Engine S)
    (call : Caller)
    (scope record : ObjectId) :
    List (Name × Expr S) → EvalM Unit
  | [] => return ()
  | (name, expr) :: fields => do
      let value ← expr.eval context engine call scope
      Machine.define record name value
      evalFields context engine call scope record fields

end

end Expr

end Scriptlet
