import Scriptlet.Heap.Object
import Scriptlet.Value.Operator

/-
  Functions.

  A function is a primitive, or the code of a literal with
  the scope that the literal was evaluated in. Functions do
  not change once they are made.

  Some primitives are built in, and an embedding program can
  bind others. What these do is up to them: they are given
  the table of names, the receiver and the arguments, and
  then ask one thing after another of the running program.

  Key definitions include:
    * `Arity`
    * `HostCode`
    * `HostFunction`
    * `Primitive`
    * `Action`
    * `Function`
-/

------------------------------------------------------------
-- Arities
------------------------------------------------------------

namespace Scriptlet

/- How many arguments a function takes. -/
inductive Arity where
  | fixed (count : Nat)
  | variadic
deriving DecidableEq, Repr, Inhabited

/- Whether a number of arguments is acceptable. -/
def Arity.accepts : Arity → Nat → Bool
  | .fixed count, given => count == given
  | .variadic, _ => true

end Scriptlet

------------------------------------------------------------
-- Host Functions
------------------------------------------------------------

namespace Scriptlet

/-
  What a host function has still to do. It can print a text,
  have a value put into its printed form, look at all the
  objects that there are, bind a name in one of them, and
  make objects and other host functions. It goes on with
  what it is given for that, and ends with an answer or a
  failure. It cannot call functions, and it is not given the
  text that was printed, call sites or the call stack.
-/
inductive HostCode where
  | answer (value : Value)
  | fail (failure : Failure)
  | print (text : String) (next : HostCode)
  | printed (value : Value) (next : String → HostCode)
  | look (next : Array Object → HostCode)
  | define
      (id : ObjectId)
      (name : Name)
      (value : Value)
      (next : HostCode)
  | newObject
      (role : Role)
      (parent : Option ObjectId)
      (next : ObjectId → HostCode)
  | newFunction
      (name : Name)
      (arity : Arity)
      (body : Interner → Value → List Value → HostCode)
      (next : FunctionId → HostCode)

/- What is done with a receiver and with arguments. -/
structure HostFunction where
  body : Interner → Value → List Value → HostCode

namespace HostFunction

/- Give back the receiver. -/
def receiver : HostFunction where
  body _ receiver _ := .answer receiver

/- Count the arguments. -/
def argumentCount : HostFunction where
  body _ _ args := .answer (.int (Int32.ofNat args.length))

/- Give back the last argument. -/
def lastArgument : HostFunction where
  body _ _ args := .answer (args.getLast?.getD .undefined)

/- Name the type of the first argument. -/
def typeOfFirst : HostFunction where
  body _ _ args :=
    .answer
      (.str ((args.head?.map Value.typeName).getD ""))

/- Print every argument, with nothing between or after. -/
def write : HostFunction where
  body _ _ args :=
    args.foldr
      (fun value next =>
        .printed value fun text => .print text next)
      (.answer .undefined)

/- Fail in a way that is settled beforehand. -/
def fail (failure : Failure) : HostFunction where
  body _ _ _ := .fail failure

end HostFunction

end Scriptlet

------------------------------------------------------------
-- Functions
------------------------------------------------------------

namespace Scriptlet

/- A function that is not written in the language. -/
inductive Primitive where
  | print
  | operator (op : Operator)
  | host (function : HostFunction)

/-
  What a call runs: a primitive, or code in a scope. Code is
  walked as it stands or was linked before, after the engine
  that made the function.
-/
inductive Action where
  | primitive (primitive : Primitive)
  | walked (code : Code Unit) (scope : ObjectId)
  | linked (code : Code SiteId) (scope : ObjectId)

/- A function with the name that backtraces give it. -/
structure Function where
  name : Name
  arity : Arity
  action : Action

/- Whether a function is a primitive. -/
def Function.isPrimitive
    (function : Function) :
    Bool :=
  match function.action with
  | .primitive _ => true
  | .walked _ _ => false
  | .linked _ _ => false

/- Whether a primitive belongs to the embedding program. -/
def Primitive.isHost : Primitive → Bool
  | .print => false
  | .operator _ => false
  | .host _ => true

end Scriptlet
