import Scriptlet.Cache.Site
import Scriptlet.Heap.Basic
import Scriptlet.Text.Quoted

/-
  Descriptions for whoever embeds the language.

  Unlike the printed form, a description tells values of
  different types apart and shows the numbers of names.

  Key definitions include:
    * `Name.inspect`
    * `Arity.inspect`
    * `Object.inspect`
    * `Function.inspect`
    * `Heap.inspect`
    * `CallSite.inspect`
-/

------------------------------------------------------------
-- Records of Fields
------------------------------------------------------------

namespace Scriptlet

/- A name followed by its labelled parts in braces. -/
def inspectRecord
    (name : String)
    (parts : List (String × String)) :
    String :=
  let parts := parts.map fun (label, text) =>
    label ++ ": " ++ text
  name ++ " \x7b " ++ String.intercalate ", " parts
    ++ " \x7d"

end Scriptlet

------------------------------------------------------------
-- Descriptions
------------------------------------------------------------

namespace Scriptlet

/- The description of a name is its number. -/
def Name.inspect
    (name : Name) :
    String :=
  "Name(" ++ toString name.index ++ ")"

/- The description of an arity. -/
def Arity.inspect : Arity → String
  | .fixed count => "Fixed(" ++ toString count ++ ")"
  | .variadic => "Variadic"

/- The name of a role. -/
def Role.label : Role → String
  | .scope => "Scope"
  | .record => "Record"

/- The name of a boolean. -/
def boolLabel : Bool → String
  | true => "true"
  | false => "false"

/- The description of an object leaves its bindings out. -/
def Object.inspect
    (object : Object) :
    String :=
  inspectRecord "ObjectRef"
    [("role", object.role.label),
      ("len", toString object.bindings.size),
      ("has_parent", boolLabel object.parent.isSome)]

/- The name under which an action is reported. -/
def Action.label : Action → String
  | .primitive _ => "native"
  | .walked _ _ => "closure"
  | .linked _ _ => "linked"

/- The description of a function leaves its body out. -/
def Function.inspect
    (function : Function) :
    String :=
  inspectRecord "Function"
    [("name", function.name.inspect),
      ("arity", function.arity.inspect),
      ("kind", Quoted.quote function.action.label)]

namespace Heap

/- The description of the object with a number. -/
def inspectObject
    (heap : Heap)
    (id : ObjectId) :
    String :=
  ((heap.object? id).map Object.inspect).getD ""

/- The description of the function with a number. -/
def inspectFunction
    (heap : Heap)
    (id : FunctionId) :
    String :=
  ((heap.function? id).map Function.inspect).getD ""

/- The description of a value. -/
def inspect
    (heap : Heap) :
    Value → String
  | .undefined => "Undefined"
  | .int value => "Int(" ++ toString value.toInt ++ ")"
  | .bool value => "Bool(" ++ boolLabel value ++ ")"
  | .str value => "Str(" ++ Quoted.quote value ++ ")"
  | .object id => "Object(" ++ heap.inspectObject id ++ ")"
  | .function id =>
      "Function(" ++ heap.inspectFunction id ++ ")"

end Heap

/- The description of a call site. -/
def CallSite.inspect
    (site : CallSite) :
    String :=
  inspectRecord "CallSite"
    [("line", toString site.line),
      ("argc", toString site.argc),
      ("state", site.state.kind.label),
      ("depth", toString site.state.depth),
      ("stats",
        inspectRecord "CallSiteStats"
          [("hits", toString site.hits),
            ("misses", toString site.misses)])]

end Scriptlet
