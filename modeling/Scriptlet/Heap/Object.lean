import Scriptlet.Data.OrderedMap
import Scriptlet.Value.Basic

/-
  Objects.

  Scope frames and records are both objects, that is ordered
  bindings of names to values. A frame may have another
  frame around it.

  Key definitions include:
    * `Role`
    * `Object`
-/

------------------------------------------------------------
-- Objects
------------------------------------------------------------

namespace Scriptlet

/- What an object is used for. -/
inductive Role where
  | scope
  | record
deriving DecidableEq, Repr, Inhabited

/- Ordered bindings, and the frame around them if any. -/
structure Object where
  role : Role
  parent : Option ObjectId
  bindings : OrderedMap Name Value
deriving Inhabited

end Scriptlet
