import Scriptlet.Syntax.Expr

/-
  Drafts of programs, and how they become trees.

  A draft spells its names out as strings and says where the
  writing position moves to another line. Building a draft
  interns the names and stamps every node with the position
  as it stands when that node is finished: the children come
  first, then the names of the node, then the node itself.

  Key definitions include:
    * `Draft`
    * `Builder`
    * `Draft.build`
    * `Builder.script`
-/

------------------------------------------------------------
-- Drafts
------------------------------------------------------------

namespace Scriptlet

/-
  A program as it is dictated.

  `moveTo` moves the writing position before its node is
  built, and leaves it there. `leaving` moves it when its
  node is done. `stamped` builds its node and then overrides
  that one node's line.
-/
inductive Draft where
  | literal (value : Literal)
  | var (name : String)
  | declare (name : String) (value : Draft)
  | assign (name : String) (value : Draft)
  | call (callee : Draft) (args : List Draft)
  | callName (name : String) (args : List Draft)
  | binary (symbol : String) (left right : Draft)
  | function
      (name : Option String)
      (params : List String)
      (body : List Draft)
  | ret (value : Draft)
  | branch
      (test : Draft)
      (thenBody elseBody : List Draft)
  | record (fields : List (String × Draft))
  | getField (receiver : Draft) (name : String)
  | setField
      (receiver : Draft)
      (name : String)
      (value : Draft)
  | method
      (receiver : Draft)
      (name : String)
      (args : List Draft)
  | block (body : List Draft)
  | moveTo (line : Line) (node : Draft)
  | leaving (node : Draft) (line : Line)
  | stamped (line : Line) (node : Draft)
deriving Inhabited

/- What building changes: the names and the position. -/
structure Builder where
  interner : Interner
  line : Line := 1

/- Computations that build trees. -/
abbrev BuildM :=
  StateM Builder

end Scriptlet

------------------------------------------------------------
-- Building Steps
------------------------------------------------------------

namespace Scriptlet

namespace Builder

/- Intern one name. -/
def name
    (text : String) :
    BuildM Name :=
  modifyGet fun builder =>
    let (name, interner) := builder.interner.intern text
    (name, { builder with interner })

/- Intern several names, from left to right. -/
def names
    (texts : List String) :
    BuildM (List Name) :=
  modifyGet fun builder =>
    let (names, interner) :=
      builder.interner.internAll texts
    (names, { builder with interner })

/- Intern a name if there is one. -/
def name? : Option String → BuildM (Option Name)
  | none => pure none
  | some text => return some (← name text)

/- The writing position. -/
def position : BuildM Line :=
  return (← get).line

/- Move the writing position. -/
def moveTo
    (line : Line) :
    BuildM Unit :=
  modify fun builder => { builder with line }

/- A call of the function that a name stands for. -/
def callName
    (text : String)
    (args : List (Expr Unit)) :
    BuildM (Expr Unit) := do
  let callee := Expr.var (← position) (← name text)
  return .call (← position) () callee args

end Builder

end Scriptlet

------------------------------------------------------------
-- Building
------------------------------------------------------------

namespace Scriptlet

namespace Draft

mutual

/- Build one node, its children first. -/
def build : Draft → BuildM (Expr Unit)
  | .literal value =>
      return .literal (← Builder.position) value
  | .var text => do
      let name ← Builder.name text
      return .var (← Builder.position) name
  | .declare text value => do
      let value ← value.build
      let name ← Builder.name text
      return .assign (← Builder.position) true name value
  | .assign text value => do
      let value ← value.build
      let name ← Builder.name text
      return .assign (← Builder.position) false name value
  | .call callee args => do
      let callee ← callee.build
      let args ← buildAll args
      return .call (← Builder.position) () callee args
  | .callName text args => do
      let args ← buildAll args
      Builder.callName text args
  | .binary symbol left right => do
      let left ← left.build
      let right ← right.build
      Builder.callName symbol [left, right]
  | .function text params body => do
      let body ← buildAll body
      let name ← Builder.name? text
      let params ← Builder.names params
      let line ← Builder.position
      return .function line name params body line
  | .ret value => do
      let value ← value.build
      return .ret (← Builder.position) value
  | .branch test thenBody elseBody => do
      let test ← test.build
      let thenBody ← buildAll thenBody
      let elseBody ← buildAll elseBody
      return .branch (← Builder.position)
        test thenBody elseBody
  | .record fields => do
      let values ← buildFields fields
      let names ← Builder.names (fields.map Prod.fst)
      return .record (← Builder.position)
        (names.zip values)
  | .getField receiver text => do
      let receiver ← receiver.build
      let name ← Builder.name text
      return .getField (← Builder.position) receiver name
  | .setField receiver text value => do
      let receiver ← receiver.build
      let value ← value.build
      let name ← Builder.name text
      return .setField (← Builder.position)
        receiver name value
  | .method receiver text args => do
      let receiver ← receiver.build
      let args ← buildAll args
      let name ← Builder.name text
      return .method (← Builder.position) ()
        receiver name args
  | .block body => do
      let body ← buildAll body
      return .block (← Builder.position) body
  | .moveTo line node => do
      Builder.moveTo line
      node.build
  | .leaving node line => do
      let node ← node.build
      Builder.moveTo line
      return node
  | .stamped line node => do
      let node ← node.build
      return node.withLine line

/- Build nodes from left to right. -/
def buildAll : List Draft → BuildM (List (Expr Unit))
  | [] => pure []
  | node :: nodes => do
      let node ← node.build
      let nodes ← buildAll nodes
      return node :: nodes

/- Build the values of record fields from left to right. -/
def buildFields :
    List (String × Draft) → BuildM (List (Expr Unit))
  | [] => pure []
  | (_, value) :: fields => do
      let value ← value.build
      let values ← buildFields fields
      return value :: values

end

end Draft

namespace Builder

/- Build a program, with the position on its first line. -/
def script
    (interner : Interner)
    (body : List Draft) :
    Script × Builder :=
  let (body, builder) :=
    (Draft.buildAll body).run { interner }
  ({ body }, builder)

end Builder

end Scriptlet
